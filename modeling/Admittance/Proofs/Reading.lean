import Admittance.Json.Record
import Admittance.Proofs.Spelling
import Mathlib.Data.List.Forall2

/-!
# Reading what was printed

`Json.Reads` says of a text what a reader makes of it: it cuts into tokens that the reader takes
from the front of any token list, with this value and nothing else.  Texts, truth values and numbers
that fit their word are read as they were printed.

An object is read entry by entry.  Both loops that do so, the one of records and the one of maps,
take a comma before every entry but the first, and stop at the closing brace without taking it
(`Json.IsEntryLoop`); what an entry does to what is known so far is all that differs.  So one lemma
says what the loop comes to when the entries do their part one after the other (`Json.Entries`).  A
record's object is then read as soon as each of its entries fills the slot of its field
(`Json.Record.Fills`).
-/

namespace Admittance.Json

variable {α β δ : Type}

/-- The reader takes this value from the text, wherever the text stands.  The text is not the word
for an absent value. -/
structure Reads (reader : Reader α) (text : List Char) (v : α) : Prop where
  exists_tokens : ∃ t ts, t ≠ .word .null ∧ Spells text (t :: ts) ∧
    ∀ rest, reader (t :: ts ++ rest) = .ok (v, rest)

namespace Reads

variable {reader : Reader α} {text : List Char} {v : α}

/-- What a whole text is read as. -/
lemma decodeWith (h : Reads reader text v) :
    Json.decodeWith reader (String.ofList text) = .ok v := by
  obtain ⟨t, ts, -, hspells, hreads⟩ := h.exists_tokens
  have hwhole := hreads []
  rw [List.append_nil] at hwhole
  rw [Json.decodeWith, String.toList_ofList, hspells.tokens_eq, hwhole]

/-- A reader may go on with the value. -/
lemma map (h : Reads reader text v) (f : α → β) :
    Reads (fun ts => (reader ts).map fun p => (f p.1, p.2)) text (f v) := by
  obtain ⟨t, ts, hnull, hspells, hreads⟩ := h.exists_tokens
  refine ⟨t, ts, hnull, hspells, fun rest => ?_⟩
  rw [hreads]
  rfl

/-- A value that may be absent and is not. -/
lemma optional (h : Reads reader text v) : Reads (readOptional reader) text (some v) := by
  obtain ⟨t, ts, hnull, hspells, hreads⟩ := h.exists_tokens
  refine ⟨t, ts, hnull, hspells, fun rest => ?_⟩
  unfold readOptional
  split
  · rename_i hcons
    exact absurd (List.cons.inj hcons).1 hnull
  · rw [hreads]
    rfl

end Reads

/-! ## Plain values -/

/-- A printed string is one token. -/
lemma spells_printText (s : String) : Spells (printText s) [.string (piecesOf s)] := by
  have hprinted := Spells.nil.printText s
  rwa [List.append_nil] at hprinted

/-- A text is read in whatever way it is spelled. -/
lemma IsText.reads {s : String} {text : List Char} (h : IsText s text) : Reads readText text s := by
  obtain ⟨pieces, hdenotes, hquoted⟩ := h
  have hspells := hquoted.spells Spells.nil
  rw [List.append_nil] at hspells
  refine ⟨_, [], by simp, hspells, fun rest => ?_⟩
  rw [List.cons_append, readText, hdenotes.textOf]
  rfl

/-- A printed string is read as what it was. -/
lemma reads_text (s : String) : Reads readText (printText s) s := (isText_printText s).reads

/-- A printed truth value is read as what it was. -/
lemma reads_bool (b : Bool) : Reads readBool (printBool b) b := by
  refine ⟨_, [], ?_, Spells.printBool b, fun rest => ?_⟩
  · cases b <;> decide
  · cases b <;> rfl

/-- A number is read if it fits the reader's word, which is no longer than the longest one. -/
lemma reads_natural {bits n : Nat} (name : String) (hbits : n < Nat.pow 2 bits)
    (hword : n ≤ maxWord) : Reads (readNatural bits name) (printNatural n) n := by
  refine ⟨_, [], by simp, Spells.printNatural n, fun rest => ?_⟩
  rw [List.cons_append, readNatural, value_toDigits hword]
  simp only [if_pos hbits, List.nil_append]

/-! ## Entries -/

/-- A loop that reads the entries of an object, each of which changes what is known so far. -/
def IsEntryLoop (step : δ → List Token → Except Failure (δ × List Token))
    (loop : Nat → Bool → δ → List Token → Except Failure (δ × List Token)) : Prop :=
  ∀ fuel first d ts, loop (fuel + 1) first d ts = do
    match ← nextEntry .closeBrace first ts with
    | none => return (d, ts)
    | some ts =>
      let (d, ts) ← step d ts
      loop fuel false d ts

/-- What the tokens of some entries make of what is known before them.  Each of them starts with a
string, which is its name. -/
inductive Entries (step : δ → List Token → Except Failure (δ × List Token)) :
    δ → List (List Token) → δ → Prop
  | nil (d : δ) : Entries step d [] d
  | cons {d d' d'' : δ} {pieces : List Piece} {ts : List Token} {tss : List (List Token)}
      (here : ∀ rest, step d (.string pieces :: ts ++ rest) = .ok (d', rest))
      (there : Entries step d' tss d'') : Entries step d ((.string pieces :: ts) :: tss) d''

section Loop

variable {step : δ → List Token → Except Failure (δ × List Token)}
  {loop : Nat → Bool → δ → List Token → Except Failure (δ × List Token)}

/-- The entries behind a comma each. -/
lemma IsEntryLoop.more (hloop : IsEntryLoop step loop) {d d' : δ} {tss : List (List Token)}
    (h : Entries step d tss d') {fuel : Nat} (hfuel : tss.length < fuel) (rest : List Token) :
    loop fuel false d (tss.flatMap (.comma :: ·) ++ .closeBrace :: rest) =
      .ok (d', .closeBrace :: rest) := by
  induction h generalizing fuel with
  | nil d =>
    obtain ⟨fuel, rfl⟩ := Nat.exists_eq_succ_of_ne_zero (Nat.ne_of_gt hfuel)
    rw [hloop]
    rfl
  | @cons d d' d'' pieces ts tss here there ih =>
    obtain ⟨fuel, rfl⟩ := Nat.exists_eq_succ_of_ne_zero (Nat.ne_of_gt (Nat.zero_lt_of_lt hfuel))
    have hmore := ih (Nat.lt_of_succ_lt_succ hfuel)
    have hnext : ∀ rest, nextEntry .closeBrace false (.comma :: (.string pieces :: ts ++ rest)) =
        .ok (some (.string pieces :: ts ++ rest)) := fun _ => rfl
    rw [List.flatMap_cons, List.append_assoc, List.cons_append, hloop, hnext]
    simp only [bind, Except.bind, here]
    exact hmore

/-- All entries. -/
lemma IsEntryLoop.all (hloop : IsEntryLoop step loop) {d d' : δ} {tss : List (List Token)}
    (h : Entries step d tss d') {fuel : Nat} (hfuel : tss.length < fuel) (rest : List Token) :
    loop fuel true d (commaTokens tss ++ .closeBrace :: rest) = .ok (d', .closeBrace :: rest) := by
  obtain ⟨fuel, rfl⟩ := Nat.exists_eq_succ_of_ne_zero (Nat.ne_of_gt (Nat.zero_lt_of_lt hfuel))
  cases h with
  | nil d =>
    rw [hloop]
    rfl
  | @cons d d' d'' pieces ts tss here there =>
    have hmore := hloop.more there (Nat.lt_of_succ_lt_succ hfuel) rest
    have hnext : ∀ rest, nextEntry .closeBrace true (.string pieces :: ts ++ rest) =
        .ok (some (.string pieces :: ts ++ rest)) := fun _ => rfl
    rw [commaTokens, List.append_assoc, hloop, hnext]
    simp only [bind, Except.bind, here]
    exact hmore

end Loop

/-- There are no more entries than tokens. -/
lemma length_le_flatMap_comma (tss : List (List Token)) :
    tss.length ≤ (tss.flatMap (Token.comma :: ·)).length := by
  induction tss with
  | nil => exact Nat.le_refl 0
  | cons ts tss ih =>
    rw [List.flatMap_cons, List.length_append, List.length_cons, List.length_cons]
    omega

/-- Every entry has a token at least. -/
lemma Entries.length_le {step : δ → List Token → Except Failure (δ × List Token)} {d d' : δ}
    {tss : List (List Token)} (h : Entries step d tss d') :
    tss.length ≤ (commaTokens tss).length := by
  cases h with
  | nil => exact Nat.le_refl 0
  | @cons d d' d'' pieces ts tss _ _ =>
    have hmore := length_le_flatMap_comma tss
    rw [commaTokens, List.length_append, List.length_cons, List.length_cons]
    omega

/-- All entries of an object, with as many steps as there are tokens and one more. -/
lemma IsEntryLoop.object {step : δ → List Token → Except Failure (δ × List Token)}
    {loop : Nat → Bool → δ → List Token → Except Failure (δ × List Token)}
    (hloop : IsEntryLoop step loop) {d d' : δ} {tss : List (List Token)}
    (h : Entries step d tss d') (rest : List Token) :
    loop ((commaTokens tss ++ [Token.closeBrace] ++ rest).length + 1) true d
        (commaTokens tss ++ [Token.closeBrace] ++ rest) = .ok (d', .closeBrace :: rest) := by
  have hfuel : tss.length < (commaTokens tss ++ [Token.closeBrace] ++ rest).length + 1 := by
    have hle := h.length_le
    rw [List.length_append, List.length_append]
    omega
  have hall := hloop.all h hfuel rest
  rw [List.append_assoc, List.singleton_append] at hall ⊢
  exact hall

/-! ### Maps of texts -/

/-- Reads the entry of a map. -/
def readTextEntry (m : TextMap) (ts : List Token) : Except Failure (TextMap × List Token) := do
  let (name, ts) ← readKey ts
  let (value, ts) ← readText (← expect .colon ts)
  return (m.insert name value, ts)

/-- The loop of maps is one of the two loops. -/
lemma isEntryLoop_readTextEntries : IsEntryLoop readTextEntry readTextEntries := by
  intro fuel first m ts
  rw [readTextEntries]
  cases nextEntry .closeBrace first ts with
  | error e => rfl
  | ok next =>
    cases next with
    | none => rfl
    | some ts =>
      simp only [readTextEntry, bind, Except.bind]
      cases readKey ts with
      | error e => rfl
      | ok key =>
        dsimp only
        cases expect .colon key.2 with
        | error e => rfl
        | ok ts =>
          dsimp only
          cases readText ts with
          | error e => rfl
          | ok value => rfl

/-- A key is read from its pieces. -/
lemma readKey_of_textOf {name : String} {pieces : List Piece} (h : textOf none pieces = .ok name)
    (rest : List Token) : readKey (.string pieces :: rest) = .ok (name, rest) := by
  rw [readKey, h]
  rfl

/-- The tokens of an entry of a map, whose name and value stand for these texts. -/
def IsTextEntry (e : String × String) (ts : List Token) : Prop :=
  ∃ pieces pieces', textOf none pieces = .ok e.1 ∧ textOf none pieces' = .ok e.2 ∧
    ts = [.string pieces, .colon, .string pieces']

/-- The entries of a map are inserted one after the other. -/
lemma entries_textMap {entries : List (String × String)} {tss : List (List Token)}
    (h : List.Forall₂ IsTextEntry entries tss) (m : TextMap) :
    Entries readTextEntry m tss (entries.foldl (fun m e => m.insert e.1 e.2) m) := by
  induction h generalizing m with
  | nil => exact .nil m
  | @cons e ts entries tss hentry _ ih =>
    obtain ⟨pieces, pieces', hname, hvalue, rfl⟩ := hentry
    refine .cons (fun rest => ?_) (ih (m.insert e.1 e.2))
    have hcolon : ∀ ts, expect .colon (.colon :: ts) = .ok ts := fun _ => rfl
    simp only [readTextEntry, List.cons_append, List.nil_append, readKey_of_textOf hname, bind,
      Except.bind, hcolon, readText, hvalue]
    rfl

/-- A map is read from the tokens of its entries, one after the other. -/
lemma readTextMap_of_entries {entries : List (String × String)} {tss : List (List Token)}
    (h : List.Forall₂ IsTextEntry entries tss) (rest : List Token) :
    readTextMap (.openBrace :: (commaTokens tss ++ [.closeBrace]) ++ rest) =
      .ok (TextMap.ofList entries, rest) := by
  have hloop := isEntryLoop_readTextEntries.object (entries_textMap h .empty) rest
  rw [List.cons_append, readTextMap, hloop]
  rfl

/-- A map is read from its printed entries. -/
lemma reads_textMap (m : TextMap) :
    Reads readTextMap (printObject (m.entries.map fun e => (e.1, printText e.2))) m := by
  have hspells : List.Forall₂ Spells
      ((m.entries.map fun e => (e.1, printText e.2)).map fun e => printEntry e.1 e.2)
      (m.entries.map fun e => [.string (piecesOf e.1), .colon, .string (piecesOf e.2)]) := by
    rw [List.map_map, List.forall₂_map_left_iff, List.forall₂_map_right_iff, List.forall₂_same]
    exact fun e _ => (spells_printText e.2).printEntry e.1
  have hentries : List.Forall₂ IsTextEntry m.entries
      (m.entries.map fun e => [.string (piecesOf e.1), .colon, .string (piecesOf e.2)]) := by
    rw [List.forall₂_map_right_iff, List.forall₂_same]
    exact fun e _ => ⟨_, _, (denotes_piecesOf e.1).textOf, (denotes_piecesOf e.2).textOf, rfl⟩
  refine ⟨.openBrace, _, by simp, Spells.braces hspells, fun rest => ?_⟩
  rw [readTextMap_of_entries hentries, m.ofList_entries]

/-! ### Records -/

namespace Record

variable {r : Record δ α}

/-- The loop of records is the other one. -/
lemma isEntryLoop_readEntries (r : Record δ α) : IsEntryLoop r.readEntry r.readEntries :=
  fun _ _ _ _ => rfl

/-- Each of the printed entries fills the slot of its field, which is empty before. -/
inductive Fills (r : Record δ α) : δ → List (String × List Char) → δ → Prop
  | nil (d : δ) : Fills r d [] d
  | cons {β : Type} {name : String} {text : List Char} {entries : List (String × List Char)}
      {get : δ → Option β} {set : δ → β → δ} {reader : Reader β} {fallback : Option β} {v : β}
      {d d' : δ} (field : r.field? name = some (.ofReader name get set reader fallback))
      (empty : get d = none) (value : Reads reader text v) (more : Fills r (set d v) entries d') :
      Fills r d ((name, text) :: entries) d'

/-- Entries fill a draft one after the other. -/
lemma Fills.append {d d' d'' : δ} {entries entries' : List (String × List Char)}
    (h : r.Fills d entries d') (h' : r.Fills d' entries' d'') :
    r.Fills d (entries ++ entries') d'' := by
  induction h with
  | nil => exact h'
  | cons field empty value _ ih => exact .cons field empty value (ih h')

/-- An entry is read into the slot of its field. -/
lemma readEntry_of_field {β : Type} {name : String} {pieces : List Piece} {get : δ → Option β}
    {set : δ → β → δ} {reader : Reader β} {fallback : Option β} {v : β} {d : δ}
    {ts rest : List Token} (key : textOf none pieces = .ok name)
    (field : r.field? name = some (.ofReader name get set reader fallback)) (empty : get d = none)
    (value : reader ts = .ok (v, rest)) :
    r.readEntry d (.string pieces :: .colon :: ts) = .ok (set d v, rest) := by
  have hcolon : expect .colon (.colon :: ts) = .ok ts := rfl
  have hunset : (Field.ofReader name get set reader fallback).isSet d = false := by
    simp only [Field.ofReader, empty, Option.isSome_none]
  simp only [readEntry, readKey_of_textOf key, bind, Except.bind, field, readField, hunset,
    Bool.false_eq_true, if_false, hcolon]
  simp only [Field.ofReader, value]
  rfl

/-- The tokens of the entries, and what they make of the draft. -/
lemma Fills.exists_tokens {d d' : δ} {entries : List (String × List Char)}
    (h : r.Fills d entries d') :
    ∃ tss, List.Forall₂ Spells (entries.map fun e => printEntry e.1 e.2) tss ∧
      Entries r.readEntry d tss d' := by
  induction h with
  | nil d => exact ⟨[], .nil, .nil d⟩
  | @cons β name text entries get set reader fallback v d d' field empty value _ ih =>
    obtain ⟨tss, hspells, hentries⟩ := ih
    obtain ⟨t, ts, -, hspelled, hreads⟩ := value.exists_tokens
    exact ⟨_, .cons (hspelled.printEntry name) hspells,
      .cons (fun rest => readEntry_of_field ((denotes_piecesOf _).textOf) field empty (hreads rest))
        hentries⟩

/-- An object is read from the tokens of its entries. -/
lemma reads_of_entries {d : δ} {entries : List (String × List Char)} {tss : List (List Token)}
    {v : α} (hspells : List.Forall₂ Spells (entries.map fun e => printEntry e.1 e.2) tss)
    (hentries : Entries r.readEntry r.blank tss d) (hfinish : r.finish d = .ok v) :
    Reads r.read (printObject entries) v := by
  refine ⟨.openBrace, _, by simp, Spells.braces hspells, fun rest => ?_⟩
  have hloop := r.isEntryLoop_readEntries.object hentries rest
  simp only [List.cons_append, read, hloop, bind, Except.bind, close, hfinish]
  rfl

/-- **A record is read from its printed entries**, if they fill the draft that it is made of. -/
theorem reads_object {d : δ} {entries : List (String × List Char)} {v : α}
    (h : r.Fills r.blank entries d) (hfinish : r.finish d = .ok v) :
    Reads r.read (printObject entries) v := by
  obtain ⟨tss, hspells, hentries⟩ := h.exists_tokens
  exact reads_of_entries hspells hentries hfinish

end Record

end Admittance.Json
