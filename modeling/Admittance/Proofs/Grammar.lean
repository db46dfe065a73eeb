import Admittance.Proofs.Spelling
import Mathlib.Data.List.Forall2

/-!
# How JSON may be written

The printer writes each value in one way, other writers do not: they put blanks between the tokens,
escape what needs no escape, pair the halves of a far character, and add values of their own.  Here
the rules of the notation are written down one by one, without a look at the reader: what may be
blank (`Json.Blanks`), what may be written for a text (`Json.IsText`), for a number
(`Json.IsNumber`), for a value of any shape (`Json.IsValue`) and for an object whose entries have
names (`Json.IsObject`).  Values may be nested to any depth.

The reader keeps to the rules.  Each text is cut into the tokens one expects of it, the pieces of a
string have the characters that it was written for (`Json.Denotes.textOf`), and a value of any shape
is passed over as a whole, whatever stands around it (`Json.IsValue.exists_skipped`).
-/

namespace Admittance.Json

/-! ## Blanks -/

/-- Nothing but blanks. -/
def Blanks (ws : List Char) : Prop := ∀ c ∈ ws, c ∈ [' ', '\n', '\t', '\r']

/-- There may be no blanks. -/
lemma blanks_nil : Blanks [] := fun _ h => by cases h

namespace Blanks

variable {ws : List Char}

/-- Blanks are what the reader passes over. -/
lemma isBlank (h : Blanks ws) {c : Char} (hc : c ∈ ws) : Json.isBlank c = true := by
  have hblank := h c hc
  simp only [List.mem_cons, List.not_mem_nil, or_false] at hblank
  rcases hblank with rfl | rfl | rfl | rfl <;> rfl

/-- Blanks are passed over. -/
lemma tokensWithin (h : Blanks ws) (fuel : Nat) (text : List Char) :
    Json.tokensWithin fuel (ws ++ text) = Json.tokensWithin fuel text := by
  cases fuel with
  | zero => rfl
  | succ fuel =>
    rw [Json.tokensWithin, Json.tokensWithin,
      List.dropWhile_append_of_pos fun c hc => h.isBlank hc]

/-- A number ends before a blank. -/
lemma ends (h : Blanks ws) {rest : List Char} (hrest : Ends rest) : Ends (ws ++ rest) := by
  cases ws with
  | nil => exact hrest
  | cons c ws =>
    have hblank := h c List.mem_cons_self
    simp only [List.mem_cons, List.not_mem_nil, or_false] at hblank
    rcases hblank with rfl | rfl | rfl | rfl <;> exact ends_cons (by decide)

end Blanks

/-- Blanks around a text make no tokens. -/
lemma Spells.spaced {text a b : List Char} {ts : List Token} (h : Spells text ts)
    (before : Blanks a) (after : Blanks b) : Spells (a ++ text ++ b) ts := by
  refine ⟨fun fuel rest hrest => ?_, ?_⟩
  · rw [List.append_assoc, List.append_assoc, before.tokensWithin, h.cut _ _ (after.ends hrest),
      after.tokensWithin]
  · rw [List.length_append, List.length_append]
    have hle := h.length_le
    omega

/-- Blanks before a text make no difference to its tokens. -/
lemma Spells.indented {text a : List Char} {ts : List Token} (h : Spells text ts)
    (before : Blanks a) : Spells (a ++ text) ts := by
  have hspaced := h.spaced before blanks_nil
  rwa [List.append_nil] at hspaced

/-! ## Numbers -/

/-- At least one digit, and nothing else. -/
structure IsDigits (digits : List Char) : Prop where
  ne_nil : digits ≠ []
  digit : ∀ c ∈ digits, isDigit c = true

/-- A point with digits behind it, or nothing. -/
inductive IsFraction : List Char → Prop
  | none : IsFraction []
  | point {digits : List Char} (h : IsDigits digits) : IsFraction ('.' :: digits)

/-- An exponent, which may have a sign, or nothing. -/
inductive IsExponent : List Char → Prop
  | none : IsExponent []
  | power {e : Char} {sign digits : List Char} (letter : e ∈ ['e', 'E'])
      (signed : sign ∈ [[], ['+'], ['-']]) (h : IsDigits digits) :
      IsExponent (e :: (sign ++ digits))

/-- A number, of any length. -/
inductive IsNumber : List Char → Prop
  | number {minus whole fraction exponent : List Char} (sign : minus ∈ [[], ['-']])
      (digits : IsWhole whole) (point : IsFraction fraction) (power : IsExponent exponent) :
      IsNumber (minus ++ whole ++ (fraction ++ exponent))

/-- Digits are taken up to where they end. -/
lemma IsDigits.scanDigits {digits rest : List Char} (h : IsDigits digits)
    (hrest : ∀ c ∈ rest.head?, isDigit c = false) :
    Json.scanDigits (digits ++ rest) = .ok (digits, rest) :=
  scanDigits_append h.ne_nil h.digit hrest

/-- A sign and digits behind the letter of an exponent. -/
lemma exists_scanSignedDigits {sign digits : List Char} (signed : sign ∈ [[], ['+'], ['-']])
    (h : IsDigits digits) : ∃ down, ∀ rest, (∀ c ∈ rest.head?, isDigit c = false) →
      scanSignedDigits (sign ++ digits ++ rest) = .ok ((down, digits), rest) := by
  simp only [List.mem_cons, List.not_mem_nil, or_false] at signed
  rcases signed with rfl | rfl | rfl
  · refine ⟨false, fun rest hrest => ?_⟩
    have hscan := h.scanDigits hrest
    obtain ⟨c, tail, rfl⟩ := List.exists_cons_of_ne_nil h.ne_nil
    have hc := h.digit c List.mem_cons_self
    rw [List.nil_append, scanSignedDigits, hscan]
    · rfl
    · rintro _ ⟨⟩
      exact absurd hc (by decide)
    · rintro _ ⟨⟩
      exact absurd hc (by decide)
  · refine ⟨false, fun rest hrest => ?_⟩
    show (Json.scanDigits (digits ++ rest)).map _ = _
    rw [h.scanDigits hrest]
    rfl
  · refine ⟨true, fun rest hrest => ?_⟩
    show (Json.scanDigits (digits ++ rest)).map _ = _
    rw [h.scanDigits hrest]
    rfl

/-- The scanner takes an exponent as a whole. -/
lemma IsExponent.exists_scanned {exponent : List Char} (h : IsExponent exponent) :
    ∃ power, ∀ rest, Ends rest → scanExponent (exponent ++ rest) = .ok (power, rest) := by
  cases h with
  | none =>
    refine ⟨Option.none, fun rest hrest => ?_⟩
    rw [List.nil_append]
    unfold scanExponent
    split
    · exact absurd rfl (hrest _ rfl).2.2.1
    · exact absurd rfl (hrest _ rfl).2.2.2
    · rfl
  | @power e sign digits letter signed hdigits =>
    obtain ⟨down, hsigned⟩ := exists_scanSignedDigits signed hdigits
    refine ⟨some (down, digits), fun rest hrest => ?_⟩
    have hletter : ∀ tail, scanExponent (e :: tail) =
        (scanSignedDigits tail).map fun p => (some p.1, p.2) := by
      simp only [List.mem_cons, List.not_mem_nil, or_false] at letter
      rcases letter with rfl | rfl <;> exact fun _ => rfl
    rw [List.cons_append, hletter, hsigned rest fun c hc => (hrest c hc).1]
    rfl

/-- An exponent does not go on with the digits before it. -/
lemma IsExponent.head {exponent rest : List Char} (h : IsExponent exponent) (hrest : Ends rest) :
    ∀ c ∈ (exponent ++ rest).head?, isDigit c = false ∧ c ≠ '.' := by
  cases h with
  | none => exact fun c hc => ⟨(hrest c hc).1, (hrest c hc).2.1⟩
  | @power e sign digits letter signed hdigits =>
    intro c hc
    rw [List.cons_append, List.head?_cons, Option.mem_some_iff] at hc
    subst hc
    simp only [List.mem_cons, List.not_mem_nil, or_false] at letter
    rcases letter with rfl | rfl <;> decide

/-- The scanner takes a fraction as a whole. -/
lemma IsFraction.exists_scanned {fraction : List Char} (h : IsFraction fraction) :
    ∃ digits, ∀ rest, (∀ c ∈ rest.head?, isDigit c = false ∧ c ≠ '.') →
      scanFraction (fraction ++ rest) = .ok (digits, rest) := by
  cases h with
  | none =>
    refine ⟨[], fun rest hrest => ?_⟩
    rw [List.nil_append]
    unfold scanFraction
    split
    · exact absurd rfl (hrest _ rfl).2
    · rfl
  | point digits => exact ⟨_, fun rest hrest => digits.scanDigits fun c hc => (hrest c hc).1⟩

/-- A fraction does not go on with the digits before it. -/
lemma IsFraction.head {fraction rest : List Char} (h : IsFraction fraction)
    (hrest : ∀ c ∈ rest.head?, isDigit c = false) :
    ∀ c ∈ (fraction ++ rest).head?, isDigit c = false := by
  cases h with
  | none => exact hrest
  | point _ =>
    intro c hc
    rw [List.cons_append, List.head?_cons, Option.mem_some_iff] at hc
    exact hc ▸ rfl

/-- The parts of a number are taken one after the other. -/
lemma exists_scanUnsigned {whole fraction exponent : List Char} (digits : IsWhole whole)
    (point : IsFraction fraction) (power : IsExponent exponent) (negative : Bool) :
    ∃ n, ∀ rest, Ends rest →
      scanUnsigned negative (whole ++ (fraction ++ (exponent ++ rest))) = .ok (n, rest) := by
  obtain ⟨below, hfraction⟩ := point.exists_scanned
  obtain ⟨scale, hexponent⟩ := power.exists_scanned
  refine ⟨⟨negative, whole, below, scale⟩, fun rest hrest => ?_⟩
  have hhead := power.head hrest
  rw [scanUnsigned, digits.scanWhole (point.head fun c hc => (hhead c hc).1)]
  simp only [bind, Except.bind, hfraction _ hhead, hexponent rest hrest]
  rfl

/-- A token that is not to go on. -/
lemma spells_of_ends {c : Char} {cs : List Char} {t : Token} (hblank : isBlank c = false)
    (htoken : ∀ rest, Ends rest → tokenFrom c (cs ++ rest) = (t, rest)) : Spells (c :: cs) [t] := by
  refine ⟨fun fuel rest hrest => ?_, Nat.le_add_left 1 cs.length⟩
  rw [List.length_singleton, Nat.add_comm, List.cons_append, tokensWithin_succ hblank,
    htoken rest hrest]
  rfl

/-- A number is one token. -/
lemma IsNumber.exists_spells {text : List Char} (h : IsNumber text) :
    ∃ n, Spells text [.number n] := by
  cases h with
  | @number minus whole fraction exponent sign digits point power =>
    simp only [List.mem_cons, List.not_mem_nil, or_false] at sign
    rcases sign with rfl | rfl
    · obtain ⟨n, hscan⟩ := exists_scanUnsigned digits point power false
      obtain ⟨c, tail, rfl⟩ := List.exists_cons_of_ne_nil digits.ne_nil
      have hc := digits.digit c List.mem_cons_self
      have hspells : Spells (c :: (tail ++ (fraction ++ exponent))) [.number n] := by
        refine spells_of_ends (isBlank_of_isDigit hc) fun rest hrest => ?_
        have hwhole := hscan rest hrest
        rw [List.cons_append] at hwhole
        rw [tokenFrom_of_isDigit hc, numberToken, List.append_assoc, List.append_assoc, hwhole]
      exact ⟨n, hspells⟩
    · obtain ⟨n, hscan⟩ := exists_scanUnsigned digits point power true
      have hspells : Spells ('-' :: (whole ++ (fraction ++ exponent))) [.number n] := by
        refine spells_of_ends rfl fun rest hrest => ?_
        show numberToken true _ = _
        rw [numberToken, List.append_assoc, List.append_assoc, hscan rest hrest]
      exact ⟨n, hspells⟩

/-! ## Values of any shape -/

/-- The letters of a word. -/
def Word.letters : Word → List Char
  | .null => ['n', 'u', 'l', 'l']
  | .true => ['t', 'r', 'u', 'e']
  | .false => ['f', 'a', 'l', 's', 'e']

/-- A word is one token. -/
lemma spells_word (w : Word) : Spells w.letters [.word w] := by
  cases w with
  | null => exact Spells.nil.cons 'n' ['u', 'l', 'l'] rfl fun _ => rfl
  | true => exact Spells.nil.cons 't' ['r', 'u', 'e'] rfl fun _ => rfl
  | false => exact Spells.nil.cons 'f' ['a', 'l', 's', 'e'] rfl fun _ => rfl

/-- What a part of a text may be. -/
inductive Part
  | value
  /-- The values of an array, with commas between them. -/
  | items
  /-- A name with its value. -/
  | entry
  /-- The entries of an object, with commas between them. -/
  | entries

/-- The rules for values, which may be nested to any depth and have blanks around them. -/
inductive Derives : Part → List Char → Prop
  | word (w : Word) : Derives .value w.letters
  | number {text : List Char} (h : IsNumber text) : Derives .value text
  | string {pieces : List Piece} {text : List Char} (h : IsString pieces text) : Derives .value text
  | spaced {a text b : List Char} (before : Blanks a) (h : Derives .value text) (after : Blanks b) :
      Derives .value (a ++ text ++ b)
  | emptyArray {ws : List Char} (h : Blanks ws) : Derives .value ('[' :: (ws ++ [']']))
  | array {text : List Char} (h : Derives .items text) : Derives .value ('[' :: (text ++ [']']))
  | item {text : List Char} (h : Derives .value text) : Derives .items text
  | items {text more : List Char} (h : Derives .value text) (others : Derives .items more) :
      Derives .items (text ++ ',' :: more)
  | emptyObject {ws : List Char} (h : Blanks ws) : Derives .value ('\x7b' :: (ws ++ ['\x7d']))
  | object {text : List Char} (h : Derives .entries text) :
      Derives .value ('\x7b' :: (text ++ ['\x7d']))
  | named {pieces : List Piece} {a name b text : List Char} (before : Blanks a)
      (key : IsString pieces name) (after : Blanks b) (h : Derives .value text) :
      Derives .entry (a ++ (name ++ (b ++ ':' :: text)))
  | entry {text : List Char} (h : Derives .entry text) : Derives .entries text
  | entries {text more : List Char} (h : Derives .entry text) (others : Derives .entries more) :
      Derives .entries (text ++ ',' :: more)

/-- A value of any shape. -/
def IsValue (text : List Char) : Prop := Derives .value text

/-- What it means that the tokens of a part are passed over as a whole, in whatever containers the
part stands.  The values of an array and the entries of an object go with the token that closes
them; in front of the first of them the container could have been closed at once. -/
def Skips : Part → List Token → Prop
  | .value, ts => ∀ state stack rest, state = .value ∨ state = .firstValue →
      skipRest state stack (ts ++ rest) = skipRest .more stack rest
  | .items, ts => ∀ state stack rest, state = .value ∨ state = .firstValue →
      skipRest state (true :: stack) (ts ++ .closeBracket :: rest) = skipRest .more stack rest
  | .entry, ts => ∀ state stack rest, state = .key ∨ state = .firstKey →
      skipRest state (false :: stack) (ts ++ rest) = skipRest .more (false :: stack) rest
  | .entries, ts => ∀ state stack rest, state = .key ∨ state = .firstKey →
      skipRest state (false :: stack) (ts ++ .closeBrace :: rest) = skipRest .more stack rest

/-- A bracket opens an array, which is passed over with its values. -/
lemma skips_array {ts : List Token}
    (h : ∀ stack rest,
      skipRest .firstValue (true :: stack) (ts ++ rest) = skipRest .more stack rest) :
    Skips .value (.openBracket :: ts) := by
  intro state stack rest hstate
  have hopen : skipRest state stack (.openBracket :: (ts ++ rest)) =
      skipRest .firstValue (true :: stack) (ts ++ rest) := by
    rcases hstate with rfl | rfl <;> cases stack <;> rfl
  rw [List.cons_append, hopen, h]

/-- A brace opens an object, which is passed over with its entries. -/
lemma skips_object {ts : List Token}
    (h : ∀ stack rest,
      skipRest .firstKey (false :: stack) (ts ++ rest) = skipRest .more stack rest) :
    Skips .value (.openBrace :: ts) := by
  intro state stack rest hstate
  have hopen : skipRest state stack (.openBrace :: (ts ++ rest)) =
      skipRest .firstKey (false :: stack) (ts ++ rest) := by
    rcases hstate with rfl | rfl <;> cases stack <;> rfl
  rw [List.cons_append, hopen, h]

/-- **Every part is cut into tokens that are passed over as a whole**, rule by rule. -/
lemma Derives.exists_skipped {part : Part} {text : List Char} (h : Derives part text) :
    ∃ ts, Spells text ts ∧ Skips part ts := by
  induction h with
  | word w =>
    refine ⟨_, spells_word w, fun state stack rest hstate => ?_⟩
    rcases hstate with rfl | rfl <;> cases stack <;> rfl
  | number h =>
    obtain ⟨n, hspells⟩ := h.exists_spells
    refine ⟨_, hspells, fun state stack rest hstate => ?_⟩
    rcases hstate with rfl | rfl <;> cases stack <;> rfl
  | @string pieces text h =>
    have hspells := h.spells Spells.nil
    rw [List.append_nil] at hspells
    refine ⟨_, hspells, fun state stack rest hstate => ?_⟩
    rcases hstate with rfl | rfl <;> cases stack <;> rfl
  | spaced before _ after ih =>
    obtain ⟨ts, hspells, hskips⟩ := ih
    exact ⟨ts, hspells.spaced before after, hskips⟩
  | emptyArray h =>
    have hclose : Spells [']'] [.closeBracket] := Spells.nil.cons ']' [] rfl fun _ => rfl
    exact ⟨_, (hclose.indented h).cons '[' [] rfl fun _ => rfl, skips_array fun _ _ => rfl⟩
  | @array text _ ih =>
    obtain ⟨ts, hspells, hskips⟩ := ih
    have hclose : Spells [']'] [.closeBracket] := Spells.nil.cons ']' [] rfl fun _ => rfl
    have hclosed := hspells.append hclose fun rest _ => ends_cons (by decide)
    refine ⟨_, hclosed.cons '[' [] rfl fun _ => rfl, skips_array fun stack rest => ?_⟩
    rw [List.append_assoc]
    exact hskips _ stack rest (.inr rfl)
  | item _ ih =>
    obtain ⟨ts, hspells, hskips⟩ := ih
    refine ⟨ts, hspells, fun state stack rest hstate => ?_⟩
    -- The last item ends at the bracket that closes its array.
    exact hskips state (true :: stack) (.closeBracket :: rest) hstate
  | items _ _ ih ihOthers =>
    obtain ⟨ts, hspells, hskips⟩ := ih
    obtain ⟨us, hmore, hothers⟩ := ihOthers
    refine ⟨_, hspells.append (hmore.cons ',' [] rfl fun _ => rfl) fun rest _ => ends_comma _,
      fun state stack rest hstate => ?_⟩
    rw [List.append_assoc, hskips state (true :: stack) _ hstate]
    exact hothers .value stack rest (.inl rfl)
  | emptyObject h =>
    have hclose : Spells ['\x7d'] [.closeBrace] := Spells.nil.cons '\x7d' [] rfl fun _ => rfl
    exact ⟨_, (hclose.indented h).cons '\x7b' [] rfl fun _ => rfl, skips_object fun _ _ => rfl⟩
  | object _ ih =>
    obtain ⟨ts, hspells, hskips⟩ := ih
    have hclose : Spells ['\x7d'] [.closeBrace] := Spells.nil.cons '\x7d' [] rfl fun _ => rfl
    have hclosed := hspells.append hclose fun rest _ => ends_closeBrace _
    refine ⟨_, hclosed.cons '\x7b' [] rfl fun _ => rfl, skips_object fun stack rest => ?_⟩
    rw [List.append_assoc]
    exact hskips _ stack rest (.inr rfl)
  | named before key after _ ih =>
    obtain ⟨ts, hspells, hskips⟩ := ih
    have hcolon := (hspells.cons ':' [] rfl fun _ => rfl).indented after
    refine ⟨_, (key.spells hcolon).indented before, fun state stack rest hstate => ?_⟩
    -- Behind the name and the colon a value is awaited.
    rcases hstate with rfl | rfl <;> exact hskips .value (false :: stack) rest (.inl rfl)
  | entry _ ih =>
    obtain ⟨ts, hspells, hskips⟩ := ih
    refine ⟨ts, hspells, fun state stack rest hstate => ?_⟩
    exact hskips state stack (.closeBrace :: rest) hstate
  | entries _ _ ih ihOthers =>
    obtain ⟨ts, hspells, hskips⟩ := ih
    obtain ⟨us, hmore, hothers⟩ := ihOthers
    refine ⟨_, hspells.append (hmore.cons ',' [] rfl fun _ => rfl) fun rest _ => ends_comma _,
      fun state stack rest hstate => ?_⟩
    -- Behind the comma another name is awaited.
    rw [List.append_assoc, hskips state stack _ hstate]
    exact hothers .key stack rest (.inl rfl)

/-- A value of any shape is skipped. -/
lemma IsValue.exists_skipped {text : List Char} (h : IsValue text) :
    ∃ ts, Spells text ts ∧ ∀ rest, skipValue (ts ++ rest) = .ok rest := by
  obtain ⟨ts, hspells, hskips⟩ := Derives.exists_skipped h
  refine ⟨ts, hspells, fun rest => ?_⟩
  rw [skipValue, hskips .value [] rest (.inl rfl)]
  cases rest <;> rfl

/-! ## Objects -/

/-- An entry of an object: a name, which may be spelled in any way, and the text of a value, with
blanks around both. -/
inductive IsEntry (name : String) (value : List Char) : List Char → Prop
  | named {a key b c d : List Char} (before : Blanks a) (spelled : IsText name key)
      (after : Blanks b) (beforeValue : Blanks c) (afterValue : Blanks d) :
      IsEntry name value (a ++ (key ++ (b ++ ':' :: (c ++ value ++ d))))

/-- An object with these entries in this order, each written by the rule. -/
inductive IsObject {α : Type} (rule : α → List Char → Prop) (entries : List α) : List Char → Prop
  | empty {ws : List Char} (none : entries = []) (h : Blanks ws) :
      IsObject rule entries ('\x7b' :: (ws ++ ['\x7d']))
  | entries {texts : List (List Char)} (h : List.Forall₂ rule entries texts) :
      IsObject rule entries ('\x7b' :: commaSeparated texts ++ ['\x7d'])

/-- The tokens of an entry: its name, a colon and the tokens of its value. -/
lemma IsEntry.exists_spells {name : String} {value text : List Char} {ts : List Token}
    (h : IsEntry name value text) (hvalue : Spells value ts) :
    ∃ pieces, textOf none pieces = .ok name ∧ Spells text (.string pieces :: .colon :: ts) := by
  obtain ⟨before, ⟨pieces, hdenotes, hquoted⟩, after, beforeValue, afterValue⟩ := h
  have hspaced := hvalue.spaced beforeValue afterValue
  have hcolon := (hspaced.cons ':' [] rfl fun _ => rfl).indented after
  exact ⟨pieces, hdenotes.textOf, (hquoted.spells hcolon).indented before⟩

/-- The tokens of an object are those of its entries, in braces and with commas between them. -/
lemma IsObject.exists_spells {α : Type} {rule : α → List Char → Prop} {entries : List α}
    {text : List Char} (h : IsObject rule entries text) {P : α → List Token → Prop}
    (hrule : ∀ e ∈ entries, ∀ t, rule e t → ∃ ts, Spells t ts ∧ P e ts) :
    ∃ tss, Spells text (.openBrace :: (commaTokens tss ++ [.closeBrace])) ∧
      List.Forall₂ P entries tss := by
  cases h with
  | empty none h =>
    subst none
    have hclose : Spells ['\x7d'] [.closeBrace] := Spells.nil.cons '\x7d' [] rfl fun _ => rfl
    exact ⟨[], (hclose.indented h).cons '\x7b' [] rfl fun _ => rfl, .nil⟩
  | @entries texts h =>
    have htokens : ∃ tss, List.Forall₂ Spells texts tss ∧ List.Forall₂ P entries tss := by
      induction h with
      | nil => exact ⟨[], .nil, .nil⟩
      | @cons e t entries texts here _ ih =>
        obtain ⟨ts, hspells, hP⟩ := hrule e List.mem_cons_self t here
        obtain ⟨tss, hothers, hPs⟩ := ih fun e he => hrule e (List.mem_cons_of_mem _ he)
        exact ⟨ts :: tss, .cons hspells hothers, .cons hP hPs⟩
    obtain ⟨tss, hspells, hP⟩ := htokens
    exact ⟨tss, Spells.braces hspells, hP⟩

/-! ## What is printed -/

/-- An entry may do without blanks. -/
lemma isEntry_compact {name : String} {key : List Char} (spelled : IsText name key)
    (value : List Char) : IsEntry name value (key ++ ':' :: value) := by
  have hentry : IsEntry name value ([] ++ (key ++ ([] ++ ':' :: ([] ++ value ++ [])))) :=
    .named blanks_nil spelled blanks_nil blanks_nil blanks_nil
  rwa [List.nil_append, List.nil_append, List.nil_append, List.append_nil] at hentry

/-- The printer writes an entry as the rules say. -/
lemma isEntry_printEntry (name : String) (value : List Char) :
    IsEntry name value (printEntry name value) :=
  isEntry_compact (isText_printText name) value

/-- An object is printed without blanks. -/
lemma isObject_printObject {α : Type} {rule : α → List Char → Prop} {entries : List α}
    (print : α → String × List Char)
    (h : ∀ e ∈ entries, rule e (printEntry (print e).1 (print e).2)) :
    IsObject rule entries (printObject (entries.map print)) := by
  refine .entries ?_
  rw [List.map_map, List.forall₂_map_right_iff, List.forall₂_same]
  exact h

end Admittance.Json
