import Admittance.Proofs.Grammar
import Admittance.Proofs.Reading
import Mathlib.Data.List.Nodup

/-!
# Objects in any presentation

A record is written as an object whose entries stand in any order.  Its slots (`Json.Slot`) say of
each field what may be written for it and whether it may be left out; an object carries the slots
(`Json.Carries`) if it fills none of them twice, fills each that has to be filled, and has values
for whatever other names it uses.

Read entry by entry, such an object comes to the same draft in whatever order its entries stand,
because what is known after some entries depends on their names alone (`Json.Record.Tracks`).  An
entry of a slot adds its name, which is new; an entry of another name is passed over and changes
nothing.  So the whole object is read as the record that the draft of all its names makes
(`Json.Record.Tracks.reads`).
-/

namespace Admittance

namespace Json

variable {α β δ : Type}

/-! ## Values -/

/-- The reader takes this value from the text, wherever the text stands. -/
def Takes (reader : Reader α) (text : List Char) (v : α) : Prop :=
  ∃ ts, Spells text ts ∧ ∀ rest, reader (ts ++ rest) = .ok (v, rest)

/-- What a reader makes of a text it takes from it. -/
lemma Reads.takes {reader : Reader α} {text : List Char} {v : α} (h : Reads reader text v) :
    Takes reader text v := by
  obtain ⟨t, ts, -, hspells, hreads⟩ := h.exists_tokens
  exact ⟨t :: ts, hspells, hreads⟩

/-- Blanks around a value do not matter. -/
lemma Reads.spaced {reader : Reader α} {text a b : List Char} {v : α} (h : Reads reader text v)
    (before : Blanks a) (after : Blanks b) : Reads reader (a ++ text ++ b) v := by
  obtain ⟨t, ts, hnull, hspells, hreads⟩ := h.exists_tokens
  exact ⟨t, ts, hnull, hspells.spaced before after, hreads⟩

/-- What may be written for a value that may be absent. -/
inductive IsOptional (rule : β → List Char → Prop) : Option β → List Char → Prop
  | null : IsOptional rule none Word.null.letters
  | some {v : β} {text : List Char} (h : rule v text) : IsOptional rule (some v) text

/-- An optional value is taken from a null or from the text of the value. -/
lemma IsOptional.takes {rule : β → List Char → Prop} {reader : Reader β} {v : Option β}
    {text : List Char} (h : IsOptional rule v text)
    (hrule : ∀ v text, rule v text → Reads reader text v) : Takes (readOptional reader) text v := by
  cases h with
  | null => exact ⟨_, spells_word .null, fun _ => rfl⟩
  | some h => exact (hrule _ _ h).optional.takes

/-! ## Objects that carry a record -/

/-- A field of a record as it is written. -/
structure Slot where
  name : String
  /-- What may be written for its value. -/
  text : List Char → Prop
  /-- Whether it may be left out. -/
  optional : Prop

/-- The entries carry the slots, in whatever order they stand.  For names that no slot has, `extra`
says what may be written. -/
structure Carries (slots : List Slot) (extra : List Char → Prop)
    (entries : List (String × List Char)) : Prop where
  /-- No slot is filled twice. -/
  once : ((entries.map (·.1)).filter fun name => name ∈ slots.map (·.name)).Nodup
  known : ∀ slot ∈ slots, ∀ e ∈ entries, e.1 = slot.name → slot.text e.2
  unknown : ∀ e ∈ entries, e.1 ∉ slots.map (·.name) → extra e.2
  complete : ∀ slot ∈ slots, slot.name ∈ entries.map (·.1) ∨ slot.optional

/-- An object with these entries, each of which is written as it may be. -/
abbrev IsObjectOf (entries : List (String × List Char)) (text : List Char) : Prop :=
  IsObject (fun e => IsEntry e.1 e.2) entries text

/-- What there is of one slot: its entry, or nothing where it may be left out. -/
inductive IsGiven (slot : Slot) : List (String × List Char) → Prop
  | entry {text : List Char} (h : slot.text text) : IsGiven slot [(slot.name, text)]
  | leftOut (h : slot.optional) : IsGiven slot []

section Given

variable {slots : List Slot} {parts : List (List (String × List Char))}

/-- What is given has names of slots, in their order. -/
lemma names_sublist (h : List.Forall₂ IsGiven slots parts) :
    (parts.flatten.map (·.1)).Sublist (slots.map (·.name)) := by
  induction h with
  | nil => exact .refl _
  | cons here _ ih =>
    cases here with
    | entry _ => exact ih.cons_cons _
    | leftOut _ => exact ih.cons _

/-- Every entry belongs to a slot. -/
lemma exists_slot (h : List.Forall₂ IsGiven slots parts) {e : String × List Char}
    (he : e ∈ parts.flatten) : ∃ slot ∈ slots, e.1 = slot.name ∧ slot.text e.2 := by
  induction h with
  | nil => cases he
  | @cons slot part slots parts here _ ih =>
    rw [List.flatten_cons, List.mem_append] at he
    rcases he with he | he
    · cases here with
      | entry htext =>
        obtain rfl := List.mem_singleton.mp he
        exact ⟨slot, List.mem_cons_self, rfl, htext⟩
      | leftOut _ => cases he
    · obtain ⟨other, hother, hsame⟩ := ih he
      exact ⟨other, List.mem_cons_of_mem _ hother, hsame⟩

/-- Every slot has its entry, or may be left out. -/
lemma mem_names_or_optional (h : List.Forall₂ IsGiven slots parts) {slot : Slot}
    (hslot : slot ∈ slots) : slot.name ∈ parts.flatten.map (·.1) ∨ slot.optional := by
  induction h with
  | nil => cases hslot
  | @cons other part slots parts here _ ih =>
    rw [List.flatten_cons, List.map_append, List.mem_append]
    rcases List.mem_cons.mp hslot with rfl | hslot
    · cases here with
      | entry _ => exact .inl (.inl List.mem_cons_self)
      | leftOut hoptional => exact .inr hoptional
    · exact (ih hslot).imp_left .inr

/-- Slots of different names are carried by what there is of each, in their own order. -/
lemma carries_flatten (h : List.Forall₂ IsGiven slots parts) (hnames : (slots.map (·.name)).Nodup)
    (extra : List Char → Prop) : Carries slots extra parts.flatten where
  once := hnames.sublist (List.filter_sublist.trans (names_sublist h))
  known slot hslot e he hsame := by
    obtain ⟨other, hother, hname, htext⟩ := exists_slot h he
    have hslots : other = slot :=
      List.inj_on_of_nodup_map hnames hother hslot (hname.symm.trans hsame)
    exact hslots ▸ htext
  unknown e he hname := by
    obtain ⟨slot, hslot, hsame, -⟩ := exists_slot h he
    exact absurd (List.mem_map.mpr ⟨slot, hslot, hsame.symm⟩) hname
  complete slot hslot := mem_names_or_optional h hslot

end Given

/-- Entries are printed as an object that has them. -/
lemma isObjectOf_printObject (entries : List (String × List Char)) :
    IsObjectOf entries (printObject entries) := by
  have hprinted : IsObjectOf entries (printObject (entries.map id)) :=
    isObject_printObject id fun e _ => isEntry_printEntry e.1 e.2
  rwa [List.map_id] at hprinted

namespace Record

variable {r : Record δ α} {slots : List Slot} {extra : List Char → Prop}
  {known : List String → δ}

/-- A slot of the record: from what may be written for it the field of its name takes a value, and
to have taken it is to know one name more. -/
inductive Fits (r : Record δ α) (known : List String → δ) (slot : Slot) : Prop
  | field {β : Type} {get : δ → Option β} {set : δ → β → δ} {reader : Reader β}
      {fallback : Option β} {v : β}
      (found : r.field? slot.name = some (.ofReader slot.name get set reader fallback))
      (takes : ∀ text, slot.text text → Takes reader text v)
      (empty : ∀ names, slot.name ∉ names → get (known names) = none)
      (filled : ∀ names, set (known names) v = known (names ++ [slot.name]))

/-- What is known of the record depends on which of its names have been read. -/
structure Tracks (r : Record δ α) (slots : List Slot) (extra : List Char → Prop)
    (known : List String → δ) : Prop where
  names : r.fields.map (·.name) = slots.map (·.name)
  blank : known [] = r.blank
  slot : ∀ slot ∈ slots, r.Fits known slot
  other : ∀ name, name ∉ slots.map (·.name) → ∀ names, known (names ++ [name]) = known names
  lenient : ∀ text, extra text → r.strict = false ∧ IsValue text

/-- A name that no field has is not found. -/
lemma field?_eq_none {name : String} (h : name ∉ r.fields.map (·.name)) : r.field? name = none := by
  refine List.find?_eq_none.mpr fun f hf hsame => h ?_
  exact of_decide_eq_true hsame ▸ List.mem_map_of_mem hf

/-- To read these tokens is to know one name more, unless it is one that is not to be read again. -/
structure Advances (r : Record δ α) (slots : List Slot) (known : List String → δ) (name : String)
    (ts : List Token) : Prop where
  starts : ∃ pieces us, ts = .string pieces :: us
  step : ∀ names, (name ∈ slots.map (·.name) → name ∉ names) → ∀ rest,
    r.readEntry (known names) (ts ++ rest) = .ok (known (names ++ [name]), rest)

/-- An entry of another name is passed over. -/
lemma readEntry_of_unknown {name : String} {pieces : List Piece} {d : δ} {ts rest : List Token}
    (key : textOf none pieces = .ok name) (missing : r.field? name = none)
    (lenient : r.strict = false) (skipped : skipValue ts = .ok rest) :
    r.readEntry d (.string pieces :: .colon :: ts) = .ok (d, rest) := by
  have hcolon : expect .colon (.colon :: ts) = .ok ts := rfl
  simp only [readEntry, readKey_of_textOf key, bind, Except.bind, missing, readUnknown, lenient,
    Bool.false_eq_true, if_false, hcolon, skipped]
  rfl

/-- **One entry**: whether its name is known or not, the draft stays what its names make of it. -/
lemma Tracks.advances (h : r.Tracks slots extra known) {entries : List (String × List Char)}
    (hcarries : Carries slots extra entries) {e : String × List Char} (he : e ∈ entries)
    {text : List Char} (hentry : IsEntry e.1 e.2 text) :
    ∃ ts, Spells text ts ∧ r.Advances slots known e.1 ts := by
  by_cases hname : e.1 ∈ slots.map (·.name)
  · obtain ⟨slot, hslot, hsame⟩ := List.mem_map.mp hname
    obtain ⟨found, takes, empty, filled⟩ := h.slot slot hslot
    obtain ⟨us, hvalue, hreads⟩ := takes e.2 (hcarries.known slot hslot e he hsame.symm)
    obtain ⟨pieces, hkey, hspells⟩ := hentry.exists_spells hvalue
    refine ⟨_, hspells, ⟨_, _, rfl⟩, fun names hnew rest => ?_⟩
    rw [← hsame] at hkey hnew ⊢
    have hunset := empty names (hnew (List.mem_map_of_mem hslot))
    rw [← filled]
    exact readEntry_of_field hkey found hunset (hreads rest)
  · have missing := field?_eq_none (h.names ▸ hname)
    obtain ⟨lenient, hshape⟩ := h.lenient e.2 (hcarries.unknown e he hname)
    obtain ⟨us, hvalue, hskips⟩ := hshape.exists_skipped
    obtain ⟨pieces, hkey, hspells⟩ := hentry.exists_spells hvalue
    refine ⟨_, hspells, ⟨_, _, rfl⟩, fun names _ rest => ?_⟩
    rw [h.other e.1 hname]
    exact readEntry_of_unknown hkey missing lenient (hskips rest)

/-- **All entries**, one after the other: the draft is the one of all their names. -/
lemma entries_of_advances {entries : List (String × List Char)} {tss : List (List Token)}
    (h : List.Forall₂ (fun e => r.Advances slots known e.1) entries tss) (names : List String)
    (honce : ((entries.map (·.1)).filter fun name => name ∈ slots.map (·.name)).Nodup)
    (hnew : ∀ name ∈ entries.map (·.1), name ∈ slots.map (·.name) → name ∉ names) :
    Entries r.readEntry (known names) tss (known (names ++ entries.map (·.1))) := by
  induction h generalizing names with
  | nil =>
    rw [List.map_nil, List.append_nil]
    exact .nil _
  | @cons e ts entries tss here _ ih =>
    obtain ⟨⟨pieces, us, rfl⟩, hstep⟩ := here
    rw [List.map_cons] at honce hnew ⊢
    have hthere : ∀ name ∈ entries.map (·.1),
        name ∈ slots.map (·.name) → name ∉ names ++ [e.1] := by
      intro name hname hslot hmem
      rcases List.mem_append.mp hmem with hmem | hmem
      · exact hnew name (List.mem_cons_of_mem _ hname) hslot hmem
      · obtain rfl := List.mem_singleton.mp hmem
        rw [List.filter_cons_of_pos (by simpa using hslot)] at honce
        exact (List.nodup_cons.mp honce).1 (List.mem_filter.mpr ⟨hname, by simpa using hslot⟩)
    have hrest := ih (names ++ [e.1]) (honce.sublist ((List.sublist_cons_self _ _).filter _)) hthere
    rw [List.append_assoc, List.singleton_append] at hrest
    exact .cons (hstep names (hnew e.1 List.mem_cons_self)) hrest

/-- **A record is read from every object that carries its slots**: as what the draft of the names in
the object comes to. -/
theorem Tracks.reads (h : r.Tracks slots extra known) {entries : List (String × List Char)}
    (hcarries : Carries slots extra entries) {text : List Char} (hobject : IsObjectOf entries text)
    {v : α} (hfinish : r.finish (known (entries.map (·.1))) = .ok v) : Reads r.read text v := by
  obtain ⟨tss, hspells, hadvances⟩ :=
    hobject.exists_spells (P := fun e => r.Advances slots known e.1)
      fun e he t hentry => h.advances hcarries he hentry
  have hentries := entries_of_advances hadvances [] hcarries.once fun _ _ _ => List.not_mem_nil
  rw [h.blank, List.nil_append] at hentries
  refine ⟨.openBrace, _, by simp, hspells, fun rest => ?_⟩
  have hloop := r.isEntryLoop_readEntries.object hentries rest
  simp only [List.cons_append, read, hloop, bind, Except.bind, close, hfinish]
  rfl

end Record

/-! ## Maps of texts -/

/-- What may be written for a map: its entries in any order. -/
def IsTextMap (m : TextMap) (text : List Char) : Prop :=
  ∃ entries, entries.Perm m.entries ∧
    IsObject (fun e t => ∃ value, IsText e.2 value ∧ IsEntry e.1 value t) entries text

/-- A map may be printed in any order. -/
lemma isTextMap_of_perm {m : TextMap} {entries : List (String × String)}
    (h : entries.Perm m.entries) :
    IsTextMap m (printObject (entries.map fun e => (e.1, printText e.2))) := by
  refine ⟨entries, h, isObject_printObject _ fun e _ => ?_⟩
  exact ⟨_, isText_printText e.2, isEntry_printEntry e.1 _⟩

end Json

namespace TextMap

/-- A new name makes one entry more. -/
lemma place_perm {name value : String} {entries : List (String × String)}
    (h : ∀ e ∈ entries, e.1 ≠ name) :
    (place name value entries).Perm ((name, value) :: entries) := by
  induction entries with
  | nil => exact .refl _
  | cons entry rest ih =>
    have hrest := ih fun e he => h e (List.mem_cons_of_mem _ he)
    unfold place
    split
    · exact .refl _
    · rw [if_neg fun hsame => h entry List.mem_cons_self hsame.symm]
      exact (hrest.cons entry).trans (.swap _ _ _)

/-- The entries that are put into a map are those that it has then, if no name comes twice. -/
lemma foldl_insert_perm {m : TextMap} {entries : List (String × String)}
    (h : ((m.entries ++ entries).map (·.1)).Nodup) :
    (entries.foldl (fun m e => m.insert e.1 e.2) m).entries.Perm (m.entries ++ entries) := by
  induction entries generalizing m with
  | nil => rw [List.append_nil, List.foldl_nil]
  | cons e entries ih =>
    have hmoved : (m.entries ++ e :: entries).Perm (e :: (m.entries ++ entries)) :=
      List.perm_middle
    have hnodup := (hmoved.map (·.1)).nodup_iff.mp h
    rw [List.map_cons, List.nodup_cons] at hnodup
    have hplaced : (m.insert e.1 e.2).entries.Perm (e :: m.entries) := by
      refine place_perm fun d hd hsame => hnodup.1 ?_
      exact hsame ▸ List.mem_map_of_mem (List.mem_append_left _ hd)
    have hall := hplaced.append_right entries
    have hnew := ((hall.trans hmoved.symm).map (·.1)).nodup_iff.mpr h
    rw [List.foldl_cons]
    exact (ih hnew).trans (hall.trans hmoved.symm)

/-- **The order of the entries does not matter.** -/
lemma ofList_of_perm {m : TextMap} {entries : List (String × String)}
    (h : entries.Perm m.entries) : ofList entries = m := by
  have hdistinct : m.entries.Pairwise fun a b => a.1 ≠ b.1 :=
    m.sorted.imp fun {a b} hlt (hsame : a.1 = b.1) => String.lt_irrefl b.1 (hsame ▸ hlt)
  have hnames : (m.entries.map (·.1)).Nodup := List.pairwise_map.mpr hdistinct
  have hperm : (ofList entries).entries.Perm m.entries :=
    (foldl_insert_perm ((h.map (·.1)).nodup_iff.mpr hnames)).trans h
  have hantisymm : ∀ a b : String × String, a ∈ (ofList entries).entries → b ∈ m.entries →
      a.1 < b.1 → b.1 < a.1 → a = b := fun a b _ _ hlt hgt => absurd hgt (String.lt_asymm hlt)
  exact TextMap.ext (hperm.eq_of_pairwise hantisymm (ofList entries).sorted m.sorted)

end TextMap

namespace Json

/-- **A map is read from its entries in any order.** -/
lemma IsTextMap.reads {m : TextMap} {text : List Char} (h : IsTextMap m text) :
    Reads readTextMap text m := by
  obtain ⟨entries, hperm, hobject⟩ := h
  obtain ⟨tss, hspells, hentries⟩ := hobject.exists_spells (P := IsTextEntry) (by
    rintro e - t ⟨value, ⟨pieces, hdenotes, hquoted⟩, hentry⟩
    have hvalue := hquoted.spells Spells.nil
    rw [List.append_nil] at hvalue
    obtain ⟨key, hkey, hspells⟩ := hentry.exists_spells hvalue
    exact ⟨_, hspells, key, pieces, hkey, hdenotes.textOf, rfl⟩)
  refine ⟨.openBrace, _, by simp, hspells, fun rest => ?_⟩
  rw [readTextMap_of_entries hentries, TextMap.ofList_of_perm hperm]

end Json

end Admittance
