/-!
# Maps from text to text

Credentials and session properties are maps from names to texts.  A `TextMap` keeps its entries
sorted by name, each name once, so two maps with the same entries are equal and listing a map
needs no further ordering.  Names are compared by code points.
-/

namespace Admittance

namespace TextMap

/-- Entries in strictly rising order of their names. -/
def Sorted (entries : List (String × String)) : Prop :=
  entries.Pairwise (fun a b => a.1 < b.1)

instance (entries : List (String × String)) : Decidable (Sorted entries) :=
  inferInstanceAs (Decidable (entries.Pairwise _))

/-- Puts an entry in its place, over an older entry of the same name. -/
def place (name value : String) : List (String × String) → List (String × String)
  | [] => [(name, value)]
  | entry :: rest =>
    if name < entry.1 then (name, value) :: entry :: rest
    else if name = entry.1 then (name, value) :: rest
    else entry :: place name value rest

/-- The entries are the new one and those from before. -/
theorem mem_place {name value : String} {entries : List (String × String)}
    {e : String × String} (h : e ∈ place name value entries) :
    e = (name, value) ∨ e ∈ entries := by
  induction entries with
  | nil => simpa [place] using h
  | cons entry rest ih =>
    unfold place at h
    split at h
    · simpa using h
    · split at h
      · rcases List.mem_cons.1 h with h | h
        · exact Or.inl h
        · exact Or.inr (List.mem_cons_of_mem _ h)
      · rcases List.mem_cons.1 h with h | h
        · exact Or.inr (h ▸ List.mem_cons_self)
        · exact (ih h).imp_right (List.mem_cons_of_mem _)

/-- A new entry takes the place that its name has in the order. -/
theorem sorted_place (name value : String) {entries : List (String × String)}
    (h : Sorted entries) : Sorted (place name value entries) := by
  induction entries with
  | nil => simp [place, Sorted]
  | cons entry rest ih =>
    obtain ⟨hhead, htail⟩ := List.pairwise_cons.1 h
    unfold place
    split
    · rename_i hlt
      refine List.pairwise_cons.2 ⟨fun e he => ?_, h⟩
      rcases List.mem_cons.1 he with rfl | he
      · exact hlt
      · exact String.lt_trans hlt (hhead e he)
    · rename_i hnlt
      split
      · rename_i heq
        exact List.pairwise_cons.2 ⟨fun e he => heq ▸ hhead e he, htail⟩
      · rename_i hne
        refine List.pairwise_cons.2 ⟨fun e he => ?_, ih htail⟩
        rcases mem_place he with rfl | he
        · exact Decidable.byContradiction fun hnot =>
            hne (String.le_antisymm (String.not_lt.1 hnot) (String.not_lt.1 hnlt))
        · exact hhead e he

end TextMap

/-- A finite map from names to texts, listed in the order of its names. -/
structure TextMap where
  entries : List (String × String)
  sorted : TextMap.Sorted entries := by decide
  deriving DecidableEq

namespace TextMap

@[ext] theorem ext {a b : TextMap} (h : a.entries = b.entries) : a = b := by
  cases a; cases b; cases h; rfl

/-- The map without entries. -/
def empty : TextMap := ⟨[], List.Pairwise.nil⟩

/-- The map with `name` bound to `value`. -/
def insert (m : TextMap) (name value : String) : TextMap :=
  ⟨place name value m.entries, sorted_place name value m.sorted⟩

/-- The text bound to `name`. -/
def get? (m : TextMap) (name : String) : Option String :=
  m.entries.lookup name

/-- The map of a list of entries; the last entry of a name counts. -/
def ofList (entries : List (String × String)) : TextMap :=
  entries.foldl (fun m e => m.insert e.1 e.2) empty

/-- Whether the map has no entry. -/
def isEmpty (m : TextMap) : Bool := m.entries.isEmpty

@[simp] theorem entries_empty : empty.entries = [] := rfl

@[simp] theorem entries_insert (m : TextMap) (name value : String) :
    (m.insert name value).entries = place name value m.entries := rfl

/-- An entry beyond all others is placed last. -/
theorem place_of_forall_lt {name value : String} {entries : List (String × String)}
    (h : ∀ e ∈ entries, e.1 < name) : place name value entries = entries ++ [(name, value)] := by
  induction entries with
  | nil => rfl
  | cons entry rest ih =>
    have hlt := h entry List.mem_cons_self
    unfold place
    rw [if_neg (String.lt_asymm hlt), if_neg (fun heq => String.lt_irrefl _ (heq ▸ hlt)),
      ih fun e he => h e (List.mem_cons_of_mem _ he), List.cons_append]

/-- Entries that come in order are put at the end. -/
theorem foldl_insert_of_sorted (m : TextMap) (entries : List (String × String))
    (h : Sorted (m.entries ++ entries)) :
    (entries.foldl (fun m e => m.insert e.1 e.2) m).entries = m.entries ++ entries := by
  induction entries generalizing m with
  | nil => simp
  | cons e rest ih =>
    have hlast : (m.insert e.1 e.2).entries = m.entries ++ [e] := by
      refine place_of_forall_lt fun d hd => ?_
      exact (List.pairwise_append.1 h).2.2 d hd e List.mem_cons_self
    rw [List.foldl_cons, ih (m.insert e.1 e.2) (by rw [hlast]; simpa using h), hlast]
    simp

/-- A map is read back from its own listing. -/
theorem ofList_entries (m : TextMap) : ofList m.entries = m :=
  TextMap.ext (by simpa [ofList] using foldl_insert_of_sorted empty m.entries m.sorted)

end TextMap

end Admittance
