import ResponseCheck.Json.Basic
import ResponseCheck.Text.Blank
import ResponseCheck.Text.Order

/-!
# Headers

A header map holds one value for each name, in the order of names. Names are compared as they are
written; where case must not matter they are made small first.
-/

namespace ResponseCheck.Http

/-- Header maps: the entries are in strictly ascending order of names. -/
structure Headers where
  entries : List (String × String)
  sorted : entries.Pairwise (fun a b => Text.precedes a.1 b.1 = true)
deriving DecidableEq, Repr

namespace Headers

/-- The map without entries. -/
def empty : Headers := ⟨[], .nil⟩

instance : Inhabited Headers := ⟨empty⟩

/-- The value of a name. -/
def get? (h : Headers) (name : String) : Option String := h.entries.lookup name

/-- Sets the value of a name in an ordered list of entries. -/
def insertEntry (name value : String) : List (String × String) → List (String × String)
  | [] => [(name, value)]
  | (n, v) :: rest =>
    if Text.precedes name n then (name, value) :: (n, v) :: rest
    else if name = n then (name, value) :: rest
    else (n, v) :: insertEntry name value rest

theorem precedes_of_mem_insertEntry {low name : String} (value : String)
    (hlow : Text.precedes low name = true) :
    ∀ {entries : List (String × String)}, (∀ e ∈ entries, Text.precedes low e.1 = true) →
      ∀ e ∈ insertEntry name value entries, Text.precedes low e.1 = true
  | [], _ => by simp [insertEntry, hlow]
  | (n, v) :: rest, h => by
    have hn : Text.precedes low n = true := h (n, v) (by simp)
    have hrest : ∀ e ∈ rest, Text.precedes low e.1 = true :=
      fun e he => h e (List.mem_cons_of_mem _ he)
    have ih := precedes_of_mem_insertEntry value hlow hrest
    intro e he
    unfold insertEntry at he
    split at he
    · rcases List.mem_cons.1 he with rfl | he
      · exact hlow
      · exact h e he
    · split at he
      · rcases List.mem_cons.1 he with rfl | he
        · exact hlow
        · exact hrest e he
      · rcases List.mem_cons.1 he with rfl | he
        · exact hn
        · exact ih e he

theorem pairwise_insertEntry (name value : String) :
    ∀ {entries : List (String × String)},
      entries.Pairwise (fun a b => Text.precedes a.1 b.1 = true) →
        (insertEntry name value entries).Pairwise (fun a b => Text.precedes a.1 b.1 = true)
  | [], _ => by simp [insertEntry]
  | (n, v) :: rest, h => by
    obtain ⟨hn, hrest⟩ := List.pairwise_cons.1 h
    unfold insertEntry
    split
    · next hlt =>
      refine List.pairwise_cons.2 ⟨fun e he => ?_, h⟩
      rcases List.mem_cons.1 he with rfl | he
      · exact hlt
      · exact Text.precedes_trans hlt (hn e he)
    · next hge =>
      split
      · next heq => exact List.pairwise_cons.2 ⟨fun e he => heq ▸ hn e he, hrest⟩
      · next hne =>
        have hlt : Text.precedes n name = true := by
          refine Decidable.byContradiction fun hle => ?_
          exact hne (Text.eq_of_not_precedes (Bool.eq_false_iff.2 hge) (Bool.eq_false_iff.2 hle))
        exact List.pairwise_cons.2
          ⟨precedes_of_mem_insertEntry value hlt hn, pairwise_insertEntry name value hrest⟩

/-- Sets the value of a name. -/
def insert (h : Headers) (name value : String) : Headers :=
  ⟨insertEntry name value h.entries, pairwise_insertEntry name value h.sorted⟩

/-- Removes a name. -/
def erase (h : Headers) (name : String) : Headers :=
  ⟨h.entries.filter (·.1 != name), h.sorted.filter _⟩

/-- Sets the values of names one after the other. -/
def insertAll (h : Headers) (entries : List (String × String)) : Headers :=
  entries.foldl (fun h (name, value) => h.insert name value) h

/-- The map of a list of entries; the last of equal names wins. -/
def ofList (entries : List (String × String)) : Headers := empty.insertAll entries

/-- Entries with small names. -/
def lowerNames (entries : List (String × String)) : List (String × String) :=
  entries.map fun (name, value) => (Text.asciiLower name, value)

/-- The map with small names; of names that become equal, the last one wins. -/
def lowered (h : Headers) : Headers := ofList (lowerNames h.entries)

/-- Adds a value to a name: values of one name are joined by a comma and a blank, but an empty
value is replaced. -/
def append (h : Headers) (name value : String) : Headers :=
  match h.get? name with
  | none => h.insert name value
  | some existing => h.insert name (if existing.isEmpty then value else existing ++ ", " ++ value)

/-- The map as an object of strings. -/
def toJson (h : Headers) : Json := .obj (h.entries.map fun (name, value) => (name, .str value))

end Headers

end ResponseCheck.Http
