import Mathlib.Data.List.Basic
import ResponseCheck.Proofs.Json.Entries
import ResponseCheck.Mismatch

/-! The steps of a location lead into a value one after the other. The entries of an object are in
the order in which they are written, and the items of an array in that of their indices; so some
steps into a container stand before others. -/

namespace ResponseCheck.Json

variable {value : Json} {entries : List (String × Json)}

/-- The value at the end of a step. -/
def under? : Step → Json → Option Json
  | .key name, .obj entries => get? entries name
  | .index i, .arr items => items[i]?
  | _, _ => none

/-- The value at the end of a location. -/
def at? : Location → Json → Option Json
  | [], value => some value
  | step :: rest, value => (under? step value).bind (at? rest)

theorem at?_cons (step : Step) (rest : Location) :
    at? (step :: rest) value = (under? step value).bind (at? rest) := rfl

@[simp] theorem at?_singleton (step : Step) : at? [step] value = under? step value := by
  rw [at?_cons]
  cases under? step value <;> rfl

/-- One step into a container stands before another one. -/
inductive StandsBefore : Step → Step → Json → Prop
  | key {entries : List (String × Json)} {before after : List String} {other name : String}
      (hnames : entries.map Prod.fst = before ++ name :: after) (hmem : other ∈ before) :
      StandsBefore (.key other) (.key name) (.obj entries)
  | index {items : List Json} {j i : Nat} (h : j < i) :
      StandsBefore (.index j) (.index i) (.arr items)

section

variable {before after : List (String × Json)} {name : String} {sibling : Step}

theorem get?_of_mem (hentries : (obj entries).WellFormed) (hmem : (name, value) ∈ entries) :
    get? entries name = some value :=
  (get?_eq_some_iff (wellFormed_obj_iff.mp hentries).1).mpr hmem

/-- Steps that stand before the one to an entry lead to the entries in front of it. -/
theorem exists_mem_of_standsBefore_key
    (h : (obj (before ++ (name, value) :: after)).WellFormed)
    (hsibling : StandsBefore sibling (.key name) (obj (before ++ (name, value) :: after))) :
    ∃ entry ∈ before, sibling = .key entry.1 := by
  generalize hentries : before ++ (name, value) :: after = entries at h hsibling
  cases hsibling with
  | @key _ namesBefore namesAfter other _ hnames hmem =>
    have hnodup := (wellFormed_obj_iff.mp h).1
    -- No name comes twice, so the names in front of this one are those of the entries there.
    have hsplit : before.map Prod.fst ++ name :: after.map Prod.fst =
        namesBefore ++ name :: namesAfter := by
      rw [← hnames, ← hentries, List.map_append, List.map_cons]
    rw [← hentries, List.map_append, List.map_cons, List.nodup_middle, List.nodup_cons,
      List.mem_append, not_or] at hnodup
    obtain ⟨⟨hbefore, hafter⟩, -⟩ := hnodup
    obtain ⟨rfl, -, -⟩ := (List.append_cons_inj_of_notMem hbefore hafter).mp hsplit
    obtain ⟨entry, hentry, rfl⟩ := List.mem_map.mp hmem
    exact ⟨entry, hentry, rfl⟩

end

end ResponseCheck.Json
