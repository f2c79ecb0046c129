import Mathlib.Data.List.Nodup

/-! Lookup in a list of named values finds the first value of a name, which is the only one if no
name stands in the list twice. -/

namespace ResponseCheck

variable {α : Type*} {entries : List (String × α)} {name : String} {value : α}

theorem lookup_cons_eq_ite (first : String × α) (rest : List (String × α)) (name : String) :
    (first :: rest).lookup name = if name = first.1 then some first.2 else rest.lookup name := by
  rw [List.lookup_cons]
  by_cases h : name = first.1
  · simp [h]
  · simp [h, beq_false_of_ne h]

theorem isSome_lookup_iff : (entries.lookup name).isSome ↔ name ∈ entries.map Prod.fst := by
  induction entries with
  | nil => simp
  | cons first rest ih =>
    rw [lookup_cons_eq_ite, List.map_cons, List.mem_cons, ← ih]
    split
    · next hname => simp [hname]
    · next hname => simp [hname]

theorem mem_of_lookup_eq_some (h : entries.lookup name = some value) : (name, value) ∈ entries := by
  obtain ⟨before, after, rfl, -⟩ := List.lookup_eq_some_iff.mp h
  exact List.mem_append_right _ List.mem_cons_self

/-- Among distinct names, the value of a name is the one that is listed with it. -/
theorem lookup_eq_some_iff_mem (hnames : (entries.map Prod.fst).Nodup) :
    entries.lookup name = some value ↔ (name, value) ∈ entries := by
  constructor
  · exact mem_of_lookup_eq_some
  · intro hmem
    obtain ⟨before, after, rfl⟩ := List.append_of_mem hmem
    refine List.lookup_eq_some_iff.mpr ⟨before, after, rfl, fun entry hentry => ?_⟩
    rw [List.map_append, List.map_cons, List.nodup_middle, List.nodup_cons] at hnames
    have hother : entry.1 ∈ before.map Prod.fst := List.mem_map_of_mem hentry
    rw [bne_iff_ne]
    exact fun hname => hnames.1 (List.mem_append_left _ (hname ▸ hother))

/-- A lookup sees no entries but those of its name. -/
theorem lookup_filter {p : String → Bool} (hname : p name = true) :
    (entries.filter fun entry => p entry.1).lookup name = entries.lookup name := by
  induction entries with
  | nil => rfl
  | cons entry rest ih =>
    rw [List.filter_cons, lookup_cons_eq_ite]
    split
    · rw [lookup_cons_eq_ite, ih]
    · next hentry =>
      have hne : name ≠ entry.1 := fun h => hentry (h ▸ hname)
      rw [ih, if_neg hne]

end ResponseCheck
