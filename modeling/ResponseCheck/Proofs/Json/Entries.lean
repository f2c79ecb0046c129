import Mathlib.Data.List.Induction
import ResponseCheck.Json.Basic
import ResponseCheck.Proofs.Lookup

/-! Lookup among the entries of an object, and the entries that are left if names are repeated. -/

namespace ResponseCheck.Json

variable {entries : List (String × Json)} {items : List Json} {name : String} {value : Json}

theorem wellFormed_arr_iff : (arr items).WellFormed ↔ ∀ item ∈ items, item.WellFormed := by
  rw [WellFormed]
  induction items with
  | nil => simp [WellFormedItems]
  | cons item items ih => rw [WellFormedItems, ih, List.forall_mem_cons]

theorem wellFormed_obj_iff :
    (obj entries).WellFormed ↔
      (entries.map Prod.fst).Nodup ∧ ∀ entry ∈ entries, entry.2.WellFormed := by
  have hentries : WellFormedEntries entries ↔ ∀ entry ∈ entries, entry.2.WellFormed := by
    induction entries with
    | nil => simp [WellFormedEntries]
    | cons entry entries ih => rw [WellFormedEntries, ih, List.forall_mem_cons]
  rw [WellFormed, hentries]

theorem get?_eq_some_iff (hnames : (entries.map Prod.fst).Nodup) :
    get? entries name = some value ↔ (name, value) ∈ entries :=
  lookup_eq_some_iff_mem hnames

/-- A lookup among the entries with some of the names. -/
theorem get?_filter {names : List String} (hname : name ∈ names) :
    get? (entries.filter (·.1 ∈ names)) name = get? entries name :=
  lookup_filter (p := (· ∈ names)) (decide_eq_true hname)

theorem collapse_append_singleton (entries : List (String × Json)) (entry : String × Json) :
    collapse (entries ++ [entry]) = put entry.1 entry.2 (collapse entries) := by
  rw [collapse, List.foldl_append]
  rfl

theorem put_of_notMem (h : name ∉ entries.map Prod.fst) :
    put name value entries = entries ++ [(name, value)] := by
  induction entries with
  | nil => rfl
  | cons entry rest ih =>
    rw [List.map_cons, List.mem_cons, not_or] at h
    rw [put, if_neg (by simpa using Ne.symm h.1), ih h.2, List.cons_append]

/-- A list without repeated names is left as it is. -/
theorem collapse_of_nodup (h : (entries.map Prod.fst).Nodup) : collapse entries = entries := by
  induction entries using List.reverseRecOn with
  | nil => rfl
  | append_singleton entries entry ih =>
    rw [List.map_append, List.nodup_append'] at h
    obtain ⟨hentries, -, hdisjoint⟩ := h
    rw [collapse_append_singleton, ih hentries, put_of_notMem]
    exact fun hmem => hdisjoint hmem (List.mem_singleton.mpr rfl)

/-- Of equal names the last one counts. -/
theorem get?_collapse (entries : List (String × Json)) (name : String) :
    get? (collapse entries) name = entries.reverse.lookup name := by
  induction entries using List.reverseRecOn with
  | nil => rfl
  | append_singleton entries entry ih =>
    rw [collapse_append_singleton, get?_put, ih, List.reverse_append,
      List.reverse_singleton, List.singleton_append, lookup_cons_eq_ite]

/-- An entry is left if no later one has its name. -/
theorem mem_collapse_iff :
    (name, value) ∈ collapse entries ↔
      ∃ before after, entries = before ++ (name, value) :: after ∧
        ∀ later ∈ after, name ≠ later.1 := by
  rw [← get?_eq_some_iff (nodup_collapse entries), get?_collapse, List.lookup_eq_some_iff]
  constructor
  · rintro ⟨after, before, hentries, hlater⟩
    refine ⟨before.reverse, after.reverse, ?_, fun later hmem => ?_⟩
    · rw [List.reverse_eq_iff.mp hentries]
      simp
    · simpa using hlater later (List.mem_reverse.mp hmem)
  · rintro ⟨before, after, rfl, hlater⟩
    refine ⟨after.reverse, before.reverse, by simp, fun later hmem => ?_⟩
    simpa using hlater later (List.mem_reverse.mp hmem)

end ResponseCheck.Json
