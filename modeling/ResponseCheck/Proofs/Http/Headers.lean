import ResponseCheck.Http.Headers
import ResponseCheck.Proofs.Lookup
import ResponseCheck.Proofs.Text.LetterCase

/-!
# Header maps

A header map is known by its lookups: an insertion changes the value of one name, and the names stay
distinct.
-/

namespace ResponseCheck

namespace Text

theorem charsPrecede_irrefl (cs : List Char) : charsPrecede cs cs = false := by
  induction cs with
  | nil => rfl
  | cons c cs ih => simp [charsPrecede, ih]

end Text

namespace Http.Headers

variable {headers : Headers} {name other value : String}

/-! ### Lookups -/

theorem nodup_names (headers : Headers) : (headers.entries.map Prod.fst).Nodup := by
  rw [List.nodup_iff_pairwise_ne, List.pairwise_map]
  refine headers.sorted.imp fun {first second} hprecedes hname => ?_
  rw [hname, Text.precedes, Text.charsPrecede_irrefl] at hprecedes
  cases hprecedes

theorem get?_eq_some_iff : headers.get? name = some value ↔ (name, value) ∈ headers.entries :=
  lookup_eq_some_iff_mem headers.nodup_names

/-- Maps in which the same is found are the same, since their entries are in order. -/
theorem eq_of_get?_eq {other : Headers} (h : ∀ name, headers.get? name = other.get? name) :
    headers = other := by
  have hmem (entry : String × String) : entry ∈ headers.entries ↔ entry ∈ other.entries := by
    rw [← get?_eq_some_iff, ← get?_eq_some_iff, h]
  have hperm : headers.entries.Perm other.entries :=
    (List.perm_ext_iff_of_nodup headers.nodup_names.of_map other.nodup_names.of_map).mpr hmem
  have hentries : headers.entries = other.entries := by
    refine hperm.eq_of_pairwise (fun first second _ _ hlt hgt => ?_) headers.sorted other.sorted
    have hrefl := Text.precedes_trans hlt hgt
    rw [Text.precedes, Text.charsPrecede_irrefl] at hrefl
    cases hrefl
  cases headers
  cases other
  congr

theorem lookup_insertEntry (name value other : String) (entries : List (String × String)) :
    (insertEntry name value entries).lookup other =
      if other = name then some value else entries.lookup other := by
  induction entries with
  | nil => rw [insertEntry, lookup_cons_eq_ite]
  | cons entry rest ih =>
    obtain ⟨n, v⟩ := entry
    rw [insertEntry]
    split
    · rw [lookup_cons_eq_ite]
    · split
      · next hname =>
        subst hname
        rw [lookup_cons_eq_ite, lookup_cons_eq_ite]
        split <;> rfl
      · next hname =>
        rw [lookup_cons_eq_ite, lookup_cons_eq_ite, ih]
        grind

/-- An insertion sets the value of one name and leaves the others. -/
theorem get?_insert (headers : Headers) (name value other : String) :
    (headers.insert name value).get? other =
      if other = name then some value else headers.get? other :=
  lookup_insertEntry name value other headers.entries

/-- It does not matter in which order different names are set. -/
theorem insert_insert_comm (hne : name ≠ other) (value value' : String) :
    (headers.insert name value).insert other value' =
      (headers.insert other value').insert name value := by
  refine eq_of_get?_eq fun found => ?_
  simp only [get?_insert]
  by_cases hname : found = name
  · simp [hname, hne]
  · simp [hname]

/-- Of entries that are set one after the other, the last one of a name counts. -/
theorem get?_insertAll (headers : Headers) (entries : List (String × String)) (name : String) :
    (headers.insertAll entries).get? name =
      (entries.reverse.lookup name).or (headers.get? name) := by
  induction entries using List.reverseRecOn with
  | nil => rfl
  | append_singleton entries entry ih =>
    have hlast : headers.insertAll (entries ++ [entry]) =
        (headers.insertAll entries).insert entry.1 entry.2 := List.foldl_append
    rw [hlast, get?_insert, ih, List.reverse_append, List.reverse_singleton,
      List.singleton_append, lookup_cons_eq_ite]
    split <;> rfl

/-- A map is found again from its own entries. -/
theorem ofList_entries (headers : Headers) : ofList headers.entries = headers := by
  refine eq_of_get?_eq fun name => ?_
  have hnames : (headers.entries.reverse.map Prod.fst).Nodup := by
    rw [List.map_reverse, List.nodup_reverse]
    exact headers.nodup_names
  ext value
  have hempty : empty.get? name = none := rfl
  rw [ofList, get?_insertAll, hempty, Option.or_none, get?_eq_some_iff,
    lookup_eq_some_iff_mem hnames, List.mem_reverse]

theorem get?_erase (headers : Headers) (name other : String) :
    (headers.erase name).get? other = if other = name then none else headers.get? other := by
  unfold erase get?
  dsimp only
  split
  · next hother =>
    rw [List.lookup_eq_none_iff]
    intro entry hmem
    obtain ⟨-, hne⟩ := List.mem_filter.mp hmem
    rw [hother, bne_comm]
    exact hne
  · next hother =>
    exact lookup_filter (p := (· != name)) (bne_iff_ne.mpr hother)

/-- What values of one name become when they are added one by one. -/
def joined : Option String → String → String
  | none, value => value
  | some existing, value => if existing.isEmpty then value else existing ++ ", " ++ value

theorem get?_append (headers : Headers) (name value other : String) :
    (headers.append name value).get? other =
      if other = name then some (joined (headers.get? name) value) else headers.get? other := by
  rw [append]
  cases headers.get? name <;> exact get?_insert ..

/-! ### Values of one name -/

/-- Adds values to names one after the other. -/
def appendAll (headers : Headers) (entries : List (String × String)) : Headers :=
  entries.foldl (fun headers (name, value) => headers.append name value) headers

/-- The values of a name among entries, in their order. -/
def valuesOf (name : String) (entries : List (String × String)) : List String :=
  (entries.filter (·.1 = name)).map Prod.snd

/-- Values joined by a comma and a blank, from the first one on that is not empty. -/
def joinValues (values : List String) : String :=
  ", ".intercalate (values.dropWhile String.isEmpty)

theorem appendAll_append_singleton (headers : Headers) (entries : List (String × String))
    (n v : String) :
    headers.appendAll (entries ++ [(n, v)]) = (headers.appendAll entries).append n v :=
  List.foldl_append

theorem valuesOf_append_singleton (name n v : String) (entries : List (String × String)) :
    valuesOf name (entries ++ [(n, v)]) =
      if n = name then valuesOf name entries ++ [v] else valuesOf name entries := by
  rw [valuesOf, List.filter_append, List.map_append, ← valuesOf]
  by_cases hname : n = name <;> simp [hname]

theorem joinValues_append_singleton (values : List String) (value : String) :
    joinValues (values ++ [value]) = joined (some (joinValues values)) value := by
  rw [joinValues, List.dropWhile_append, joinValues, joined]
  cases hrest : values.dropWhile String.isEmpty with
  | nil =>
    -- There is nothing to join so far.
    cases hvalue : value.isEmpty with
    | true => simp [String.isEmpty_iff.mp hvalue]
    | false => simp [hvalue]
  | cons first rest =>
    have hfirst : first ≠ "" := by
      have hhead := List.head?_dropWhile_not String.isEmpty values
      rw [hrest] at hhead
      simpa using hhead
    have hjoined : ", ".intercalate (first :: rest) ≠ "" := by
      cases rest <;> simp [hfirst]
    rw [if_neg (by simp), String.intercalate_append_of_ne_nil (List.cons_ne_nil _ _)
      (List.cons_ne_nil _ _), String.intercalate_singleton, if_neg (by simpa using hjoined)]

theorem valuesOf_eq_nil_iff {entries : List (String × String)} :
    valuesOf name entries = [] ↔ name ∉ entries.map Prod.fst := by
  rw [valuesOf, List.map_eq_nil_iff, List.filter_eq_nil_iff, List.mem_map]
  simp only [decide_eq_true_eq, not_exists, not_and]

/-- Values that are added one by one are joined in their order. -/
theorem get?_appendAll (entries : List (String × String)) (name : String) :
    (empty.appendAll entries).get? name =
      if valuesOf name entries = [] then none
      else some (joinValues (valuesOf name entries)) := by
  induction entries using List.reverseRecOn with
  | nil => rfl
  | append_singleton entries entry ih =>
    obtain ⟨n, v⟩ := entry
    rw [appendAll_append_singleton, get?_append, valuesOf_append_singleton]
    by_cases hname : name = n
    · subst hname
      rw [if_pos rfl, if_pos rfl, if_neg (by simp), ih, joinValues_append_singleton]
      -- The first value of a name is joined to nothing.
      split
      · next hnone => rw [hnone]; rfl
      · rfl
    · rw [if_neg hname, if_neg (Ne.symm hname), ih]

/-! ### Small names -/

/-- Maps whose names have no ASCII capitals. -/
def Small (headers : Headers) : Prop :=
  ∀ entry ∈ headers.entries, Text.asciiLower entry.1 = entry.1

theorem small_empty : empty.Small := by
  intro entry hmem
  cases hmem

theorem Small.insert (h : headers.Small) (hname : Text.asciiLower name = name) :
    (headers.insert name value).Small := by
  rintro ⟨other, found⟩ hmem
  rw [← get?_eq_some_iff, get?_insert] at hmem
  split at hmem
  · next hother => exact hother ▸ hname
  · exact h (other, found) (get?_eq_some_iff.mp hmem)

theorem Small.append (h : headers.Small) (hname : Text.asciiLower name = name) :
    (headers.append name value).Small := by
  unfold Headers.append
  split
  · exact h.insert hname
  · exact h.insert hname

theorem Small.erase (h : headers.Small) (name : String) : (headers.erase name).Small :=
  fun entry hmem => h entry (List.mem_of_mem_filter hmem)

theorem Small.insertAll (h : headers.Small) (entries : List (String × String)) :
    (headers.insertAll (lowerNames entries)).Small := by
  induction entries generalizing headers with
  | nil => exact h
  | cons entry rest ih => exact ih (h.insert (Text.asciiLower_asciiLower entry.1))

theorem small_lowered (headers : Headers) : headers.lowered.Small := small_empty.insertAll _

/-! ### As an object -/

theorem get?_toJson (headers : Headers) (name : String) :
    Json.get? (headers.entries.map fun (name, value) => (name, .str value)) name =
      (headers.get? name).map .str := by
  rw [Json.get?, get?]
  induction headers.entries with
  | nil => rfl
  | cons entry rest ih =>
    obtain ⟨n, v⟩ := entry
    rw [List.map_cons, lookup_cons_eq_ite, lookup_cons_eq_ite, ih]
    by_cases h : name = n
    · simp only [h, if_true, Option.map_some]
    · simp only [h, if_false]

end Http.Headers

end ResponseCheck
