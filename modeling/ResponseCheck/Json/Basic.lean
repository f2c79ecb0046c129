import ResponseCheck.Number.Binary64

/-!
# JSON values

A JSON number is an integer of 64 bits, signed or unsigned, or a finite binary number. An object is
a list of named entries in the order in which the names were first written. `Json.WellFormed` says
that integers fit and that no object repeats a name.
-/

namespace ResponseCheck

/-- A JSON number: an integer, or a finite binary number. -/
inductive Json.Number where
  | int (value : Int)
  | float (value : Binary64)
deriving DecidableEq, Repr

/-- A JSON value. -/
inductive Json where
  | null
  | bool (value : Bool)
  | num (value : Json.Number)
  | str (value : String)
  | arr (items : List Json)
  | obj (entries : List (String × Json))
deriving Repr

namespace Json

/-- The JSON integer with the given value. -/
def int (n : Int) : Json := .num (.int n)

/-- The value of the first entry with the given name. -/
def get? (entries : List (String × Json)) (name : String) : Option Json :=
  entries.lookup name

/-- Sets the value of a name: in place if the name is there, else at the end. -/
def put (name : String) (value : Json) : List (String × Json) → List (String × Json)
  | [] => [(name, value)]
  | (n, v) :: rest => if n == name then (n, value) :: rest else (n, v) :: put name value rest

/-- The entries with later values of a repeated name put in the place of its first one. -/
def collapse (entries : List (String × Json)) : List (String × Json) :=
  entries.foldl (fun acc (name, value) => put name value acc) []

/-- The object with the given entries; the last of equal names wins. -/
def object (entries : List (String × Json)) : Json := .obj (collapse entries)

theorem get?_put (name other : String) (value : Json) (entries : List (String × Json)) :
    get? (put name value entries) other =
      if other = name then some value else get? entries other := by
  induction entries with
  | nil => by_cases h : other = name <;> simp [put, get?, h]
  | cons entry rest ih =>
    obtain ⟨n, v⟩ := entry
    unfold get? at ih ⊢
    by_cases hn : n = name
    · subst hn
      by_cases h : other = n
      · simp [put, h]
      · simp [put, List.lookup_cons, beq_false_of_ne h, h]
    · by_cases h : other = n
      · subst h
        simp [put, hn]
      · simp [put, List.lookup_cons, hn, beq_false_of_ne h, ih]

/-- A name that is there already keeps its place, and a new one comes last. -/
theorem names_put (name : String) (value : Json) (entries : List (String × Json)) :
    (put name value entries).map Prod.fst =
      if name ∈ entries.map Prod.fst then entries.map Prod.fst
      else entries.map Prod.fst ++ [name] := by
  induction entries with
  | nil => simp [put]
  | cons entry rest ih =>
    obtain ⟨n, v⟩ := entry
    by_cases hn : n = name
    · simp [put, hn]
    · have hne : name ≠ n := fun h => hn h.symm
      by_cases hmem : name ∈ rest.map Prod.fst <;> simp_all [put]

theorem nodup_put (name : String) (value : Json) {entries : List (String × Json)}
    (h : (entries.map Prod.fst).Nodup) : ((put name value entries).map Prod.fst).Nodup := by
  rw [names_put]
  split
  · exact h
  · next hnot =>
    refine List.nodup_append.2 ⟨h, by simp, fun a ha b hb => ?_⟩
    rintro rfl
    exact hnot (List.mem_singleton.1 hb ▸ ha)

theorem nodup_collapse (entries : List (String × Json)) :
    ((collapse entries).map Prod.fst).Nodup := by
  suffices ∀ acc : List (String × Json), (acc.map Prod.fst).Nodup →
      ((entries.foldl (fun acc (name, value) => put name value acc) acc).map Prod.fst).Nodup from
    this [] .nil
  induction entries with
  | nil => exact fun _ h => h
  | cons entry rest ih => exact fun acc h => ih _ (nodup_put entry.1 entry.2 h)

/-- Whether a number that is written as an integer fits 64 bits, signed or unsigned. -/
def Number.Fits : Number → Prop
  | .int n => -0x8000000000000000 ≤ n ∧ n ≤ 0xFFFFFFFFFFFFFFFF
  | .float _ => True

mutual

/-- The values that a document can have: integers fit, and no object repeats a name. -/
def WellFormed : Json → Prop
  | .null => True
  | .bool _ => True
  | .num n => n.Fits
  | .str _ => True
  | .arr items => WellFormedItems items
  | .obj entries => (entries.map Prod.fst).Nodup ∧ WellFormedEntries entries

/-- Whether all items are well formed. -/
def WellFormedItems : List Json → Prop
  | [] => True
  | v :: rest => WellFormed v ∧ WellFormedItems rest

/-- Whether the values of all entries are well formed. -/
def WellFormedEntries : List (String × Json) → Prop
  | [] => True
  | (_, v) :: rest => WellFormed v ∧ WellFormedEntries rest

end

/-- The values that a wildcard ranges over: items of an array, entry values of an object. -/
def elements? : Json → Option (List Json)
  | .arr items => some items
  | .obj entries => some (entries.map Prod.snd)
  | _ => none

/-- Whether a value is null. -/
def isNull : Json → Bool
  | .null => true
  | _ => false

/-- The name of the kind of a value. -/
def typeName : Json → String
  | .null => "null"
  | .bool _ => "boolean"
  | .num (.int _) => "integer"
  | .num (.float _) => "number"
  | .str _ => "string"
  | .arr _ => "array"
  | .obj _ => "object"

/-- The nearest binary number to a JSON number, if it does not overflow. -/
def Number.toBinary? : Number → Option Binary64
  | .int n => Binary64.ofInt? n
  | .float x => some x

/-- Numeric equality: integers exactly, and an integer against a binary number after rounding. -/
def Number.eqv : Number → Number → Bool
  | .int m, .int n => m == n
  | a, b =>
    match a.toBinary?, b.toBinary? with
    | some x, some y => x.eqv y
    | _, _ => false

instance : Inhabited Json := ⟨.null⟩

end Json

end ResponseCheck
