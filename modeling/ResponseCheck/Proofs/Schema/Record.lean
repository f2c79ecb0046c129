import Mathlib.Data.List.Pairwise
import ResponseCheck.Proofs.Except
import ResponseCheck.Proofs.Json.Entries
import ResponseCheck.Schema.Decode

/-!
# The ways to write a record

A record is read field by field onto what omitted fields stand for. Where the fields are independent
of one another, their order in an object is of no account; nor is it whether a field is omitted or
written with what it stands for.

## Main definitions

* `Schema.Field.read?`, `Schema.Field.Commutes` — fields that are independent of one another
* `Schema.Record.Lawful` — records whose fields are
* `Schema.Record.IsDefault` — what an omitted field stands for
* `Schema.Record.Respells` — other ways to write the same record

## Main results

* `Schema.Record.decode_obj_eq_ok_iff`, `Schema.Record.Lawful.decode_arr_eq_ok_iff` — both forms of
  a record are read entry by entry
* `Schema.Record.Lawful.decode_preserves` — what each field keeps holds of what is read
* `Schema.Record.Lawful.toOption_decode_of_respells` — a record is the same when it is respelled
-/

namespace ResponseCheck

/-! ### Folds that may fail -/

section Folds

variable {α β : Type} {f : β → α → Option β}

/-- Steps that commute may be taken in another order. -/
theorem foldlM_eq_of_perm {as bs : List α} (h : as.Perm bs)
    (hcomm : as.Pairwise fun a b => ∀ x, (f x a).bind (f · b) = (f x b).bind (f · a)) (x : β) :
    as.foldlM f x = bs.foldlM f x := by
  induction h generalizing x with
  | nil => rfl
  | cons a _ ih =>
    rw [List.foldlM_cons, List.foldlM_cons]
    exact congrArg _ (funext fun y => ih hcomm.of_cons y)
  | swap a b as =>
    have hswap := List.rel_of_pairwise_cons hcomm List.mem_cons_self x
    simp only [List.foldlM_cons, Option.bind_eq_bind, ← Option.bind_assoc, hswap]
  | trans h _ ih ih' =>
    have hsymm {a b : α} (h : ∀ x, (f x a).bind (f · b) = (f x b).bind (f · a)) (x : β) :
        (f x b).bind (f · a) = (f x a).bind (f · b) := (h x).symm
    rw [ih hcomm, ih' ((h.pairwise_iff hsymm).mp hcomm)]

/-- A step that changes nothing at first may be left out behind others that commute with it. -/
theorem foldlM_insert {d : α} {before : List α} (after : List α)
    (hcomm : ∀ a ∈ before, ∀ x, (f x d).bind (f · a) = (f x a).bind (f · d)) {x : β}
    (hd : f x d = some x) :
    (before ++ d :: after).foldlM f x = (before ++ after).foldlM f x := by
  induction before generalizing x with
  | nil =>
    rw [List.nil_append, List.foldlM_cons, hd]
    rfl
  | cons a before ih =>
    rw [List.cons_append, List.cons_append, List.foldlM_cons, List.foldlM_cons]
    cases ha : f x a with
    | none => rfl
    | some y =>
      -- The step changes nothing after one that it commutes with either.
      have hy : f y d = some y := by
        have hswap := hcomm a List.mem_cons_self x
        rwa [hd, Option.bind_some, ha, Option.bind_some, eq_comm] at hswap
      exact ih (fun b hmem => hcomm b (List.mem_cons_of_mem a hmem)) hy

theorem foldlM_preserves {P : β → Prop} (hstep : ∀ x a y, P x → f x a = some y → P y) {as : List α}
    {x y : β} (hx : P x) (h : as.foldlM f x = some y) : P y := by
  induction as generalizing x with
  | nil =>
    cases h
    exact hx
  | cons a as ih =>
    obtain ⟨z, ha, hrest⟩ := Option.bind_eq_some_iff.mp (List.foldlM_cons.symm.trans h)
    exact ih (hstep x a z hx ha) hrest

end Folds

namespace Schema

variable {ρ : Type}

/-- Reads a value onto a record, if that is possible. -/
def Field.read? (field : Field ρ) (value : Json) (x : ρ) : Option ρ := (field.read value x).toOption

/-- Fields that may be read in either order. -/
def Field.Commutes (field other : Field ρ) : Prop :=
  ∀ value value' x, (field.read? value x).bind (other.read? value') =
    (other.read? value' x).bind (field.read? value)

instance : Std.Symm (@Field.Commutes ρ) :=
  ⟨fun _ _ h value value' x => (h value' value x).symm⟩

/-- A field that sets a part of the record to what is parsed. -/
def Field.Sets {α : Type} (field : Field ρ) (parse : Json → Except Error α) (set : ρ → α → ρ) :
    Prop :=
  ∀ value x, field.read? value x = (parse value).toOption.map (set x)

theorem Field.sets {α : Type} (name : String) (omission : Omission)
    (parse : Json → Except Error α) (set : ρ → α → ρ) :
    Field.Sets ⟨name, omission, fun value x => do return set x (← parse value)⟩ parse set := by
  intro value x
  dsimp only [read?]
  cases parse value <;> rfl

theorem Field.Sets.preserves {α : Type} {field : Field ρ} {parse : Json → Except Error α}
    {set : ρ → α → ρ} (h : field.Sets parse set) {P : ρ → Prop}
    (hset : ∀ value x a, P x → parse value = .ok a → P (set x a)) (value : Json) (x y : ρ)
    (hx : P x) (hread : field.read? value x = some y) : P y := by
  obtain ⟨a, ha, rfl⟩ := Option.map_eq_some_iff.mp ((h value x).symm.trans hread)
  exact hset value x a hx (Except.toOption_eq_some_iff.mp ha)

/-- Fields that set different parts of a record may be read in either order. -/
theorem Field.Sets.commutes {α β : Type} {field other : Field ρ} {parse : Json → Except Error α}
    {parse' : Json → Except Error β} {set : ρ → α → ρ} {set' : ρ → β → ρ}
    (hfield : field.Sets parse set) (hother : other.Sets parse' set')
    (hset : ∀ x a b, set' (set x a) b = set (set' x b) a) : field.Commutes other := by
  intro value value' x
  rw [funext (hfield value), funext (hother value')]
  cases (parse value).toOption <;> cases (parse' value').toOption <;> simp [hset]

namespace Record

/-- Records of fields with different names that are independent of one another. -/
structure Lawful (r : Record ρ) : Prop where
  nodup_names : (r.fields.map (·.name)).Nodup
  commutes : r.fields.Pairwise Field.Commutes

/-- Reads a named value onto a record, if that is possible. -/
def readNamed? (r : Record ρ) (x : ρ) (entry : String × Json) : Option ρ :=
  match r.fields.find? (·.name == entry.1) with
  | some field => field.read? entry.2 x
  | none => if r.closed then none else some x

variable {r : Record ρ} {x : ρ} {field : Field ρ} {entries : List (String × Json)}

theorem find?_name (hnames : (r.fields.map (·.name)).Nodup) (hmem : field ∈ r.fields) :
    r.fields.find? (·.name == field.name) = some field := by
  rw [List.find?_eq_some_iff_append]
  obtain ⟨before, after, hfields⟩ := List.append_of_mem hmem
  refine ⟨beq_self_eq_true _, before, after, hfields, fun other hother => ?_⟩
  rw [hfields, List.map_append, List.map_cons, List.nodup_middle, List.nodup_cons] at hnames
  have hother : other.name ∈ before.map (·.name) := List.mem_map_of_mem hother
  rw [Bool.not_eq_true', beq_eq_false_iff_ne]
  exact fun hname => hnames.1 (List.mem_append_left _ (hname ▸ hother))

theorem Lawful.readNamed?_field (hr : r.Lawful) (hmem : field ∈ r.fields) (value : Json) :
    r.readNamed? x (field.name, value) = field.read? value x := by
  rw [readNamed?, find?_name hr.nodup_names hmem]

/-- Entries of different names may be read in either order. -/
theorem Lawful.readNamed?_comm (hr : r.Lawful) {entry other : String × Json}
    (hne : entry.1 ≠ other.1) (x : ρ) :
    (r.readNamed? x entry).bind (r.readNamed? · other) =
      (r.readNamed? x other).bind (r.readNamed? · entry) := by
  unfold readNamed?
  cases hfield : r.fields.find? (·.name == entry.1) with
  | none => cases r.closed <;> simp
  | some field =>
    cases hfield' : r.fields.find? (·.name == other.1) with
    | none => cases r.closed <;> simp
    | some field' =>
      have hname : field.name = entry.1 := by simpa using List.find?_some hfield
      have hname' : field'.name = other.1 := by simpa using List.find?_some hfield'
      have hdiffer : field ≠ field' := by
        rintro rfl
        exact hne (hname.symm.trans hname')
      have hcomm := hr.commutes.forall
        (List.mem_of_find?_eq_some hfield) (List.mem_of_find?_eq_some hfield') hdiffer
      simpa [hfield, hfield'] using hcomm entry.2 other.2 x

/-! ### Both forms of a record -/

theorem toOption_readEntries (r : Record ρ) (entries : List (String × Json)) (x : ρ) :
    (r.readEntries entries x).toOption = entries.foldlM r.readNamed? x := by
  induction entries generalizing x with
  | nil => rfl
  | cons entry rest ih =>
    have hcons : r.readEntries (entry :: rest) x =
        (match r.fields.find? (·.name == entry.1) with
          | some field => field.read entry.2 x
          | none =>
            if r.closed then .error (.unknownField entry.1 (r.fields.map (·.name))) else .ok x) >>=
          r.readEntries rest := List.foldlM_cons
    rw [hcons, List.foldlM_cons, Except.toOption_bind, funext ih, readNamed?]
    cases r.fields.find? (·.name == entry.1) with
    | some field => rfl
    | none => cases r.closed <;> rfl

theorem missing?_eq_none_iff :
    r.missing? entries = none ↔
      ∀ field ∈ r.fields, field.omission = .never → field.name ∈ entries.map Prod.fst := by
  simp only [missing?, List.find?_eq_none, Json.get?, Bool.and_eq_true, beq_iff_eq, not_and,
    ← isSome_lookup_iff, Option.isNone_iff_eq_none, ← ne_eq, Option.ne_none_iff_isSome]

variable {y : ρ}

/-- An object is read entry by entry, if it has all fields that it must have. -/
theorem decode_obj_eq_ok_iff :
    r.decode x (.obj entries) = .ok y ↔
      (∀ field ∈ r.fields, field.omission = .never → field.name ∈ entries.map Prod.fst) ∧
        entries.foldlM r.readNamed? x = some y := by
  rw [decode, Except.bind_eq_ok_iff, ← missing?_eq_none_iff, ← toOption_readEntries,
    Except.toOption_eq_some_iff]
  cases r.missing? entries with
  | none => simp [pure, Except.pure]
  | some field => simp

theorem readItems_eq_ok_iff {fields : List (Field ρ)} (index : Nat) {items rest : List Json}
    (hfields : ∀ field ∈ fields, ∀ value x,
      r.readNamed? x (field.name, value) = field.read? value x) :
    r.readItems index fields items x = .ok (rest, y) ↔
      rest = items.drop fields.length ∧
        (∀ field ∈ fields.drop items.length, field.omission = .anywhere) ∧
        ((fields.map (·.name)).zip items).foldlM r.readNamed? x = some y := by
  -- On the fields: each of them takes an item, or is omitted where there are no more.
  induction fields generalizing index items x with
  | nil => simp [readItems, eq_comm]
  | cons field fields ih =>
    obtain ⟨hfield, hfields⟩ := List.forall_mem_cons.mp hfields
    cases items with
    | nil =>
      rw [readItems]
      split
      · next hfield => simp [ih (index + 1) hfields, hfield]
      · next hfield => simp [hfield]
    | cons item items =>
      rw [readItems, Except.bind_eq_ok_iff]
      simp only [ih (index + 1) hfields, List.map_cons, List.zip_cons_cons, List.foldlM_cons,
        hfield, List.length_cons, List.drop_succ_cons, Field.read?, Option.bind_eq_bind,
        Option.bind_eq_some_iff, Except.toOption_eq_some_iff]
      grind

/-- The items of an array are read like entries under the names of the fields. -/
theorem Lawful.decode_arr_eq_ok_iff (hr : r.Lawful) {items : List Json} :
    r.decode x (.arr items) = .ok y ↔
      items.length ≤ r.fields.length ∧
        (∀ field ∈ r.fields.drop items.length, field.omission = .anywhere) ∧
        ((r.fields.map (·.name)).zip items).foldlM r.readNamed? x = some y := by
  have hfields : ∀ field ∈ r.fields, ∀ value x,
      r.readNamed? x (field.name, value) = field.read? value x :=
    fun _ hmem value _ => hr.readNamed?_field hmem value
  rw [decode, Except.bind_eq_ok_iff]
  constructor
  · rintro ⟨⟨rest, z⟩, hread, hrest⟩
    obtain ⟨rfl, hitems⟩ := (readItems_eq_ok_iff 0 hfields).mp hread
    dsimp only at hrest
    split at hrest
    · next hempty =>
      cases hrest
      exact ⟨List.drop_eq_nil_iff.mp (List.isEmpty_iff.mp hempty), hitems⟩
    · cases hrest
  · rintro ⟨hlength, hitems⟩
    have hread := (readItems_eq_ok_iff 0 hfields).mpr ⟨rfl, hitems⟩
    rw [List.drop_eq_nil_of_le hlength] at hread
    exact ⟨([], y), hread, rfl⟩

/-- What holds of the defaults, and is kept when a field is read, holds of the record. -/
theorem Lawful.decode_preserves (hr : r.Lawful) {P : ρ → Prop}
    (hfields : ∀ field ∈ r.fields, ∀ value x y, P x → field.read? value x = some y → P y)
    (hx : P x) {value : Json} (h : r.decode x value = .ok y) : P y := by
  have hstep (x : ρ) (entry : String × Json) (y : ρ) (hx : P x)
      (h : r.readNamed? x entry = some y) : P y := by
    unfold readNamed? at h
    split at h
    · next field hfield => exact hfields field (List.mem_of_find?_eq_some hfield) _ x y hx h
    · split at h <;> cases h
      exact hx
  cases value with
  | obj entries => exact foldlM_preserves hstep hx (decode_obj_eq_ok_iff.mp h).2
  | arr items => exact foldlM_preserves hstep hx (hr.decode_arr_eq_ok_iff.mp h).2.2
  | null | bool | num | str => cases h

/-! ### Respelling -/

/-- A value that reads as what a field stands for where it is omitted. -/
def IsDefault (r : Record ρ) (x : ρ) (entry : String × Json) : Prop :=
  ∃ field ∈ r.fields, field.name = entry.1 ∧ field.omission = .anywhere ∧
    field.read? entry.2 x = some x

/-- Other ways to write a record: an object in another order, what stands for an omitted field, and
other ways to write a part. -/
inductive Respells (r : Record ρ) (defaults : List (String × Json))
    (Part : String → Json → Json → Prop) : Json → Json → Prop
  | order {entries entries' : List (String × Json)} (hnames : (entries.map Prod.fst).Nodup)
      (h : entries.Perm entries') : Respells r defaults Part (.obj entries) (.obj entries')
  | defaultEntry (before after : List (String × Json)) {name : String} {value : Json}
      (hname : name ∉ (before ++ after).map Prod.fst) (h : (name, value) ∈ defaults) :
      Respells r defaults Part (.obj (before ++ after)) (.obj (before ++ (name, value) :: after))
  | defaultItem (items : List Json) {name : String} {value : Json}
      (hname : (r.fields.map (·.name))[items.length]? = some name)
      (h : (name, value) ∈ defaults) :
      Respells r defaults Part (.arr items) (.arr (items ++ [value]))
  | entry (before after : List (String × Json)) {name : String} {value value' : Json}
      (h : Part name value value') :
      Respells r defaults Part (.obj (before ++ (name, value) :: after))
        (.obj (before ++ (name, value') :: after))
  | item (before after : List Json) {name : String} {value value' : Json}
      (hname : (r.fields.map (·.name))[before.length]? = some name)
      (h : Part name value value') :
      Respells r defaults Part (.arr (before ++ value :: after)) (.arr (before ++ value' :: after))

theorem Lawful.eq_of_name_eq (hr : r.Lawful) {field field' : Field ρ} (hfield : field ∈ r.fields)
    (hfield' : field' ∈ r.fields) (hname : field.name = field'.name) : field = field' :=
  List.inj_on_of_nodup_map hr.nodup_names hfield hfield' hname

/-- A field that may be omitted need not be among the entries. -/
theorem Lawful.required_iff (hr : r.Lawful) {entry : String × Json} (h : r.IsDefault x entry)
    {before after : List (String × Json)} :
    (∀ field ∈ r.fields, field.omission = .never →
        field.name ∈ (before ++ entry :: after).map Prod.fst) ↔
      ∀ field ∈ r.fields, field.omission = .never →
        field.name ∈ (before ++ after).map Prod.fst := by
  obtain ⟨field, hfield, hname, homission, -⟩ := h
  refine forall₂_congr fun other hother => forall_congr' fun hnever => ?_
  have hne : other.name ≠ entry.1 := by
    rintro hentry
    obtain rfl := hr.eq_of_name_eq hother hfield (hentry.trans hname.symm)
    cases homission.symm.trans hnever
  simp [hne]

theorem Lawful.readNamed?_of_isDefault (hr : r.Lawful) {entry : String × Json}
    (h : r.IsDefault x entry) : r.readNamed? x entry = some x := by
  obtain ⟨field, hfield, hname, -, hread⟩ := h
  rw [← hread, ← hr.readNamed?_field hfield, hname]

variable {defaults : List (String × Json)} {Part : String → Json → Json → Prop}
  {value value' : Json}

theorem Respells.ne_null (h : r.Respells defaults Part value value') :
    value ≠ .null ∧ value' ≠ .null := by
  cases h <;> exact ⟨nofun, nofun⟩

theorem zip_append_cons {names : List String} {name : String} {before : List Json}
    (hname : names[before.length]? = some name) (value : Json) (after : List Json) :
    names.zip (before ++ value :: after) =
      names.zip before ++ (name, value) :: (names.drop (before.length + 1)).zip after := by
  induction before generalizing names with
  | nil =>
    cases names with
    | nil => cases hname
    | cons first names =>
      cases hname
      rfl
  | cons item before ih =>
    cases names with
    | nil => cases hname
    | cons first names => exact congrArg _ (ih hname)

theorem ne_of_mem_zip {names : List String} (hnames : names.Nodup) {name : String}
    {items : List Json} (hname : names[items.length]? = some name) {entry : String × Json}
    (hmem : entry ∈ names.zip items) : name ≠ entry.1 := by
  rintro rfl
  obtain ⟨i, hi⟩ := List.mem_iff_getElem?.mp hmem
  obtain ⟨hfirst, hitem⟩ := List.getElem?_zip_eq_some.mp hi
  have hi : i < names.length := (List.getElem?_eq_some_iff.mp hfirst).1
  have heq : i = items.length := (List.getElem?_inj hi hnames).mp (hfirst.trans hname.symm)
  exact absurd (List.getElem?_eq_some_iff.mp hitem).1 (by omega)

/-- A record is the same when it is respelled. -/
theorem Lawful.toOption_decode_of_respells (hr : r.Lawful)
    (hdefaults : ∀ entry ∈ defaults, r.IsDefault x entry)
    (hparts : ∀ name value value', Part name value value' → ∀ z,
      r.readNamed? z (name, value) = r.readNamed? z (name, value'))
    (h : r.Respells defaults Part value value') :
    (r.decode x value).toOption = (r.decode x value').toOption := by
  ext y
  rw [Except.toOption_eq_some_iff, Except.toOption_eq_some_iff]
  cases h with
  | order hnames h =>
    have hcomm := (List.pairwise_map.mp hnames).imp fun hne => hr.readNamed?_comm hne
    rw [decode_obj_eq_ok_iff, decode_obj_eq_ok_iff, foldlM_eq_of_perm h hcomm]
    simp only [(h.map Prod.fst).mem_iff]
  | @defaultEntry before after name value hname h =>
    have hdefault := hdefaults _ h
    have hcomm : ∀ entry ∈ before, ∀ x, (r.readNamed? x (name, value)).bind (r.readNamed? · entry) =
        (r.readNamed? x entry).bind (r.readNamed? · (name, value)) := by
      refine fun entry hmem => hr.readNamed?_comm ?_
      rintro rfl
      exact hname (List.mem_map_of_mem (List.mem_append_left after hmem))
    rw [decode_obj_eq_ok_iff, decode_obj_eq_ok_iff, hr.required_iff hdefault,
      foldlM_insert after hcomm (hr.readNamed?_of_isDefault hdefault)]
  | @defaultItem items name value hname h =>
    have hdefault := hdefaults _ h
    obtain ⟨field, hfield, rfl⟩ := Option.map_eq_some_iff.mp (List.getElem?_map.symm.trans hname)
    obtain ⟨hlength, hindex⟩ := List.getElem?_eq_some_iff.mp hfield
    -- The field that the item is for is the one that the value is a default of.
    have homission : field.omission = .anywhere := by
      obtain ⟨other, hother, hsame, homission, -⟩ := hdefault
      rwa [hr.eq_of_name_eq (List.mem_of_getElem? hfield) hother hsame.symm]
    have hcomm : ∀ entry ∈ (r.fields.map (·.name)).zip items, ∀ x,
        (r.readNamed? x (field.name, value)).bind (r.readNamed? · entry) =
          (r.readNamed? x entry).bind (r.readNamed? · (field.name, value)) :=
      fun entry hmem => hr.readNamed?_comm (ne_of_mem_zip hr.nodup_names hname hmem)
    have hread := foldlM_insert [] hcomm (hr.readNamed?_of_isDefault hdefault)
    rw [hr.decode_arr_eq_ok_iff, hr.decode_arr_eq_ok_iff, zip_append_cons hname, List.zip_nil_right,
      hread, List.append_nil, List.length_append, List.length_singleton,
      List.drop_eq_getElem_cons hlength, hindex, List.forall_mem_cons, and_iff_right homission]
    exact and_congr_left' (by omega)
  | @entry before after name value value' h =>
    rw [decode_obj_eq_ok_iff, decode_obj_eq_ok_iff]
    simp only [List.map_append, List.map_cons, List.foldlM_append, List.foldlM_cons,
      hparts name value value' h]
  | @item before after name value value' hname h =>
    rw [hr.decode_arr_eq_ok_iff, hr.decode_arr_eq_ok_iff, zip_append_cons hname,
      zip_append_cons hname]
    simp only [List.length_append, List.length_cons, List.foldlM_append, List.foldlM_cons,
      hparts name value value' h]

end Record

end Schema

end ResponseCheck
