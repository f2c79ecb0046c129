import Mathlib.Logic.Relation
import ResponseCheck.Navigation
import ResponseCheck.Proofs.Json.Entries
import ResponseCheck.Proofs.Resolution.Basic

/-!
# The order of entries

The entries of an object have an order, which shows in what is visited first and in texts. Here a
value is related to those in which the entries of some objects stand in another order, at any depth.
A reordered value gives the same answers to lookups, up to reordering of what is found; so a
property that outlasts the reordering of one object is one in which the order of entries is of no
account.
-/

namespace ResponseCheck.Json

/-- Values that differ in the order of the entries of one object, at any depth. -/
inductive Reorders : Json → Json → Prop
  | here {entries entries' : List (String × Json)} (h : entries.Perm entries') :
      Reorders (.obj entries) (.obj entries')
  | item {value value' : Json} (before after : List Json) (h : Reorders value value') :
      Reorders (.arr (before ++ value :: after)) (.arr (before ++ value' :: after))
  | entry {value value' : Json} (before after : List (String × Json)) (name : String)
      (h : Reorders value value') :
      Reorders (.obj (before ++ (name, value) :: after)) (.obj (before ++ (name, value') :: after))

/-- Values that differ in the order of the entries of any objects, at any depth. -/
def Reordered : Json → Json → Prop := Relation.ReflTransGen Reorders

/-- Values that differ in the order of the entries of one object at most. -/
abbrev Alike : Json → Json → Prop := Relation.ReflGen Reorders

variable {value value' : Json} {entries : List (String × Json)} {items : List Json}

theorem Reorders.symm (h : Reorders value value') : Reorders value' value := by
  induction h with
  | here h => exact .here h.symm
  | item before after _ ih => exact .item before after ih
  | entry before after name _ ih => exact .entry before after name ih

theorem Alike.symm (h : Alike value value') : Alike value' value := by
  cases h with
  | refl => exact .refl
  | single h => exact .single h.symm

theorem Reorders.wellFormed (h : Reorders value value') (hvalue : value.WellFormed) :
    value'.WellFormed := by
  induction h with
  | here h =>
    rw [wellFormed_obj_iff] at hvalue ⊢
    exact ⟨(h.map Prod.fst).nodup_iff.mp hvalue.1, fun entry hmem =>
      hvalue.2 entry (h.mem_iff.mpr hmem)⟩
  | item before after h ih =>
    simp only [wellFormed_arr_iff, List.forall_mem_append, List.forall_mem_cons] at hvalue ⊢
    exact ⟨hvalue.1, ih hvalue.2.1, hvalue.2.2⟩
  | entry before after name h ih =>
    simp only [wellFormed_obj_iff, List.map_append, List.map_cons, List.forall_mem_append,
      List.forall_mem_cons] at hvalue ⊢
    exact ⟨hvalue.1, hvalue.2.1, ih hvalue.2.2.1, hvalue.2.2.2⟩

theorem Alike.wellFormed (h : Alike value value') (hvalue : value.WellFormed) :
    value'.WellFormed := by
  cases h with
  | refl => exact hvalue
  | single h => exact h.wellFormed hvalue

theorem Reordered.wellFormed (h : Reordered value value') (hvalue : value.WellFormed) :
    value'.WellFormed := by
  induction h with
  | refl => exact hvalue
  | tail _ hlast ih => exact hlast.wellFormed ih

theorem Reordered.item (h : Reordered value value') (before after : List Json) :
    Reordered (.arr (before ++ value :: after)) (.arr (before ++ value' :: after)) := by
  induction h with
  | refl => exact .refl
  | tail _ hlast ih => exact ih.tail (.item before after hlast)

theorem Reordered.entry (h : Reordered value value') (before after : List (String × Json))
    (name : String) :
    Reordered (.obj (before ++ (name, value) :: after))
      (.obj (before ++ (name, value') :: after)) := by
  induction h with
  | refl => exact .refl
  | tail _ hlast ih => exact ih.tail (.entry before after name hlast)

/-- An array is reordered when its items are. -/
theorem Reordered.arr {items' : List Json} (h : List.Forall₂ Reordered items items') :
    Reordered (.arr items) (.arr items') := by
  -- One item after the other, behind those that are reordered already.
  suffices ∀ before : List Json, Reordered (.arr (before ++ items)) (.arr (before ++ items')) from
    this []
  induction h with
  | nil => exact fun _ => .refl
  | @cons item item' items items' hitem _ ih =>
    intro before
    refine (hitem.item before items).trans ?_
    rw [List.append_cons before item' items, List.append_cons before item' items']
    exact ih (before ++ [item'])

/-- An object is reordered when the values of its entries are. -/
theorem Reordered.obj {entries' : List (String × Json)}
    (h : List.Forall₂ (fun entry entry' => entry.1 = entry'.1 ∧ Reordered entry.2 entry'.2)
      entries entries') :
    Reordered (.obj entries) (.obj entries') := by
  suffices ∀ before : List (String × Json),
      Reordered (.obj (before ++ entries)) (.obj (before ++ entries')) from this []
  induction h with
  | nil => exact fun _ => .refl
  | @cons entry entry' entries entries' hentry _ ih =>
    intro before
    obtain ⟨name, value⟩ := entry
    obtain ⟨_, value'⟩ := entry'
    obtain ⟨rfl, hvalue⟩ := hentry
    refine (hvalue.entry before entries name).trans ?_
    rw [List.append_cons before (name, value') entries,
      List.append_cons before (name, value') entries']
    exact ih (before ++ [(name, value')])

/-! ### What a reordered container holds -/

theorem get?_perm {entries' : List (String × Json)} (hnames : (entries.map Prod.fst).Nodup)
    (h : entries.Perm entries') (name : String) : get? entries name = get? entries' name := by
  have hnames' := (h.map Prod.fst).nodup_iff.mp hnames
  ext value
  rw [get?_eq_some_iff hnames, get?_eq_some_iff hnames', h.mem_iff]

/-- A lookup that comes to an entry in the middle. -/
theorem get?_append_cons (before after : List (String × Json)) (name other : String)
    (value : Json) :
    get? (before ++ (name, value) :: after) other =
      (get? before other).or (if other = name then some value else get? after other) := by
  rw [get?, List.lookup_append, lookup_cons_eq_ite]
  rfl

theorem alike_refl (found : Option Json) : Option.Rel Alike found found := by
  cases found with
  | none => exact .none
  | some value => exact .some .refl

/-- The names of an object find what they found, up to reordering. -/
theorem Reorders.of_obj (h : Reorders (obj entries) value')
    (hnames : (entries.map Prod.fst).Nodup) :
    ∃ entries', value' = obj entries' ∧
      ∀ name, Option.Rel Alike (get? entries name) (get? entries' name) := by
  cases h with
  | here h =>
    refine ⟨_, rfl, fun name => ?_⟩
    rw [get?_perm hnames h]
    exact alike_refl _
  | entry before after name h =>
    refine ⟨_, rfl, fun other => ?_⟩
    rw [get?_append_cons, get?_append_cons]
    cases get? before other with
    | some value => exact .some .refl
    | none =>
      split
      · exact .some (.single h)
      · exact alike_refl _

/-- The items of an array are what they were, up to reordering. -/
theorem Reorders.of_arr (h : Reorders (arr items) value') :
    ∃ items', value' = arr items' ∧ items.length = items'.length ∧
      ∀ i : Nat, Option.Rel Alike items[i]? items'[i]? := by
  cases h with
  | item before after h =>
    refine ⟨_, rfl, by simp, fun i => ?_⟩
    rw [List.getElem?_append, List.getElem?_append, List.getElem?_cons, List.getElem?_cons]
    split
    · exact alike_refl _
    · split
      · exact .some (.single h)
      · exact alike_refl _

/-! ### Where steps lead -/

section

variable {found found' : Option Json} (h : Option.Rel Alike found found')

include h

theorem exists_alike_right (hfound : found = some value) :
    ∃ value', found' = some value' ∧ Alike value value' := by
  subst hfound
  cases h with
  | some h => exact ⟨_, rfl, h⟩

theorem exists_alike_left (hfound' : found' = some value') :
    ∃ value, found = some value ∧ Alike value value' := by
  subst hfound'
  cases h with
  | some h => exact ⟨_, rfl, h⟩

theorem eq_none_of_alike (hfound : found = none) : found' = none := by
  subst hfound
  cases h
  rfl

end

/-- An object has the entries that it had, up to reordering of their values. -/
theorem Reorders.entry_mem {entries' : List (String × Json)}
    (h : Reorders (obj entries) (obj entries')) (hobj : (obj entries).WellFormed) {name : String}
    (hmem : (name, value) ∈ entries) :
    ∃ value', (name, value') ∈ entries' ∧ Alike value value' := by
  have hnames := (wellFormed_obj_iff.mp hobj).1
  have hnames' := (wellFormed_obj_iff.mp (h.wellFormed hobj)).1
  obtain ⟨_, ⟨⟩, hfound⟩ := h.of_obj hnames
  obtain ⟨value', hvalue', halike⟩ :=
    exists_alike_right (hfound name) ((get?_eq_some_iff hnames).mpr hmem)
  exact ⟨value', (get?_eq_some_iff hnames').mp hvalue', halike⟩

/-- A key leads to what it led to, up to reordering. -/
theorem Reorders.child? (h : Reorders value value') (hvalue : value.WellFormed) (key : String) :
    Option.Rel Alike (value.child? key) (value'.child? key) := by
  cases value with
  | obj entries =>
    obtain ⟨entries', rfl, hfound⟩ := h.of_obj (wellFormed_obj_iff.mp hvalue).1
    exact hfound key
  | arr items =>
    obtain ⟨items', rfl, -, hitems⟩ := h.of_arr
    unfold Json.child?
    cases Text.unsigned? key.toList with
    | none => exact .none
    | some i => exact hitems i
  | null | bool | num | str => nomatch h

theorem Reorders.isContainer (h : Reorders value value') : value'.IsContainer := by
  cases h <;> trivial

/-- The elements of a container are what they were, up to reordering. -/
theorem Reorders.elements (h : Reorders value value') (hvalue : value.WellFormed) {element : Json}
    (helement : element.IsElement value) :
    ∃ element', element'.IsElement value' ∧ Alike element element' := by
  cases helement with
  | item hmem =>
    obtain ⟨items', rfl, -, hitems⟩ := h.of_arr
    obtain ⟨i, hi⟩ := List.mem_iff_getElem?.mp hmem
    obtain ⟨element', helement', halike⟩ := exists_alike_right (hitems i) hi
    exact ⟨element', .item (List.mem_of_getElem? helement'), halike⟩
  | entry hmem =>
    obtain ⟨entries', rfl, -⟩ := h.of_obj (wellFormed_obj_iff.mp hvalue).1
    obtain ⟨element', hmem', halike⟩ := h.entry_mem hvalue hmem
    exact ⟨element', .entry hmem', halike⟩

theorem Alike.elements (h : Alike value value') (hvalue : value.WellFormed) {element : Json}
    (helement : element.IsElement value) :
    ∃ element' : Json, element'.IsElement value' ∧ Alike element element' := by
  cases h with
  | refl => exact ⟨element, helement, .refl⟩
  | single h => exact h.elements hvalue helement

theorem WellFormed.isElement {element : Json} (hvalue : value.WellFormed)
    (helement : element.IsElement value) : element.WellFormed := by
  cases helement with
  | item hmem => exact wellFormed_arr_iff.mp hvalue _ hmem
  | entry hmem => exact (wellFormed_obj_iff.mp hvalue).2 _ hmem

theorem WellFormed.of_child? {key : String} {child : Json} (hvalue : value.WellFormed)
    (h : value.child? key = some child) : child.WellFormed := by
  cases value with
  | obj entries =>
    obtain ⟨hnames, hentries⟩ := wellFormed_obj_iff.mp hvalue
    exact hentries (key, child) ((get?_eq_some_iff hnames).mp h)
  | arr items =>
    obtain ⟨i, -, hi⟩ := Option.bind_eq_some_iff.mp h
    exact wellFormed_arr_iff.mp hvalue child (List.mem_of_getElem? hi)
  | null | bool | num | str => cases h

/-- The value itself, and the values that it holds at any depth. -/
def Inside : Json → Json → Prop := Relation.ReflTransGen IsElement

/-- What is inside of a reordered value was inside of the value, up to reordering. -/
theorem Alike.exists_inside {inner' : Json} (h : Alike value value') (hvalue : value.WellFormed)
    (hinner' : inner'.Inside value') : ∃ inner : Json, inner.Inside value ∧ Alike inner inner' := by
  induction hinner' generalizing value with
  | refl => exact ⟨value, .refl, h⟩
  | tail _ helement' ih =>
    -- One step down from the value, and then on from there.
    obtain ⟨element, helement, halike⟩ := h.symm.elements (h.wellFormed hvalue) helement'
    obtain ⟨inner, hinner, hsame⟩ := ih halike.symm (hvalue.isElement helement)
    exact ⟨inner, hinner.tail helement, hsame⟩

/-! ### Properties that outlast a reordering -/

/-- Properties that hold of a reordered value if they hold of the value. -/
def Stable (p : Json → Prop) : Prop :=
  ∀ ⦃value value' : Json⦄, value.WellFormed → Reorders value value' → p value → p value'

namespace Stable

variable {p : Json → Prop}

theorem of_alike (hp : Stable p) (hvalue : value.WellFormed) (h : Alike value value')
    (hholds : p value) : p value' := by
  cases h with
  | refl => exact hholds
  | single h => exact hp hvalue h hholds

/-- A stable property does not depend on the order of the entries of any objects. -/
theorem iff_of_reordered (hp : Stable p) (hvalue : value.WellFormed) (h : Reordered value value') :
    p value ↔ p value' := by
  induction h with
  | refl => rfl
  | tail hbefore hlast ih =>
    have hmiddle := Reordered.wellFormed hbefore hvalue
    exact ih.trans ⟨hp hmiddle hlast, hp (hlast.wellFormed hmiddle) hlast.symm⟩

end Stable

end ResponseCheck.Json
