import PageScheme.Json.Basic

/-!
# What can be written of a value

A value is written as it is if all its numbers are finite, and it can only be written if all its
keys are well-formed, which is to say that none has a lone surrogate. Both are properties of the
numbers and keys inside a value, however deep they lie.
-/
namespace PageScheme.Json

/-- Induction over a value, with one hypothesis for all values directly inside it. -/
@[induction_eliminator]
theorem induction {motive : Json → Prop} (null : motive null) (bool : ∀ value, motive (bool value))
    (int : ∀ value, motive (int value)) (float : ∀ value, motive (float value))
    (string : ∀ value, motive (string value))
    (array : ∀ items, (∀ item ∈ items, motive item) → motive (array items))
    (object : ∀ members, (∀ member ∈ members, motive member.2) → motive (object members))
    (value : Json) : motive value := by
  refine @Json.rec motive (fun items => ∀ item ∈ items, motive item)
    (fun members => ∀ member ∈ members, motive member.2) (fun member => motive member.2)
    null bool int float string array object ?_ ?_ ?_ ?_ ?_ value
  all_goals simp_all

/-- A property holds of what lies right inside an object: of the values of its members, and of the
items of those. -/
def HoldsInside (holds : Json → Prop) (members : List (Text × Json)) : Prop :=
  ∀ member ∈ members, holds member.2 ∧ ∀ item ∈ member.2.items, holds item

/-- Induction over the objects inside a value, for a property of which nothing has to be known about
arrays by themselves. -/
theorem induction_inside {motive : Json → Prop} (null : motive null)
    (bool : ∀ value, motive (bool value)) (int : ∀ value, motive (int value))
    (float : ∀ value, motive (float value)) (string : ∀ value, motive (string value))
    (array : ∀ items, motive (array items))
    (object : ∀ members, HoldsInside motive members → motive (object members)) (value : Json) :
    motive value := by
  have with_items : motive value ∧ ∀ item ∈ value.items, motive item := by
    induction value with
    | array items ih => exact ⟨array items, fun item member => (ih item member).1⟩
    | object members ih => exact ⟨object members ih, nofun⟩
    | null => exact ⟨null, nofun⟩
    | bool value => exact ⟨bool value, nofun⟩
    | int value => exact ⟨int value, nofun⟩
    | float value => exact ⟨float value, nofun⟩
    | string value => exact ⟨string value, nofun⟩
  exact with_items.1

/-- A value is a text. -/
def IsText (value : Json) : Prop := ∃ text, value = string text

/-- Every floating-point number in a value is finite. -/
inductive IsFinite : Json → Prop
  | null : IsFinite null
  | bool {value : Bool} : IsFinite (bool value)
  | int {value : Int} : IsFinite (int value)
  | float {value : Binary64} : value.isFinite = true → IsFinite (float value)
  | string {value : Text} : IsFinite (string value)
  | array {items : List Json} : (∀ item ∈ items, IsFinite item) → IsFinite (array items)
  | object {members : List (Text × Json)} :
      (∀ member ∈ members, IsFinite member.2) → IsFinite (object members)

/-- A value without infinite numbers is left as it is. -/
theorem IsFinite.finite_eq {value : Json} (is_finite : value.IsFinite) : value.finite = value := by
  induction is_finite with
  | null => rfl
  | bool => rfl
  | int => rfl
  | string => rfl
  | float small => rw [finite, if_pos small]
  | array _ ih => rw [finite, finiteItems_eq_map, List.map_congr_left ih, List.map_id']
  | @object members _ ih =>
    have each : ∀ member ∈ members, (member.1, member.2.finite) = member :=
      fun member inside => Prod.ext rfl (ih member inside)
    rw [finite, finiteMembers_eq_map, List.map_congr_left each, List.map_id']

/-- Every key in a value is well-formed. -/
inductive KeysWellFormed : Json → Prop
  | null : KeysWellFormed null
  | bool {value : Bool} : KeysWellFormed (bool value)
  | int {value : Int} : KeysWellFormed (int value)
  | float {value : Binary64} : KeysWellFormed (float value)
  | string {value : Text} : KeysWellFormed (string value)
  | array {items : List Json} :
      (∀ item ∈ items, KeysWellFormed item) → KeysWellFormed (array items)
  | object {members : List (Text × Json)} :
      (∀ member ∈ members, member.1.isWellFormed = true) →
      (∀ member ∈ members, KeysWellFormed member.2) → KeysWellFormed (object members)

attribute [simp] KeysWellFormed.null KeysWellFormed.bool KeysWellFormed.int KeysWellFormed.float
  KeysWellFormed.string

@[simp] theorem keysWellFormed_array {items : List Json} :
    (array items).KeysWellFormed ↔ ∀ item ∈ items, item.KeysWellFormed :=
  ⟨fun fit => by cases fit with | array each => exact each, .array⟩

@[simp] theorem keysWellFormed_object {members : List (Text × Json)} :
    (object members).KeysWellFormed ↔
      (∀ member ∈ members, member.1.isWellFormed = true) ∧
        ∀ member ∈ members, member.2.KeysWellFormed :=
  ⟨fun fit => by cases fit with | object keys values => exact ⟨keys, values⟩,
    fun ⟨keys, values⟩ => .object keys values⟩

theorem lookup_append {α : Type} (key : Text) (front back : List (Text × α)) :
    lookup key (front ++ back) = (lookup key front).or (lookup key back) := by
  induction front with
  | nil => rfl
  | cons member rest ih =>
    simp only [List.cons_append, lookup]
    split
    · rfl
    · exact ih

theorem isSome_lookup {α : Type} {key : Text} {members : List (Text × α)} :
    (lookup key members).isSome = true ↔ key ∈ members.map Prod.fst := by
  induction members with
  | nil => simp [lookup]
  | cons member rest ih =>
    rw [lookup, List.map_cons, List.mem_cons]
    split
    next same => simp [same]
    next different => rw [ih, or_iff_right (Ne.symm different)]

end PageScheme.Json
