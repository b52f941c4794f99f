import Mathlib.Data.List.Basic
import PageScheme.Proofs.Scheme.Populated

/-!
# Populating again

What is left of an earlier content when a scheme is populated with a later one? A string and the
items of a list are always replaced. But a field whose key the later content does not have stays as
it is, and every copy of an element scheme is made from an element scheme that shows the first item
of the earlier content. So something is left wherever the earlier content has a key that the later
one lacks, unless it was there before: `populated_populated_iff` is exact.

Populating again with the same content can therefore change the copies of a list, where the first
item has a key that another item lacks. Without copies it changes nothing.
-/
namespace PageScheme.Scheme

/-- The item that the element scheme of a list is populated with. -/
def firstItem (content : Json) : Json := content.items.head?.getD .null

/-- Nothing that populating with an earlier content sets is left when a scheme is populated with a
later one. -/
inductive Overwrites (spread : Spread) : Scheme → (earlier later : Json) → Prop
  | string {label path reading content earlier later} :
      Overwrites spread (.string label path reading content) earlier later
  | untyped {label path content elements earlier later} :
      Overwrites spread (.list label path none content elements) earlier later
  | list {label path element content elements earlier later} :
      Overwrites spread element (firstItem earlier) (firstItem later) →
      (spread = .perElement → ∀ item ∈ later.items,
        Overwrites spread element (firstItem earlier) item) →
      Overwrites spread (.list label path (some element) content elements) earlier later
  /-- A key that only the earlier content has must be of a field that shows its value already. -/
  | object {label fields earlier later} :
      (∀ field ∈ fields, ∀ value, field.value = some value → ∀ old new,
        earlier.get? field.key = some old → later.get? field.key = some new →
          Overwrites spread value old new) →
      (∀ field ∈ fields, ∀ value, field.value = some value → ∀ old,
        earlier.get? field.key = some old → later.get? field.key = none →
          value.populate spread old = .ok value) →
      Overwrites spread (.object label fields) earlier later

section
variable {spread : Spread} {label : Label} {path : Option Text} {earlier later : Json}

theorem overwrites_list {element : Scheme} {content : Option (List Json)}
    {elements : Option (List Scheme)} :
    (list label path (some element) content elements).Overwrites spread earlier later ↔
      element.Overwrites spread (firstItem earlier) (firstItem later) ∧
        (spread = .perElement → ∀ item ∈ later.items,
          element.Overwrites spread (firstItem earlier) item) := by
  constructor
  · intro overwrites
    cases overwrites with
    | list first each => exact ⟨first, each⟩
  · rintro ⟨first, each⟩
    exact .list first each

/-- Nothing is left in a field with a value: the later content has its key and replaces what the
earlier one has for it, or the field showed that already. -/
def OverwritesField (spread : Spread) (earlier later : Json) (key : Text) (value : Scheme) : Prop :=
  ∀ old, earlier.get? key = some old →
    match later.get? key with
    | some new => value.Overwrites spread old new
    | none => value.populate spread old = .ok value

theorem overwrites_object {fields : List (Field Scheme)} :
    (object label fields).Overwrites spread earlier later ↔
      ∀ field ∈ fields, ∀ value ∈ field.value,
        OverwritesField spread earlier later field.key value := by
  constructor
  · intro overwrites field member value is_value old has_old
    cases overwrites with
    | object both alone =>
      split
      next new has_new => exact both field member value is_value old new has_old has_new
      next lacks => exact alone field member value is_value old has_old lacks
  · intro each
    constructor
    · intro field member value is_value old new has_old has_new
      have here := each field member value is_value old has_old
      rwa [has_new] at here
    · intro field member value is_value old has_old lacks
      have here := each field member value is_value old has_old
      rwa [lacks] at here

/-! ### What is left -/

theorem copies_eq_iff {element other : Scheme} {items : List Json} :
    copies spread element items = copies spread other items ↔
      (spread = .perElement →
        ∀ item ∈ items, element.populated spread item = other.populated spread item) := by
  cases spread <;> simp [copies]

theorem populatedFrom_populatedFrom_iff {key : Text} {value : Scheme} (valid : value.Valid)
    (each : ∀ old new, (value.populated spread old).populated spread new =
      value.populated spread new ↔ value.Overwrites spread old new) :
    populatedFrom spread later key (populatedFrom spread earlier key value) =
        populatedFrom spread later key value ↔
      OverwritesField spread earlier later key value := by
  unfold populatedFrom OverwritesField
  cases has_old : earlier.get? key with
  | none => simp
  | some old =>
    cases has_new : later.get? key with
    | none => simp [valid.populate_eq]
    | some new => simp [each old new]

theorem fieldPopulated_fieldPopulated_iff {field : Field Scheme}
    (each : ∀ value ∈ field.value, populatedFrom spread later field.key
          (populatedFrom spread earlier field.key value) =
        populatedFrom spread later field.key value ↔
      OverwritesField spread earlier later field.key value) :
    fieldPopulated spread later (fieldPopulated spread earlier field) =
        fieldPopulated spread later field ↔
      ∀ value ∈ field.value, OverwritesField spread earlier later field.key value := by
  obtain ⟨key, value⟩ := field
  cases value with
  | none => simp [fieldPopulated, Field.map]
  | some value => simpa [fieldPopulated, Field.map] using each value rfl

/-- Populating with a later content leaves nothing of an earlier one if and only if the later one
overwrites it. -/
theorem populated_populated_iff {scheme : Scheme} (valid : scheme.Valid) :
    (scheme.populated spread earlier).populated spread later = scheme.populated spread later ↔
      scheme.Overwrites spread earlier later := by
  induction valid generalizing earlier later with
  | string => exact iff_of_true rfl .string
  | @list label path element content elements _ _ ih =>
    cases element with
    | none => exact iff_of_true rfl .untyped
    | some element =>
      have overwrites := fun earlier later => @ih element rfl earlier later
      rw [overwrites_list, populated_list, populated_list, populated_list]
      simp only [list.injEq, true_and, Option.some.injEq, copies_eq_iff, overwrites, firstItem]
  | @object label fields fields_valid ih =>
    rw [overwrites_object, populated_object, populated_object, populated_object, List.map_map,
      object.injEq, List.map_inj_left]
    simp only [true_and]
    apply forall₂_congr
    intro field member
    apply fieldPopulated_fieldPopulated_iff
    intro value is_value
    apply populatedFrom_populatedFrom_iff (fields_valid field member value is_value)
    intro old new
    exact ih field member value is_value

/-! ### The same content again -/

/-- Where there are no copies, any content overwrites itself. -/
theorem overwrites_self {scheme : Scheme} (valid : scheme.Valid) (content : Json) :
    scheme.Overwrites .representative content content := by
  induction valid generalizing content with
  | string => exact .string
  | @list label path element old elements _ _ ih =>
    cases element with
    | none => exact .untyped
    | some element => exact .list (ih element rfl _) nofun
  | @object label fields _ ih =>
    constructor
    · intro field member value is_value old new has_old has_new
      obtain rfl := Option.some_inj.mp (has_old.symm.trans has_new)
      exact ih field member value is_value old
    · intro field member value is_value old has_old lacks
      rw [has_old] at lacks
      contradiction

/-- Populating again with the same content changes nothing if and only if the content overwrites
itself, which it always does where no copies are made. -/
theorem populate_again_iff {scheme : Scheme} (valid : scheme.Valid) (spread : Spread)
    (content : Json) :
    (∃ once, scheme.populate spread content = .ok once ∧
      (once.populate spread content = .ok once ↔ scheme.Overwrites spread content content)) ∧
    scheme.Overwrites .representative content content := by
  refine ⟨⟨_, valid.populate_eq spread content, ?_⟩, overwrites_self valid content⟩
  rw [(valid.populated spread content).populate_eq, Except.ok.injEq]
  exact populated_populated_iff valid

end

/-- An object with a price and a list of tags. -/
def stallEntry : Scheme :=
  object {} [⟨Text.ofString "price", some (string {} none .innerHtml .null)⟩,
    ⟨Text.ofString "tags", some (list {} none (some (string {} none .source .null)) none none)⟩]

def stall : Scheme := list {} none (some stallEntry) none none

def pricedRow (price : Json) (tags : List Json) : Json :=
  .ofMembers [("price", price), ("tags", .array tags)]

/-- Two goods, of which the second has a price but no tags. -/
def pricedGoods : Json := .array [pricedRow (.int 3) [.int 1, .int 2], pricedRow .null []]

/-- Two goods, of which the second has no price. -/
def goods : Json := .array [.ofMembers [("price", .int 3)], .ofMembers []]

theorem overwrites_pricedRow (price other : Json) (tags others : List Json) :
    stallEntry.Overwrites .perElement (pricedRow price tags) (pricedRow other others) := by
  have has_price : (pricedRow other others).get? (Text.ofString "price") = some other := rfl
  have has_tags : (pricedRow other others).get? (Text.ofString "tags") = some (.array others) := rfl
  constructor
  · intro field member value is_value old new _ _
    rcases List.mem_pair.mp member with rfl | rfl
    · cases is_value
      exact .string
    · cases is_value
      exact .list .string fun _ _ _ => .string
  · intro field member value _ old _ lacks
    rcases List.mem_pair.mp member with rfl | rfl
    · cases has_price.symm.trans lacks
    · cases has_tags.symm.trans lacks

/-- Populating a stall with priced goods again changes nothing, since both of them have all keys. -/
theorem pricedGoods_again :
    stall.Valid ∧ stall.Overwrites .perElement pricedGoods pricedGoods ∧
      (∃ once, stall.populate .perElement pricedGoods = .ok once ∧
        once.populate .perElement pricedGoods = .ok once) ∧
      stall.Overwrites .representative pricedGoods pricedGoods := by
  have valid : stall.Valid := by simp [stall, stallEntry]
  have overwrites : stall.Overwrites .perElement pricedGoods pricedGoods := by
    apply Overwrites.list (overwrites_pricedRow _ _ _ _)
    intro _ item member
    rcases List.mem_pair.mp member with rfl | rfl
    · exact overwrites_pricedRow _ _ _ _
    · exact overwrites_pricedRow _ _ _ _
  obtain ⟨⟨once, populated, again⟩, without_copies⟩ :=
    populate_again_iff valid .perElement pricedGoods
  exact ⟨valid, overwrites, ⟨once, populated, again.mpr overwrites⟩, without_copies⟩

/-- The price of the first goods comes to stand in the copy for the second. -/
theorem goods_not_again :
    ¬ ∀ (scheme : Scheme), scheme.Valid → ∀ (spread : Spread) (content : Json),
      (do (← scheme.populate spread content).populate spread content) =
        scheme.populate spread content := by
  intro unchanged
  have valid : stall.Valid := by simp [stall, stallEntry]
  have again := unchanged stall valid .perElement goods
  cases again

end PageScheme.Scheme
