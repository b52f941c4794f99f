import PageScheme.Proofs.Scheme.Repopulating
import PageScheme.Proofs.Scheme.Skeleton

/-!
# Content that covers a scheme

Content covers a scheme if populating with it gets to every node that shows something of a page. It
need not have the shape of the scheme: anything is put into a string, and a list where none is given
becomes empty, but then its element scheme has to be covered by null.

What a covered scheme held before is of no account. It is populated as its rules alone are
(`populated_skeleton`), and since an earlier content does not touch the rules, nothing of it is
left: the last content wins.
-/
namespace PageScheme.Scheme

/-- Populating with a content gets to all strings and lists outside of the copies that it
replaces. -/
inductive CoveredBy (spread : Spread) : Scheme → Json → Prop
  | string {label path reading old content} :
      CoveredBy spread (.string label path reading old) content
  | untyped {label path old elements content} :
      CoveredBy spread (.list label path none old elements) content
  | list {label path element old elements content} :
      CoveredBy spread element (firstItem content) →
      (spread = .perElement → ∀ item ∈ content.items, CoveredBy spread element item) →
      CoveredBy spread (.list label path (some element) old elements) content
  /-- An object has to be given, with a value for every field that has a scheme. -/
  | object {label fields members} :
      (∀ field ∈ fields, ∀ value, field.value = some value →
        (Json.lookup field.key members).isSome) →
      (∀ field ∈ fields, ∀ value, field.value = some value → ∀ found,
        Json.lookup field.key members = some found → CoveredBy spread value found) →
      CoveredBy spread (.object label fields) (.object members)

section
variable {spread : Spread} {label : Label} {path : Option Text} {content : Json}

theorem coveredBy_list {element : Scheme} {old : Option (List Json)}
    {elements : Option (List Scheme)} :
    (list label path (some element) old elements).CoveredBy spread content ↔
      element.CoveredBy spread (firstItem content) ∧
        (spread = .perElement → ∀ item ∈ content.items, element.CoveredBy spread item) := by
  constructor
  · intro covered
    cases covered with
    | list first each => exact ⟨first, each⟩
  · rintro ⟨first, each⟩
    exact .list first each

theorem coveredBy_object {fields : List (Field Scheme)} :
    (object label fields).CoveredBy spread content ↔
      ∃ members, content = .object members ∧ ∀ field ∈ fields, ∀ value ∈ field.value,
        ∃ found, Json.lookup field.key members = some found ∧ value.CoveredBy spread found := by
  constructor
  · intro covered
    cases covered with
    | @object _ _ members has_keys inside =>
      refine ⟨members, rfl, ?_⟩
      intro field member value is_value
      obtain ⟨found, held⟩ := Option.isSome_iff_exists.mp (has_keys field member value is_value)
      exact ⟨found, held, inside field member value is_value found held⟩
  · rintro ⟨members, rfl, each⟩
    constructor
    · intro field member value is_value
      obtain ⟨found, held, -⟩ := each field member value is_value
      exact Option.isSome_iff_exists.mpr ⟨found, held⟩
    · intro field member value is_value found held
      obtain ⟨other, other_held, covered⟩ := each field member value is_value
      obtain rfl := Option.some_inj.mp (other_held.symm.trans held)
      exact covered

/-- Whether content covers a scheme is a matter of the rules of the scheme. -/
theorem coveredBy_skeleton {scheme : Scheme} :
    scheme.skeleton.CoveredBy spread content ↔ scheme.CoveredBy spread content := by
  induction scheme generalizing content with
  | string => exact iff_of_true .string .string
  | list label path element old elements element_ih =>
    cases element with
    | none => exact iff_of_true .untyped .untyped
    | some element =>
      rw [skeleton_list, Option.map_some, coveredBy_list, coveredBy_list, element_ih element rfl]
      apply and_congr_right'
      apply imp_congr_right
      intro _
      exact forall₂_congr fun item _ => element_ih element rfl
  | object label fields ih =>
    rw [skeleton_object, coveredBy_object, coveredBy_object]
    apply exists_congr
    intro members
    apply and_congr_right'
    rw [List.forall_mem_map]
    apply forall₂_congr
    intro field member
    simp only [Field.map, forall_mem_element_map]
    apply forall₂_congr
    intro value is_value
    apply exists_congr
    intro found
    rw [ih field member value is_value]
  | foreign => exact Iff.rfl

/-- Content that covers a scheme populates it as it does its rules. -/
theorem populated_skeleton {scheme : Scheme} (covered : scheme.CoveredBy spread content) :
    scheme.skeleton.populated spread content = scheme.populated spread content := by
  induction covered with
  | string => rfl
  | untyped => rfl
  | list _ _ first_ih each_ih =>
    rw [firstItem] at first_ih
    rw [skeleton_list, Option.map_some, populated_list, populated_list, first_ih,
      copies_eq_iff.mpr each_ih]
  | @object label fields members has_keys _ ih =>
    rw [skeleton_object, populated_object, populated_object, List.map_map]
    congr 1
    apply List.map_congr_left
    intro field member
    rw [Function.comp_apply, fieldPopulated, fieldPopulated, Field.map_map]
    apply Field.map_congr
    intro value is_value
    -- The object has the key, so that the field is populated in either case.
    obtain ⟨found, held⟩ := Option.isSome_iff_exists.mp (has_keys field member value is_value)
    have given : (Json.object members).get? field.key = some found := held
    simp only [Function.comp_apply, Field.map, populatedFrom, given]
    exact ih field member value is_value found held

/-- Nothing of an earlier content is left where a later one covers the scheme. -/
theorem populated_populated_of_covered {scheme : Scheme} (before : Spread) (earlier : Json)
    (covered : scheme.CoveredBy spread content) :
    (scheme.populated before earlier).populated spread content =
      scheme.populated spread content := by
  have still_covered : (scheme.populated before earlier).CoveredBy spread content := by
    rw [← coveredBy_skeleton, skeleton_populated, coveredBy_skeleton]
    exact covered
  calc (scheme.populated before earlier).populated spread content
    _ = (scheme.populated before earlier).skeleton.populated spread content :=
      (populated_skeleton still_covered).symm
    _ = scheme.skeleton.populated spread content := by rw [skeleton_populated]
    _ = scheme.populated spread content := populated_skeleton covered

/-- The last content wins: a scheme that is populated with content by which it is covered shows
nothing of what it was populated with before, in whatever way the items were spread. -/
theorem populate_covered {scheme : Scheme} (valid : scheme.Valid) (before after : Spread)
    (earlier : Json) {later : Json} (covered : scheme.CoveredBy after later) :
    ∃ result, (do (← scheme.populate before earlier).populate after later) = .ok result ∧
      scheme.populate after later = .ok result := by
  refine ⟨scheme.populated after later, ?_, valid.populate_eq after later⟩
  rw [valid.populate_eq, ← populated_populated_of_covered before earlier covered]
  exact (valid.populated before earlier).populate_eq after later

end

theorem coveredBy_pricedRow (spread : Spread) (price : Json) (tags : List Json) :
    stallEntry.CoveredBy spread (pricedRow price tags) := by
  refine coveredBy_object.mpr ⟨_, rfl, ?_⟩
  intro field member value is_value
  rcases List.mem_pair.mp member with rfl | rfl
  · obtain rfl := Option.some_inj.mp is_value
    exact ⟨price, rfl, .string⟩
  · obtain rfl := Option.some_inj.mp is_value
    exact ⟨.array tags, rfl, .list .string fun _ _ _ => .string⟩

/-- Priced goods cover a stall, so that nothing is left of goods that had no price. -/
theorem goods_give_way :
    stall.Valid ∧ stall.CoveredBy .perElement pricedGoods ∧
      ∃ result, (do (← stall.populate .representative goods).populate .perElement pricedGoods) =
          .ok result ∧
        stall.populate .perElement pricedGoods = .ok result := by
  have valid : stall.Valid := by simp [stall, stallEntry]
  have covered : stall.CoveredBy .perElement pricedGoods := by
    apply CoveredBy.list (coveredBy_pricedRow _ _ _)
    intro _ item member
    rcases List.mem_pair.mp member with rfl | rfl
    · exact coveredBy_pricedRow _ _ _
    · exact coveredBy_pricedRow _ _ _
  exact ⟨valid, covered, populate_covered valid .representative .perElement goods covered⟩

end PageScheme.Scheme
