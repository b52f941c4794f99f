import PageScheme.Proofs.Scheme.Leftovers

/-!
# The two ways to spread items

Populating with a copy for each item puts copies into a scheme and does everything else as
populating without copies does. Deleting the copies afterwards is therefore the same as deleting
those of the scheme and populating that without copies (`withoutCopies_populated`), whichever way
the items were spread, and however little the content fits the scheme.
-/
namespace PageScheme.Scheme

mutual

/-- A scheme without the copies of its element schemes, at any of its nodes. -/
def withoutCopies : Scheme → Scheme
  | string label path reading content => string label path reading content
  | list label path element content _ =>
    let element :=
      match element with
      | some element => some element.withoutCopies
      | none => none
    list label path element content none
  | object label fields => object label (fieldsWithoutCopies fields)
  | foreign node => foreign node
termination_by structural scheme => scheme

def fieldsWithoutCopies : List (Field Scheme) → List (Field Scheme)
  | [] => []
  | ⟨key, value⟩ :: rest =>
    let value :=
      match value with
      | some value => some value.withoutCopies
      | none => none
    ⟨key, value⟩ :: fieldsWithoutCopies rest
termination_by structural fields => fields

end

theorem fieldsWithoutCopies_eq_map (fields : List (Field Scheme)) :
    fieldsWithoutCopies fields = fields.map (Field.map withoutCopies) := by
  induction fields with
  | nil => rfl
  | cons field rest ih =>
    obtain ⟨key, value⟩ := field
    cases value <;> simp [fieldsWithoutCopies, ih, Field.map]

section Equations
variable (label : Label) (path : Option Text)

@[simp] theorem withoutCopies_string (reading : Reading) (content : Json) :
    (string label path reading content).withoutCopies = string label path reading content := rfl

@[simp] theorem withoutCopies_list (element : Option Scheme) (content : Option (List Json))
    (elements : Option (List Scheme)) :
    (list label path element content elements).withoutCopies =
      list label path (element.map withoutCopies) content none := by
  cases element <;> rfl

@[simp] theorem withoutCopies_object (fields : List (Field Scheme)) :
    (object label fields).withoutCopies = object label (fields.map (Field.map withoutCopies)) := by
  rw [withoutCopies, fieldsWithoutCopies_eq_map]

@[simp] theorem withoutCopies_foreign (node : Foreign) :
    (foreign node).withoutCopies = foreign node := rfl

end Equations

theorem hasNoCopies_withoutCopies (scheme : Scheme) : scheme.withoutCopies.HasNoCopies := by
  induction scheme with
  | string => exact hasNoCopies_string
  | list label path element content elements element_ih =>
    rw [withoutCopies_list, hasNoCopies_list, forall_mem_element_map]
    exact ⟨rfl, element_ih⟩
  | object label fields ih =>
    rw [withoutCopies_object, hasNoCopies_object, forall_mem_fields_map]
    exact ih
  | foreign => exact everywhere_foreign.mpr rfl

/-- Where there are no copies, deleting them changes nothing. -/
theorem HasNoCopies.withoutCopies_eq {scheme : Scheme} (none_there : scheme.HasNoCopies) :
    scheme.withoutCopies = scheme := by
  induction scheme with
  | string => rfl
  | list label path element content elements element_ih =>
    obtain ⟨rfl, in_element⟩ := hasNoCopies_list.mp none_there
    rw [withoutCopies_list, element_map_eq_self]
    intro element is_element
    exact element_ih element is_element (in_element element is_element)
  | object label fields ih =>
    rw [hasNoCopies_object] at none_there
    rw [withoutCopies_object, fields_map_eq_self]
    intro field member value is_value
    exact ih field member value is_value (none_there field member value is_value)
  | foreign => rfl

/-- To populate a scheme and delete the copies is to delete the copies and populate it without
any. -/
theorem withoutCopies_populated (spread : Spread) (scheme : Scheme) (content : Json) :
    (scheme.populated spread content).withoutCopies =
      scheme.withoutCopies.populated .representative content := by
  induction scheme generalizing content with
  | string => rfl
  | list label path element old elements element_ih =>
    cases element with
    | none => rfl
    -- The copies that are made here are deleted again, so it does not matter what is in them.
    | some element => simp [element_ih element rfl, copies]
  | object label fields ih =>
    simp only [populated_object, withoutCopies_object, List.map_map]
    congr 1
    apply List.map_congr_left
    intro field member
    simp only [Function.comp_apply, fieldPopulated, Field.map_map]
    apply Field.map_congr
    intro value is_value
    simp only [Function.comp_apply, populatedFrom, Field.map]
    -- A field whose key the content does not have stays as it was, with the copies that it has.
    split
    · exact ih field member value is_value _
    · rfl
  | foreign => rfl

/-- Spreading the items over copies only adds copies: with and without them a scheme can be
populated with any content, and what they come to is the same once all copies are deleted. Where the
scheme has no copies itself, populating without them brings none, and gives what is left of the
other result. -/
theorem populate_adds_copies_only {scheme : Scheme} (valid : scheme.Valid) (content : Json) :
    ∃ copied shown, scheme.populate .perElement content = .ok copied ∧
      scheme.populate .representative content = .ok shown ∧
      copied.withoutCopies = shown.withoutCopies ∧
      (scheme.HasNoCopies → shown.HasNoCopies ∧ copied.withoutCopies = shown) := by
  refine ⟨scheme.populated .perElement content, scheme.populated .representative content,
    valid.populate_eq _ _, valid.populate_eq _ _, ?_, ?_⟩
  · rw [withoutCopies_populated, withoutCopies_populated]
  · intro none_before
    have same : (scheme.populated .perElement content).withoutCopies =
        scheme.populated .representative content := by
      rw [withoutCopies_populated, none_before.withoutCopies_eq]
    refine ⟨?_, same⟩
    rw [← same]
    exact hasNoCopies_withoutCopies _

/-- An item with two tags, one without the key, and one with an empty list of tags. -/
def severalTags : Json :=
  .array [.ofMembers [("tags", .array [.int 1, .int 2])], .object [],
    .ofMembers [("tags", .array [])]]

/-- The items go into copies, and their tags into copies of those. When all of them are deleted, the
list shows what it shows without copies. -/
theorem severalTags_spread :
    taggedList.Valid ∧ taggedList.HasNoCopies ∧
      ∃ copied shown, taggedList.populate .perElement severalTags = .ok copied ∧
        taggedList.populate .representative severalTags = .ok shown ∧
        copied.copies?.map List.length = some 3 ∧ shown.HasNoCopies ∧
        copied.withoutCopies = shown := by
  obtain ⟨copied, shown, is_copied, is_shown, -, copyless⟩ :=
    populate_adds_copies_only taggedList_valid severalTags
  obtain ⟨none_shown, same⟩ := copyless taggedList_hasNoCopies
  refine ⟨taggedList_valid, taggedList_hasNoCopies, copied, shown, is_copied, is_shown, ?_,
    none_shown, same⟩
  obtain rfl := Except.ok.inj (is_copied.symm.trans (taggedList_valid.populate_eq _ _))
  rfl

end PageScheme.Scheme
