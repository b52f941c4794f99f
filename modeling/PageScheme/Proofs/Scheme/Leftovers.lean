import PageScheme.Proofs.Scheme.Covering
import PageScheme.Proofs.Scheme.Everywhere

/-!
# Copies that are left over

Populating without copies takes away the copies of every list that it gets to. It does not get to
the fields whose key the content does not have, nor to anything below them. So of the copies that an
earlier content brought, exactly those are left in a scheme that lie in a field of which the earlier
content has the key and the later one does not.

The copies of a list that is populated again itself are never left.
-/
namespace PageScheme.Scheme

/-- A scheme has no copies of element schemes, at any of its nodes. -/
def HasNoCopies : Scheme → Prop := Everywhere fun node => node.copies? = none

/-- Populating with a content gets to a list that has an element scheme. -/
inductive ReachesTypedList : Scheme → (content : Json) → Prop
  | here {label path element old elements content} :
      ReachesTypedList (.list label path (some element) old elements) content
  | field {label fields field value content found} :
      field ∈ fields → field.value = some value → content.get? field.key = some found →
      ReachesTypedList value found → ReachesTypedList (.object label fields) content

/-- Copies that an earlier content brings are left when a later one is put in its place without
copies. -/
inductive LeavesCopies : Scheme → (earlier later : Json) → Prop
  | item {label path element old elements earlier later} :
      LeavesCopies element (firstItem earlier) (firstItem later) →
      LeavesCopies (.list label path (some element) old elements) earlier later
  | replaced {label fields field value earlier later old new} :
      field ∈ fields → field.value = some value → earlier.get? field.key = some old →
      later.get? field.key = some new → LeavesCopies value old new →
      LeavesCopies (.object label fields) earlier later
  /-- The later content does not have the key, so that the field keeps its copies. -/
  | kept {label fields field value earlier later old} :
      field ∈ fields → field.value = some value → earlier.get? field.key = some old →
      later.get? field.key = none → ReachesTypedList value old →
      LeavesCopies (.object label fields) earlier later

section
variable {label : Label} {path : Option Text} {content earlier later : Json}

theorem reachesTypedList_object {fields : List (Field Scheme)} :
    (object label fields).ReachesTypedList content ↔
      ∃ field ∈ fields, ∃ value ∈ field.value, ∃ found,
        content.get? field.key = some found ∧ value.ReachesTypedList found := by
  constructor
  · intro reaches
    cases reaches with
    | field member is_value held inside => exact ⟨_, member, _, is_value, _, held, inside⟩
  · rintro ⟨field, member, value, is_value, found, held, inside⟩
    exact .field member is_value held inside

theorem leavesCopies_list {element : Scheme} {old : Option (List Json)}
    {elements : Option (List Scheme)} :
    (list label path (some element) old elements).LeavesCopies earlier later ↔
      element.LeavesCopies (firstItem earlier) (firstItem later) := by
  constructor
  · intro leaves
    cases leaves with
    | item inside => exact inside
  · exact .item

/-- Copies are left in a field with a value: the earlier content gets to them, and the later one
does not, or leaves them where it gets to. -/
def LeavesCopiesIn (earlier later : Json) (key : Text) (value : Scheme) : Prop :=
  ∃ old, earlier.get? key = some old ∧
    match later.get? key with
    | some new => value.LeavesCopies old new
    | none => value.ReachesTypedList old

theorem leavesCopies_object {fields : List (Field Scheme)} :
    (object label fields).LeavesCopies earlier later ↔
      ∃ field ∈ fields, ∃ value ∈ field.value, LeavesCopiesIn earlier later field.key value := by
  constructor
  · intro leaves
    cases leaves with
    | replaced member is_value has_old has_new inside =>
      refine ⟨_, member, _, is_value, _, has_old, ?_⟩
      rw [has_new]
      exact inside
    | kept member is_value has_old lacks reaches =>
      refine ⟨_, member, _, is_value, _, has_old, ?_⟩
      rw [lacks]
      exact reaches
  · rintro ⟨field, member, value, is_value, old, has_old, left⟩
    split at left
    next new has_new => exact .replaced member is_value has_old has_new left
    next lacks => exact .kept member is_value has_old lacks left

/-! ### One content -/

theorem hasNoCopies_string {reading : Reading} : (string label path reading content).HasNoCopies :=
  everywhere_string.mpr rfl

theorem hasNoCopies_list {element : Option Scheme} {old : Option (List Json)}
    {elements : Option (List Scheme)} :
    (list label path element old elements).HasNoCopies ↔
      elements = none ∧ ∀ scheme ∈ element, scheme.HasNoCopies := by
  rw [HasNoCopies, everywhere_list, copies?]
  apply and_congr_right
  rintro rfl
  exact and_iff_left nofun

theorem hasNoCopies_object {fields : List (Field Scheme)} :
    (object label fields).HasNoCopies ↔
      ∀ field ∈ fields, ∀ value ∈ field.value, value.HasNoCopies := by
  rw [HasNoCopies, everywhere_object]
  exact and_iff_right rfl

/-- A scheme without copies gets some exactly where populating gets to a list with an element
scheme, be the list empty. -/
theorem hasNoCopies_populated_iff {scheme : Scheme} (none_before : scheme.HasNoCopies) :
    (scheme.populated .perElement content).HasNoCopies ↔ ¬ scheme.ReachesTypedList content := by
  induction scheme generalizing content with
  | string =>
    apply iff_of_true hasNoCopies_string
    rintro ⟨⟩
  | list label path element old elements =>
    cases element with
    | none =>
      rw [populated_untyped, hasNoCopies_list]
      apply iff_of_true (by simp)
      rintro ⟨⟩
    | some element =>
      rw [populated_list, hasNoCopies_list, copies]
      exact iff_of_false (by simp) (fun reaches => reaches .here)
  | object label fields ih =>
    rw [hasNoCopies_object] at none_before
    rw [populated_object, hasNoCopies_object, reachesTypedList_object, List.forall_mem_map]
    push Not
    apply forall₂_congr
    intro field member
    simp only [fieldPopulated, Field.map, forall_mem_element_map]
    apply forall₂_congr
    intro value is_value
    have value_none := none_before field member value is_value
    rw [populatedFrom]
    split
    next found held => simp [ih field member value is_value value_none, held]
    next lacks => simp [value_none, lacks]
  | foreign =>
    apply iff_of_true none_before
    rintro ⟨⟩

/-- Without copies populating never brings any. -/
theorem HasNoCopies.populated {scheme : Scheme} (none_before : scheme.HasNoCopies) :
    (scheme.populated .representative content).HasNoCopies := by
  induction scheme generalizing content with
  | string => exact hasNoCopies_string
  | list label path element old elements element_ih =>
    cases element with
    | none => exact hasNoCopies_list.mpr ⟨rfl, nofun⟩
    | some element =>
      obtain ⟨-, in_element⟩ := hasNoCopies_list.mp none_before
      rw [populated_list, hasNoCopies_list]
      exact ⟨rfl, by simpa using element_ih element rfl (in_element element rfl)⟩
  | object label fields ih =>
    rw [hasNoCopies_object] at none_before
    rw [populated_object, hasNoCopies_object, List.forall_mem_map]
    intro field member
    simp only [fieldPopulated, Field.map, forall_mem_element_map]
    intro value is_value
    have value_none := none_before field member value is_value
    rw [populatedFrom]
    split
    · exact ih field member value is_value value_none
    · exact value_none
  | foreign => exact none_before

/-! ### A later content -/

/-- The four cases of a field: either content may have its key or not. -/
theorem hasNoCopies_populatedFrom_iff {key : Text} {value : Scheme}
    (none_before : value.HasNoCopies) (both : ∀ old new,
      ((value.populated .perElement old).populated .representative new).HasNoCopies ↔
        ¬ value.LeavesCopies old new) :
    (populatedFrom .representative later key
        (populatedFrom .perElement earlier key value)).HasNoCopies ↔
      ¬ LeavesCopiesIn earlier later key value := by
  unfold populatedFrom LeavesCopiesIn
  cases has_old : earlier.get? key with
  | none =>
    cases has_new : later.get? key with
    | none => simp [none_before]
    | some new => simp [none_before.populated]
  | some old =>
    cases has_new : later.get? key with
    | none => simp [hasNoCopies_populated_iff none_before]
    | some new => simp [both]

/-- What is left of earlier copies is what the earlier content brings and the later one does not get
to. -/
theorem hasNoCopies_populated_populated_iff {scheme : Scheme} (none_before : scheme.HasNoCopies) :
    ((scheme.populated .perElement earlier).populated .representative later).HasNoCopies ↔
      ¬ scheme.LeavesCopies earlier later := by
  induction scheme generalizing earlier later with
  | string =>
    apply iff_of_true hasNoCopies_string
    rintro ⟨⟩
  | list label path element old elements element_ih =>
    cases element with
    | none =>
      apply iff_of_true (hasNoCopies_list.mpr (by simp))
      rintro ⟨⟩
    | some element =>
      obtain ⟨-, in_element⟩ := hasNoCopies_list.mp none_before
      -- The copies of the list itself are gone, and so is all that was in them.
      rw [populated_list, populated_list, hasNoCopies_list, leavesCopies_list,
        ← element_ih element rfl (in_element element rfl)]
      simp [copies, firstItem]
  | object label fields ih =>
    rw [hasNoCopies_object] at none_before
    rw [populated_object, populated_object, hasNoCopies_object, leavesCopies_object, List.map_map,
      List.forall_mem_map]
    push Not
    apply forall₂_congr
    intro field member
    simp only [Function.comp_apply, fieldPopulated, Field.map, forall_mem_element_map]
    apply forall₂_congr
    intro value is_value
    have value_none := none_before field member value is_value
    exact hasNoCopies_populatedFrom_iff value_none fun old new =>
      ih field member value is_value value_none
  | foreign =>
    apply iff_of_true none_before
    rintro ⟨⟩

/-- Nothing is left if the later content covers the scheme. -/
theorem not_leavesCopies_of_coveredBy {scheme : Scheme} (none_before : scheme.HasNoCopies)
    (covered : scheme.CoveredBy .representative later) : ¬ scheme.LeavesCopies earlier later := by
  rw [← hasNoCopies_populated_populated_iff none_before,
    populated_populated_of_covered .perElement earlier covered]
  exact none_before.populated

theorem copies?_populated (scheme : Scheme) (content : Json) :
    (scheme.populated .representative content).copies? = none := by
  cases scheme with
  | list label path element => cases element <;> rfl
  | _ => rfl

/-- A scheme without copies that is populated with copies, and then again without, has none at its
root, and none at any depth if and only if the later content leaves none. -/
theorem no_copies_left_iff {scheme : Scheme} (valid : scheme.Valid)
    (none_before : scheme.HasNoCopies) (earlier later : Json) :
    ∃ twice,
      (do (← scheme.populate .perElement earlier).populate .representative later) = .ok twice ∧
        twice.copies? = none ∧ (twice.HasNoCopies ↔ ¬ scheme.LeavesCopies earlier later) := by
  refine ⟨(scheme.populated .perElement earlier).populated .representative later, ?_,
    copies?_populated _ later, hasNoCopies_populated_populated_iff none_before⟩
  rw [valid.populate_eq]
  exact (valid.populated .perElement earlier).populate_eq .representative later

end

/-- A list of objects that have a list of tags. -/
def taggedList : Scheme :=
  list {} none (some (object {} [⟨Text.ofString "tags",
    some (list {} none (some (string {} none .innerHtml .null)) none none)⟩])) none none

def tagsOf (tags : Json) : Json := .array [.ofMembers [("tags", tags)]]

def oneTag : Json := tagsOf (.array [.int 1])

def nullTags : Json := tagsOf .null

theorem taggedList_valid : taggedList.Valid := by simp [taggedList]

theorem taggedList_hasNoCopies : taggedList.HasNoCopies := by
  simp [taggedList, hasNoCopies_list, hasNoCopies_object, hasNoCopies_string]

/-- The copies of a list of tags are gone when null comes in its place. -/
theorem no_tags_left :
    taggedList.Valid ∧ taggedList.HasNoCopies ∧ ∃ twice,
      (do (← taggedList.populate .perElement oneTag).populate .representative nullTags) =
          .ok twice ∧
        twice.copies? = none ∧ twice.HasNoCopies := by
  have covered : taggedList.CoveredBy .representative nullTags := by
    refine .list (coveredBy_object.mpr ⟨_, rfl, ?_⟩) (by nofun)
    intro field member value is_value
    obtain rfl := List.mem_singleton.mp member
    obtain rfl := Option.some_inj.mp is_value
    exact ⟨.null, rfl, .list .string (by nofun)⟩
  have none_left : ¬ taggedList.LeavesCopies oneTag nullTags :=
    not_leavesCopies_of_coveredBy taggedList_hasNoCopies covered
  obtain ⟨twice, populated, none_here, none_iff⟩ :=
    no_copies_left_iff taggedList_valid taggedList_hasNoCopies oneTag nullTags
  exact ⟨taggedList_valid, taggedList_hasNoCopies, twice, populated, none_here,
    none_iff.mpr none_left⟩

/-- An empty list does not get to the tags of the item that was first before. -/
theorem copies_left_by_empty_list :
    ¬ ∀ scheme : Scheme, scheme.isList = true → scheme.Valid → scheme.HasNoCopies →
      ∀ earlier later : Json, ∃ twice,
        (do (← scheme.populate .perElement earlier).populate .representative later) = .ok twice ∧
          twice.HasNoCopies := by
  intro all_gone
  have left : taggedList.LeavesCopies oneTag (.array []) :=
    .item (.kept List.mem_cons_self rfl rfl rfl .here)
  obtain ⟨twice, populated, none_there⟩ :=
    all_gone taggedList rfl taggedList_valid taggedList_hasNoCopies oneTag (.array [])
  rw [taggedList_valid.populate_eq] at populated
  have is_twice := (taggedList_valid.populated .perElement oneTag).populate_eq .representative
    (.array [])
  obtain rfl := Except.ok.inj (is_twice.symm.trans populated)
  exact (hasNoCopies_populated_populated_iff taggedList_hasNoCopies).mp none_there left

end PageScheme.Scheme
