import PageScheme.Proofs.Scheme.Populated
import PageScheme.Proofs.Scheme.Rebased

/-!
# The rules of a scheme

The rules of a scheme are what is left of it without anything that was read from a page: its
`skeleton`. Populating leaves the skeleton as it is, and to rebase a scheme is to rebase its
skeleton.
-/
namespace PageScheme.Scheme

mutual

/-- A scheme without all that was read from a page. -/
def skeleton : Scheme → Scheme
  | string label path reading _ => string label path reading .null
  | list label path element _ _ =>
    let element :=
      match element with
      | some element => some element.skeleton
      | none => none
    list label path element none none
  | object label fields => object label (fieldsSkeleton fields)
  | foreign node => foreign node
termination_by structural scheme => scheme

def fieldsSkeleton : List (Field Scheme) → List (Field Scheme)
  | [] => []
  | ⟨key, value⟩ :: rest =>
    let value :=
      match value with
      | some value => some value.skeleton
      | none => none
    ⟨key, value⟩ :: fieldsSkeleton rest
termination_by structural fields => fields

end

theorem fieldsSkeleton_eq_map (fields : List (Field Scheme)) :
    fieldsSkeleton fields = fields.map (Field.map skeleton) := by
  induction fields with
  | nil => rfl
  | cons field rest ih =>
    obtain ⟨key, value⟩ := field
    cases value <;> simp [fieldsSkeleton, ih, Field.map]

section Equations
variable (label : Label) (path : Option Text)

@[simp] theorem skeleton_string (reading : Reading) (content : Json) :
    (string label path reading content).skeleton = string label path reading .null := rfl

@[simp] theorem skeleton_list (element : Option Scheme) (content : Option (List Json))
    (elements : Option (List Scheme)) :
    (list label path element content elements).skeleton =
      list label path (element.map skeleton) none none := by
  cases element <;> rfl

@[simp] theorem skeleton_object (fields : List (Field Scheme)) :
    (object label fields).skeleton = object label (fields.map (Field.map skeleton)) := by
  rw [skeleton, fieldsSkeleton_eq_map]

@[simp] theorem skeleton_foreign (node : Foreign) : (foreign node).skeleton = foreign node := rfl

end Equations

theorem skeleton_populated (spread : Spread) (scheme : Scheme) (content : Json) :
    (scheme.populated spread content).skeleton = scheme.skeleton := by
  induction scheme generalizing content with
  | string => rfl
  | list label path element old elements element_ih =>
    cases element with
    | none => rfl
    | some element => simp [element_ih element rfl]
  | object label fields ih =>
    rw [populated_object, skeleton_object, skeleton_object, List.map_map]
    congr 1
    apply List.map_congr_left
    intro field member
    rw [Function.comp_apply, fieldPopulated, Field.map_map]
    apply Field.map_congr
    intro value is_value
    rw [Function.comp_apply, populatedFrom]
    -- A field whose key the content does not have stays as it was.
    split
    · exact ih field member value is_value _
    · rfl
  | foreign node => rfl

theorem skeleton_rebasedOnto (parent : Text) (scheme : Scheme) :
    (scheme.rebasedOnto parent).skeleton = scheme.skeleton.rebasedOnto parent := by
  induction scheme generalizing parent with
  | string => rfl
  | list label path element content elements element_ih =>
    rw [skeleton_list]
    cases found : given path with
    | none =>
      rw [rebasedOnto_list_of_none _ _ _ _ _ _ found, rebasedOnto_list_of_none _ _ _ _ _ _ found,
        skeleton_list]
    | some own =>
      rw [rebasedOnto_list _ _ _ _ _ _ found, rebasedOnto_list _ _ _ _ _ _ found, skeleton_list,
        Option.map_map, Option.map_map]
      congr 1
      exact Option.map_congr fun scheme is_element => element_ih scheme is_element own
  | object label fields ih =>
    simp only [rebasedOnto_object, skeleton_object, fields_map_map]
    congr 1
    apply fields_map_congr
    intro field member scheme is_value
    exact ih field member scheme is_value parent
  | foreign node => rfl

end PageScheme.Scheme
