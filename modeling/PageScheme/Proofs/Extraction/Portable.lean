import PageScheme.Proofs.Extraction.Conformity
import PageScheme.Proofs.Json.Printed
import PageScheme.Proofs.Scheme.Depth
import PageScheme.Proofs.Scheme.Skeleton

/-!
# What is read can be kept in a file

What a run of a scheme gives is made of texts without lone surrogates, null, lists, and objects that
have no key twice. Only the keys come from the scheme, and may be such that their written form is
read as another text. If none of them is, the whole is portable: printed to a file, it is read
again. It goes no deeper than the scheme does, so that there is room for it.
-/
namespace PageScheme

namespace Scheme

/-- No key in the rules of a scheme has the two halves of a surrogate pair next to each other. -/
def HasJoinedKeys (scheme : Scheme) : Prop :=
  scheme.skeleton.Everywhere fun node => ∀ key ∈ node.keys, key.IsJoined

section Equations
variable {label : Label}

theorem hasJoinedKeys_list {path : Option Text} {element : Option Scheme}
    {content : Option (List Json)} {elements : Option (List Scheme)} :
    (list label path element content elements).HasJoinedKeys ↔
      ∀ scheme ∈ element, scheme.HasJoinedKeys := by
  rw [HasJoinedKeys, skeleton_list, everywhere_list, forall_mem_element_map]
  simp [keys, HasJoinedKeys]

theorem hasJoinedKeys_object {fields : List (Field Scheme)} :
    (object label fields).HasJoinedKeys ↔
      (∀ key ∈ (object label fields).keys, key.IsJoined) ∧
        ∀ field ∈ fields, ∀ scheme ∈ field.value, scheme.HasJoinedKeys := by
  rw [HasJoinedKeys, skeleton_object, everywhere_object, forall_mem_fields_map]
  simp [keys, HasJoinedKeys, Field.map]

end Equations

/-- The scheme for a key is that of a field. -/
theorem isPortable_of_isPageText {value : Json} (page_text : value.IsPageText) :
    value.IsPortable := by
  obtain ⟨s, rfl⟩ := page_text
  exact .string (Text.isJoined_ofString s)

/-- Content of the shape of a scheme is portable if the keys of the scheme are. -/
theorem Shaped.isPortable {scheme : Scheme} {content : Json}
    (shaped : scheme.Shaped Reading.Gives Json.IsPageText content) (joined : scheme.HasJoinedKeys) :
    content.IsPortable := by
  induction shaped with
  | string held =>
    rcases held with page_text | ⟨-, rfl⟩
    · exact isPortable_of_isPageText page_text
    · exact .null
  | untyped each => exact .array fun item member => isPortable_of_isPageText (each item member)
  | list _ ih =>
    have element_joined := hasJoinedKeys_list.mp joined _ rfl
    exact .array fun item member => ih item member element_joined
  | @object label fields members keys _ nulls ih =>
    obtain ⟨keys_joined, values_joined⟩ := hasJoinedKeys_object.mp joined
    apply Json.IsPortable.object
    · rw [keys]
      exact Json.nodup_eraseDups _
    · intro member listed
      have is_key : member.1 ∈ members.map Prod.fst := List.mem_map_of_mem listed
      rw [keys, List.mem_eraseDups] at is_key
      exact keys_joined member.1 is_key
    · intro member listed
      cases found : (Scheme.object label fields).get member.1 with
      | none =>
        rw [nulls member listed found]
        exact .null
      | some scheme =>
        obtain ⟨field, is_field, is_value⟩ := exists_field_of_get found
        exact ih member listed scheme found (values_joined field is_field scheme is_value)

/-- Content of the shape of a scheme goes no deeper than the nodes of the scheme do. -/
theorem Shaped.depth_le {scheme : Scheme} {content : Json} {room : Nat}
    (shaped : scheme.Shaped Reading.Gives Json.IsPageText content)
    (within : scheme.NodesWithin room) : content.depth ≤ room := by
  induction shaped generalizing room with
  | string held =>
    rcases held with ⟨s, rfl⟩ | ⟨-, rfl⟩ <;> exact Nat.zero_le room
  | untyped each =>
    obtain ⟨room, rfl⟩ := within.exists_room
    rw [Json.height_array_le]
    intro item member
    obtain ⟨s, rfl⟩ := each item member
    exact Nat.zero_le room
  | list _ ih =>
    obtain ⟨room, rfl⟩ := within.exists_room
    obtain ⟨element_within, -⟩ := nodesWithin_list.mp within
    rw [Json.height_array_le]
    intro item member
    exact ih item member (element_within _ rfl)
  | @object label fields members _ _ nulls ih =>
    obtain ⟨room, rfl⟩ := within.exists_room
    rw [Json.height_object_le]
    intro member listed
    cases found : (Scheme.object label fields).get member.1 with
    | none =>
      rw [nulls member listed found]
      exact Nat.zero_le room
    | some scheme =>
      obtain ⟨field, is_field, is_value⟩ := exists_field_of_get found
      exact ih member listed scheme found
        (nodesWithin_object.mp within field is_field scheme is_value)

end Scheme
end PageScheme
