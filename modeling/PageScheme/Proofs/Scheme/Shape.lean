import Mathlib.Data.List.Forall2
import PageScheme.Proofs.Json.Members
import PageScheme.Proofs.Scheme.Valid

/-!
# The shape of content

Content has the shape of a scheme if it is a list where the scheme is one and an object with the
distinct keys of the scheme where that is one, all the way down. What a string may hold, and an item
of a list without element scheme, depends on where the content is from, and is a parameter of
`Shaped`.

A key that several fields have belongs to the last of them. So an object that was put together from
its fields one after the other has the shape of the scheme if every field was given a value of its
shape (`Shaped.of_members`): a field that comes to nothing does no harm.
-/
namespace PageScheme.Scheme

/-- Content of the shape of a scheme, where `leaf` says what a string may hold and `loose` what an
item of a list without element scheme may be. -/
inductive Shaped (leaf : Reading → Json → Prop) (loose : Json → Prop) : Scheme → Json → Prop
  | string {label path reading old content} :
      leaf reading content → Shaped leaf loose (.string label path reading old) content
  | untyped {label path old elements items} :
      (∀ item ∈ items, loose item) →
      Shaped leaf loose (.list label path none old elements) (.array items)
  | list {label path element old elements items} :
      (∀ item ∈ items, Shaped leaf loose element item) →
      Shaped leaf loose (.list label path (some element) old elements) (.array items)
  /-- An object has the distinct keys of the scheme in the order in which they first come, each with
  a value for the scheme of the key, or null if the key has none. -/
  | object {label fields members} :
      members.map Prod.fst = (Scheme.object label fields).keys.eraseDups →
      (∀ member ∈ members, ∀ scheme, (Scheme.object label fields).get member.1 = some scheme →
        Shaped leaf loose scheme member.2) →
      (∀ member ∈ members, (Scheme.object label fields).get member.1 = none → member.2 = .null) →
      Shaped leaf loose (.object label fields) (.object members)

/-- Content that a scheme could be populated with without a misfit, whatever its strings hold. -/
def HasShape : Scheme → Json → Prop := Shaped (fun _ _ => True) fun _ => True

section
variable {leaf weaker : Reading → Json → Prop} {loose looser : Json → Prop}

theorem Shaped.imp {scheme : Scheme} {content : Json} (shaped : Shaped leaf loose scheme content)
    (leaves : ∀ reading value, leaf reading value → weaker reading value)
    (items : ∀ item, loose item → looser item) : Shaped weaker looser scheme content := by
  induction shaped with
  | string held => exact .string (leaves _ _ held)
  | untyped each => exact .untyped fun item member => items item (each item member)
  | list _ ih => exact .list ih
  | object keys _ nulls ih => exact .object keys ih nulls

theorem Shaped.hasShape {scheme : Scheme} {content : Json}
    (shaped : Shaped leaf loose scheme content) : scheme.HasShape content :=
  shaped.imp (fun _ _ _ => trivial) fun _ _ => trivial

/-! ### Objects that are put together -/

section Fields
variable {fields : List (Field Scheme)} {members : List (Text × Json)}
  {Suits : Field Scheme → Text × Json → Prop}

theorem keys_of_suits (same_key : ∀ field member, Suits field member → field.key = member.1)
    (each : List.Forall₂ Suits fields members) : members.map Prod.fst = fields.map Field.key := by
  induction each with
  | nil => rfl
  | cons suits _ ih => rw [List.map_cons, List.map_cons, same_key _ _ suits, ih]

/-- What is first held for a key suits the first field that has the key. -/
theorem suits_of_lookup (same_key : ∀ field member, Suits field member → field.key = member.1)
    (each : List.Forall₂ Suits fields members) {key : Text} {value : Json}
    (held : Json.lookup key members = some value) :
    ∃ field, fields.find? (fun field => field.key = key) = some field ∧
      Suits field (key, value) := by
  induction each with
  | nil => cases held
  | @cons field member fields members suits _ ih =>
    have here := same_key field member suits
    by_cases same : member.1 = key
    · rw [Json.lookup, if_pos same] at held
      obtain rfl := Option.some_inj.mp held
      subst same
      exact ⟨field, List.find?_cons_of_pos (by simpa using here), suits⟩
    · rw [Json.lookup, if_neg same] at held
      have skipped : field.key ≠ key := here ▸ same
      rw [List.find?_cons_of_neg (by simpa using skipped)]
      exact ih held

/-- What was set last for a key suits the last field that has the key. -/
theorem suits_of_mem_putAll (label : Label)
    (same_key : ∀ field member, Suits field member → field.key = member.1)
    (each : List.Forall₂ Suits fields members) :
    ∀ member ∈ Json.putAll members, ∃ field,
      (Scheme.object label fields).get member.1 = field.value ∧ Suits field member := by
  intro member listed
  have held := Json.lookup_of_mem (Json.nodup_keys_putAll members) listed
  rw [Json.lookup_putAll] at held
  obtain ⟨field, is_last, suits⟩ := suits_of_lookup same_key (List.rel_reverse each) held
  refine ⟨field, ?_, suits⟩
  rw [get, lastField, is_last, Option.bind_some]

end Fields

/-- A member that was made for a field: it has the key of the field, and a value for its scheme. -/
def MadeFor (leaf : Reading → Json → Prop) (loose : Json → Prop) (field : Field Scheme)
    (member : Text × Json) : Prop :=
  field.key = member.1 ∧ (∀ scheme ∈ field.value, Shaped leaf loose scheme member.2) ∧
    (field.value = none → member.2 = .null)

/-- An object that is put together from a member for each of the fields has the shape of the
scheme. -/
theorem Shaped.of_members {label : Label} {fields : List (Field Scheme)}
    {members : List (Text × Json)} (each : List.Forall₂ (MadeFor leaf loose) fields members) :
    Shaped leaf loose (.object label fields) (.object (Json.putAll members)) := by
  have same_key : ∀ field member, MadeFor leaf loose field member → field.key = member.1 :=
    fun _ _ made => made.1
  have made := suits_of_mem_putAll label same_key each
  apply Shaped.object
  · rw [Json.keys_putAll, keys_of_suits same_key each, keys]
  · intro member listed scheme found
    obtain ⟨field, is_value, -, shaped, -⟩ := made member listed
    exact shaped scheme (is_value ▸ found)
  · intro member listed missing
    obtain ⟨field, is_value, -, -, null⟩ := made member listed
    exact null (is_value ▸ missing)

end

end PageScheme.Scheme
