import Mathlib.Logic.Basic
import PageScheme.Proofs.Json.Content
import PageScheme.Proofs.Sequencing
import PageScheme.Scheme.Checking
import PageScheme.Scheme.Writing

/-!
# Attributes of a node

Most attributes of a node are optional, and null stands for an absent one: `attributeOf` is how each
of them is read, and the texts, schemes and lists of a node are read in no other way. What has been
written for an attribute is read back by it, if its value is. The items of a list are read one after
the other by `sequenceFrom`, and each result was read from one of them.
-/
namespace PageScheme

/-! ### Checks that succeed -/

namespace Checked

variable {α β : Type}

theorem both_eq_ok {left : Checked α} {right : Checked β} {a : α} {b : β} :
    both left right = .ok (a, b) ↔ left = .ok a ∧ right = .ok b := by
  cases left <;> cases right <;> simp [both]

theorem under_eq_ok {step : Step} {part : Checked α} {a : α} :
    under step part = .ok a ↔ part = .ok a := by
  cases part <;> simp [under, Except.mapError]

end Checked

theorem Text.isWellFormed_ofString (s : String) : (Text.ofString s).isWellFormed = true := by
  simp [Text.isWellFormed, Text.ofString, Letter.char?]

namespace Scheme

open Checked

theorem entered_eq_ok {α : Type} {room : Nat} {node : Nat → Checked α} {a : α} :
    entered room node = .ok a ↔ ∃ left, room = left + 1 ∧ node left = .ok a := by
  cases room <;> simp [entered, problem]

theorem spelled_eq_ok {α : Type} {members : List (Text × Json)} {part : Checked α} {a : α} :
    spelled members part = .ok a ↔
      (∀ member ∈ members, member.1.isWellFormed = true) ∧ part = .ok a := by
  unfold spelled
  split
  next well_formed =>
    have each := List.all_eq_true.mp well_formed
    exact ⟨fun accepted => ⟨each, accepted⟩, And.right⟩
  next broken =>
    simp only [problem, reduceCtorEq, false_iff, not_and]
    intro well_formed
    exact absurd (List.all_eq_true.mpr well_formed) broken

/-! ### Members by name -/

section Members
variable (name other : String)

@[simp] theorem valueOf_append (front back : List (Text × Json)) :
    valueOf name (front ++ back) = (valueOf name front).or (valueOf name back) :=
  Json.lookup_append _ front back

@[simp] theorem valueOf_cons (value : Json) (rest : List (Text × Json)) :
    valueOf name ((Text.ofString other, value) :: rest) =
      if other = name then some value else valueOf name rest := by
  by_cases same : other = name
  · simp [valueOf, Json.lookup, same]
  · have different : Text.ofString other ≠ Text.ofString name := fun equal =>
      same (Text.ofString_injective equal)
    simp [valueOf, Json.lookup, same, different]

@[simp] theorem valueOf_nil : valueOf name [] = none := rfl

@[simp] theorem valueOf_optionalMember (value : Option Json) :
    valueOf name (optionalMember other value) = if other = name then value else none := by
  cases value with
  | none => simp [optionalMember]
  | some value =>
    rw [optionalMember, Option.toList_some, List.map_singleton, valueOf_cons]
    rfl

@[simp] theorem valueOf_contentMember (content : Json) :
    valueOf name (contentMember content) =
      if "content" = name then (if content.isNull then none else some content.finite)
      else none := by
  unfold contentMember
  split
  · simp
  · exact valueOf_cons name "content" _ []

end Members

theorem mem_of_valueOf {name : String} {members : List (Text × Json)} {value : Json}
    (found : valueOf name members = some value) : (Text.ofString name, value) ∈ members := by
  induction members with
  | nil => simp at found
  | cons member rest ih =>
    obtain ⟨key, first⟩ := member
    simp only [valueOf, Json.lookup] at found
    split at found
    next same =>
      obtain rfl := Option.some_inj.mp found
      rw [same]
      exact List.mem_cons_self
    next => exact List.mem_cons_of_mem _ (ih found)

/-- What holds inside an object holds of its attributes, and of what they list. -/
theorem attribute_of_inside {holds : Json → Prop} {name : String} {members : List (Text × Json)}
    {value : Json} (inside : Json.HoldsInside holds members)
    (found : valueOf name members = some value) :
    holds value ∧ ∀ item ∈ value.items, holds item :=
  inside _ (mem_of_valueOf found)

/-- All keys of some members are known ones. -/
def Known (known : List String) (members : List (Text × Json)) : Prop :=
  ∀ member ∈ members, ∃ name ∈ known, member.1 = Text.ofString name

@[simp] theorem known_append {known : List String} {front back : List (Text × Json)} :
    Known known (front ++ back) ↔ Known known front ∧ Known known back :=
  List.forall_mem_append

@[simp] theorem known_nil (known : List String) : Known known [] := nofun

@[simp] theorem known_cons {known : List String} {name : String} {value : Json}
    {rest : List (Text × Json)} :
    Known known ((Text.ofString name, value) :: rest) ↔ name ∈ known ∧ Known known rest := by
  rw [Known, List.forall_mem_cons]
  apply and_congr_left'
  constructor
  · rintro ⟨other, is_known, same⟩
    rw [Text.ofString_injective same]
    exact is_known
  · intro is_known
    exact ⟨name, is_known, rfl⟩

theorem known_optionalMember {known : List String} {name : String} (is_known : name ∈ known)
    (value : Option Json) : Known known (optionalMember name value) := by
  cases value with
  | none => exact known_nil known
  | some value => exact known_cons.mpr ⟨is_known, known_nil known⟩

theorem known_contentMember {known : List String} (is_known : "content" ∈ known)
    (content : Json) : Known known (contentMember content) := by
  unfold contentMember
  split
  · exact known_nil known
  · exact known_cons.mpr ⟨is_known, known_nil known⟩

theorem Known.isWellFormed {known : List String} {members : List (Text × Json)}
    (all_known : Known known members) : ∀ member ∈ members, member.1.isWellFormed = true := by
  intro member inside
  obtain ⟨name, -, same⟩ := all_known member inside
  rw [same]
  exact Text.isWellFormed_ofString name

theorem Known.onlyKeys_eq_ok {known : List String} {members : List (Text × Json)}
    (all_known : Known known members) : onlyKeys known members = .ok () := by
  unfold onlyKeys
  split
  next => rfl
  next some_left =>
    refine absurd (List.filter_eq_nil_iff.mpr ?_) some_left
    intro member inside
    obtain ⟨name, is_known, same⟩ := all_known member inside
    simp only [same, Bool.not_eq_true', Bool.not_eq_false, List.contains_iff_mem]
    exact List.mem_map_of_mem is_known

/-! ### Optional attributes -/

/-- An optional attribute that is read in some way; null stands for an absent one. -/
def attributeOf {α : Type} (name : String) (read : Json → Checked α)
    (members : List (Text × Json)) : Checked (Option α) :=
  match valueOf name members with
  | none => .ok none
  | some value => if value.isNull then .ok none else under (.key name) ((read value).map some)

/-- The items of a list, read in some way. -/
def sequenceOf {α : Type} (cause : Problem.Cause) (read : List Json → Checked α) :
    Json → Checked α
  | .array items => read items
  | _ => problem cause

/-- Items that are read one after the other, the first of them at a position. -/
def sequenceFrom {α : Type} (read : Json → Checked α) (position : Nat) :
    List Json → Checked (List α)
  | [] => .ok []
  | item :: rest =>
    (both (under (.index position) (read item)) (sequenceFrom read (position + 1) rest)).map
      fun (first, others) => first :: others

theorem checkItems_eq (room position : Nat) (items : List Json) :
    checkItems room position items = sequenceFrom (check room) position items := by
  induction items generalizing position with
  | nil => rfl
  | cons item rest ih => rw [checkItems, sequenceFrom, ih]

theorem checkFieldItems_eq (room position : Nat) (items : List Json) :
    checkFieldItems room position items = sequenceFrom (checkField room) position items := by
  induction items generalizing position with
  | nil => rfl
  | cons item rest ih => rw [checkFieldItems, sequenceFrom, ih]

variable (members : List (Text × Json)) (room : Nat)

theorem optionalText_eq (name : String) :
    optionalText name members = attributeOf name textOf members := rfl

theorem checkElement_eq :
    checkElement room members = attributeOf "element_scheme" (check room) members := by
  induction members with
  | nil => rfl
  | cons member rest ih =>
    simp only [checkElement, ih, attributeOf, valueOf, Json.lookup]
    split <;> rfl

theorem checkValue_eq :
    checkValue room members = attributeOf "value" (check room) members := by
  induction members with
  | nil => rfl
  | cons member rest ih =>
    simp only [checkValue, ih, attributeOf, valueOf, Json.lookup]
    split <;> rfl

theorem checkElements_eq : checkElements room members =
    attributeOf "element_schemes" (sequenceOf .notSequence (sequenceFrom (check room) 0))
      members := by
  induction members with
  | nil => rfl
  | cons member rest ih =>
    obtain ⟨key, value⟩ := member
    by_cases same : key = Text.ofString "element_schemes"
    · cases value <;> simp [checkElements, attributeOf, valueOf, Json.lookup, same, sequenceOf,
        checkItems_eq, Json.isNull] <;> rfl
    · have skipped : checkElements room ((key, value) :: rest) = checkElements room rest := by
        cases value <;> simp [checkElements, same]
      rw [skipped, ih]
      simp only [attributeOf, valueOf, Json.lookup, if_neg same]

theorem contentOf_eq : contentOf members =
    attributeOf "content" (sequenceOf .notList Except.ok) members := by
  simp only [contentOf, attributeOf]
  cases valueOf "content" members with
  | none => rfl
  | some value => cases value <;> rfl

/-- The fields of an object are read as an attribute is, but there are none where they are absent,
and they cannot be null. -/
theorem checkFields_eq : checkFields room members =
    match valueOf "fields" members with
    | none => .ok []
    | some value =>
      under (.key "fields") (sequenceOf .notSequence (sequenceFrom (checkField room) 0) value) := by
  induction members with
  | nil => rfl
  | cons member rest ih =>
    obtain ⟨key, value⟩ := member
    by_cases same : key = Text.ofString "fields"
    · cases value <;> simp [checkFields, valueOf, Json.lookup, same, sequenceOf, checkFieldItems_eq]
    · have skipped : checkFields room ((key, value) :: rest) = checkFields room rest := by
        cases value <;> simp [checkFields, same]
      rw [skipped, ih]
      simp only [valueOf, Json.lookup, if_neg same]

variable {members}

/-- What is written for an attribute is read back. -/
theorem attributeOf_of_written {α β : Type} {name : String} {read : Json → Checked β}
    {write : α → Json} {g : α → β} {value : Option α}
    (found : valueOf name members = value.map write)
    (reads : ∀ a ∈ value, (write a).isNull = false ∧ read (write a) = .ok (g a)) :
    attributeOf name read members = .ok (value.map g) := by
  cases value with
  | none => rw [attributeOf, found]; rfl
  | some a =>
    obtain ⟨not_null, read_back⟩ := reads a rfl
    rw [attributeOf, found]
    simp only [Option.map_some, not_null, read_back]
    rfl

/-- What is read for an attribute is there, and was read from its value. -/
theorem of_attributeOf_eq_some {α : Type} {name : String} {read : Json → Checked α} {a : α}
    (is_read : attributeOf name read members = .ok (some a)) :
    ∃ value, valueOf name members = some value ∧ read value = .ok a := by
  unfold attributeOf at is_read
  split at is_read
  next => cases is_read
  next value found =>
    split at is_read
    next => cases is_read
    next =>
      obtain ⟨b, read_back, same⟩ := map_eq_ok.mp (under_eq_ok.mp is_read)
      obtain rfl := Option.some_inj.mp same
      exact ⟨value, found, read_back⟩

/-- The items that have been written of a list are read back one after the other. -/
theorem sequenceFrom_of_written {α β : Type} {read : Json → Checked β} {write : α → Json}
    {g : α → β}
    {items : List α} (reads : ∀ a ∈ items, read (write a) = .ok (g a)) (position : Nat) :
    sequenceFrom read position (items.map write) = .ok (items.map g) := by
  induction items generalizing position with
  | nil => rfl
  | cons item rest ih =>
    obtain ⟨head, each_rest⟩ := List.forall_mem_cons.mp reads
    rw [List.map_cons, sequenceFrom, head, ih each_rest]
    rfl

/-- Each result was read from one of the items. -/
theorem of_sequenceFrom_eq_ok {α : Type} {read : Json → Checked α} {items : List Json}
    {position : Nat} {results : List α}
    (is_read : sequenceFrom read position items = .ok results) :
    ∀ a ∈ results, ∃ item ∈ items, read item = .ok a := by
  induction items generalizing position results with
  | nil =>
    obtain rfl := Except.ok.inj is_read
    nofun
  | cons item rest ih =>
    obtain ⟨⟨first, others⟩, parts, rfl⟩ := map_eq_ok.mp is_read
    obtain ⟨first_read, others_read⟩ := both_eq_ok.mp parts
    rw [List.forall_mem_cons]
    refine ⟨⟨item, List.mem_cons_self, under_eq_ok.mp first_read⟩, ?_⟩
    intro a listed
    obtain ⟨other, member, read_back⟩ := ih others_read a listed
    exact ⟨other, List.mem_cons_of_mem _ member, read_back⟩

end Scheme
end PageScheme
