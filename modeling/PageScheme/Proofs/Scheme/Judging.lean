import PageScheme.Proofs.Scheme.Grammar
import PageScheme.Proofs.Scheme.Reloading

/-!
# Checking judges the grammar

A check judges a property if it succeeds where the property holds, and names at least one problem
where it does not. The parts of a check judge what is asked of the attributes of a node, since a
check of several parts judges them all, and together they judge the grammar (`judges_check`).
-/
namespace PageScheme

/-! ### Names of kinds and readings -/

theorem Text.eq_map_of_mapM_char? {text : Text} {chars : List Char}
    (is_chars : text.mapM Letter.char? = some chars) : text = chars.map Letter.scalar := by
  induction text generalizing chars with
  | nil => cases is_chars; rfl
  | cons letter rest ih =>
    rw [List.mapM_cons, Option.bind_eq_bind, Option.bind_eq_some_iff] at is_chars
    obtain ⟨c, is_char, more⟩ := is_chars
    obtain ⟨others, is_others, same⟩ := Option.bind_eq_some_iff.mp more
    cases letter with
    | lone half => cases is_char
    | scalar c =>
      cases is_char
      cases same
      rw [List.map_cons, ih is_others]

theorem Text.toString?_eq_some {text : Text} {s : String} :
    text.toString? = some s ↔ text = Text.ofString s := by
  constructor
  · intro well_formed
    obtain ⟨chars, is_chars, rfl⟩ := Option.map_eq_some_iff.mp well_formed
    rw [ofString, String.toList_ofList]
    exact eq_map_of_mapM_char? is_chars
  · rintro rfl
    exact toString?_ofString s

theorem Kind.ofName?_eq_some {name : String} {kind : Kind} :
    Kind.ofName? name = some kind ↔ name = kind.name := by
  constructor
  · intro found
    have same := List.find?_some found
    simpa [eq_comm] using same
  · rintro rfl
    exact ofName?_name kind

theorem Kind.ofJson?_eq_some {tag : Json} {kind : Kind} :
    Kind.ofJson? tag = some kind ↔ tag = .ofString kind.name := by
  cases tag with
  | string text =>
    simp [ofJson?, Option.bind_eq_some_iff, Text.toString?_eq_some, Kind.ofName?_eq_some,
      Json.ofString]
  | _ => simp [ofJson?, Json.ofString]

theorem Reading.ofName?_eq_some {name : String} {reading : Reading} :
    Reading.ofName? name = some reading ↔ name = reading.name := by
  constructor
  · intro found
    unfold ofName? at found
    split at found
    next same => cases found; exact same
    next =>
      split at found
      next same => cases found; exact same
      next => cases found
  · rintro rfl
    exact ofName?_name reading

/-! ### Checks that judge a property -/

/-- A check judges a property: it succeeds if the property holds, and names a problem if not. -/
def Checked.Judges {α : Type} (part : Checked α) (property : Prop) : Prop :=
  match part with
  | .ok _ => property
  | .error problems => ¬ property ∧ problems ≠ []

namespace Checked

variable {α β : Type} {part : Checked α} {other : Checked β} {property another : Prop}

theorem Judges.succeeds_iff (judges : Judges part property) :
    (∃ a, part = .ok a) ↔ property := by
  cases part with
  | ok a => exact iff_of_true ⟨a, rfl⟩ judges
  | error problems => exact iff_of_false nofun judges.1

theorem Judges.exists_problems (judges : Judges part property) (fails : ¬ property) :
    ∃ problems, problems ≠ [] ∧ part = .error problems := by
  cases part with
  | ok a => exact absurd judges fails
  | error problems => exact ⟨problems, judges.2, rfl⟩

theorem Judges.congr (judges : Judges part property) (same : property ↔ another) :
    Judges part another := by
  rwa [propext same] at judges

theorem judges_ok {a : α} (holds : property) : Judges (Except.ok a) property := holds

theorem judges_problem {cause : Problem.Cause} (fails : ¬ property) :
    Judges (problem cause : Checked α) property :=
  ⟨fails, List.cons_ne_nil _ _⟩

theorem Judges.under (judges : Judges part property) (step : Step) :
    Judges (under step part) property := by
  cases part with
  | ok a => exact judges
  | error problems => exact ⟨judges.1, by simpa using judges.2⟩

theorem Judges.map (judges : Judges part property) (f : α → β) :
    Judges (part.map f) property := by
  cases part with
  | ok a => exact judges
  | error problems => exact judges

theorem Judges.both (judges : Judges part property) (others : Judges other another) :
    Judges (both part other) (property ∧ another) := by
  cases part with
  | ok a =>
    cases other with
    | ok b => exact ⟨judges, others⟩
    | error problems => exact ⟨fun holds => others.1 holds.2, others.2⟩
  | error problems =>
    cases other with
    | ok b => exact ⟨fun holds => judges.1 holds.1, judges.2⟩
    | error more => exact ⟨fun holds => judges.1 holds.1, by simp [judges.2]⟩

end Checked

namespace Scheme

open Checked

/-! ### Attributes -/

section Attributes
variable {α : Type} {members : List (Text × Json)} {name : String}

theorem judges_spelled {part : Checked α} {property : Prop} (judges : Judges part property)
    (well_formed : property → ∀ member ∈ members, member.1.isWellFormed = true) :
    Judges (spelled members part) property := by
  unfold spelled
  split
  next => exact judges
  next broken =>
    apply judges_problem
    intro holds
    exact broken (List.all_eq_true.mpr (well_formed holds))

theorem known_of_onlyKeys {known : List String} (accepted : onlyKeys known members = .ok ()) :
    Known known members := by
  unfold onlyKeys at accepted
  split at accepted
  next none_left =>
    intro member inside
    have listed := List.filter_eq_nil_iff.mp none_left member inside
    simp only [Bool.not_eq_true', Bool.not_eq_false, List.contains_iff_mem] at listed
    obtain ⟨name, is_known, same⟩ := List.mem_map.mp listed
    exact ⟨name, is_known, same.symm⟩
  next => cases accepted

theorem judges_onlyKeys (known : List String) (members : List (Text × Json)) :
    Judges (onlyKeys known members) (Known known members) := by
  cases judged : onlyKeys known members with
  | ok done => exact known_of_onlyKeys judged
  | error problems =>
    constructor
    · intro all_known
      rw [all_known.onlyKeys_eq_ok] at judged
      cases judged
    · unfold onlyKeys at judged
      split at judged
      next => cases judged
      next some_left =>
        cases judged
        simpa using some_left

theorem judges_attributeOf {read : Json → Checked α} {sort : Json → Prop}
    (each : ∀ value, valueOf name members = some value → Judges (read value) (sort value)) :
    Judges (attributeOf name read members) (Optionally name sort members) := by
  unfold attributeOf
  split
  next absent =>
    apply judges_ok
    intro value found
    cases absent.symm.trans found
  next value found =>
    split
    next null =>
      apply judges_ok
      intro other other_found not_null
      cases found.symm.trans other_found
      cases value <;> trivial
    next not_null =>
      apply (((each value found).map some).under (.key name)).congr
      constructor
      · intro holds other other_found _
        cases found.symm.trans other_found
        exact holds
      · intro holds
        apply holds value found
        rintro rfl
        exact not_null rfl

theorem judges_textOf (value : Json) : Judges (textOf value) value.IsText := by
  cases value with
  | string text =>
    have is_text : (Json.string text).IsText := ⟨text, rfl⟩
    exact judges_ok is_text
  | _ => exact judges_problem nofun

theorem judges_optionalText (name : String) (members : List (Text × Json)) :
    Judges (optionalText name members) (Optionally name Json.IsText members) := by
  rw [optionalText_eq]
  exact judges_attributeOf fun value _ => judges_textOf value

theorem judges_labelOf (members : List (Text × Json)) :
    Judges (labelOf members)
      (Optionally "url" Json.IsText members ∧ Optionally "name" Json.IsText members) :=
  ((judges_optionalText "url" members).both (judges_optionalText "name" members)).map _

theorem isReading_string {text : Text} :
    IsReading (.string text) ↔
      ∃ reading, text.toString?.map Reading.ofName? = some (some reading) := by
  constructor
  · rintro (same | same)
    · cases same
      exact ⟨.innerHtml, rfl⟩
    · cases same
      exact ⟨.source, rfl⟩
  · rintro ⟨reading, named⟩
    obtain ⟨name, well_formed, is_name⟩ := Option.map_eq_some_iff.mp named
    rw [Text.toString?_eq_some.mp well_formed, Reading.ofName?_eq_some.mp is_name]
    cases reading with
    | innerHtml => exact .inl rfl
    | source => exact .inr rfl

theorem judges_readingOf (members : List (Text × Json)) :
    Judges (readingOf members) (WhereGiven "mode" IsReading members) := by
  unfold readingOf
  split
  next absent => exact judges_ok (whereGiven_of_absent absent)
  next text found =>
    apply Judges.congr _ (whereGiven_iff found).symm
    apply Judges.under
    rw [isReading_string]
    split
    next broken => exact judges_problem (by simp [broken])
    next unknown => exact judges_problem (by simp [unknown])
    next reading known => exact judges_ok ⟨reading, known⟩
  next value not_text found =>
    apply Judges.congr _ (whereGiven_iff found).symm
    apply Judges.under
    apply judges_problem
    rintro (same | same)
    · exact not_text _ same
    · exact not_text _ same

theorem judges_requiredText (name : String) (members : List (Text × Json)) :
    Judges (requiredText name members) (∃ text, valueOf name members = some (.string text)) := by
  apply Judges.under
  split
  next absent => exact judges_problem (by simp [absent])
  next value found =>
    apply (judges_textOf value).congr
    simp [found, Json.IsText]

end Attributes

/-! ### Lists of nodes and fields -/

section Sequences
variable {α : Type} {read : Json → Checked α} {sort : Json → Prop}

theorem judges_sequenceFrom {items : List Json}
    (each : ∀ item ∈ items, Judges (read item) (sort item)) (position : Nat) :
    Judges (sequenceFrom read position items) (∀ item ∈ items, sort item) := by
  induction items generalizing position with
  | nil => exact judges_ok nofun
  | cons item rest ih =>
    obtain ⟨here, each_rest⟩ := List.forall_mem_cons.mp each
    apply (((here.under _).both (ih each_rest (position + 1))).map _).congr
    rw [List.forall_mem_cons]

theorem judges_sequenceOf {cause : Problem.Cause} {value : Json}
    (each : ∀ item ∈ value.items, Judges (read item) (sort item)) :
    Judges (sequenceOf cause (sequenceFrom read 0) value)
      (∃ items, value = .array items ∧ ∀ item ∈ items, sort item) := by
  cases value with
  | array items =>
    apply (judges_sequenceFrom each 0).congr
    simp [Json.items]
  | _ => exact judges_problem (by simp)

end Sequences

/-! ### Nodes and fields -/

section Nodes
variable {room : Nat} {members : List (Text × Json)}

/-- The checks of a value, as a scheme and as a field, judge whether it is one, in whatever room. -/
def Judged (value : Json) : Prop :=
  ∀ room, Judges (check room value) (IsScheme room value) ∧
    Judges (checkField room value) (IsField room value)

theorem judges_headOf (members : List (Text × Json)) :
    Judges (headOf members)
      ((Optionally "url" Json.IsText members ∧ Optionally "name" Json.IsText members) ∧
        Optionally "path" Json.IsText members) :=
  (judges_labelOf members).both (judges_optionalText "path" members)

theorem judges_contentOf (members : List (Text × Json)) :
    Judges (contentOf members) (Optionally "content" IsArray members) := by
  rw [contentOf_eq]
  apply judges_attributeOf
  intro value _
  cases value with
  | array items =>
    have is_array : IsArray (.array items) := ⟨items, rfl⟩
    exact judges_ok is_array
  | _ => exact judges_problem nofun

theorem judges_schemeAttribute (inside : Json.HoldsInside Judged members) (name : String) :
    Judges (attributeOf name (check room) members) (Optionally name (IsScheme room) members) :=
  judges_attributeOf fun _ found => ((attribute_of_inside inside found).1 room).1

theorem judges_checkElements (inside : Json.HoldsInside Judged members) :
    Judges (checkElements room members)
      (Optionally "element_schemes" (AreSchemes room) members) := by
  rw [checkElements_eq]
  apply judges_attributeOf
  intro value found
  obtain ⟨-, judged_items⟩ := attribute_of_inside inside found
  rw [areSchemes_iff]
  exact judges_sequenceOf fun item member => (judged_items item member room).1

theorem judges_checkFields (inside : Json.HoldsInside Judged members) :
    Judges (checkFields room members) (WhereGiven "fields" (AreFields room) members) := by
  rw [checkFields_eq]
  split
  next absent => exact judges_ok (whereGiven_of_absent absent)
  next value found =>
    obtain ⟨-, judged_items⟩ := attribute_of_inside inside found
    rw [whereGiven_iff found, areFields_iff]
    apply Judges.under
    exact judges_sequenceOf fun item member => (judged_items item member room).2

theorem judges_checkField_object (inside : Json.HoldsInside Judged members) :
    Judges (checkField room (.object members)) (IsField room (.object members)) := by
  have parts : Judges (checkField room (.object members))
      ((∃ key, valueOf "key" members = some (.string key)) ∧
        Optionally "value" (IsScheme room) members ∧ Known fieldKeys members) := by
    rw [checkField, checkValue_eq]
    apply judges_spelled
    · exact ((judges_requiredText "key" members).both ((judges_schemeAttribute inside "value").both
        (judges_onlyKeys fieldKeys members))).map _
    · intro holds
      exact holds.2.2.isWellFormed
  apply parts.congr
  constructor
  · rintro ⟨key, value, known⟩
    exact .object key value known
  · rintro ⟨key, value, known⟩
    exact ⟨key, value, known⟩

/-- A node that there is room for is judged by its kind. -/
theorem judges_entered (inside : Json.HoldsInside Judged members) {kind : Kind}
    (tagged : IsTagged kind.name members) :
    Judges (spelled members (checkKind room kind members))
      (IsScheme (room + 1) (.object members)) := by
  cases kind with
  | string =>
    rw [isScheme_string tagged]
    apply judges_spelled
    · exact ((judges_headOf members).both
        ((judges_readingOf members).both (judges_onlyKeys stringKeys members))).map _
    · intro holds
      exact holds.2.2.isWellFormed
  | list =>
    simp only [isScheme_list tagged, checkKind, checkElement_eq]
    apply judges_spelled
    · exact ((judges_headOf members).both ((judges_schemeAttribute inside "element_scheme").both
        ((judges_contentOf members).both ((judges_checkElements inside).both
          (judges_onlyKeys listKeys members))))).map _
    · intro holds
      exact holds.2.2.2.2.isWellFormed
  | object =>
    rw [isScheme_object tagged]
    apply judges_spelled
    · exact ((judges_labelOf members).both
        ((judges_checkFields inside).both (judges_onlyKeys objectKeys members))).map _
    · intro holds
      exact holds.2.2.isWellFormed

theorem judges_check_object (inside : Json.HoldsInside Judged members) :
    Judges (check room (.object members)) (IsScheme room (.object members)) := by
  by_cases tagged : ∃ kind : Kind, IsTagged kind.name members
  · obtain ⟨kind, tagged⟩ := tagged
    rw [check_object tagged]
    apply Judges.under
    cases room with
    | zero => exact judges_problem not_isScheme_zero
    | succ room => exact judges_entered inside tagged
  · -- Without the tag of a kind the value is refused, and it is no scheme.
    have no_scheme : ¬ IsScheme room (.object members) := fun is_scheme =>
      tagged (exists_tag is_scheme)
    simp only [check]
    split
    next => exact judges_problem no_scheme
    next tag found =>
      split
      next => exact judges_problem no_scheme
      all_goals
        next is_kind =>
          rw [Kind.ofJson?_eq_some.mp is_kind] at found
          exact absurd ⟨_, found⟩ tagged

end Nodes

theorem judged (value : Json) : Judged value := by
  induction value using Json.induction_inside with
  | object members inside =>
    intro room
    exact ⟨judges_check_object inside, judges_checkField_object inside⟩
  | _ => exact fun _ => ⟨judges_problem nofun, judges_problem nofun⟩

/-- Checking a value judges whether it is a scheme that there is room for. -/
theorem judges_check (room : Nat) (value : Json) :
    Judges (check room value) (IsScheme room value) :=
  (judged value room).1

end Scheme
end PageScheme
