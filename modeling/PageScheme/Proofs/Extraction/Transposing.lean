import PageScheme.Proofs.Extraction.Conformity

/-!
# Putting fields together row by row

An object that is run for every match is the transpose of its fields: each field with a scheme is
run for every match, and object `i` holds item `i` of each of them. This needs one count for all
fields, and the first field with a scheme says which. A field stops the run if it fails by itself or
gives another count, and the first field to do so decides the failure, whatever is behind it: a
field that a later one with the same key takes the place of counts like any other.
-/
namespace PageScheme.Extraction

open Scheme

variable {url : Text} {p : Place} {fields : List (Field Scheme)} {table : List Column}

/-- How many values the first field with a scheme gives, if there is such a field and it does not
fail. -/
def leadingCount? (url : Text) (p : Place) (fields : List (Field Scheme)) : Option Nat :=
  (fields.findSome? Field.value).bind fun value =>
    (many url value p).toOption.map List.length

/-- What a field stops a run with, where a count is expected: its own failure, or that it gives
another count. A field without a scheme stops nothing. -/
def stop? (url : Text) (p : Place) (expected : Option Nat) (field : Field Scheme) : Option Fault :=
  field.value.bind fun value =>
    match many url value p, expected with
    | .error fault, _ => some fault
    | .ok _, none => none
    | .ok values, some n =>
      if n = values.length then none
      else some (.mismatchedCount field.key n values.length url)

/-! ### Failures -/

theorem leadingCount?_none (key : Text) (rest : List (Field Scheme)) :
    leadingCount? url p (⟨key, none⟩ :: rest) = leadingCount? url p rest := rfl

theorem leadingCount?_some {key : Text} {value : Scheme} {rest : List (Field Scheme)}
    {values : List Json} (ran : many url value p = .ok values) :
    leadingCount? url p (⟨key, some value⟩ :: rest) = some values.length := by
  simp [leadingCount?, ran, Except.toOption]

theorem stop?_of_error {expected : Option Nat} {key : Text} {value : Scheme} {fault : Fault}
    (ran : many url value p = .error fault) :
    stop? url p expected ⟨key, some value⟩ = some fault := by
  simp [stop?, ran]

theorem stop?_of_same {expected : Option Nat} {key : Text} {value : Scheme} {values : List Json}
    (ran : many url value p = .ok values) (same : expected.getD values.length = values.length) :
    stop? url p expected ⟨key, some value⟩ = none := by
  cases expected with
  | none => simp [stop?, ran]
  | some n => simpa [stop?, ran] using same

theorem stop?_of_ne {n : Nat} {key : Text} {value : Scheme} {values : List Json}
    (ran : many url value p = .ok values) (differs : n ≠ values.length) :
    stop? url p (some n) ⟨key, some value⟩ =
      some (.mismatchedCount key n values.length url) := by
  simp [stop?, ran, differs]

theorem columns_none_eq_error {expected : Option Nat} {key : Text} {rest : List (Field Scheme)}
    {fault : Fault} :
    columns url expected (⟨key, none⟩ :: rest) p = .error fault ↔
      columns url expected rest p = .error fault := by
  simp only [columns]
  cases columns url expected rest p <;> simp [bind, Except.bind, pure, Except.pure]

theorem columns_some_eq_error {expected : Option Nat} {key : Text} {value : Scheme}
    {rest : List (Field Scheme)} {values : List Json} {fault : Fault}
    (ran : many url value p = .ok values) (same : expected.getD values.length = values.length) :
    columns url expected (⟨key, some value⟩ :: rest) p = .error fault ↔
      columns url (some values.length) rest p = .error fault := by
  have counted : expectCount url key expected values.length = .ok () := expectCount_eq_ok.mpr same
  simp only [columns, ran, counted, bind, Except.bind]
  cases columns url (some values.length) rest p <;> simp [pure, Except.pure]

theorem columns_eq_error {expected : Option Nat} {fault : Fault} :
    columns url expected fields p = .error fault ↔
      fields.findSome? (stop? url p (expected.or (leadingCount? url p fields))) = some fault := by
  -- On the fields. Behind a field that has given its values their count is expected, which is the
  -- one that was expected of it, or else the leading one.
  induction fields generalizing expected with
  | nil => simp [columns]
  | cons field rest ih =>
    obtain ⟨key, _ | value⟩ := field
    · rw [columns_none_eq_error, ih, leadingCount?_none]
      rfl
    cases ran : many url value p with
    | error own =>
      simp [columns, ran, bind, Except.bind, stop?_of_error ran]
    | ok values =>
      rw [leadingCount?_some ran, List.findSome?_cons]
      by_cases same : expected.getD values.length = values.length
      · have count : expected.or (some values.length) = some values.length := by
          cases expected with
          | none => rfl
          | some n => exact congrArg some same
        rw [columns_some_eq_error ran same, ih, count, stop?_of_same ran rfl]
        rfl
      · obtain ⟨n, rfl, differs⟩ : ∃ n, expected = some n ∧ n ≠ values.length := by
          cases expected with
          | none => exact absurd rfl same
          | some n => exact ⟨n, rfl, same⟩
        rw [Option.some_or, stop?_of_ne ran differs]
        simp [columns, ran, expectCount, differs, bind, Except.bind]

/-- The run of an object fails with what the first of its fields stops it with. -/
theorem many_object_eq_error {label : Label} {fault : Fault} :
    many url (.object label fields) p = .error fault ↔
      ∃ front field rest, fields = front ++ field :: rest ∧
        stop? url p (leadingCount? url p fields) field = some fault ∧
        ∀ earlier ∈ front, stop? url p (leadingCount? url p fields) earlier = none := by
  have is_columns : many url (.object label fields) p = .error fault ↔
      columns url none fields p = .error fault := by
    simp only [many]
    cases columns url none fields p <;> simp [bind, Except.bind, pure, Except.pure]
  rw [is_columns, columns_eq_error, Option.none_or, List.findSome?_eq_some_iff]

/-! ### Rows -/

/-- The column of a field holds what the field gives for every match, or nothing if the field has
no scheme. -/
def ColumnOf (url : Text) (p : Place) (field : Field Scheme) (column : Column) : Prop :=
  field.key = column.1 ∧ (field.value = none → column.2 = none) ∧
    ∀ value ∈ field.value, ∃ values, many url value p = .ok values ∧ column.2 = some values

/-- A member that a field has in a row: an item of what the field gives, or null if the field has
no scheme. -/
def CellOf (url : Text) (p : Place) (index : Nat) (field : Field Scheme) (member : Text × Json) :
    Prop :=
  field.key = member.1 ∧ (field.value = none → member.2 = .null) ∧
    ∀ value ∈ field.value, ∃ values, many url value p = .ok values ∧
      values[index]? = some member.2

theorem columnOf_of_columns {expected : Option Nat}
    (ran : columns url expected fields p = .ok table) :
    List.Forall₂ (ColumnOf url p) fields table := by
  induction fields generalizing expected table with
  | nil => cases ran; exact .nil
  | cons field rest ih =>
    obtain ⟨key, _ | value⟩ := field
    · obtain ⟨tail, tail_ran, rfl⟩ := columns_none_eq_ok.mp ran
      exact .cons ⟨rfl, fun _ => rfl, nofun⟩ (ih tail_ran)
    · obtain ⟨values, tail, values_ran, -, tail_ran, rfl⟩ := columns_some_eq_ok.mp ran
      refine .cons ⟨rfl, nofun, ?_⟩ (ih tail_ran)
      rintro _ ⟨⟩
      exact ⟨values, values_ran, rfl⟩

theorem rowCount_of_columnOf (each : List.Forall₂ (ColumnOf url p) fields table) :
    rowCount table = (leadingCount? url p fields).getD 0 := by
  induction each with
  | nil => rfl
  | @cons field column fields table holds _ ih =>
    obtain ⟨key, _ | value⟩ := field <;> obtain ⟨name, held⟩ := column
    · obtain rfl : held = none := holds.2.1 rfl
      exact ih
    · obtain ⟨values, ran, rfl⟩ := holds.2.2 value rfl
      rw [leadingCount?_some ran]
      rfl

theorem cellOf_of_columnOf {index : Nat} (each : List.Forall₂ (ColumnOf url p) fields table)
    (inside : ∀ key values, (key, some values) ∈ table → index < values.length) :
    List.Forall₂ (CellOf url p index) fields (rowMembers table index) := by
  induction each with
  | nil => exact .nil
  | @cons field column fields table holds _ ih =>
    obtain ⟨same_key, nothing, filled⟩ := holds
    obtain ⟨name, held⟩ := column
    have rest := ih fun key values member => inside key values (List.mem_cons_of_mem _ member)
    refine .cons ⟨same_key, ?_, ?_⟩ rest
    · intro valueless
      obtain rfl : held = none := nothing valueless
      rfl
    · intro value is_value
      obtain ⟨values, ran, rfl⟩ := filled value is_value
      refine ⟨values, ran, ?_⟩
      have here := inside name values List.mem_cons_self
      simp [cell, here]

/-- An object of a listing: its keys are the distinct keys of the fields in the order in which they
first come, and each holds its item of what the scheme of the key gives, or null if the key has no
scheme. -/
def IsRow (url : Text) (p : Place) (scheme : Scheme) (index : Nat) (object : Json) : Prop :=
  ∃ members, object = .object members ∧ members.map Prod.fst = scheme.keys.eraseDups ∧
    ∀ member ∈ members, (scheme.get member.1 = none → member.2 = .null) ∧
      ∀ value, scheme.get member.1 = some value → ∃ values, many url value p = .ok values ∧
        values[index]? = some member.2

theorem isRow_of_columnOf {index : Nat} (label : Label)
    (each : List.Forall₂ (ColumnOf url p) fields table)
    (inside : ∀ key values, (key, some values) ∈ table → index < values.length) :
    IsRow url p (.object label fields) index (row table index) := by
  have cells := cellOf_of_columnOf each inside
  have same_key : ∀ field member, CellOf url p index field member → field.key = member.1 :=
    fun _ _ holds => holds.1
  refine ⟨_, row_eq table index, ?_, ?_⟩
  · rw [Json.keys_putAll, keys_of_suits same_key cells, keys]
  · intro member listed
    obtain ⟨field, is_value, -, nothing, filled⟩ :=
      suits_of_mem_putAll label same_key cells member listed
    rw [is_value]
    exact ⟨nothing, filled⟩

theorem isRow_of_columns {index : Nat} {object : Json} (label : Label)
    (ran : columns url none fields p = .ok table) (is_object : (rows table)[index]? = some object) :
    IsRow url p (.object label fields) index object := by
  obtain ⟨below, rfl⟩ : index < rowCount table ∧ row table index = object := by
    simpa [rows, List.getElem?_eq_some_iff] using is_object
  apply isRow_of_columnOf label (columnOf_of_columns ran)
  intro key values member
  rw [length_eq_of_columns ran key values member, Option.getD_none]
  exact below

/-! ### Listings -/

/-- A field with a scheme gives `n` values. -/
def GivesCount (url : Text) (p : Place) (n : Nat) (field : Field Scheme) : Prop :=
  ∀ value ∈ field.value, ∃ values, many url value p = .ok values ∧ values.length = n

theorem leadingCount?_of_givesCount {n : Nat} (each : ∀ field ∈ fields, GivesCount url p n field) :
    leadingCount? url p fields = none ∧ (∀ field ∈ fields, field.value = none) ∨
      leadingCount? url p fields = some n := by
  induction fields with
  | nil => exact .inl ⟨rfl, nofun⟩
  | cons field rest ih =>
    obtain ⟨here, later⟩ := List.forall_mem_cons.mp each
    obtain ⟨key, _ | value⟩ := field
    · rw [leadingCount?_none, List.forall_mem_cons]
      exact (ih later).imp_left fun ⟨missing, none_valued⟩ => ⟨missing, rfl, none_valued⟩
    · obtain ⟨values, ran, rfl⟩ := here value rfl
      exact .inr (leadingCount?_some ran)

theorem stop?_of_givesCount {n : Nat} {expected : Option Nat} {field : Field Scheme}
    (gives : GivesCount url p n field) (same : expected.getD n = n) :
    stop? url p expected field = none := by
  obtain ⟨key, _ | value⟩ := field
  · rfl
  · obtain ⟨values, ran, rfl⟩ := gives value rfl
    exact stop?_of_same ran same

theorem givesCount_of_columnOf {n : Nat} (each : List.Forall₂ (ColumnOf url p) fields table)
    (counts : ∀ key values, (key, some values) ∈ table → values.length = n) :
    ∀ field ∈ fields, GivesCount url p n field := by
  induction each with
  | nil => nofun
  | @cons field column fields table holds _ ih =>
    obtain ⟨name, held⟩ := column
    rw [List.forall_mem_cons]
    refine ⟨?_, ih fun key values member => counts key values (List.mem_cons_of_mem _ member)⟩
    intro value is_value
    obtain ⟨values, ran, rfl⟩ := holds.2.2 value is_value
    exact ⟨values, ran, counts name values List.mem_cons_self⟩

/-- Running an object for every match is an exact transpose: where all fields with a scheme give `n`
values, there are `n` objects that hold them row by row, and none if no field has a scheme; and
where there is no such count, the first field that stops the run is what it fails with. -/
theorem many_transposes (url : Text) (label : Label) (fields : List (Field Scheme)) (p : Place) :
    (∀ n, (∀ field ∈ fields, GivesCount url p n field) →
      ((∀ field ∈ fields, field.value = none) → n = 0) →
      ∃ objects, many url (.object label fields) p = .ok objects ∧ objects.length = n ∧
        ∀ index object, objects[index]? = some object →
          IsRow url p (.object label fields) index object) ∧
    ((∀ n, ¬ ∀ field ∈ fields, GivesCount url p n field) →
      ∃ front field rest fault, fields = front ++ field :: rest ∧
        stop? url p (leadingCount? url p fields) field = some fault ∧
        (∀ earlier ∈ front, stop? url p (leadingCount? url p fields) earlier = none) ∧
        many url (.object label fields) p = .error fault) := by
  constructor
  · intro n each valueless
    have leading : (leadingCount? url p fields).getD 0 = n ∧
        (leadingCount? url p fields).getD n = n := by
      rcases leadingCount?_of_givesCount each with ⟨missing, none_valued⟩ | leads
      · rw [missing, valueless none_valued]
        exact ⟨rfl, rfl⟩
      · rw [leads]
        exact ⟨rfl, rfl⟩
    cases ran : columns url none fields p with
    | error fault =>
      -- No field stops the run.
      rw [columns_eq_error, Option.none_or] at ran
      obtain ⟨field, member, stops⟩ := List.exists_of_findSome?_eq_some ran
      rw [stop?_of_givesCount (each field member) leading.2] at stops
      cases stops
    | ok table =>
      have count : rowCount table = n :=
        (rowCount_of_columnOf (columnOf_of_columns ran)).trans leading.1
      refine ⟨rows table, bind_eq_ok.mpr ⟨table, ran, rfl⟩, ?_, ?_⟩
      · simp [rows, count]
      · intro index object is_object
        exact isRow_of_columns label ran is_object
  · intro no_count
    cases ran : many url (.object label fields) p with
    | error fault =>
      obtain ⟨front, field, rest, split, stops, passed⟩ := many_object_eq_error.mp ran
      exact ⟨front, field, rest, fault, split, stops, passed, rfl⟩
    | ok objects =>
      -- Columns that were put together have a common count.
      obtain ⟨table, table_ran, -⟩ := bind_eq_ok.mp ran
      have counts := length_eq_of_columns table_ran
      exact absurd (givesCount_of_columnOf (columnOf_of_columns table_ran) counts) (no_count _)

def untitled (key : String) : Field Scheme := ⟨Text.ofString key, none⟩

def textsOf (path : String) : Scheme :=
  .string {} (some (Text.ofString path)) .innerHtml .null

/-- The items under two keys, of which one has no scheme in the end. -/
def itemFields : List (Field Scheme) :=
  [untitled "a", ⟨Text.ofString "b", some (textsOf "li")⟩,
    ⟨Text.ofString "a", some (textsOf "li")⟩, untitled "a"]

/-- The items, and paragraphs that later items take the place of. -/
def mixedFields : List (Field Scheme) :=
  [⟨Text.ofString "b", some (textsOf "li")⟩, untitled "c",
    ⟨Text.ofString "a", some (textsOf "p")⟩, ⟨Text.ofString "a", some (textsOf "li")⟩]

/-- Two items and a paragraph. -/
def shortPage : Place :=
  ⟨.element "div" [] [.element "li" [] [.text "x"], .element "li" [] [.text "y"],
    .element "p" [] [.text "z"]], [], [], []⟩

/-- Two items make two objects, with null for the key that has no scheme in the end; the paragraph
stops the run with its count, although later items take its place. -/
theorem shortPage_transposes :
    (∃ objects, many [] (.object {} itemFields) shortPage = .ok objects ∧ objects.length = 2 ∧
      ∀ index object, objects[index]? = some object →
        IsRow [] shortPage (.object {} itemFields) index object) ∧
    ∃ front field rest fault, mixedFields = front ++ field :: rest ∧
      stop? [] shortPage (leadingCount? [] shortPage mixedFields) field = some fault ∧
      (∀ earlier ∈ front,
        stop? [] shortPage (leadingCount? [] shortPage mixedFields) earlier = none) ∧
      many [] (.object {} mixedFields) shortPage = .error fault := by
  have items : many [] (textsOf "li") shortPage = .ok [.ofString "x", .ofString "y"] := rfl
  have paragraphs : many [] (textsOf "p") shortPage = .ok [.ofString "z"] := rfl
  constructor
  · have two_items : ∀ key, GivesCount [] shortPage 2 ⟨key, some (textsOf "li")⟩ := by
      rintro key _ ⟨⟩
      exact ⟨_, items, rfl⟩
    have nothing : ∀ key, GivesCount [] shortPage 2 (untitled key) := fun _ => nofun
    apply (many_transposes [] {} itemFields shortPage).1 2
    · simp only [itemFields, List.forall_mem_cons]
      exact ⟨nothing _, two_items _, two_items _, nothing _, nofun⟩
    · intro valueless
      cases valueless ⟨Text.ofString "b", some (textsOf "li")⟩ (by simp [itemFields])
  · apply (many_transposes [] {} mixedFields shortPage).2
    intro n each
    simp only [mixedFields, List.forall_mem_cons] at each
    obtain ⟨of_items, -, of_paragraphs, -⟩ := each
    obtain ⟨listed, listed_ran, count⟩ := of_items _ rfl
    obtain ⟨found, found_ran, other_count⟩ := of_paragraphs _ rfl
    rw [items] at listed_ran
    rw [paragraphs] at found_ran
    cases listed_ran
    cases found_ran
    cases count
    cases other_count

end PageScheme.Extraction
