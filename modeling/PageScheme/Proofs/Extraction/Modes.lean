import PageScheme.Extraction
import PageScheme.Proofs.Scheme.Valid
import PageScheme.Proofs.Sequencing

/-!
# The two ways to run a scheme

`one` is no special case of `many`: for an object `many` reads columns and puts them together row by
row, while `one` reads the fields one after the other. Still the first value that `many` gives is
what `one` gives, and where `many` finds nothing, `one` fails because an element is missing. An
object without any value is the exception: it has no rows, but can be read once.
-/
namespace PageScheme

/-- The nodes that are reached from a scheme through the fields of objects alone, the scheme
included. -/
inductive Scheme.ReachesByFields : Scheme → Scheme → Prop
  | self {scheme} : ReachesByFields scheme scheme
  | field {label fields field value scheme} : field ∈ fields → field.value = some value →
      ReachesByFields value scheme → ReachesByFields (.object label fields) scheme

namespace Extraction

variable {url : Text}

/-! ### Columns -/

theorem expectCount_eq_ok {key : Text} {expected : Option Nat} {found : Nat} {done : Unit} :
    expectCount url key expected found = .ok done ↔ expected.getD found = found := by
  cases expected with
  | none => simp [expectCount]
  | some n => by_cases same : n = found <;> simp [expectCount, same]

theorem columns_none_eq_ok {expected : Option Nat} {key : Text} {rest : List (Field Scheme)}
    {p : Place} {table : List Column} :
    columns url expected (⟨key, none⟩ :: rest) p = .ok table ↔
      ∃ tail, columns url expected rest p = .ok tail ∧ table = (key, none) :: tail := by
  simp only [columns, bind_eq_ok, pure, Except.pure, Except.ok.injEq, eq_comm (a := table)]

theorem columns_some_eq_ok {expected : Option Nat} {key : Text} {value : Scheme}
    {rest : List (Field Scheme)} {p : Place} {table : List Column} :
    columns url expected (⟨key, some value⟩ :: rest) p = .ok table ↔
      ∃ values tail, many url value p = .ok values ∧
        expected.getD values.length = values.length ∧
        columns url (some values.length) rest p = .ok tail ∧
          table = (key, some values) :: tail := by
  simp only [columns, bind_eq_ok, expectCount_eq_ok, pure, Except.pure, Except.ok.injEq]
  constructor
  · rintro ⟨values, ran, _, count, tail, tail_ran, rfl⟩
    exact ⟨values, tail, ran, count, tail_ran, rfl⟩
  · rintro ⟨values, tail, ran, count, tail_ran, rfl⟩
    exact ⟨values, ran, (), count, tail, tail_ran, rfl⟩

/-- All columns that hold values hold as many of them as the first one, which are as many as were
expected. -/
theorem length_eq_of_columns {expected : Option Nat} {fields : List (Field Scheme)} {p : Place}
    {table : List Column} (ran : columns url expected fields p = .ok table) :
    ∀ key values, (key, some values) ∈ table → values.length = expected.getD (rowCount table) := by
  -- On the fields: what is expected of the rest is the length of the first column with values.
  induction fields generalizing expected table with
  | nil => cases ran; simp
  | cons field rest ih =>
    intro name values member
    -- A field without a value has a column, but nothing to count.
    obtain ⟨key, _ | value⟩ := field
    · obtain ⟨tail, tail_ran, rfl⟩ := columns_none_eq_ok.mp ran
      have bound := ih tail_ran name values (by simpa using member)
      simpa [rowCount] using bound
    · obtain ⟨head, tail, _, count, tail_ran, rfl⟩ := columns_some_eq_ok.mp ran
      simp only [rowCount, List.findSome?_cons, Option.map_some, Option.getD_some, count]
      rcases List.mem_cons.mp member with same | member
      · cases same
        rfl
      · exact ih tail_ran name values member

/-- Columns are what the fields give, whichever way they are run. -/
theorem columns_map {change : Scheme → Scheme} {expected : Option Nat}
    {fields : List (Field Scheme)} {p q : Place}
    (each : ∀ field ∈ fields, ∀ value ∈ field.value,
      many url (change value) q = many url value p) :
    columns url expected (fields.map (Field.map change)) q = columns url expected fields p := by
  induction fields generalizing expected with
  | nil => rfl
  | cons field rest ih =>
    have tail := fun expected => @ih expected fun other member =>
      each other (List.mem_cons_of_mem _ member)
    obtain ⟨key, _ | value⟩ := field
    · simp only [List.map_cons, Field.map, Option.map_none, columns, tail]
    · have head := each ⟨key, some value⟩ List.mem_cons_self value rfl
      simp only [List.map_cons, Field.map, Option.map_some, columns, head, tail]

theorem members_map {change : Scheme → Scheme} {fields : List (Field Scheme)} {p q : Place}
    (each : ∀ field ∈ fields, ∀ value ∈ field.value,
      one url (change value) q = one url value p) :
    members url (fields.map (Field.map change)) q = members url fields p := by
  induction fields with
  | nil => rfl
  | cons field rest ih =>
    have tail := ih fun other member => each other (List.mem_cons_of_mem _ member)
    obtain ⟨key, _ | value⟩ := field
    · simp only [List.map_cons, Field.map, Option.map_none, members, tail]
    · have head := each ⟨key, some value⟩ List.mem_cons_self value rfl
      simp only [List.map_cons, Field.map, Option.map_some, members, head, tail]

def firstMembers (table : List Column) : List (Text × Json) :=
  table.map fun (key, values) => (key, (values.bind fun values => values[0]?).getD .null)

theorem row_zero (table : List Column) : row table 0 = .object (Json.putAll (firstMembers table)) :=
  rfl

/-- Fields that give their first value when they are run once give the first row when they are run
once. -/
theorem members_of_columns {expected : Option Nat} {fields : List (Field Scheme)} {p : Place}
    {table : List Column} (ran : columns url expected fields p = .ok table)
    (filled : ∀ key values, (key, some values) ∈ table → values ≠ [])
    (each : ∀ field ∈ fields, ∀ value ∈ field.value, ∀ first others,
      many url value p = .ok (first :: others) → one url value p = .ok first) :
    members url fields p = .ok (firstMembers table) := by
  induction fields generalizing expected table with
  | nil => cases ran; rfl
  | cons field rest ih =>
    have each_rest := fun other member => each other (List.mem_cons_of_mem _ member)
    obtain ⟨key, _ | value⟩ := field
    · obtain ⟨tail, tail_ran, rfl⟩ := columns_none_eq_ok.mp ran
      have rest_members := ih tail_ran
        (fun name values member => filled name values (List.mem_cons_of_mem _ member)) each_rest
      simp only [members, rest_members]
      rfl
    · obtain ⟨head, tail, head_ran, _, tail_ran, rfl⟩ := columns_some_eq_ok.mp ran
      have rest_members := ih tail_ran
        (fun name values member => filled name values (List.mem_cons_of_mem _ member)) each_rest
      -- The column is filled, so its first value is what the field gives when it is run once.
      obtain ⟨first, others, rfl⟩ :=
        List.exists_cons_of_ne_nil (filled key head List.mem_cons_self)
      have once := each ⟨key, some value⟩ List.mem_cons_self value rfl first others head_ran
      simp only [members, rest_members, once]
      rfl

/-- Fields that fail when they are run once where they find nothing: the first of them that has a
value stops the run. -/
theorem members_of_empty_columns {expected : Option Nat} {fields : List (Field Scheme)} {p : Place}
    {table : List Column} (ran : columns url expected fields p = .ok table)
    (empty : ∀ key values, (key, some values) ∈ table → values = [])
    (valued : ∃ field ∈ fields, field.value.isSome)
    (each : ∀ field ∈ fields, ∀ value ∈ field.value, many url value p = .ok [] →
      ∃ path, one url value p = .error (.noElement path url)) :
    ∃ path, members url fields p = .error (.noElement path url) := by
  induction fields generalizing expected table with
  | nil => simp at valued
  | cons field rest ih =>
    obtain ⟨key, _ | value⟩ := field
    · obtain ⟨tail, tail_ran, rfl⟩ := columns_none_eq_ok.mp ran
      obtain ⟨path, missing⟩ := ih tail_ran
        (fun name values member => empty name values (List.mem_cons_of_mem _ member))
        (by simpa using valued) fun other member => each other (List.mem_cons_of_mem _ member)
      exact ⟨path, by simp only [members, missing]; rfl⟩
    · obtain ⟨head, tail, head_ran, _, _, rfl⟩ := columns_some_eq_ok.mp ran
      -- This field finds nothing, so the run stops here; the fields behind it do not matter.
      obtain rfl := empty key head List.mem_cons_self
      obtain ⟨path, missing⟩ := each ⟨key, some value⟩ List.mem_cons_self value rfl head_ran
      exact ⟨path, by simp only [members, missing]; rfl⟩

/-! ### Places -/

theorem selectOne_of_cons {path : Option Text} {p first : Place} {others : List Place}
    (found : selectAll url path p = .ok (first :: others)) : selectOne url path p = .ok first := by
  simp only [selectOne, found]
  rfl

theorem selectOne_of_nil {path : Option Text} {p : Place}
    (found : selectAll url path p = .ok []) :
    selectOne url path p = .error (.noElement (path.getD []) url) := by
  simp only [selectOne, found]
  rfl

/-! ### Schemes -/

/-- The first value of many is the value of a single run. -/
theorem one_of_many {scheme : Scheme} {p : Place} {first : Json} {others : List Json}
    (ran : many url scheme p = .ok (first :: others)) : one url scheme p = .ok first := by
  induction scheme generalizing p first others with
  | string label path reading content =>
    obtain ⟨places, found, read⟩ := bind_eq_ok.mp ran
    obtain ⟨place, rest, rfl, rfl, -⟩ := List.map_eq_cons_iff.mp (Except.ok.inj read)
    simp only [one, selectOne_of_cons found]
    rfl
  | list label path element content elements element_ih _ =>
    cases element with
    | none =>
      obtain ⟨places, found, read⟩ := bind_eq_ok.mp ran
      obtain ⟨place, rest, rfl, rfl, -⟩ := List.map_eq_cons_iff.mp (Except.ok.inj read)
      simp only [one, selectOne_of_cons found]
      rfl
    | some element =>
      obtain ⟨places, found, read⟩ := bind_eq_ok.mp ran
      cases places with
      -- The items of the first container are read in the same way by both runs.
      | nil => cases read
      | cons place rest =>
        obtain ⟨value, values, head, _, same⟩ := mapM_cons_eq_ok.mp read
        cases same
        obtain ⟨items, items_ran, rfl⟩ := map_eq_ok.mp head
        have chosen := selectOne_of_cons found
        exact bind_eq_ok.mpr ⟨place, chosen, bind_eq_ok.mpr ⟨items, items_ran, rfl⟩⟩
  | object label fields ih =>
    obtain ⟨table, table_ran, together⟩ := bind_eq_ok.mp ran
    have listed : rows table = first :: others := Except.ok.inj together
    -- There is a row, so no column with values is empty.
    have count : rowCount table ≠ 0 := by
      intro zero
      simp [rows, zero] at listed
    have filled : ∀ key values, (key, some values) ∈ table → values ≠ [] := by
      intro key values member is_empty
      have length := length_eq_of_columns table_ran key values member
      simp only [is_empty, List.length_nil, Option.getD_none] at length
      exact count length.symm
    have once := members_of_columns table_ran filled fun field member value is_value _ _ =>
      ih field member value is_value
    -- The first of the rows that are put together is the one of the first values.
    have is_first : row table 0 = first := by
      obtain ⟨n, succ⟩ := Nat.exists_eq_succ_of_ne_zero count
      simp only [rows, succ, List.range_succ_eq_map, List.map_cons, List.cons.injEq] at listed
      exact listed.1
    rw [← is_first, row_zero]
    exact bind_eq_ok.mpr ⟨_, once, rfl⟩
  | foreign node => cases ran

/-- Where a scheme finds nothing in a container, a single run misses an element. -/
theorem one_of_many_nil {scheme : Scheme} {p : Place} (ran : many url scheme p = .ok [])
    (valued : ∀ label fields, scheme.ReachesByFields (.object label fields) →
      ∃ field ∈ fields, field.value.isSome) :
    ∃ path, one url scheme p = .error (.noElement path url) := by
  induction scheme generalizing p with
  | string label path reading content =>
    obtain ⟨places, found, read⟩ := bind_eq_ok.mp ran
    obtain rfl := List.map_eq_nil_iff.mp (Except.ok.inj read)
    exact ⟨path.getD [], by simp only [one, selectOne_of_nil found]; rfl⟩
  | list label path element content elements _ _ =>
    refine ⟨path.getD [], ?_⟩
    cases element with
    | none =>
      obtain ⟨places, found, read⟩ := bind_eq_ok.mp ran
      obtain rfl := List.map_eq_nil_iff.mp (Except.ok.inj read)
      simp only [one, selectOne_of_nil found]
      rfl
    | some element =>
      obtain ⟨places, found, read⟩ := bind_eq_ok.mp ran
      cases places with
      | nil =>
        simp only [one, selectOne_of_nil found]
        rfl
      | cons place rest =>
        obtain ⟨_, _, _, _, impossible⟩ := mapM_cons_eq_ok.mp read
        cases impossible
  | object label fields ih =>
    obtain ⟨table, table_ran, together⟩ := bind_eq_ok.mp ran
    -- There is no row, so every column with values is empty.
    have count : rowCount table = 0 := by
      simpa [rows] using Except.ok.inj together
    have empty : ∀ key values, (key, some values) ∈ table → values = [] := by
      intro key values member
      have length := length_eq_of_columns table_ran key values member
      simpa [count] using length
    obtain ⟨path, missing⟩ := members_of_empty_columns table_ran empty
      -- What is reached from a field is reached from the object.
      (valued label fields .self) fun field member value is_value none_found =>
        ih field member value is_value none_found fun inner_label inner reached =>
          valued inner_label inner (.field member is_value reached)
    exact ⟨path, by simp only [one, missing]; rfl⟩
  | foreign node => cases ran

/-- A run for every match and a single run mirror each other: the first value of the one is the
value of the other, and where the one finds nothing, the other misses an element, unless an object
without any value can be read there. -/
theorem many_mirrors_one (url : Text) (scheme : Scheme) (p : Place) :
    (∀ first others, many url scheme p = .ok (first :: others) → one url scheme p = .ok first) ∧
    (many url scheme p = .ok [] →
      (∀ label fields, scheme.ReachesByFields (.object label fields) →
        ∃ field ∈ fields, field.value.isSome) →
      ∃ path, one url scheme p = .error (.noElement path url)) :=
  ⟨fun _ _ ran => one_of_many ran, fun ran valued => one_of_many_nil ran valued⟩

def titledScheme : Scheme :=
  .object {} [⟨Text.ofString "title",
      some (.string {} (some (Text.ofString "li")) .innerHtml .null)⟩, ⟨Text.ofString "note", none⟩]

def titledPlace (titles : List String) : Place :=
  ⟨.element "ul" [] (titles.map fun title => .element "li" [] [.text title]), [], [], []⟩

def titledRow (title : String) : Json :=
  .object (Json.putAll [(Text.ofString "title", .ofString title), (Text.ofString "note", .null)])

/-- The first of two rows is what a single run reads, and where there is no title, a single run
misses one. -/
theorem titledScheme_mirrors :
    (many [] titledScheme (titledPlace ["a", "b"]) = .ok [titledRow "a", titledRow "b"] ∧
      one [] titledScheme (titledPlace ["a", "b"]) = .ok (titledRow "a")) ∧
    (many [] titledScheme (titledPlace []) = .ok [] ∧
      ∃ path, one [] titledScheme (titledPlace []) = .error (.noElement path [])) := by
  have two_rows : many [] titledScheme (titledPlace ["a", "b"]) =
      .ok [titledRow "a", titledRow "b"] := rfl
  have no_row : many [] titledScheme (titledPlace []) = .ok [] := rfl
  refine ⟨⟨two_rows, ?_⟩, no_row, ?_⟩
  · exact (many_mirrors_one [] titledScheme _).1 _ _ two_rows
  · apply (many_mirrors_one [] titledScheme _).2 no_row
    intro label fields reached
    cases reached with
    | self => exact ⟨_, List.mem_cons_self, rfl⟩
    | field member is_value inner =>
      simp only [List.mem_cons, List.not_mem_nil, or_false] at member
      rcases member with rfl | rfl
      · cases is_value
        cases inner
      · contradiction

end Extraction
end PageScheme
