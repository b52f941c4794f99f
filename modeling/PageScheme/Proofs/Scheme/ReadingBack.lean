import PageScheme.Proofs.Extraction.Conformity
import PageScheme.Proofs.Scheme.Populated

/-!
# Reading content back

The content that a scheme was populated with can be read off the populated scheme if there is a copy
of the element scheme for each item: a string holds its own, a list has that of its copies, and an
object that of its fields. Nothing of the content is lost, if it has the shape of the scheme. A
field whose key a later field has as well is populated with a value that need not have its shape,
but what is read back from it gives way to what is read from the later field.
-/
namespace PageScheme.Scheme

mutual

/-- The content that a scheme holds, with the items of a list in the copies of its element
scheme. -/
def readBack : Scheme → Json
  | string _ _ _ content => content
  | list _ _ none content _ =>
    match content with
    | some items => .array items
    | none => .null
  | list _ _ (some _) _ elements =>
    match elements with
    | some copies => .array (copiesReadBack copies)
    | none => .array []
  | object _ fields => .object (Json.putAll (fieldsReadBack fields))
  | foreign _ => .null
termination_by structural scheme => scheme

def copiesReadBack : List Scheme → List Json
  | [] => []
  | copy :: rest => copy.readBack :: copiesReadBack rest
termination_by structural copies => copies

def fieldsReadBack : List (Field Scheme) → List (Text × Json)
  | [] => []
  | ⟨key, none⟩ :: rest => (key, .null) :: fieldsReadBack rest
  | ⟨key, some value⟩ :: rest => (key, value.readBack) :: fieldsReadBack rest
termination_by structural fields => fields

end

/-- What is read back from a field; null where it has no scheme. -/
def fieldContent (field : Field Scheme) : Json := (field.value.map readBack).getD .null

theorem copiesReadBack_eq_map (copies : List Scheme) :
    copiesReadBack copies = copies.map readBack := by
  induction copies with
  | nil => rfl
  | cons copy rest ih => simp only [copiesReadBack, ih, List.map_cons]

theorem fieldsReadBack_eq_map (fields : List (Field Scheme)) :
    fieldsReadBack fields = fields.map fun field => (field.key, fieldContent field) := by
  induction fields with
  | nil => rfl
  | cons field rest ih =>
    obtain ⟨key, value⟩ := field
    cases value <;> simp [fieldsReadBack, ih, fieldContent]

section Equations
variable (label : Label) (path : Option Text)

@[simp] theorem readBack_string (reading : Reading) (content : Json) :
    (string label path reading content).readBack = content := rfl

@[simp] theorem readBack_untyped (items : List Json) (elements : Option (List Scheme)) :
    (list label path none (some items) elements).readBack = .array items := rfl

@[simp] theorem readBack_list (element : Scheme) (content : Option (List Json))
    (copies : List Scheme) :
    (list label path (some element) content (some copies)).readBack =
      .array (copies.map readBack) := by
  rw [readBack, copiesReadBack_eq_map]

@[simp] theorem readBack_object (fields : List (Field Scheme)) :
    (object label fields).readBack =
      .object (Json.putAll (fields.map fun field => (field.key, fieldContent field))) := by
  rw [readBack, fieldsReadBack_eq_map]

end Equations

/-! ### Fields by key -/

theorem lookup_fields {α : Type} (content : Field Scheme → α) (fields : List (Field Scheme))
    (key : Text) :
    Json.lookup key (fields.map fun field => (field.key, content field)) =
      (fields.find? fun field => field.key = key).map content := by
  induction fields with
  | nil => rfl
  | cons field rest ih =>
    rw [List.map_cons, Json.lookup, List.find?_cons]
    by_cases same : field.key = key
    · simp [same]
    · simp [same, ih]

theorem exists_lastField {fields : List (Field Scheme)} {key : Text}
    (listed : key ∈ fields.map Field.key) :
    ∃ field, lastField key fields = some field ∧ field.key = key := by
  obtain ⟨field, member, same⟩ := List.mem_map.mp listed
  have found : (lastField key fields).isSome := by
    rw [lastField, List.find?_isSome]
    exact ⟨field, List.mem_reverse.mpr member, by simpa using same⟩
  obtain ⟨last, is_last⟩ := Option.isSome_iff_exists.mp found
  exact ⟨last, is_last, by simpa using List.find?_some is_last⟩

/-- For a key, the content of the last field with the key is read back. -/
theorem lookup_readBack {fields : List (Field Scheme)} {field : Field Scheme} {key : Text}
    (content : Json) (is_last : lastField key fields = some field) :
    Json.lookup key (fields.map fun field =>
      (field.key, fieldContent (fieldPopulated .perElement content field))).reverse =
      some (fieldContent (fieldPopulated .perElement content field)) := by
  rw [← List.map_reverse, lookup_fields]
  exact congrArg (Option.map _) is_last

/-! ### Reading back what a scheme was populated with -/

theorem readBack_populated {scheme : Scheme} {content : Json} (shaped : scheme.HasShape content) :
    (scheme.populated .perElement content).readBack = content := by
  induction shaped with
  | string => rfl
  | untyped => rfl
  | @list label path element old elements items _ ih =>
    have each : items.map (readBack ∘ element.populated .perElement) = items.map id :=
      List.map_congr_left ih
    rw [populated_list, copies, readBack_list, Json.items, List.map_map, each, List.map_id]
  | @object label fields members keys _ nulls ih =>
    have distinct : (members.map Prod.fst).Nodup := by
      rw [keys]
      exact Json.nodup_eraseDups _
    rw [populated_object, readBack_object, List.map_map]
    congr 1
    apply Json.putAll_eq
    · rw [keys, List.map_map]
      rfl
    · rintro ⟨key, value⟩ listed
      have has_key : key ∈ fields.map Field.key := by
        rw [← List.mem_eraseDups]
        exact keys ▸ List.mem_map_of_mem listed
      obtain ⟨field, is_last, same_key⟩ := exists_lastField has_key
      have is_scheme : (Scheme.object label fields).get key = field.value := by
        rw [get, is_last, Option.bind_some]
      have held : (Json.object members).get? key = some value :=
        Json.lookup_of_mem distinct listed
      -- The last field with the key was populated with the value of the key.
      have back : fieldContent (fieldPopulated .perElement (.object members) field) = value := by
        cases given : field.value with
        | none =>
          have null : value = .null := nulls _ listed (is_scheme.trans given)
          simp [fieldContent, fieldPopulated, Field.map, given, null]
        | some scheme =>
          have shown := ih _ listed scheme (is_scheme.trans given)
          simp [fieldContent, fieldPopulated, Field.map, given, populatedFrom, same_key, held,
            shown]
      exact (lookup_readBack (.object members) is_last).trans (congrArg some back)

/-- A valid scheme that is populated with content of its shape, with a copy for each item, holds all
of it; so it does with what it reads from a page. -/
theorem readBack_populate {scheme : Scheme} (valid : scheme.Valid) :
    (∀ content, scheme.HasShape content →
      ∃ filled, scheme.populate .perElement content = .ok filled ∧ filled.readBack = content) ∧
    ∀ source url content, extract scheme source url = .ok content →
      ∃ filled, scheme.populate .perElement content = .ok filled ∧ filled.readBack = content := by
  have kept : ∀ content, scheme.HasShape content →
      ∃ filled, scheme.populate .perElement content = .ok filled ∧ filled.readBack = content :=
    fun content shaped => ⟨_, valid.populate_eq .perElement content, readBack_populated shaped⟩
  refine ⟨kept, ?_⟩
  intro source url content extracted
  obtain ⟨page, -, ran⟩ := bind_eq_ok.mp extracted
  exact kept content (Extraction.conforms_of_one ran).hasShape

def rosterName (content : Json) : Scheme :=
  .string {} (some (Text.ofString "b")) .innerHtml content

/-- A name with a note. An earlier field for the name is an object that was populated before. -/
def rosterEntry : Scheme :=
  .object {} [⟨Text.ofString "name", some (.object {} [⟨Text.ofString "first",
      some (rosterName (.int 1))⟩])⟩,
    ⟨Text.ofString "note", none⟩, ⟨Text.ofString "name", some (rosterName .null)⟩]

def roster : Scheme :=
  .list {} none (some rosterEntry) (some [.null]) (some [rosterName .null])

def rosterRow (name : Json) : Json := .ofMembers [("name", name), ("note", .null)]

/-- Names of which one is what the earlier field is for. -/
def givenNames : Json := .array [rosterRow (.ofMembers [("first", .int 2)]), rosterRow .null]

def namesPage : Source := .bytes (Utf8.encode "<b>x</b><b>y")

def namesNodes : Page :=
  ⟨[], .element "html" [] [.element "body" [] [.element "b" [] [.text "x"],
    .element "b" [] [.text "y"]]], []⟩

def namesRead : Json := .array [rosterRow (.ofString "x"), rosterRow (.ofString "y")]

theorem hasShape_rosterRow (name : Json) : rosterEntry.HasShape (rosterRow name) := by
  have keys : rosterEntry.keys.eraseDups = [Text.ofString "name", Text.ofString "note"] := by decide
  have of_name : rosterEntry.get (Text.ofString "name") = some (rosterName .null) := rfl
  have of_note : rosterEntry.get (Text.ofString "note") = none := rfl
  apply Shaped.object
  · exact keys.symm
  · rintro member listed scheme found
    rcases List.mem_pair.mp listed with rfl | rfl
    · obtain rfl := Option.some_inj.mp (of_name.symm.trans found)
      exact .string trivial
    · cases of_note.symm.trans found
  · rintro member listed missing
    rcases List.mem_pair.mp listed with rfl | rfl
    · cases of_name.symm.trans missing
    · rfl

set_option maxRecDepth 8192 in
theorem extract_roster : extract roster namesPage [] = .ok namesRead := by
  have read : Page.read namesPage = .ok namesNodes := by rfl
  have ran : Extraction.one [] roster namesNodes.rootPlace = .ok namesRead := rfl
  exact bind_eq_ok.mpr ⟨namesNodes, read, ran⟩

/-- Names that are given and names that are read from a page are read back, without what the roster
held before. -/
theorem roster_read_back :
    roster.Valid ∧
      (roster.HasShape givenNames ∧
        ∃ filled, roster.populate .perElement givenNames = .ok filled ∧
          filled.readBack = givenNames) ∧
      extract roster namesPage [] = .ok namesRead ∧
        ∃ filled, roster.populate .perElement namesRead = .ok filled ∧
          filled.readBack = namesRead := by
  have valid : roster.Valid := by simp [roster, rosterEntry, rosterName]
  have shaped : roster.HasShape givenNames := by
    have each : ∀ item ∈ givenNames.items, rosterEntry.HasShape item := by
      simp [givenNames, Json.items, hasShape_rosterRow]
    exact .list each
  obtain ⟨of_shape, of_page⟩ := readBack_populate valid
  exact ⟨valid, ⟨shaped, of_shape _ shaped⟩, extract_roster, of_page _ _ _ extract_roster⟩

end PageScheme.Scheme
