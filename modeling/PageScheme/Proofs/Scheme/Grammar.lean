import PageScheme.Proofs.Scheme.Attributes

/-!
# The grammar of schemes

`IsScheme` says which JSON values are schemes, without a word on how that is found out. An attribute
is absent, null or of its sort; only the mode of a string and the fields of an object cannot be
null. No node has any other keys. Nodes lie in each other only as deep as there is room: each leaves
the nodes right below it one level less.
-/
namespace PageScheme.Scheme

/-- What may be said of an attribute in some members: nothing, null, or something of a sort. -/
def Optionally (name : String) (sort : Json → Prop) (members : List (Text × Json)) : Prop :=
  ∀ value, valueOf name members = some value → value ≠ .null → sort value

/-- What may be said of an attribute that cannot be null. -/
def WhereGiven (name : String) (sort : Json → Prop) (members : List (Text × Json)) : Prop :=
  ∀ value, valueOf name members = some value → sort value

def IsReading (value : Json) : Prop := value = .ofString "INNER_HTML" ∨ value = .ofString "SRC"

def IsArray (value : Json) : Prop := ∃ items, value = .array items

def IsTagged (tag : String) (members : List (Text × Json)) : Prop :=
  valueOf "type" members = some (.ofString tag)

mutual

/-- A value is a scheme of which at most `room` nodes lie in each other. -/
inductive IsScheme : Nat → Json → Prop
  | string {room : Nat} {members : List (Text × Json)} :
      IsTagged "STRING" members →
      Optionally "url" Json.IsText members → Optionally "name" Json.IsText members →
      Optionally "path" Json.IsText members → WhereGiven "mode" IsReading members →
      Known ["url", "name", "type", "path", "mode", "content"] members →
      IsScheme (room + 1) (.object members)
  | list {room : Nat} {members : List (Text × Json)} :
      IsTagged "LIST" members →
      Optionally "url" Json.IsText members → Optionally "name" Json.IsText members →
      Optionally "path" Json.IsText members →
      Optionally "element_scheme" (IsScheme room) members →
      Optionally "content" IsArray members →
      Optionally "element_schemes" (AreSchemes room) members →
      Known ["url", "name", "type", "path", "element_scheme", "content", "element_schemes"]
        members →
      IsScheme (room + 1) (.object members)
  | object {room : Nat} {members : List (Text × Json)} :
      IsTagged "OBJECT" members →
      Optionally "url" Json.IsText members → Optionally "name" Json.IsText members →
      WhereGiven "fields" (AreFields room) members →
      Known ["url", "name", "type", "fields"] members →
      IsScheme (room + 1) (.object members)

inductive AreSchemes : Nat → Json → Prop
  | array {room : Nat} {items : List Json} :
      (∀ item ∈ items, IsScheme room item) → AreSchemes room (.array items)

inductive AreFields : Nat → Json → Prop
  | array {room : Nat} {items : List Json} :
      (∀ item ∈ items, IsField room item) → AreFields room (.array items)

/-- A value is a field: a key with a scheme or without one. -/
inductive IsField : Nat → Json → Prop
  | object {room : Nat} {members : List (Text × Json)} :
      (∃ key, valueOf "key" members = some (.string key)) →
      Optionally "value" (IsScheme room) members → Known ["key", "value"] members →
      IsField room (.object members)

end

section Nodes
variable {room : Nat} {members : List (Text × Json)}

theorem whereGiven_iff {name : String} {sort : Json → Prop} {value : Json}
    (found : valueOf name members = some value) : WhereGiven name sort members ↔ sort value := by
  constructor
  · intro holds
    exact holds value found
  · intro holds other other_found
    cases found.symm.trans other_found
    exact holds

theorem whereGiven_of_absent {name : String} {sort : Json → Prop}
    (absent : valueOf name members = none) :
    WhereGiven name sort members := by
  intro value found
  cases absent.symm.trans found

theorem areSchemes_iff {value : Json} :
    AreSchemes room value ↔
      ∃ items, value = .array items ∧ ∀ item ∈ items, IsScheme room item := by
  constructor
  · rintro ⟨each⟩
    exact ⟨_, rfl, each⟩
  · rintro ⟨items, rfl, each⟩
    exact .array each

theorem areFields_iff {value : Json} :
    AreFields room value ↔
      ∃ items, value = .array items ∧ ∀ item ∈ items, IsField room item := by
  constructor
  · rintro ⟨each⟩
    exact ⟨_, rfl, each⟩
  · rintro ⟨items, rfl, each⟩
    exact .array each

theorem IsTagged.unique {tag other : String} (tagged : IsTagged tag members)
    (too : IsTagged other members) : tag = other :=
  Text.ofString_injective (Json.string.inj (Option.some_inj.mp (tagged.symm.trans too)))

/-- Every scheme has the tag of a kind. -/
theorem exists_tag (is_scheme : IsScheme room (.object members)) :
    ∃ kind : Kind, IsTagged kind.name members := by
  cases is_scheme with
  | string tagged => exact ⟨.string, tagged⟩
  | list tagged => exact ⟨.list, tagged⟩
  | object tagged => exact ⟨.object, tagged⟩

theorem isScheme_string (tagged : IsTagged "STRING" members) :
    IsScheme (room + 1) (.object members) ↔
      ((Optionally "url" Json.IsText members ∧ Optionally "name" Json.IsText members) ∧
        Optionally "path" Json.IsText members) ∧ WhereGiven "mode" IsReading members ∧
          Known stringKeys members := by
  constructor
  · intro is_scheme
    cases is_scheme with
    | string _ url name path mode known => exact ⟨⟨⟨url, name⟩, path⟩, mode, known⟩
    | list too => exact absurd (tagged.unique too) (by decide)
    | object too => exact absurd (tagged.unique too) (by decide)
  · rintro ⟨⟨⟨url, name⟩, path⟩, mode, known⟩
    exact .string tagged url name path mode known

theorem isScheme_list (tagged : IsTagged "LIST" members) :
    IsScheme (room + 1) (.object members) ↔
      ((Optionally "url" Json.IsText members ∧ Optionally "name" Json.IsText members) ∧
        Optionally "path" Json.IsText members) ∧
          Optionally "element_scheme" (IsScheme room) members ∧
            Optionally "content" IsArray members ∧
              Optionally "element_schemes" (AreSchemes room) members ∧ Known listKeys members := by
  constructor
  · intro is_scheme
    cases is_scheme with
    | string too => exact absurd (tagged.unique too) (by decide)
    | list _ url name path element content elements known =>
      exact ⟨⟨⟨url, name⟩, path⟩, element, content, elements, known⟩
    | object too => exact absurd (tagged.unique too) (by decide)
  · rintro ⟨⟨⟨url, name⟩, path⟩, element, content, elements, known⟩
    exact .list tagged url name path element content elements known

theorem isScheme_object (tagged : IsTagged "OBJECT" members) :
    IsScheme (room + 1) (.object members) ↔
      (Optionally "url" Json.IsText members ∧ Optionally "name" Json.IsText members) ∧
        WhereGiven "fields" (AreFields room) members ∧ Known objectKeys members := by
  constructor
  · intro is_scheme
    cases is_scheme with
    | string too => exact absurd (tagged.unique too) (by decide)
    | list too => exact absurd (tagged.unique too) (by decide)
    | object _ url name fields known => exact ⟨⟨url, name⟩, fields, known⟩
  · rintro ⟨⟨url, name⟩, fields, known⟩
    exact .object tagged url name fields known

theorem not_isScheme_zero {value : Json} : ¬ IsScheme 0 value := nofun

end Nodes

end PageScheme.Scheme
