import PageScheme.Proofs.Scheme.Position

/-!
# What rebasing changes

The outline of a scheme is what is left of it without its paths. Rebasing keeps the outline, so it
can change nothing but paths. Which paths it changes, and to what, depends on the lists above them:
`rebase_changes_paths` says that the path at a position is expressed from its basis where it has
one, and stays as it is everywhere else.
-/
namespace PageScheme.Scheme

mutual

/-- A scheme without its paths. -/
def outline : Scheme → Scheme
  | string label _ reading content => string label none reading content
  | list label _ element content elements =>
    let element :=
      match element with
      | some element => some element.outline
      | none => none
    let elements :=
      match elements with
      | some elements => some (itemsOutline elements)
      | none => none
    list label none element content elements
  | object label fields => object label (fieldsOutline fields)
  | foreign node => foreign node
termination_by structural scheme => scheme

def itemsOutline : List Scheme → List Scheme
  | [] => []
  | scheme :: rest => scheme.outline :: itemsOutline rest
termination_by structural schemes => schemes

def fieldsOutline : List (Field Scheme) → List (Field Scheme)
  | [] => []
  | ⟨key, value⟩ :: rest =>
    let value :=
      match value with
      | some value => some value.outline
      | none => none
    ⟨key, value⟩ :: fieldsOutline rest
termination_by structural fields => fields

end

theorem itemsOutline_eq_map (schemes : List Scheme) :
    itemsOutline schemes = schemes.map outline := by
  induction schemes with
  | nil => rfl
  | cons scheme rest ih => simp only [itemsOutline, ih, List.map_cons]

theorem fieldsOutline_eq_map (fields : List (Field Scheme)) :
    fieldsOutline fields = fields.map (Field.map outline) := by
  induction fields with
  | nil => rfl
  | cons field rest ih =>
    obtain ⟨key, value⟩ := field
    cases value <;> simp [fieldsOutline, ih, Field.map]

section Equations
variable (label : Label) (path : Option Text)

@[simp] theorem outline_string (reading : Reading) (content : Json) :
    (string label path reading content).outline = string label none reading content := rfl

@[simp] theorem outline_list (element : Option Scheme) (content : Option (List Json))
    (elements : Option (List Scheme)) :
    (list label path element content elements).outline =
      list label none (element.map outline) content (elements.map (List.map outline)) := by
  cases element <;> cases elements <;> simp [outline, itemsOutline_eq_map]

@[simp] theorem outline_object (fields : List (Field Scheme)) :
    (object label fields).outline = object label (fields.map (Field.map outline)) := by
  rw [outline, fieldsOutline_eq_map]

@[simp] theorem outline_foreign (node : Foreign) : (foreign node).outline = foreign node := rfl

end Equations

/-! ### The outline is kept -/

theorem outline_rebasedOnto (parent : Text) (scheme : Scheme) :
    (scheme.rebasedOnto parent).outline = scheme.outline := by
  induction scheme generalizing parent with
  | string => rfl
  | list label path element content elements element_ih elements_ih =>
    cases found : given path with
    | none => rw [rebasedOnto_list_of_none _ _ _ _ _ _ found]
    | some own =>
      rw [rebasedOnto_list _ _ _ _ _ _ found, outline_list, outline_list, Option.map_map,
        copies_map_map]
      congr 1
      · exact Option.map_congr fun scheme is_element => element_ih scheme is_element own
      · exact copies_map_congr fun copies listed scheme member =>
          elements_ih copies listed scheme member own
  | object label fields ih =>
    rw [rebasedOnto_object, outline_object, outline_object, fields_map_map]
    congr 1
    apply fields_map_congr
    intro field member scheme is_value
    exact ih field member scheme is_value parent
  | foreign => rfl

theorem outline_rebased (scheme : Scheme) : scheme.rebased.outline = scheme.outline := by
  induction scheme with
  | string => rfl
  | list label path element content elements =>
    cases element with
    | none => rfl
    | some element =>
      cases found : given path with
      | none => rw [rebased_list_of_none _ _ _ _ _ found]
      | some own =>
        rw [rebased_list _ _ _ _ _ found, outline_list, outline_list, Option.map_some,
          Option.map_some, outline_rebasedOnto, copies_map_map]
        congr 1
        exact copies_map_congr fun copies _ scheme _ => outline_rebasedOnto own scheme
  | object label fields ih =>
    rw [rebased_object, outline_object, outline_object, fields_map_map]
    congr 1
    exact fields_map_congr ih
  | foreign => rfl

/-! ### Paths -/

theorem pathOnto_of_given {path : Option Text} {own : Text} (parent : Text)
    (is_given : given path = some own) :
    pathOnto parent path = some (Path.relativeTo own parent) := by
  rw [pathOnto, is_given]

theorem pathOnto_of_none {path : Option Text} (parent : Text) (absent : given path = none) :
    pathOnto parent path = path := by
  rw [pathOnto, absent]

theorem path?_eq_bind (node : Scheme) : node.path? = node.pathField?.bind given := by
  cases node <;> rfl

theorem basis_eq_none_of_path?_eq_none {scheme list : Scheme} {position : Position}
    (member : list ∈ scheme.listsAbove position) (no_path : list.path? = none) :
    scheme.basis position = none := by
  have not_all : (scheme.listsAbove position).all (·.path?.isSome) = false := by
    rw [List.all_eq_false]
    exact ⟨list, member, by simp [no_path]⟩
  simp [basis, not_all]

/-- The path at a position of a rebased scheme is expressed from the basis of the position, if it
has one. -/
theorem pathField?_at?_rebased {scheme node : Scheme} {position : Position}
    (found : scheme.at? position = some node) :
    ∃ new, scheme.rebased.at? position = some new ∧
      (scheme.basis position = none → new.pathField? = node.pathField?) ∧
      ∀ parent, scheme.basis position = some parent →
        new.pathField? = node.pathField?.map (pathOnto parent) := by
  refine ⟨_, by rw [at?_rebased, found, Option.map_some], ?_, ?_⟩
  · intro no_basis
    rw [no_basis]
    split
    · exact pathField?_rebased node
    · rfl
  · intro parent has_basis
    -- There is a basis only below a list.
    have inside : scheme.listsAbove position ≠ [] := by
      intro outside
      rw [basis_eq_none_of_listsAbove outside] at has_basis
      contradiction
    rw [List.isEmpty_eq_false_iff.mpr inside, if_neg Bool.false_ne_true, has_basis]
    exact pathField?_rebasedOnto node parent

/-- Rebasing changes nothing but paths. The path at a position is expressed from the path of the
nearest list above it, as it was before, if the outermost list above the position has an element
scheme and every list above it has a path. All other paths stay as they are, those outside of lists
and below a list without a path among them. -/
theorem rebase_changes_paths {scheme : Scheme} (valid : scheme.Valid) :
    ∃ rebased, scheme.rebase = .ok rebased ∧ rebased.outline = scheme.outline ∧
      ∀ position node, scheme.at? position = some node →
        ∃ new, rebased.at? position = some new ∧
          (∀ own parent, node.path? = some own → scheme.basis position = some parent →
            new.pathField? = some (some (Path.relativeTo own parent))) ∧
          (node.path? = none ∨ scheme.basis position = none →
            new.pathField? = node.pathField?) ∧
          (scheme.listsAbove position = [] → new.pathField? = node.pathField?) ∧
          ∀ list ∈ scheme.listsAbove position, list.path? = none →
            new.pathField? = node.pathField? := by
  refine ⟨scheme.rebased, valid.rebase_eq, outline_rebased scheme, ?_⟩
  intro position node found
  obtain ⟨new, new_found, kept, expressed⟩ := pathField?_at?_rebased found
  refine ⟨new, new_found, ?_, ?_, ?_, ?_⟩
  · intro own parent has_path has_basis
    rw [path?_eq_bind] at has_path
    obtain ⟨path, field, is_given⟩ := Option.bind_eq_some_iff.mp has_path
    rw [expressed parent has_basis, field, Option.map_some, pathOnto_of_given parent is_given]
  · rintro (no_path | no_basis)
    · cases has_basis : scheme.basis position with
      | none => exact kept has_basis
      | some parent =>
        rw [expressed parent has_basis]
        -- A path that is absent or empty is not expressed from another one.
        cases field : node.pathField? with
        | none => rfl
        | some path =>
          rw [path?_eq_bind, field, Option.bind_some] at no_path
          rw [Option.map_some, pathOnto_of_none parent no_path]
    · exact kept no_basis
  · exact fun outside => kept (basis_eq_none_of_listsAbove outside)
  · exact fun list member no_path => kept (basis_eq_none_of_path?_eq_none member no_path)

def shelfLeaf (path : String) : Scheme :=
  string {} (some (Text.ofString path)) .innerHtml .null

/-- A list of objects with a list that has a path and one that has none. -/
def mixedShelf : Scheme :=
  list {} (some (Text.ofString "ul > li")) (some (object {}
    [⟨Text.ofString "loose", some (list {} none (some (shelfLeaf "ul > li > i")) none none)⟩,
      ⟨Text.ofString "inner", some (list {} (some (Text.ofString "ul > li > ol > li"))
        (some (shelfLeaf "ul > li > ol > li > a:nth-of-type(2)")) none none)⟩])) none none

/-- Below the list with a path, a path is expressed from the path that this list had before. Below
the other one it stays. -/
theorem mixedShelf_paths :
    mixedShelf.Valid ∧ ∃ rebased, mixedShelf.rebase = .ok rebased ∧
      rebased.outline = mixedShelf.outline ∧
      (∃ new, rebased.at? [.element, .field 1, .element] = some new ∧
        new.pathField? = some (some (Text.ofString "a"))) ∧
      ∃ new, rebased.at? [.element, .field 0, .element] = some new ∧
        new.pathField? = some (some (Text.ofString "ul > li > i")) := by
  have valid : mixedShelf.Valid := by simp [mixedShelf, shelfLeaf]
  obtain ⟨rebased, rebased_eq, same_outline, paths⟩ := rebase_changes_paths valid
  obtain ⟨inner, inner_found, inner_path, -⟩ := paths [.element, .field 1, .element] _ rfl
  obtain ⟨loose, loose_found, -, -, -, loose_path⟩ := paths [.element, .field 0, .element] _ rfl
  have expressed : Path.relativeTo (Text.ofString "ul > li > ol > li > a:nth-of-type(2)")
      (Text.ofString "ul > li > ol > li") = Text.ofString "a" := by decide +kernel
  rw [← expressed]
  exact ⟨valid, rebased, rebased_eq, same_outline, ⟨inner, inner_found, inner_path _ _ rfl rfl⟩,
    loose, loose_found, loose_path _ (List.mem_of_getElem? (i := 1) rfl) rfl⟩

end PageScheme.Scheme
