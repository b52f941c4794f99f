import PageScheme.Proofs.Scheme.Valid
import PageScheme.Scheme.Rebase

/-!
# Rebasing as a plain function

Rebasing can only fail at a foreign node, so on a valid scheme it is a plain function: `rebased` for
a whole scheme and `rebasedOnto` for what lies below a list. Each has one equation for each kind of
node, and `Valid.rebase_eq` and `Valid.rebaseOnto_eq` say that they are what the pass computes.
-/
namespace PageScheme.Scheme

/-- A path expressed from a path above it; one that is not given stays as it is. -/
def pathOnto (parent : Text) (path : Option Text) : Option Text :=
  match given path with
  | some own => some (Path.relativeTo own parent)
  | none => path

mutual

/-- A scheme with its paths, and those below it, expressed from a path above it. -/
def rebasedOnto (parent : Text) : Scheme → Scheme
  | string label path reading content => string label (pathOnto parent path) reading content
  | list label path element content elements =>
    match given path with
    | some own =>
      let element :=
        match element with
        | some element => some (element.rebasedOnto own)
        | none => none
      let elements :=
        match elements with
        | some elements => some (itemsRebasedOnto own elements)
        | none => none
      list label (some (Path.relativeTo own parent)) element content elements
    | none => list label path element content elements
  | object label fields => object label (fieldsRebasedOnto parent fields)
  | foreign node => foreign node
termination_by structural scheme => scheme

def itemsRebasedOnto (parent : Text) : List Scheme → List Scheme
  | [] => []
  | scheme :: rest => scheme.rebasedOnto parent :: itemsRebasedOnto parent rest
termination_by structural schemes => schemes

def fieldsRebasedOnto (parent : Text) : List (Field Scheme) → List (Field Scheme)
  | [] => []
  | ⟨key, value⟩ :: rest =>
    let value :=
      match value with
      | some value => some (value.rebasedOnto parent)
      | none => none
    ⟨key, value⟩ :: fieldsRebasedOnto parent rest
termination_by structural fields => fields

end

mutual

/-- A scheme in which what lies below a list is expressed from the path of the list. -/
def rebased : Scheme → Scheme
  | list label path (some element) content elements =>
    match given path with
    | some own =>
      list label path (some (element.rebasedOnto own)) content
        (elements.map (List.map (rebasedOnto own)))
    | none => list label path (some element) content elements
  | object label fields => object label (fieldsRebased fields)
  | scheme => scheme
termination_by structural scheme => scheme

def fieldsRebased : List (Field Scheme) → List (Field Scheme)
  | [] => []
  | ⟨key, value⟩ :: rest =>
    let value :=
      match value with
      | some value => some value.rebased
      | none => none
    ⟨key, value⟩ :: fieldsRebased rest
termination_by structural fields => fields

end

theorem itemsRebasedOnto_eq_map (parent : Text) (schemes : List Scheme) :
    itemsRebasedOnto parent schemes = schemes.map (rebasedOnto parent) := by
  induction schemes with
  | nil => rfl
  | cons scheme rest ih => simp only [itemsRebasedOnto, ih, List.map_cons]

theorem fieldsRebasedOnto_eq_map (parent : Text) (fields : List (Field Scheme)) :
    fieldsRebasedOnto parent fields = fields.map (Field.map (rebasedOnto parent)) := by
  induction fields with
  | nil => rfl
  | cons field rest ih =>
    obtain ⟨key, value⟩ := field
    cases value <;> simp [fieldsRebasedOnto, ih, Field.map]

theorem fieldsRebased_eq_map (fields : List (Field Scheme)) :
    fieldsRebased fields = fields.map (Field.map rebased) := by
  induction fields with
  | nil => rfl
  | cons field rest ih =>
    obtain ⟨key, value⟩ := field
    cases value <;> simp [fieldsRebased, ih, Field.map]

section Equations
variable (parent : Text) (label : Label) (path : Option Text)

@[simp] theorem rebasedOnto_string (reading : Reading) (content : Json) :
    (string label path reading content).rebasedOnto parent =
      string label (pathOnto parent path) reading content := rfl

/-- What lies below a list is expressed from the path that the list had before. -/
theorem rebasedOnto_list (element : Option Scheme) (content : Option (List Json))
    (elements : Option (List Scheme)) {own : Text} (is_given : given path = some own) :
    (list label path element content elements).rebasedOnto parent =
      list label (some (Path.relativeTo own parent)) (element.map (rebasedOnto own)) content
        (elements.map (List.map (rebasedOnto own))) := by
  simp only [rebasedOnto, is_given]
  cases element <;> cases elements <;> simp [itemsRebasedOnto_eq_map]

theorem rebasedOnto_list_of_none (element : Option Scheme) (content : Option (List Json))
    (elements : Option (List Scheme)) (absent : given path = none) :
    (list label path element content elements).rebasedOnto parent =
      list label path element content elements := by
  simp only [rebasedOnto, absent]

@[simp] theorem rebasedOnto_object (fields : List (Field Scheme)) :
    (object label fields).rebasedOnto parent =
      object label (fields.map (Field.map (rebasedOnto parent))) := by
  rw [rebasedOnto, fieldsRebasedOnto_eq_map]

@[simp] theorem rebased_string (reading : Reading) (content : Json) :
    (string label path reading content).rebased = string label path reading content := rfl

theorem rebased_list (element : Scheme) (content : Option (List Json))
    (elements : Option (List Scheme)) {own : Text} (is_given : given path = some own) :
    (list label path (some element) content elements).rebased =
      list label path (some (element.rebasedOnto own)) content
        (elements.map (List.map (rebasedOnto own))) := by
  simp only [rebased, is_given]

theorem rebased_list_of_none (element : Option Scheme) (content : Option (List Json))
    (elements : Option (List Scheme)) (absent : given path = none) :
    (list label path element content elements).rebased =
      list label path element content elements := by
  cases element <;> simp only [rebased, absent]

@[simp] theorem rebased_untyped (content : Option (List Json)) (elements : Option (List Scheme)) :
    (list label path none content elements).rebased = list label path none content elements := rfl

@[simp] theorem rebased_object (fields : List (Field Scheme)) :
    (object label fields).rebased = object label (fields.map (Field.map rebased)) := by
  rw [rebased, fieldsRebased_eq_map]

end Equations

/-! ### Rebasing computes it -/

theorem rebaseItems_eq {parent : Text} {schemes : List Scheme}
    (each : ∀ scheme ∈ schemes, scheme.rebaseOnto parent = .ok (scheme.rebasedOnto parent)) :
    rebaseItems parent schemes = .ok (schemes.map (rebasedOnto parent)) := by
  induction schemes with
  | nil => rfl
  | cons scheme rest ih =>
    have tail := ih fun other member => each other (List.mem_cons_of_mem _ member)
    simp only [rebaseItems, each scheme List.mem_cons_self, tail]
    rfl

theorem rebaseFieldsOnto_eq {parent : Text} {fields : List (Field Scheme)}
    (each : ∀ field ∈ fields, ∀ scheme ∈ field.value,
      scheme.rebaseOnto parent = .ok (scheme.rebasedOnto parent)) :
    rebaseFieldsOnto parent fields = .ok (fields.map (Field.map (rebasedOnto parent))) := by
  induction fields with
  | nil => rfl
  | cons field rest ih =>
    have tail := ih fun other member => each other (List.mem_cons_of_mem _ member)
    obtain ⟨key, value⟩ := field
    cases value with
    | none => simp only [rebaseFieldsOnto, tail]; rfl
    | some value =>
      have head := each ⟨key, some value⟩ List.mem_cons_self value rfl
      simp only [rebaseFieldsOnto, head, tail]
      rfl

theorem rebaseFields_eq {fields : List (Field Scheme)}
    (each : ∀ field ∈ fields, ∀ scheme ∈ field.value, scheme.rebase = .ok scheme.rebased) :
    rebaseFields fields = .ok (fields.map (Field.map rebased)) := by
  induction fields with
  | nil => rfl
  | cons field rest ih =>
    have tail := ih fun other member => each other (List.mem_cons_of_mem _ member)
    obtain ⟨key, value⟩ := field
    cases value with
    | none => simp only [rebaseFields, tail]; rfl
    | some value =>
      have head := each ⟨key, some value⟩ List.mem_cons_self value rfl
      simp only [rebaseFields, head, tail]
      rfl

theorem Valid.rebaseOnto_eq {scheme : Scheme} (valid : scheme.Valid) (parent : Text) :
    scheme.rebaseOnto parent = .ok (scheme.rebasedOnto parent) := by
  -- The parent changes at every list, so it is generalized.
  induction valid generalizing parent with
  | @string label path reading content =>
    simp only [rebaseOnto, rebasedOnto_string, pathOnto]
    cases given path <;> rfl
  | @list label path element content elements _ _ element_ih elements_ih =>
    cases found : given path with
    | none => simp only [rebaseOnto, rebasedOnto_list_of_none _ _ _ _ _ _ found, found]
    | some own =>
      -- The element scheme and the copies are there or not, and are expressed from the same path.
      rw [rebasedOnto_list _ _ _ _ _ _ found]
      simp only [rebaseOnto, found]
      cases element with
      | none =>
        cases elements with
        | none => rfl
        | some schemes =>
          simp only [rebaseItems_eq fun scheme member => elements_ih schemes rfl scheme member own]
          rfl
      | some element =>
        simp only [element_ih element rfl own]
        cases elements with
        | none => rfl
        | some schemes =>
          simp only [rebaseItems_eq fun scheme member => elements_ih schemes rfl scheme member own]
          rfl
  | object _ ih =>
    simp only [rebaseOnto, rebasedOnto_object]
    rw [rebaseFieldsOnto_eq fun field member scheme is_value =>
      ih field member scheme is_value parent]
    rfl

theorem Valid.rebase_eq {scheme : Scheme} (valid : scheme.Valid) :
    scheme.rebase = .ok scheme.rebased := by
  induction valid with
  | string => rfl
  | @list label path element content elements element_valid elements_valid =>
    cases element with
    | none => rfl
    | some element =>
      cases found : given path with
      | none => simp only [rebase, rebased_list_of_none _ _ _ _ _ found, found]
      | some own =>
        rw [rebased_list _ _ _ _ _ found]
        simp only [rebase, found, (element_valid element rfl).rebaseOnto_eq]
        cases elements with
        | none => rfl
        | some schemes =>
          simp only [rebaseItems_eq fun scheme member =>
            (elements_valid schemes rfl scheme member).rebaseOnto_eq own]
          rfl
  | object _ ih =>
    simp only [rebase, rebased_object, rebaseFields_eq ih]
    rfl

theorem Valid.rebasedOnto {scheme : Scheme} (valid : scheme.Valid) (parent : Text) :
    (scheme.rebasedOnto parent).Valid := by
  induction valid generalizing parent with
  | string => exact .string
  | @list label path element content elements element_valid elements_valid element_ih elements_ih =>
    cases found : given path with
    | none =>
      rw [rebasedOnto_list_of_none _ _ _ _ _ _ found]
      exact .list element_valid elements_valid
    | some own =>
      rw [rebasedOnto_list _ _ _ _ _ _ found]
      constructor
      · intro scheme member
        obtain ⟨old, old_eq, rfl⟩ := Option.map_eq_some_iff.mp member
        exact element_ih old old_eq own
      · apply valid_copies_map
        intro schemes listed scheme member
        exact elements_ih schemes listed scheme member own
  | object _ ih =>
    rw [rebasedOnto_object]
    apply valid_object_map
    intro field member scheme is_value
    exact ih field member scheme is_value parent

theorem Valid.rebased {scheme : Scheme} (valid : scheme.Valid) : scheme.rebased.Valid := by
  induction valid with
  | string => exact .string
  | @list label path element content elements element_valid elements_valid =>
    cases element with
    | none => exact .list (by simp) elements_valid
    | some element =>
      cases found : given path with
      | none =>
        rw [rebased_list_of_none _ _ _ _ _ found]
        exact .list element_valid elements_valid
      | some own =>
        rw [rebased_list _ _ _ _ _ found]
        constructor
        · simpa using (element_valid element rfl).rebasedOnto own
        · apply valid_copies_map
          intro schemes listed scheme member
          exact (elements_valid schemes listed scheme member).rebasedOnto own
  | object _ ih =>
    rw [rebased_object]
    exact valid_object_map ih

end PageScheme.Scheme
