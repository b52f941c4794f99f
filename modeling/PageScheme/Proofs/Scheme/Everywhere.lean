import PageScheme.Proofs.Scheme.Position

/-!
# What holds at every node

A property of nodes holds everywhere in a scheme if it holds at all positions, those in the copies
of element schemes included. It has one equation for each kind of node, and so has a property of all
content.
-/
namespace PageScheme.Scheme

/-- The copies that a list has of its element scheme. -/
def copies? : Scheme → Option (List Scheme)
  | list _ _ _ _ copies => copies
  | _ => none

/-- A property of nodes holds at every position of a scheme. -/
def Everywhere (holds : Scheme → Prop) (scheme : Scheme) : Prop :=
  ∀ position, ∀ node ∈ scheme.at? position, holds node

section Equations
variable {holds : Scheme → Prop} {label : Label}

theorem Everywhere.here {scheme : Scheme} (everywhere : scheme.Everywhere holds) : holds scheme :=
  everywhere [] scheme rfl

theorem Everywhere.child {scheme child : Scheme} {branch : Branch}
    (everywhere : scheme.Everywhere holds) (leads : scheme.child? branch = some child) :
    child.Everywhere holds := by
  intro position node found
  apply everywhere (branch :: position)
  rw [at?_cons_of_child position leads]
  exact found

/-- A property holds everywhere if it holds at the node and everywhere below it. -/
theorem everywhere_iff {scheme : Scheme} :
    scheme.Everywhere holds ↔ holds scheme ∧
      ∀ branch child, scheme.child? branch = some child → child.Everywhere holds := by
  constructor
  · intro everywhere
    exact ⟨everywhere.here, fun branch child leads => everywhere.child leads⟩
  · rintro ⟨here, below⟩ position node found
    cases position with
    | nil =>
      obtain rfl := Option.some_inj.mp found
      exact here
    | cons branch rest =>
      obtain ⟨child, leads, inside⟩ := at?_cons_eq_some.mp found
      exact below branch child leads rest node inside

@[simp] theorem everywhere_string {path : Option Text} {reading : Reading} {content : Json} :
    (string label path reading content).Everywhere holds ↔
      holds (string label path reading content) := by
  rw [everywhere_iff]
  simp [child?]

@[simp] theorem everywhere_foreign {node : Foreign} :
    (foreign node).Everywhere holds ↔ holds (foreign node) := by
  rw [everywhere_iff]
  simp [child?]

theorem everywhere_list {path : Option Text} {element : Option Scheme}
    {content : Option (List Json)} {elements : Option (List Scheme)} :
    (list label path element content elements).Everywhere holds ↔
      holds (list label path element content elements) ∧
        (∀ scheme ∈ element, scheme.Everywhere holds) ∧
          ∀ schemes ∈ elements, ∀ scheme ∈ schemes, scheme.Everywhere holds := by
  rw [everywhere_iff, forall_child?_list]

theorem everywhere_object {fields : List (Field Scheme)} :
    (object label fields).Everywhere holds ↔
      holds (object label fields) ∧
        ∀ field ∈ fields, ∀ scheme ∈ field.value, scheme.Everywhere holds := by
  rw [everywhere_iff, forall_child?_object]

end Equations

/-! ### Content -/

/-- What a node itself holds of a page: the content of a string, or the items of a list. -/
def contents : Scheme → List Json
  | string _ _ _ content => [content]
  | list _ _ _ content _ => content.getD []
  | _ => []

/-- Whatever a scheme holds of a page, at any of its nodes, has a property. -/
def EveryContent (holds : Json → Prop) : Scheme → Prop :=
  Everywhere fun node => ∀ content ∈ node.contents, holds content

section Content
variable {holds : Json → Prop} {label : Label}

@[simp] theorem everyContent_string {path : Option Text} {reading : Reading} {content : Json} :
    (string label path reading content).EveryContent holds ↔ holds content := by
  simp [EveryContent, contents]

theorem everyContent_list {path : Option Text} {element : Option Scheme}
    {content : Option (List Json)} {elements : Option (List Scheme)} :
    (list label path element content elements).EveryContent holds ↔
      (∀ items ∈ content, ∀ item ∈ items, holds item) ∧
        (∀ scheme ∈ element, scheme.EveryContent holds) ∧
          ∀ schemes ∈ elements, ∀ scheme ∈ schemes, scheme.EveryContent holds := by
  rw [EveryContent, everywhere_list]
  apply and_congr_left'
  cases content <;> simp [contents]

theorem everyContent_object {fields : List (Field Scheme)} :
    (object label fields).EveryContent holds ↔
      ∀ field ∈ fields, ∀ scheme ∈ field.value, scheme.EveryContent holds := by
  rw [EveryContent, everywhere_object]
  simp [contents]

end Content
end PageScheme.Scheme
