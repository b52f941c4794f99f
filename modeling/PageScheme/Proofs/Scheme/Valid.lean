import PageScheme.Scheme.Basic

/-!
# Valid schemes

A scheme is valid if none of its nodes is foreign. Every scheme that is read from a document is, and
the passes over a scheme can only fail at a foreign node.
-/
namespace PageScheme

namespace Field

variable {σ τ υ : Type}

def map (f : σ → τ) (field : Field σ) : Field τ := ⟨field.key, field.value.map f⟩

@[simp] theorem map_id : map (id : σ → σ) = id := by
  funext field
  simp [map]

@[simp] theorem map_map (f : σ → τ) (g : τ → υ) (field : Field σ) :
    (field.map f).map g = field.map (g ∘ f) := by
  simp [map]

theorem map_congr {f g : σ → τ} {field : Field σ}
    (each : ∀ value ∈ field.value, f value = g value) :
    field.map f = field.map g := by
  rw [map, map, Option.map_congr each]

end Field

namespace Scheme

/-- Induction over a scheme, with one hypothesis for all schemes directly below a node. -/
@[induction_eliminator]
theorem induction {motive : Scheme → Prop}
    (string : ∀ label path reading content, motive (.string label path reading content))
    (list : ∀ label path element content elements,
      (∀ scheme ∈ element, motive scheme) →
      (∀ schemes ∈ elements, ∀ scheme ∈ schemes, motive scheme) →
      motive (.list label path element content elements))
    (object : ∀ label fields,
      (∀ field ∈ fields, ∀ scheme ∈ field.value, motive scheme) → motive (.object label fields))
    (foreign : ∀ node, motive (.foreign node)) (scheme : Scheme) : motive scheme := by
  refine @Scheme.rec motive (fun element => ∀ scheme ∈ element, motive scheme)
    (fun elements => ∀ schemes ∈ elements, ∀ scheme ∈ schemes, motive scheme)
    (fun fields => ∀ field ∈ fields, ∀ scheme ∈ field.value, motive scheme)
    (fun schemes => ∀ scheme ∈ schemes, motive scheme)
    (fun field => ∀ scheme ∈ field.value, motive scheme)
    string list object foreign ?_ ?_ ?_ ?_ ?_ ?_ ?_ ?_ ?_ scheme
  all_goals simp_all

/-- No node of a scheme is foreign. -/
inductive Valid : Scheme → Prop
  | string {label path reading content} : Valid (.string label path reading content)
  | list {label path element content elements} :
      (∀ scheme ∈ element, Valid scheme) →
        (∀ schemes ∈ elements, ∀ scheme ∈ schemes, Valid scheme) →
      Valid (.list label path element content elements)
  | object {label fields} :
      (∀ field ∈ fields, ∀ scheme ∈ field.value, Valid scheme) → Valid (.object label fields)

@[simp] theorem valid_string (label : Label) (path : Option Text) (reading : Reading)
    (content : Json) : (string label path reading content).Valid := .string

@[simp] theorem valid_list {label : Label} {path : Option Text} {element : Option Scheme}
    {content : Option (List Json)} {elements : Option (List Scheme)} :
    (list label path element content elements).Valid ↔
      (∀ scheme ∈ element, scheme.Valid) ∧ ∀ schemes ∈ elements, ∀ scheme ∈ schemes, scheme.Valid :=
  ⟨fun valid => by cases valid with | list element elements => exact ⟨element, elements⟩,
    fun ⟨element, elements⟩ => .list element elements⟩

@[simp] theorem valid_object {label : Label} {fields : List (Field Scheme)} :
    (object label fields).Valid ↔ ∀ field ∈ fields, ∀ scheme ∈ field.value, scheme.Valid :=
  ⟨fun valid => by cases valid with | object each => exact each, .object⟩

variable {change other : Scheme → Scheme}

/-- Changes that agree on the values of some fields make the same fields. -/
theorem fields_map_congr {fields : List (Field Scheme)}
    (each : ∀ field ∈ fields, ∀ scheme ∈ field.value, change scheme = other scheme) :
    fields.map (Field.map change) = fields.map (Field.map other) :=
  List.map_congr_left fun field member => Field.map_congr (each field member)

/-- Changes that agree on the copies of an element scheme make the same copies. -/
theorem copies_map_congr {elements : Option (List Scheme)}
    (each : ∀ schemes ∈ elements, ∀ scheme ∈ schemes, change scheme = other scheme) :
    elements.map (List.map change) = elements.map (List.map other) :=
  Option.map_congr fun schemes listed => List.map_congr_left (each schemes listed)

theorem fields_map_map (fields : List (Field Scheme)) :
    (fields.map (Field.map change)).map (Field.map other) =
      fields.map (Field.map (other ∘ change)) := by
  simp

theorem copies_map_map (elements : Option (List Scheme)) :
    (elements.map (List.map change)).map (List.map other) =
      elements.map (List.map (other ∘ change)) := by
  rw [Option.map_map]
  exact Option.map_congr fun schemes _ => List.map_map

/-- Fields stay as they are if their values do. -/
theorem fields_map_eq_self {fields : List (Field Scheme)}
    (each : ∀ field ∈ fields, ∀ scheme ∈ field.value, change scheme = scheme) :
    fields.map (Field.map change) = fields := by
  have unchanged : fields.map (Field.map change) = fields.map (Field.map id) :=
    fields_map_congr each
  simp [unchanged]

theorem element_map_eq_self {element : Option Scheme}
    (each : ∀ scheme ∈ element, change scheme = scheme) : element.map change = element :=
  (Option.map_congr each).trans Option.map_id'

theorem copies_map_eq_self {elements : Option (List Scheme)}
    (each : ∀ schemes ∈ elements, ∀ scheme ∈ schemes, change scheme = scheme) :
    elements.map (List.map change) = elements := by
  have unchanged : elements.map (List.map change) = elements.map (List.map id) :=
    copies_map_congr each
  simp [unchanged]

/-- The values of changed fields are the changed values. -/
theorem forall_mem_fields_map {holds : Scheme → Prop} {fields : List (Field Scheme)} :
    (∀ field ∈ fields.map (Field.map change), ∀ scheme ∈ field.value, holds scheme) ↔
      ∀ field ∈ fields, ∀ scheme ∈ field.value, holds (change scheme) := by
  simp [Field.map]

theorem forall_mem_element_map {holds : Scheme → Prop} {element : Option Scheme} :
    (∀ scheme ∈ element.map change, holds scheme) ↔ ∀ scheme ∈ element, holds (change scheme) := by
  simp

theorem forall_mem_copies_map {holds : Scheme → Prop} {elements : Option (List Scheme)} :
    (∀ schemes ∈ elements.map (List.map change), ∀ scheme ∈ schemes, holds scheme) ↔
      ∀ schemes ∈ elements, ∀ scheme ∈ schemes, holds (change scheme) := by
  simp

/-- A change that makes valid schemes can be made in all fields of an object. -/
theorem valid_object_map {label : Label} {fields : List (Field Scheme)}
    (each : ∀ field ∈ fields, ∀ scheme ∈ field.value, (change scheme).Valid) :
    (object label (fields.map (Field.map change))).Valid :=
  .object (forall_mem_fields_map.mpr each)

/-- So it can in the copies of an element scheme. -/
theorem valid_copies_map {elements : Option (List Scheme)}
    (each : ∀ schemes ∈ elements, ∀ scheme ∈ schemes, (change scheme).Valid) :
    ∀ schemes ∈ elements.map (List.map change), ∀ scheme ∈ schemes, scheme.Valid :=
  forall_mem_copies_map.mpr each

end Scheme
end PageScheme
