import PageScheme.Fault
import PageScheme.Proofs.Scheme.Position
import PageScheme.Proofs.Sequencing

/-!
# Walks over a scheme

A pass goes from node to node, and stops at the first one that is foreign. Which nodes it comes to
is said by its steps alone: from a node, the branches that it takes, in order. `walk` follows the
steps of a pass down the scheme, `met` are the foreign nodes on the way, and a pass that is put
together of steps which each stop at what they meet stops at what is met on all of them
(`stoppedBy_bind`, `stoppedBy_mapM`, `stoppedBy_optional`).
-/
namespace PageScheme.Scheme

/-! ### Walks -/

theorem sizeOf_child? {scheme child : Scheme} {branch : Branch}
    (leads : scheme.child? branch = some child) : sizeOf child < sizeOf scheme := by
  cases scheme with
  | string => cases leads
  | foreign => cases leads
  | list label path element content elements =>
    cases branch with
    | element =>
      obtain rfl : element = some child := leads
      simp
      omega
    | copy index =>
      obtain ⟨schemes, rfl, found⟩ := Option.bind_eq_some_iff.mp leads
      have smaller := List.sizeOf_lt_of_mem (List.mem_of_getElem? found)
      simp
      omega
    | field index => cases leads
  | object label fields =>
    cases branch with
    | field index =>
      obtain ⟨⟨key, value⟩, found, is_value⟩ := Option.bind_eq_some_iff.mp leads
      obtain rfl : value = some child := is_value
      have smaller := List.sizeOf_lt_of_mem (List.mem_of_getElem? found)
      simp at smaller ⊢
      omega
    | element => cases leads
    | copy index => cases leads

variable {σ : Type}

/-- The positions that a pass comes to, in order and each as often as it comes there. From every
node it takes the branches of `steps`, each with what is handed on there; a branch that leads
nowhere is passed over. -/
def walk (steps : σ → Scheme → List (Branch × σ)) (handed : σ) (scheme : Scheme) : List Position :=
  [] :: (steps handed scheme).flatMap fun (branch, next) =>
    match _ : scheme.child? branch with
    | some child => (child.walk steps next).map (branch :: ·)
    | none => []
termination_by sizeOf scheme
decreasing_by exact sizeOf_child? ‹_›

def foreign? : Scheme → Option Foreign
  | foreign node => some node
  | _ => none

/-- The foreign nodes among those at some positions. -/
def foreignAt (scheme : Scheme) (positions : List Position) : List Foreign :=
  positions.filterMap fun position => (scheme.at? position).bind foreign?

/-- The foreign nodes that a pass comes to, in order. -/
def met (steps : σ → Scheme → List (Branch × σ)) (handed : σ) (scheme : Scheme) : List Foreign :=
  scheme.foreignAt (scheme.walk steps handed)

/-- The foreign nodes that a pass comes to on a branch. -/
def metOn (steps : σ → Scheme → List (Branch × σ)) (scheme : Scheme) (step : Branch × σ) :
    List Foreign :=
  ((scheme.child? step.1).map (met steps step.2)).getD []

section Steps
variable {steps : σ → Scheme → List (Branch × σ)} {handed : σ} {scheme : Scheme}

theorem walk_eq : scheme.walk steps handed =
    [] :: (steps handed scheme).flatMap fun (branch, next) =>
      ((scheme.child? branch).map fun child =>
        (child.walk steps next).map (branch :: ·)).getD [] := by
  rw [walk]
  congr 2
  funext ⟨branch, next⟩
  dsimp only
  split
  next child leads => rw [leads]; rfl
  next leads => rw [leads]; rfl

theorem nil_mem_walk : [] ∈ scheme.walk steps handed := by
  rw [walk_eq]
  exact List.mem_cons_self

theorem cons_mem_walk {branch : Branch} {next : σ} {child : Scheme} {rest : Position}
    (taken : (branch, next) ∈ steps handed scheme) (leads : scheme.child? branch = some child)
    (member : rest ∈ child.walk steps next) : branch :: rest ∈ scheme.walk steps handed := by
  rw [walk_eq]
  apply List.mem_cons_of_mem
  rw [List.mem_flatMap]
  exact ⟨_, taken, by simpa [leads] using member⟩

theorem met_eq : scheme.met steps handed =
    scheme.foreign?.toList ++ (steps handed scheme).flatMap (metOn steps scheme) := by
  have here : scheme.foreignAt [[]] = scheme.foreign?.toList := by
    cases is_foreign : scheme.foreign? <;> simp [foreignAt, is_foreign]
  rw [met, walk_eq, ← List.singleton_append, foreignAt, List.filterMap_append, ← foreignAt, here,
    List.filterMap_flatMap]
  congr 2
  funext ⟨branch, next⟩
  cases leads : scheme.child? branch with
  | none => simp [leads, metOn]
  | some child =>
    simp [leads, metOn, met, foreignAt, List.filterMap_map, at?_cons_of_child _ leads]

@[simp] theorem met_string (label : Label) (path : Option Text) (reading : Reading)
    (content : Json) : (string label path reading content).met steps handed = [] := by
  rw [met_eq]
  simp [foreign?, metOn, child?]

@[simp] theorem met_foreign (node : Foreign) : (foreign node).met steps handed = [node] := by
  rw [met_eq]
  simp [foreign?, metOn, child?]

end Steps

/-- Stops with the first of the foreign nodes that are met, or else gives the result. -/
def stoppedBy {α : Type} (met : List Foreign) (result : α) : Except Fault α :=
  match met with
  | [] => .ok result
  | node :: _ => .error (.schemeKind node.kind)

section Stopping
variable {α β : Type} {result : α} {other : β}

theorem stoppedBy_bind {early late : List Foreign} {next : α → Except Fault β}
    (then_next : next result = stoppedBy late other) :
    stoppedBy early result >>= next = stoppedBy (early ++ late) other := by
  cases early with
  | nil => exact then_next
  | cons node rest => rfl

theorem stoppedBy_map (early : List Foreign) (f : α → β) :
    f <$> stoppedBy early result = stoppedBy early (f result) := by
  cases early <;> rfl

theorem stoppedBy_mapM {f : α → Except Fault β} {g : α → β} {early : α → List Foreign}
    (items : List α) (each : ∀ item ∈ items, f item = stoppedBy (early item) (g item)) :
    items.mapM f = stoppedBy (items.flatMap early) (items.map g) := by
  induction items with
  | nil => rfl
  | cons item rest ih =>
    have tail := ih fun other member => each other (List.mem_cons_of_mem _ member)
    rw [List.mapM_cons, each item List.mem_cons_self, List.flatMap_cons, List.map_cons]
    apply stoppedBy_bind
    rw [tail]
    exact stoppedBy_map ..

theorem stoppedBy_optional {f : α → Except Fault β} {g : α → β} {early : α → List Foreign}
    {optional : Option α} (each : ∀ item ∈ optional, f item = stoppedBy (early item) (g item)) :
    optional.mapM f = stoppedBy ((optional.map early).getD []) (optional.map g) := by
  cases optional with
  | none => rfl
  | some item =>
    rw [Option.mapM_some, each item rfl]
    exact stoppedBy_map ..

/-- A change of the value of a field, if it has one. -/
def changeValue (change : Scheme → Except Fault Scheme) (field : Field Scheme) :
    Except Fault (Field Scheme) :=
  (⟨field.key, ·⟩) <$> field.value.mapM change

/-- The foreign nodes that are met in a field, those in its value. -/
def metInField (early : Scheme → List Foreign) (field : Field Scheme) : List Foreign :=
  (field.value.map early).getD []

theorem changeValue_eq_stoppedBy {change : Scheme → Except Fault Scheme}
    {early : Scheme → List Foreign} {changed : Scheme → Scheme} {field : Field Scheme}
    (each : ∀ value ∈ field.value, change value = stoppedBy (early value) (changed value)) :
    changeValue change field = stoppedBy (metInField early field) (field.map changed) := by
  rw [changeValue, stoppedBy_optional each]
  exact stoppedBy_map ..

end Stopping

/-- What is made of items and their places alike is made of the items. -/
theorem flatMap_zipIdx {α β : Type} {items : List α} {f : α × Nat → List β} {g : α → List β}
    (same : ∀ index item, items[index]? = some item → f (item, index) = g item) :
    items.zipIdx.flatMap f = items.flatMap g := by
  have by_item : items.zipIdx.flatMap f = items.zipIdx.flatMap (g ∘ Prod.fst) := by
    apply List.flatMap_congr
    rintro ⟨item, index⟩ member
    exact same index item (List.mem_zipIdx_iff_getElem?.mp member)
  have items_eq : items.zipIdx.map Prod.fst = items := List.zipIdx_map_fst 0 items
  rw [by_item, ← items_eq, List.flatMap_map, items_eq]
  rfl

end PageScheme.Scheme
