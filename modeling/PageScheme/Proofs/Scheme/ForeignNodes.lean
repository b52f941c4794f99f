import PageScheme.Proofs.Scheme.Populated
import PageScheme.Proofs.Scheme.Walks

/-!
# Foreign nodes

A tree that was put together without checking may have foreign nodes anywhere. Populating and
rebasing each have a way through the tree, given by their steps (`populateSteps`, `rebaseSteps`),
and stop with the first foreign node on it (`populate_eq_stoppedBy`, `rebase_eq_stoppedBy`). What is
not on the way does no harm and stays where it is, but for the copies that populating replaces.
-/
namespace PageScheme.Scheme

/-! ### Populating -/

/-- Where populating goes on from a node, and with what content: into the element scheme with the
first item, and again with each of them if there are to be copies; into the fields whose keys the
content has. -/
def populateSteps (spread : Spread) (content : Json) : Scheme → List (Branch × Json)
  | list .. =>
    (.element, content.items.head?.getD .null) ::
      match spread with
      | .representative => []
      | .perElement => content.items.map (Branch.element, ·)
  | object _ fields =>
    fields.zipIdx.flatMap fun (field, index) =>
      (content.get? field.key).toList.map (Branch.field index, ·)
  | _ => []

/-- Populating the value of a field, with what the content holds for its key. -/
def populateValue (spread : Spread) (content : Json) (key : Text) (value : Scheme) :
    Except Fault Scheme :=
  match content.get? key with
  | some found => value.populate spread found
  | none => .ok value

theorem populateFields_eq_mapM (spread : Spread) (fields : List (Field Scheme)) (content : Json) :
    populateFields spread fields content =
      fields.mapM fun field => changeValue (populateValue spread content field.key) field := by
  induction fields with
  | nil => rfl
  | cons field rest ih =>
    obtain ⟨key, value⟩ := field
    rw [List.mapM_cons, ← ih]
    cases value with
    | none => rfl
    | some value =>
      simp only [populateFields, changeValue, populateValue, Option.mapM_some, bind_map_left]
      cases content.get? key <;> rfl

/-- The foreign nodes that populating the value of a field comes to. -/
def metInValue (spread : Spread) (content : Json) (key : Text) (value : Scheme) : List Foreign :=
  match content.get? key with
  | some found => value.met (populateSteps spread) found
  | none => []

section Populating
variable (spread : Spread) (label : Label) (content : Json)

theorem met_populate_untyped (path : Option Text) (old : Option (List Json))
    (elements : Option (List Scheme)) :
    (list label path none old elements).met (populateSteps spread) content = [] := by
  rw [met_eq]
  cases spread <;> simp [foreign?, populateSteps, metOn, child?, List.flatMap_map]

theorem met_populate_list (path : Option Text) (element : Scheme) (old : Option (List Json))
    (elements : Option (List Scheme)) :
    (list label path (some element) old elements).met (populateSteps spread) content =
      element.met (populateSteps spread) (content.items.head?.getD .null) ++
        match spread with
        | .representative => []
        | .perElement => content.items.flatMap (met (populateSteps .perElement) · element) := by
  rw [met_eq]
  cases spread <;> simp [foreign?, populateSteps, metOn, child?, List.flatMap_map]

theorem met_populate_object (fields : List (Field Scheme)) :
    (object label fields).met (populateSteps spread) content =
      fields.flatMap fun field => metInField (metInValue spread content field.key) field := by
  rw [met_eq, populateSteps, List.flatMap_assoc]
  apply flatMap_zipIdx
  rintro index ⟨key, value⟩ found
  cases held : content.get? key <;> cases value <;>
    simp [metOn, child?, found, held, metInField, metInValue]

end Populating

/-- Populating stops with the first foreign node that it comes to, and gives the populated scheme
where it comes to none. -/
theorem populate_eq_stoppedBy (spread : Spread) (scheme : Scheme) (content : Json) :
    scheme.populate spread content =
      stoppedBy (scheme.met (populateSteps spread) content) (scheme.populated spread content) := by
  induction scheme generalizing content with
  | string => rw [met_string]; rfl
  | foreign => rw [met_foreign]; rfl
  | list label path element old elements element_ih _ =>
    cases element with
    | none => rw [met_populate_untyped]; rfl
    | some element =>
      have in_element := element_ih element rfl
      rw [met_populate_list, populated_list, populate, in_element]
      apply stoppedBy_bind
      cases spread with
      | representative => rfl
      | perElement =>
        have in_copies := stoppedBy_mapM content.items fun item _ => in_element item
        simp only [in_copies, stoppedBy_map]
        exact stoppedBy_map ..
  | object label fields ih =>
    have in_field : ∀ field ∈ fields, changeValue (populateValue spread content field.key) field =
        stoppedBy (metInField (metInValue spread content field.key) field)
          (field.map (populatedFrom spread content field.key)) := by
      intro field member
      apply changeValue_eq_stoppedBy
      intro value is_value
      rw [populateValue, metInValue, populatedFrom]
      cases content.get? field.key with
      | none => rfl
      | some found => exact ih field member value is_value found
    have in_fields := stoppedBy_mapM fields in_field
    rw [met_populate_object, populated_object, populate, populateFields_eq_mapM, in_fields]
    exact stoppedBy_map ..

/-! ### Rebasing -/

/-- Where rebasing goes on from a node, `inside` of a list or not: into all fields; and into the
element scheme of a list with a path, and then into its copies, where an outermost list needs an
element scheme. -/
def rebaseSteps (inside : Bool) : Scheme → List (Branch × Bool)
  | list _ path element _ elements =>
    if (given path).isSome && (inside || element.isSome) then
      (.element, true) :: (elements.getD []).zipIdx.map fun (_, index) => (.copy index, true)
    else []
  | object _ fields => fields.zipIdx.map fun (_, index) => (.field index, inside)
  | _ => []

section Rebasing
variable (inside : Bool) (label : Label) {path : Option Text}

theorem met_rebase_list {own : Text} {element : Option Scheme} (content : Option (List Json))
    (elements : Option (List Scheme)) (is_given : given path = some own)
    (taken : inside || element.isSome) :
    (list label path element content elements).met rebaseSteps inside =
      (element.map (met rebaseSteps true)).getD [] ++
        (elements.map (List.flatMap (met rebaseSteps true))).getD [] := by
  have in_copies : (elements.getD []).zipIdx.flatMap (fun copy =>
      (list label path element content elements).metOn rebaseSteps (.copy copy.2, true)) =
        (elements.map (List.flatMap (met rebaseSteps true))).getD [] := by
    cases elements with
    | none => rfl
    | some schemes =>
      apply flatMap_zipIdx
      intro index scheme found
      rw [Option.getD_some] at found
      simp [metOn, child?, found]
  rw [met_eq, rebaseSteps, is_given, Option.isSome_some, Bool.true_and, if_pos taken,
    List.flatMap_cons, List.flatMap_map, in_copies]
  rfl

theorem met_rebase_list_of_none {element : Option Scheme} (content : Option (List Json))
    (elements : Option (List Scheme)) (absent : given path = none) :
    (list label path element content elements).met rebaseSteps inside = [] := by
  rw [met_eq, rebaseSteps, absent]
  rfl

theorem met_rebase_untyped (content : Option (List Json)) (elements : Option (List Scheme)) :
    (list label path none content elements).met rebaseSteps false = [] := by
  rw [met_eq, rebaseSteps, Option.isSome_none, Bool.or_false, Bool.and_false]
  rfl

theorem met_rebase_object (fields : List (Field Scheme)) :
    (object label fields).met rebaseSteps inside =
      fields.flatMap (metInField (met rebaseSteps inside)) := by
  rw [met_eq, rebaseSteps, List.flatMap_map]
  apply flatMap_zipIdx
  rintro index ⟨key, value⟩ found
  simp [metOn, child?, found, metInField]

end Rebasing

theorem rebaseFieldsOnto_eq_mapM (parent : Text) (fields : List (Field Scheme)) :
    rebaseFieldsOnto parent fields = fields.mapM (changeValue (rebaseOnto parent)) := by
  induction fields with
  | nil => rfl
  | cons field rest ih =>
    obtain ⟨key, value⟩ := field
    rw [List.mapM_cons, ← ih]
    cases value with
    | none => rfl
    | some value => simp only [rebaseFieldsOnto, changeValue, Option.mapM_some, bind_map_left]

theorem rebaseFields_eq_mapM (fields : List (Field Scheme)) :
    rebaseFields fields = fields.mapM (changeValue rebase) := by
  induction fields with
  | nil => rfl
  | cons field rest ih =>
    obtain ⟨key, value⟩ := field
    rw [List.mapM_cons, ← ih]
    cases value with
    | none => rfl
    | some value => simp only [rebaseFields, changeValue, Option.mapM_some, bind_map_left]

theorem rebaseOnto_list (parent : Text) (label : Label) {path : Option Text} {own : Text}
    (element : Option Scheme) (content : Option (List Json)) (elements : Option (List Scheme))
    (is_given : given path = some own) :
    (list label path element content elements).rebaseOnto parent = (do
      let element ← element.mapM (rebaseOnto own)
      let elements ← elements.mapM fun schemes => schemes.mapM (rebaseOnto own)
      return list label (some (Path.relativeTo own parent)) element content elements) := by
  simp only [rebaseOnto, is_given, rebaseItems_eq_mapM]
  cases element <;> cases elements <;> rfl

theorem rebase_list (label : Label) {path : Option Text} {own : Text} (element : Scheme)
    (content : Option (List Json)) (elements : Option (List Scheme))
    (is_given : given path = some own) :
    (list label path (some element) content elements).rebase = (do
      let element ← element.rebaseOnto own
      let elements ← elements.mapM fun schemes => schemes.mapM (rebaseOnto own)
      return list label path (some element) content elements) := by
  simp only [rebase, is_given, rebaseItems_eq_mapM]
  cases elements <;> rfl

theorem rebaseOnto_eq_stoppedBy (parent : Text) (scheme : Scheme) :
    scheme.rebaseOnto parent =
      stoppedBy (scheme.met rebaseSteps true) (scheme.rebasedOnto parent) := by
  induction scheme generalizing parent with
  | string label path reading content =>
    rw [met_string, rebaseOnto, rebasedOnto_string, pathOnto]
    cases given path <;> rfl
  | foreign => rw [met_foreign]; rfl
  | list label path element content elements element_ih elements_ih =>
    cases found : given path with
    | none =>
      rw [met_rebase_list_of_none _ _ _ _ found, rebasedOnto_list_of_none _ _ _ _ _ _ found,
        rebaseOnto, found]
      rfl
    | some own =>
      have in_element := stoppedBy_optional fun scheme is_element =>
        element_ih scheme is_element own
      have in_copies := stoppedBy_optional fun schemes listed =>
        stoppedBy_mapM schemes fun scheme member => elements_ih schemes listed scheme member own
      rw [met_rebase_list _ _ _ _ found (Bool.true_or _), rebasedOnto_list _ _ _ _ _ _ found]
      rw [rebaseOnto_list _ _ _ _ _ found, in_element]
      apply stoppedBy_bind
      rw [in_copies]
      exact stoppedBy_map ..
  | object label fields ih =>
    have in_fields := stoppedBy_mapM fields fun field member =>
      changeValue_eq_stoppedBy fun value is_value => ih field member value is_value parent
    rw [met_rebase_object, rebasedOnto_object, rebaseOnto, rebaseFieldsOnto_eq_mapM, in_fields]
    exact stoppedBy_map ..

theorem rebase_eq_stoppedBy (scheme : Scheme) :
    scheme.rebase = stoppedBy (scheme.met rebaseSteps false) scheme.rebased := by
  induction scheme with
  | string => rw [met_string]; rfl
  | foreign => rw [met_foreign]; rfl
  | list label path element content elements =>
    cases element with
    | none => cases path <;> rw [met_rebase_untyped] <;> rfl
    | some element =>
      cases found : given path with
      | none =>
        rw [met_rebase_list_of_none _ _ _ _ found, rebased_list_of_none _ _ _ _ _ found, rebase,
          found]
        rfl
      | some own =>
        have in_copies := stoppedBy_optional fun schemes (_ : schemes ∈ elements) =>
          stoppedBy_mapM schemes fun scheme _ => rebaseOnto_eq_stoppedBy own scheme
        rw [met_rebase_list _ _ _ _ found rfl, rebased_list _ _ _ _ _ found,
          rebase_list _ _ _ _ found, rebaseOnto_eq_stoppedBy]
        apply stoppedBy_bind
        rw [in_copies]
        exact stoppedBy_map ..
  | object label fields ih =>
    have in_fields := stoppedBy_mapM fields fun field member =>
      changeValue_eq_stoppedBy (ih field member)
    rw [met_rebase_object, rebased_object, rebase, rebaseFields_eq_mapM, in_fields]
    exact stoppedBy_map ..

/-! ### What stays -/

theorem at?_foreign_rebased {scheme : Scheme} {position : Position} {node : Foreign}
    (found : scheme.at? position = some (.foreign node)) :
    scheme.rebased.at? position = some (.foreign node) := by
  rw [at?_rebased, found, Option.map_some]
  split
  · rfl
  · cases scheme.basis position <;> rfl

/-- A position lies in copies that populating replaces: those of a list that it comes to. -/
def InReplaced (spread : Spread) (content : Json) (scheme : Scheme) (position : Position) : Prop :=
  ∃ above index, above ++ [.copy index] <+: position ∧
    above ∈ scheme.walk (populateSteps spread) content

theorem InReplaced.cons {spread : Spread} {content next : Json} {scheme child : Scheme}
    {branch : Branch} {rest : Position}
    (taken : (branch, next) ∈ populateSteps spread content scheme)
    (leads : scheme.child? branch = some child) (inside : InReplaced spread next child rest) :
    InReplaced spread content scheme (branch :: rest) := by
  obtain ⟨above, index, on_way, member⟩ := inside
  refine ⟨branch :: above, index, ?_, cons_mem_walk taken leads member⟩
  rw [List.cons_append]
  exact List.cons_prefix_cons.mpr ⟨rfl, on_way⟩

theorem at?_foreign_populated {spread : Spread} {content : Json} {scheme : Scheme}
    {position : Position} {node : Foreign} (found : scheme.at? position = some (.foreign node))
    (kept : ¬ InReplaced spread content scheme position) :
    (scheme.populated spread content).at? position = some (.foreign node) := by
  induction position generalizing scheme content with
  | nil =>
    obtain rfl := Option.some_inj.mp found
    rfl
  | cons branch rest ih =>
    obtain ⟨child, leads, below⟩ := at?_cons_eq_some.mp found
    cases scheme with
    | string => cases leads
    | foreign => cases leads
    | list label path element old elements =>
      cases branch with
      | element =>
        obtain rfl : element = some child := leads
        have taken : (Branch.element, content.items.head?.getD .null) ∈ populateSteps spread content
            (list label path (some child) old elements) := List.mem_cons_self
        rw [populated_list, at?_cons_of_child rest rfl]
        exact ih below fun inside => kept (.cons taken rfl inside)
      -- The list itself is come to, so its copies are replaced.
      | copy index =>
        exact absurd ⟨[], index, List.prefix_append [_] rest, nil_mem_walk⟩ kept
      | field index => cases leads
    | object label fields =>
      cases branch with
      | field index =>
        obtain ⟨field, listed, is_value⟩ := Option.bind_eq_some_iff.mp leads
        have leads_on : (object label (fields.map (fieldPopulated spread content))).child?
            (.field index) = some (populatedFrom spread content field.key child) := by
          simp [child?, listed, fieldPopulated, Field.map, is_value]
        rw [populated_object, at?_cons_of_child rest leads_on, populatedFrom]
        cases held : content.get? field.key with
        | none => exact below
        | some given =>
          have taken : (Branch.field index, given) ∈ populateSteps spread content
              (object label fields) := by
            rw [populateSteps, List.mem_flatMap]
            exact ⟨(field, index), List.mem_zipIdx_iff_getElem?.mpr listed, by simp [held]⟩
          exact ih below fun inside => kept (.cons taken leads inside)
      | element => cases leads
      | copy index => cases leads

/-- What a pass that goes some way through a scheme does about foreign nodes. It fails if and only
if there is one on the way, with the kind of the first one; and if there is none, it succeeds and
leaves the foreign nodes at the positions that it keeps where they are. -/
structure ReportsForeign (scheme : Scheme) (way : List Position) (keeps : Position → Prop)
    (outcome : Except Fault Scheme) : Prop where
  fails_iff : (∃ kind, outcome = .error (.schemeKind kind)) ↔ scheme.foreignAt way ≠ []
  first : ∀ node ∈ (scheme.foreignAt way).head?, outcome = .error (.schemeKind node.kind)
  stays : scheme.foreignAt way = [] → ∃ result, outcome = .ok result ∧
    ∀ position node, keeps position → scheme.at? position = some (.foreign node) →
      result.at? position = some (.foreign node)

/-- A pass that stops with the first foreign node on its way reports foreign nodes. -/
theorem reportsForeign_of_eq {scheme result : Scheme} {way : List Position}
    {keeps : Position → Prop}
    {outcome : Except Fault Scheme} (outcome_eq : outcome = stoppedBy (scheme.foreignAt way) result)
    (stays : ∀ position node, keeps position → scheme.at? position = some (.foreign node) →
      result.at? position = some (.foreign node)) :
    scheme.ReportsForeign way keeps outcome := by
  rw [outcome_eq]
  cases on_way : scheme.foreignAt way with
  | nil =>
    constructor
    · simp [on_way, stoppedBy]
    · simp [on_way]
    · intro _
      exact ⟨result, rfl, stays⟩
  | cons node rest =>
    constructor
    · simp [on_way, stoppedBy]
    · simp [on_way, stoppedBy]
    · intro none_met
      rw [on_way] at none_met
      contradiction

/-- Populating and rebasing report a foreign node exactly if they come to it on their ways, and
leave all others where they are: populating those that are in no copies which it replaces, rebasing
every one. -/
theorem foreign_reported_where_met (scheme : Scheme) :
    (∀ spread content, scheme.ReportsForeign (scheme.walk (populateSteps spread) content)
      (fun position => ¬ InReplaced spread content scheme position)
      (scheme.populate spread content)) ∧
    scheme.ReportsForeign (scheme.walk rebaseSteps false) (fun _ => True) scheme.rebase := by
  constructor
  · intro spread content
    apply reportsForeign_of_eq (populate_eq_stoppedBy spread scheme content)
    intro position node kept found
    exact at?_foreign_populated found kept
  · apply reportsForeign_of_eq (rebase_eq_stoppedBy scheme)
    intro position node _ found
    exact at?_foreign_rebased found

/-- A list whose items have an odd part, a bare number where a scheme should be. -/
def oddRows : Scheme :=
  .list {} (some (Text.ofString "ul"))
    (some (.object {} [⟨Text.ofString "odd", some (.foreign (.raw (.int 5)))⟩])) none none

/-- Only the second item has the odd part. -/
def oddContent : Json := .array [.object [], .ofMembers [("odd", .int 2)]]

/-- With the first item alone the odd part is not come to, and it stays. With copies it is, for the
second item. Rebasing comes to it without any content. -/
theorem oddRows_reported :
    (∃ result, oddRows.populate .representative oddContent = .ok result ∧
      result.at? [.element, .field 0] = some (.foreign (.raw (.int 5)))) ∧
    oddRows.populate .perElement oddContent = .error (.schemeKind (.ofString "int")) ∧
    oddRows.rebase = .error (.schemeKind (.ofString "int")) := by
  obtain ⟨populating, rebasing⟩ := foreign_reported_where_met oddRows
  have held : (Json.ofMembers [("odd", .int 2)]).get? (Text.ofString "odd") = some (.int 2) := rfl
  have not_held : (Json.object []).get? (Text.ofString "odd") = none := rfl
  have given_path : given (some (Text.ofString "ul")) = some (Text.ofString "ul") := rfl
  have not_met : oddRows.met (populateSteps .representative) oddContent = [] := by
    simp [oddRows, oddContent, met_populate_list, met_populate_object, metInField, metInValue,
      Json.items, not_held]
  have met_in_copy : oddRows.met (populateSteps .perElement) oddContent = [.raw (.int 5)] := by
    simp [oddRows, oddContent, met_populate_list, met_populate_object, metInField, metInValue,
      Json.items, not_held, held]
  have met_in_rebasing : oddRows.met rebaseSteps false = [.raw (.int 5)] := by
    rw [oddRows, met_rebase_list _ _ _ _ given_path rfl]
    simp [met_rebase_object, metInField]
  refine ⟨?_, ?_, ?_⟩
  · obtain ⟨result, ran, kept⟩ := (populating .representative oddContent).stays not_met
    refine ⟨result, ran, kept _ _ ?_ rfl⟩
    -- There is no copy on the way to the odd part.
    rintro ⟨above, index, ⟨rest, on_way⟩, -⟩
    have member : Branch.copy index ∈ [Branch.element, .field 0] := by simp [← on_way]
    simp at member
  · apply (populating .perElement oddContent).first (.raw (.int 5))
    exact congrArg List.head? met_in_copy
  · apply rebasing.first (.raw (.int 5))
    exact congrArg List.head? met_in_rebasing

end PageScheme.Scheme
