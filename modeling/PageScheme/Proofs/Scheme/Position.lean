import PageScheme.Proofs.Scheme.Rebased

/-!
# Positions in a scheme

A position leads from a scheme down to one of its nodes, branch by branch. Rebasing keeps the nodes
where they are. What happens to the path at a position depends on the lists above it alone: `basis`
is the path from which it is expressed, and `at?_rebased` and `at?_rebasedOnto` say what stands at a
position of a rebased scheme.
-/
namespace PageScheme.Scheme

/-- A way from a node to a node directly below it: the element scheme of a list, one of its copies,
or the value of a field. -/
inductive Branch
  | element
  | copy (index : Nat)
  | field (index : Nat)
  deriving DecidableEq, Repr

abbrev Position := List Branch

def child? : Scheme → Branch → Option Scheme
  | list _ _ element _ _, .element => element
  | list _ _ _ _ elements, .copy index => elements.bind (·[index]?)
  | object _ fields, .field index => fields[index]?.bind Field.value
  | _, _ => none

def at? : Scheme → Position → Option Scheme
  | scheme, [] => some scheme
  | scheme, branch :: rest => (scheme.child? branch).bind fun child => child.at? rest

/-- What a string or a list has for a path, which may be nothing. -/
def pathField? : Scheme → Option (Option Text)
  | string _ path _ _ => some path
  | list _ path _ _ _ => some path
  | _ => none

/-- The path of a string or a list, if it has one that is not empty. -/
def path? : Scheme → Option Text
  | string _ path _ _ => given path
  | list _ path _ _ _ => given path
  | _ => none

def isList : Scheme → Bool
  | list .. => true
  | _ => false

def isTyped : Scheme → Bool
  | list _ _ element _ _ => element.isSome
  | _ => false

/-- The lists above a position, outermost first. -/
def listsAbove : Scheme → Position → List Scheme
  | _, [] => []
  | scheme, branch :: rest =>
    let below := ((scheme.child? branch).map fun child => child.listsAbove rest).getD []
    if scheme.isList then scheme :: below else below

/-- The position of the nearest list above a position. -/
def nearestList? : Scheme → Position → Option Position
  | _, [] => none
  | scheme, branch :: rest =>
    match (scheme.child? branch).bind fun child => child.nearestList? rest with
    | some above => some (branch :: above)
    | none => if scheme.isList then some [] else none

/-- The path of the nearest of some lists, or the path of what is around them if there are none;
there is no such path if one of the lists has none. -/
def nearestPath (around : Text) (lists : List Scheme) : Option Text :=
  if lists.all (·.path?.isSome) then some ((lists.getLast?.bind path?).getD around) else none

/-- The path from which rebasing expresses what is at a position: that of the nearest list above it.
There is none outside of lists, nor where the outermost list has no element scheme or one of the
lists has no path. -/
def basis (scheme : Scheme) (position : Position) : Option Text :=
  let lists := scheme.listsAbove position
  if lists.head?.any isTyped && lists.all (·.path?.isSome) then lists.getLast?.bind path? else none

/-! ### Nodes directly below a node -/

section Children
variable {holds : Scheme → Prop} {label : Label}

/-- What is directly below a list is its element scheme and the copies of it. -/
theorem forall_child?_list {path : Option Text} {element : Option Scheme}
    {content : Option (List Json)} {elements : Option (List Scheme)} :
    (∀ branch child, (list label path element content elements).child? branch = some child →
        holds child) ↔
      (∀ scheme ∈ element, holds scheme) ∧
        ∀ schemes ∈ elements, ∀ scheme ∈ schemes, holds scheme := by
  constructor
  · intro below
    refine ⟨fun scheme is_element => below .element scheme is_element, ?_⟩
    rintro schemes rfl scheme member
    obtain ⟨index, found⟩ := List.mem_iff_getElem?.mp member
    exact below (.copy index) scheme found
  · rintro ⟨in_element, in_elements⟩ branch child leads
    cases branch with
    | element => exact in_element child leads
    | copy index =>
      obtain ⟨schemes, listed, found⟩ := Option.bind_eq_some_iff.mp leads
      exact in_elements schemes listed child (List.mem_of_getElem? found)
    | field index => contradiction

theorem forall_child?_object {fields : List (Field Scheme)} :
    (∀ branch child, (object label fields).child? branch = some child → holds child) ↔
      ∀ field ∈ fields, ∀ scheme ∈ field.value, holds scheme := by
  constructor
  · intro below field member scheme is_value
    obtain ⟨index, found⟩ := List.mem_iff_getElem?.mp member
    exact below (.field index) scheme (Option.bind_eq_some_iff.mpr ⟨field, found, is_value⟩)
  · intro in_fields branch child leads
    cases branch with
    | field index =>
      obtain ⟨field, found, is_value⟩ := Option.bind_eq_some_iff.mp leads
      exact in_fields field (List.mem_of_getElem? found) child is_value
    | element => contradiction
    | copy index => contradiction

theorem mem_of_lastField {key : Text} {fields : List (Field Scheme)} {field : Field Scheme}
    (is_last : lastField key fields = some field) : field ∈ fields ∧ field.key = key :=
  ⟨List.mem_reverse.mp (List.mem_of_find?_eq_some is_last), by simpa using List.find?_some is_last⟩

theorem exists_field_of_get {label : Label} {fields : List (Field Scheme)} {key : Text}
    {scheme : Scheme} (found : (object label fields).get key = some scheme) :
    ∃ field ∈ fields, field.value = some scheme := by
  obtain ⟨field, is_last, is_value⟩ := Option.bind_eq_some_iff.mp found
  exact ⟨field, (mem_of_lastField is_last).1, is_value⟩

theorem exists_child?_of_get {key : Text} {scheme child : Scheme}
    (found : scheme.get key = some child) : ∃ branch, scheme.child? branch = some child := by
  cases scheme with
  | object label fields =>
    obtain ⟨field, is_field, is_value⟩ := exists_field_of_get found
    obtain ⟨index, at_index⟩ := List.mem_iff_getElem?.mp is_field
    exact ⟨.field index, Option.bind_eq_some_iff.mpr ⟨field, at_index, is_value⟩⟩
  | _ => cases found

end Children

/-! ### Nodes and lists on the way -/

@[simp] theorem at?_nil (scheme : Scheme) : scheme.at? [] = some scheme := rfl

theorem at?_cons_of_child {scheme child : Scheme} {branch : Branch} (rest : Position)
    (leads : scheme.child? branch = some child) :
    scheme.at? (branch :: rest) = child.at? rest := by
  rw [at?, leads, Option.bind_some]

theorem at?_cons_eq_some {scheme node : Scheme} {branch : Branch} {rest : Position} :
    scheme.at? (branch :: rest) = some node ↔
      ∃ child, scheme.child? branch = some child ∧ child.at? rest = some node := by
  simp [at?, Option.bind_eq_some_iff]

@[simp] theorem listsAbove_nil (scheme : Scheme) : scheme.listsAbove [] = [] := rfl

theorem listsAbove_cons_of_isList {scheme child : Scheme} {branch : Branch} (rest : Position)
    (is_list : scheme.isList = true) (leads : scheme.child? branch = some child) :
    scheme.listsAbove (branch :: rest) = scheme :: child.listsAbove rest := by
  simp [listsAbove, is_list, leads]

theorem listsAbove_cons_of_not_isList {scheme child : Scheme} {branch : Branch} (rest : Position)
    (no_list : scheme.isList = false) (leads : scheme.child? branch = some child) :
    scheme.listsAbove (branch :: rest) = child.listsAbove rest := by
  simp [listsAbove, no_list, leads]

theorem mem_listsAbove_cons {scheme list : Scheme} {branch : Branch} {rest : Position} :
    list ∈ scheme.listsAbove (branch :: rest) ↔ (scheme.isList = true ∧ list = scheme) ∨
      ∃ child, scheme.child? branch = some child ∧ list ∈ child.listsAbove rest := by
  cases leads : scheme.child? branch <;> cases is_list : scheme.isList <;>
    simp [listsAbove, leads, is_list]

/-- Every list above a position stands on the way there. -/
theorem exists_position_of_mem_listsAbove {scheme list : Scheme} {position : Position}
    (member : list ∈ scheme.listsAbove position) :
    list.isList = true ∧ ∃ above, above <+: position ∧ scheme.at? above = some list := by
  induction position generalizing scheme with
  | nil => simp at member
  | cons branch rest ih =>
    rcases mem_listsAbove_cons.mp member with ⟨is_list, rfl⟩ | ⟨child, leads, inside⟩
    · exact ⟨is_list, [], List.nil_prefix, rfl⟩
    · obtain ⟨is_list, above, on_way, found⟩ := ih inside
      refine ⟨is_list, branch :: above, List.cons_prefix_cons.mpr ⟨rfl, on_way⟩, ?_⟩
      rw [at?_cons_of_child above leads, found]

theorem listsAbove_of_nearestList?_eq_none {scheme : Scheme} {position : Position}
    (outside : scheme.nearestList? position = none) : scheme.listsAbove position = [] := by
  induction position generalizing scheme with
  | nil => rfl
  | cons branch rest ih =>
    rw [nearestList?] at outside
    split at outside
    next => contradiction
    next none_inside =>
      have no_list : scheme.isList = false := by simpa using outside
      rw [List.eq_nil_iff_forall_not_mem]
      intro list member
      -- A list above the position is this scheme or one further in, and there is neither.
      rcases mem_listsAbove_cons.mp member with ⟨is_list, -⟩ | ⟨child, leads, inside⟩
      · rw [no_list] at is_list
        contradiction
      · rw [leads, Option.bind_some] at none_inside
        rw [ih none_inside] at inside
        contradiction

/-- The nearest list is the last of the lists above a position. -/
theorem getLast?_listsAbove {scheme : Scheme} {position above : Position}
    (nearest : scheme.nearestList? position = some above) :
    above <+: position ∧ ∃ list, scheme.at? above = some list ∧
      (scheme.listsAbove position).getLast? = some list := by
  induction position generalizing scheme above with
  | nil => contradiction
  | cons branch rest ih =>
    rw [nearestList?] at nearest
    split at nearest
    -- A list further in is nearer than this one.
    next inner inside =>
      obtain rfl := Option.some_inj.mp nearest
      obtain ⟨child, leads, child_nearest⟩ := Option.bind_eq_some_iff.mp inside
      obtain ⟨on_way, list, found, last⟩ := ih child_nearest
      refine ⟨List.cons_prefix_cons.mpr ⟨rfl, on_way⟩, list, ?_, ?_⟩
      · rw [at?_cons_of_child inner leads, found]
      · cases is_list : scheme.isList with
        | true =>
          rw [listsAbove_cons_of_isList rest is_list leads, List.getLast?_cons, last]
          rfl
        | false => rw [listsAbove_cons_of_not_isList rest is_list leads, last]
    next none_inside =>
      obtain ⟨is_list, here⟩ := Option.ite_none_right_eq_some.mp nearest
      obtain rfl := Option.some_inj.mp here
      -- This list is the only one above the position.
      refine ⟨List.nil_prefix, scheme, rfl, ?_⟩
      cases leads : scheme.child? branch with
      | none => simp [listsAbove, is_list, leads]
      | some child =>
        rw [leads, Option.bind_some] at none_inside
        rw [listsAbove_cons_of_isList rest is_list leads,
          listsAbove_of_nearestList?_eq_none none_inside]
        rfl

@[simp] theorem nearestPath_nil (around : Text) : nearestPath around [] = some around := rfl

/-- Where all lists have a path, so has the nearest one. -/
theorem exists_nearest {lists : List Scheme} (some_list : lists ≠ [])
    (all_given : lists.all (·.path?.isSome) = true) :
    ∃ path, lists.getLast?.bind path? = some path := by
  have nearest := List.all_eq_true.mp all_given _ (List.getLast_mem some_list)
  obtain ⟨path, path_eq⟩ := Option.isSome_iff_exists.mp nearest
  exact ⟨path, by rw [List.getLast?_eq_some_getLast some_list, Option.bind_some, path_eq]⟩

/-- Each list takes over from what is around it. -/
theorem nearestPath_cons (around : Text) (list : Scheme) (lists : List Scheme) :
    nearestPath around (list :: lists) = list.path?.bind fun own => nearestPath own lists := by
  cases found : list.path? with
  | none => simp [nearestPath, found]
  | some own =>
    cases lists with
    | nil => simp [nearestPath, found]
    | cons next rest =>
      simp only [nearestPath, List.all_cons (a := list), found, Option.isSome_some, Bool.true_and,
        List.getLast?_cons_cons, Option.bind_some]
      by_cases all_given : (next :: rest).all (·.path?.isSome) = true
      · -- The nearest list has a path, so it does not matter what is around it.
        obtain ⟨path, path_eq⟩ := exists_nearest (List.cons_ne_nil next rest) all_given
        simp only [path_eq, Option.getD_some]
      · simp only [if_neg all_given]

theorem basis_eq_none_of_listsAbove {scheme : Scheme} {position : Position}
    (outside : scheme.listsAbove position = []) : scheme.basis position = none := by
  simp [basis, outside]

/-- What is expressed from a path below the outermost list starts with the path of that list. -/
theorem basis_cons_of_isList {scheme child : Scheme} {branch : Branch} (rest : Position)
    (is_list : scheme.isList = true) (leads : scheme.child? branch = some child) :
    scheme.basis (branch :: rest) =
      if scheme.isTyped then scheme.path?.bind fun own => nearestPath own (child.listsAbove rest)
      else none := by
  -- With this list at the front, nothing is taken from what is around it.
  rw [← nearestPath_cons [], basis, listsAbove_cons_of_isList rest is_list leads]
  cases typed : scheme.isTyped with
  | false => simp [typed]
  | true =>
    simp only [List.head?_cons, Option.any_some, typed, Bool.true_and, nearestPath, if_true]
    by_cases all_given : (scheme :: child.listsAbove rest).all (·.path?.isSome) = true
    · obtain ⟨path, path_eq⟩ := exists_nearest (List.cons_ne_nil scheme _) all_given
      simp only [path_eq, Option.getD_some]
    · simp only [if_neg all_given]

theorem basis_cons_of_not_isList {scheme child : Scheme} {branch : Branch} (rest : Position)
    (no_list : scheme.isList = false) (leads : scheme.child? branch = some child) :
    scheme.basis (branch :: rest) = child.basis rest := by
  rw [basis, listsAbove_cons_of_not_isList rest no_list leads, basis]

/-! ### What rebasing leaves at a position -/

/-- A node expressed from a path, if there is one from which it is expressed. -/
def expressedFrom (parent : Option Text) (node : Scheme) : Scheme :=
  match parent with
  | some parent => node.rebasedOnto parent
  | none => node

theorem expressedFrom_none : expressedFrom none = id := rfl

theorem pathField?_rebased (node : Scheme) : node.rebased.pathField? = node.pathField? := by
  cases node with
  | list label path element content elements =>
    cases element with
    | none => rfl
    | some element =>
      cases found : given path with
      | none => rw [rebased_list_of_none _ _ _ _ _ found]
      | some own =>
        rw [rebased_list _ _ _ _ _ found]
        rfl
  | _ => rfl

theorem pathField?_rebasedOnto (node : Scheme) (parent : Text) :
    (node.rebasedOnto parent).pathField? = node.pathField?.map (pathOnto parent) := by
  cases node with
  | list label path element content elements =>
    cases found : given path with
    | none =>
      rw [rebasedOnto_list_of_none _ _ _ _ _ _ found]
      simp [pathField?, pathOnto, found]
    | some own =>
      rw [rebasedOnto_list _ _ _ _ _ _ found]
      simp [pathField?, pathOnto, found]
  | _ => rfl

theorem child?_rebasedOnto_list {parent own : Text} {label : Label} {path : Option Text}
    {element : Option Scheme} {content : Option (List Json)} {elements : Option (List Scheme)}
    (is_given : given path = some own) (branch : Branch) :
    ((list label path element content elements).rebasedOnto parent).child? branch =
      ((list label path element content elements).child? branch).map (rebasedOnto own) := by
  rw [rebasedOnto_list _ _ _ _ _ _ is_given]
  cases branch with
  | element => rfl
  | copy index => cases elements <;> simp [child?]
  | field index => rfl

theorem child?_rebased_list {own : Text} {label : Label} {path : Option Text} {element : Scheme}
    {content : Option (List Json)} {elements : Option (List Scheme)}
    (is_given : given path = some own) (branch : Branch) :
    ((list label path (some element) content elements).rebased).child? branch =
      ((list label path (some element) content elements).child? branch).map (rebasedOnto own) := by
  rw [rebased_list _ _ _ _ _ is_given]
  cases branch with
  | element => rfl
  | copy index => cases elements <;> simp [child?]
  | field index => rfl

theorem child?_object_map (change : Scheme → Scheme) (label : Label)
    (fields : List (Field Scheme)) (branch : Branch) :
    (object label (fields.map (Field.map change))).child? branch =
      ((object label fields).child? branch).map change := by
  cases branch with
  | field index => cases found : fields[index]? <;> simp [child?, found, Field.map]
  | element => rfl
  | copy index => rfl

/-- Below a list every node is expressed from the path of the nearest list above it. -/
theorem at?_rebasedOnto (parent : Text) (scheme : Scheme) (position : Position) :
    (scheme.rebasedOnto parent).at? position =
      (scheme.at? position).map
        (expressedFrom (nearestPath parent (scheme.listsAbove position))) := by
  induction position generalizing scheme parent with
  | nil => simp [expressedFrom]
  -- A branch that leads nowhere leads nowhere after the pass as well.
  | cons branch rest ih =>
    cases scheme with
    | string => rfl
    | foreign => rfl
    | object label fields =>
      rw [rebasedOnto_object, at?, child?_object_map, at?]
      cases leads : (object label fields).child? branch with
      | none => rfl
      | some child =>
        rw [listsAbove_cons_of_not_isList rest rfl leads]
        exact ih parent child
    | list label path element content elements =>
      cases leads : (list label path element content elements).child? branch with
      | none =>
        cases found : given path with
        | none => rw [rebasedOnto_list_of_none _ _ _ _ _ _ found, at?, leads]; rfl
        | some own => rw [at?, child?_rebasedOnto_list found, at?, leads]; rfl
      | some child =>
        -- Without a path the list stops the pass; with one it takes over from the parent.
        have above := listsAbove_cons_of_isList rest rfl leads
        rw [above, nearestPath_cons, path?]
        cases found : given path with
        | none => simp [rebasedOnto_list_of_none _ _ _ _ _ _ found, expressedFrom_none]
        | some own =>
          rw [at?, child?_rebasedOnto_list found, at?, leads]
          exact ih own child

/-- What stands at a position of a rebased scheme: outside of lists a rebased node, and below one a
node that is expressed from a path, or is left alone. -/
theorem at?_rebased (scheme : Scheme) (position : Position) :
    scheme.rebased.at? position =
      (scheme.at? position).map fun node =>
        if (scheme.listsAbove position).isEmpty then node.rebased
        else expressedFrom (scheme.basis position) node := by
  induction position generalizing scheme with
  | nil => simp
  | cons branch rest ih =>
    cases scheme with
    | string => rfl
    | foreign => rfl
    | object label fields =>
      rw [rebased_object, at?, child?_object_map, at?]
      cases leads : (object label fields).child? branch with
      | none => rfl
      | some child =>
        rw [listsAbove_cons_of_not_isList rest rfl leads, basis_cons_of_not_isList rest rfl leads]
        exact ih child
    | list label path element content elements =>
      cases leads : (list label path element content elements).child? branch with
      | none =>
        cases element with
        | none => rw [rebased_untyped, at?, leads]; rfl
        | some element =>
          cases found : given path with
          | none => rw [rebased_list_of_none _ _ _ _ _ found, at?, leads]; rfl
          | some own => rw [at?, child?_rebased_list found, at?, leads]; rfl
      | some child =>
        have above := listsAbove_cons_of_isList rest rfl leads
        have from_path := basis_cons_of_isList rest rfl leads
        rw [above, from_path, List.isEmpty_cons]
        cases element with
        | none => simp [rebased_untyped, isTyped, expressedFrom]
        | some element =>
          cases found : given path with
          | none => simp [rebased_list_of_none _ _ _ _ _ found, path?, found, expressedFrom]
          | some own =>
            rw [at?, child?_rebased_list found, at?, leads]
            simp only [isTyped, Option.isSome_some, if_true, path?, found, Option.bind_some,
              Option.map_some, Bool.false_eq_true, if_false]
            exact at?_rebasedOnto own child rest

end PageScheme.Scheme
