import PageScheme.Extraction
import PageScheme.Proofs.Page.Location
import PageScheme.Proofs.Scheme.Position

/-!
# Picked elements are found again

A scheme is put together by picking elements on a page: every string and every list gets the path of
its element. Rebasing turns a path below a list into what is left of it behind the path of the
nearest list, with the first segment reduced to its tag. `picked_found_after_rebase` says that no
pick is lost by that, at any depth of nesting: run from the element of the nearest list, the
rewritten path still finds the element. Nothing but a subtree has to be known of the way between the
two elements, and the element of a list may be the very element that was picked.
-/
namespace PageScheme

open Extraction Place

/-! ### Located elements -/

section Located

variable {page : Page} {body p q context : Place} {trail : List Place}

/-- Everything below the body is in the document of the root. -/
theorem mem_document (regular : page.Regular body) (above : q ∈ body.subtree)
    (below : p ∈ body.subtree) : p ∈ q.document := by
  obtain ⟨upper, to_q⟩ := mem_subtree_iff.mp above
  -- The document is the one of the root for all places that are reached from it.
  have to_body : Descent page.rootPlace [body] body := .child .self regular.is_child
  rw [to_q.document_eq, to_body.document_eq]
  exact mem_document_of_mem_subtree (mem_subtree_of_child regular.is_child below)

/-- A path of steps that leads down to a place finds it. -/
theorem selectAll_of_descent {first : Path.Step} {top : Place} (url : Text)
    (descent : Descent top trail p)
    (readable : ∀ step ∈ first :: trail.reverse.map ownStep, Selector.IsReadable step)
    (within : top.isWithin context = true)
    (top_holds : (Selector.stepDemand first).holds context top = true)
    (each_holds : ∀ r ∈ trail, (Selector.stepDemand r.ownStep).holds context r = true)
    (in_document : p ∈ context.document) :
    ∃ found, selectAll url (some (Path.ofSteps (first :: trail.reverse.map ownStep))) context =
      .ok found ∧ p ∈ found := by
  have is_given := given_some_eq_some.mpr (Path.ofSteps_ne_nil
    (readable first List.mem_cons_self).plain (trail.reverse.map ownStep))
  obtain ⟨found, selected, member⟩ :=
    Selector.select_of_descent descent readable within top_holds each_holds in_document
  exact ⟨found, by simp only [selectAll, is_given, selected], member⟩

/-- The path of an element below the body finds it from the root. -/
theorem selectAll_path (regular : page.Regular body) (below : p ∈ body.subtree.tail)
    (is_element : p.isElement = true) (url : Text) :
    ∃ found, selectAll url (some p.path) page.rootPlace = .ok found ∧ p ∈ found := by
  obtain ⟨trail, nonempty, descent⟩ := exists_descent_of_mem_tail below
  have on_way := descent.mem_tail
  have elements := descent.isElement is_element
  have path_eq := path_eq_ofSteps regular descent is_element
  -- The step of the child of the body is asked for anywhere in the document, and the others from
  -- child to child below it.
  obtain ⟨first, lower, is_first, rfl, from_first⟩ := descent.exists_first nonempty
  have to_first : Descent page.rootPlace [first, body] first :=
    .child (.child .self regular.is_child) is_first
  have first_member : first ∈ lower ++ [first] := List.mem_append_right _ List.mem_cons_self
  rw [List.reverse_append, List.reverse_singleton, List.singleton_append, List.map_cons] at path_eq
  rw [path_eq]
  refine selectAll_of_descent url from_first ?_ to_first.isWithin
    (holds_ownStep regular (on_way first first_member) (elements first first_member) _) ?_
    (mem_document_of_mem_subtree ?_)
  · intro step member
    rw [← List.map_cons] at member
    obtain ⟨r, r_member, rfl⟩ := List.mem_map.mp member
    have r_on_way : r ∈ lower ++ [first] := by simpa [or_comm] using r_member
    exact isReadable_ownStep regular (on_way r r_on_way) (elements r r_on_way)
  · intro r member
    have r_on_way := List.mem_append_left [first] member
    exact holds_ownStep regular (on_way r r_on_way) (elements r r_on_way) _
  · exact mem_subtree_of_child regular.is_child (List.mem_of_mem_tail below)

/-- Expressed from the path of an element above it, the path of an element is made of the steps
between the two, the first of them without its position. -/
theorem relativeTo_eq_ofSteps (regular : page.Regular body) {upper lower : List Place}
    (to_q : Descent body upper q) (upper_some : upper ≠ []) (from_q : Descent q lower p)
    (is_element : p.isElement = true) :
    Path.relativeTo p.path q.path =
      Path.ofSteps (Path.reduceFirst (lower.reverse.map ownStep)) := by
  have descent := to_q.append from_q
  have path_eq : p.path =
      Path.ofSteps (upper.reverse.map ownStep ++ lower.reverse.map ownStep) := by
    rw [path_eq_ofSteps regular descent is_element, List.reverse_append, List.map_append]
  rw [path_eq, path_eq_ofSteps regular to_q (from_q.isElement_top is_element)]
  apply Path.relativeTo_ofSteps (by simpa using upper_some)
  intro step member
  rw [← List.map_append, ← List.reverse_append] at member
  obtain ⟨r, r_member, rfl⟩ := List.mem_map.mp member
  have on_way := List.mem_reverse.mp r_member
  exact (isReadable_ownStep regular (descent.mem_tail r on_way)
    (descent.isElement is_element r on_way)).plain

/-- The path of an element, expressed from the path of one above it, finds it from there. -/
theorem selectAll_relativeTo (regular : page.Regular body) (above : q ∈ body.subtree.tail)
    (below : p ∈ q.subtree) (is_element : p.isElement = true) (url : Text) :
    ∃ found, selectAll url (some (Path.relativeTo p.path q.path)) q = .ok found ∧ p ∈ found := by
  -- The way down from the body goes through the upper element, so its path is the front of the
  -- other.
  obtain ⟨upper, upper_some, to_q⟩ := exists_descent_of_mem_tail above
  obtain ⟨lower, from_q⟩ := mem_subtree_iff.mp below
  have descent := to_q.append from_q
  have on_way := descent.mem_tail
  have elements := descent.isElement is_element
  have readable : ∀ r ∈ lower ++ upper, Selector.IsReadable r.ownStep := fun r member =>
    isReadable_ownStep regular (on_way r member) (elements r member)
  have relative := relativeTo_eq_ofSteps regular to_q upper_some from_q is_element
  rw [relative]
  by_cases same : lower = []
  · -- No step is left: the path is empty and stands for the place itself.
    subst same
    cases from_q
    exact ⟨[p], rfl, List.mem_cons_self⟩
  · obtain ⟨first, rest, is_first, rfl, from_first⟩ := from_q.exists_first same
    have to_first : Descent q [first] first := .child .self is_first
    have first_member : first ∈ rest ++ [first] ++ upper := by simp
    have first_below := on_way first first_member
    rw [List.reverse_append, List.reverse_singleton, List.singleton_append, List.map_cons]
    -- The first step that is left has lost its position, and is asked for inside the upper element.
    refine selectAll_of_descent url from_first ?_ to_first.isWithin
      (holds_reduced_ownStep regular first_below (elements first first_member) _) ?_
      (mem_document regular (List.mem_of_mem_tail above) ?_)
    · intro step member
      rcases List.mem_cons.mp member with rfl | member
      · exact (readable first first_member).reduced
      · obtain ⟨r, r_member, rfl⟩ := List.mem_map.mp member
        exact readable r (by simp [List.mem_reverse.mp r_member])
    · intro r member
      have r_on_way : r ∈ rest ++ [first] ++ upper := by simp [member]
      exact holds_ownStep regular (on_way r r_on_way) (elements r r_on_way) _
    · exact mem_subtree_trans (List.mem_of_mem_tail above) below

theorem path_ne_nil (regular : page.Regular body) (below : p ∈ body.subtree.tail)
    (is_element : p.isElement = true) : p.path ≠ [] := by
  obtain ⟨trail, nonempty, descent⟩ := exists_descent_of_mem_tail below
  obtain ⟨first, lower, -, rfl, -⟩ := descent.exists_first nonempty
  have first_member : first ∈ lower ++ [first] := List.mem_append_right _ List.mem_cons_self
  have readable := isReadable_ownStep regular (descent.mem_tail first first_member)
    (descent.isElement is_element first first_member)
  rw [path_eq_ofSteps regular descent is_element, List.reverse_append, List.reverse_singleton,
    List.singleton_append, List.map_cons]
  exact Path.ofSteps_ne_nil readable.plain _

end Located

namespace Scheme

/-- The element of a string or a list at a position: it lies below the body, its path is the path of
the node, and if there is a list above the node, it is the element of the nearest such list or lies
in it. Every list has something to be read from its items. -/
structure PickedAt (body : Place) (scheme : Scheme) (picked : Position → Place)
    (position : Position) : Prop where
  below : picked position ∈ body.subtree.tail
  is_element : (picked position).isElement = true
  located : ∀ node ∈ scheme.at? position, ∀ path ∈ node.pathField?,
    path = some (picked position).path
  typed : ∀ node ∈ scheme.at? position, node.isList = true → node.isTyped = true
  inside : ∀ above ∈ scheme.nearestList? position, picked position ∈ (picked above).subtree

/-- The strings and lists on the way to a position and at the position itself were picked. -/
def PickedAlong (body : Place) (scheme : Scheme) (picked : Position → Place)
    (position : Position) : Prop :=
  ∀ above, above <+: position → ∀ node ∈ scheme.at? above, node.pathField?.isSome →
    PickedAt body scheme picked above

/-- The place from which what is at a position is looked for: the element of the nearest list above
it, or the root of the page. -/
def contextOf (page : Page) (scheme : Scheme) (picked : Position → Place) (position : Position) :
    Place :=
  ((scheme.nearestList? position).map picked).getD page.rootPlace

variable {page : Page} {body : Place} {scheme node : Scheme} {picked : Position → Place}
  {position above : Position}

theorem isSome_pathField?_of_isList (is_list : node.isList = true) :
    node.pathField?.isSome = true := by
  cases node with
  | list => rfl
  | _ => contradiction

theorem PickedAt.path?_eq (at_list : scheme.PickedAt body picked above)
    (regular : page.Regular body) (found : scheme.at? above = some node)
    (is_list : node.isList = true) : node.path? = some (picked above).path := by
  cases node with
  | list label path element content elements =>
    rw [path?, at_list.located _ found path rfl]
    exact given_some_eq_some.mpr (path_ne_nil regular at_list.below at_list.is_element)
  | _ => contradiction

/-- Where all lists above a position were picked, it is expressed from the path of the nearest
one. -/
theorem basis_eq_of_pickedAlong (regular : page.Regular body)
    (along : scheme.PickedAlong body picked position)
    (nearest : scheme.nearestList? position = some above) :
    scheme.basis position = some (picked above).path := by
  -- Every list above the position stands on the way to it, so it was picked, and has a path.
  have each : ∀ list ∈ scheme.listsAbove position,
      list.isTyped = true ∧ list.path?.isSome = true := by
    intro list member
    obtain ⟨is_list, other, on_way, found⟩ := exists_position_of_mem_listsAbove member
    have at_list := along other on_way list found (isSome_pathField?_of_isList is_list)
    refine ⟨at_list.typed list found is_list, ?_⟩
    rw [at_list.path?_eq regular found is_list]
    rfl
  obtain ⟨on_way, list, found, last⟩ := getLast?_listsAbove nearest
  have member := List.mem_of_getLast? last
  obtain ⟨is_list, -⟩ := exists_position_of_mem_listsAbove member
  have at_list := along above on_way list found (isSome_pathField?_of_isList is_list)
  -- So the pass gets through all lists, from the outermost one on.
  have head_typed : (scheme.listsAbove position).head?.any isTyped = true := by
    obtain ⟨first, others, lists_eq⟩ := List.exists_cons_of_ne_nil (List.ne_nil_of_mem member)
    rw [lists_eq]
    exact (each first (by rw [lists_eq]; exact List.mem_cons_self)).1
  have all_given : (scheme.listsAbove position).all (·.path?.isSome) = true :=
    List.all_eq_true.mpr fun list member => (each list member).2
  simp only [basis, head_typed, all_given, Bool.and_self, if_true, last, Option.bind_some]
  exact at_list.path?_eq regular found is_list

end Scheme

/-- In a rebased scheme, every string and every list that was picked, below lists that were picked,
finds its element again: from the element of the nearest list above it, or from the root of the page
where there is no list above it. -/
theorem picked_found_after_rebase {page : Page} {body : Place} (regular : page.Regular body)
    {scheme : Scheme} (valid : scheme.Valid) (picked : Scheme.Position → Place) (url : Text) :
    ∃ rebased, scheme.rebase = .ok rebased ∧
      ∀ position, scheme.PickedAlong body picked position →
        ∀ node ∈ rebased.at? position, ∀ path ∈ node.pathField?,
          ∃ found, selectAll url path (scheme.contextOf page picked position) = .ok found ∧
            picked position ∈ found := by
  refine ⟨scheme.rebased, valid.rebase_eq, ?_⟩
  intro position along node node_found path has_path
  rw [Option.mem_def, Scheme.at?_rebased] at node_found
  obtain ⟨old, old_found, rfl⟩ := Option.map_eq_some_iff.mp node_found
  cases nearest : scheme.nearestList? position with
  | none =>
    -- Outside of lists the path is the one that was recorded.
    have outside := Scheme.listsAbove_of_nearestList?_eq_none nearest
    rw [outside, List.isEmpty_nil, if_pos rfl, Scheme.pathField?_rebased] at has_path
    have here := along position List.prefix_rfl old old_found (Option.isSome_of_mem has_path)
    rw [here.located old old_found path has_path, Scheme.contextOf, nearest]
    exact selectAll_path regular here.below here.is_element url
  | some above =>
    -- Below a list the path is expressed from the one that was recorded for the nearest list.
    obtain ⟨on_way, list, found, last⟩ := Scheme.getLast?_listsAbove nearest
    have member := List.mem_of_getLast? last
    have inside : (scheme.listsAbove position).isEmpty = false :=
      List.isEmpty_eq_false_iff.mpr (List.ne_nil_of_mem member)
    rw [inside, Scheme.basis_eq_of_pickedAlong regular along nearest] at has_path
    change path ∈ (old.rebasedOnto (picked above).path).pathField? at has_path
    rw [Scheme.pathField?_rebasedOnto] at has_path
    obtain ⟨before, has_before, rfl⟩ := Option.map_eq_some_iff.mp has_path
    have here := along position List.prefix_rfl old old_found (Option.isSome_of_mem has_before)
    have is_given := given_some_eq_some.mpr (path_ne_nil regular here.below here.is_element)
    obtain ⟨is_list, -⟩ := Scheme.exists_position_of_mem_listsAbove member
    have at_list := along above on_way list found (Scheme.isSome_pathField?_of_isList is_list)
    rw [here.located old old_found before has_before, Scheme.pathOnto, is_given, Scheme.contextOf,
      nearest]
    exact selectAll_relativeTo regular at_list.below (here.inside above nearest) here.is_element url

def nestedPage : Page where
  before := []
  root := .element "html" [] [.element "body" [] [.element "ul" []
    [.element "li" [] [], .element "li" [] [.element "b" [] [.element "i" [] []]]]]]
  after := []

def nestedPlace (index : Nat) : Place :=
  nestedPage.rootPlace.subtree.getD index nestedPage.rootPlace

/-- A list in a list, read from the second item and from the elements in it. -/
def nestedScheme : Scheme :=
  .list {} (some (Text.ofString "ul > li:nth-of-type(2)"))
    (some (.list {} (some (Text.ofString "ul > li:nth-of-type(2) > b"))
      (some (.string {} (some (Text.ofString "ul > li:nth-of-type(2) > b > i")) .innerHtml .null))
      none none))
    none none

/-- A page is regular if each place below its body passes the tests. -/
theorem Page.regular_of_all {page : Page} {body : Place} (is_child : body ∈ page.rootPlace.children)
    (is_body : body.node.tag? = some "body")
    (plain : body.subtree.tail.all (fun p => p.node.tag?.all Text.isPlainName) = true)
    (no_root : body.subtree.tail.all (fun p => p.node.tag? != some "html") = true)
    (few : body.subtree.tail.all (fun p => p.before.length + 1 < 10) = true) :
    page.Regular body := by
  simp only [List.all_eq_true, bne_iff_ne, decide_eq_true_eq] at plain no_root few
  refine ⟨is_child, is_body, fun p below tag is_tag => ?_, no_root, fun p below => ?_⟩
  · have all_plain := plain p below
    rw [Option.mem_def.mp is_tag] at all_plain
    exact all_plain
  · exact Nat.lt_of_lt_of_le (few p below) (Nat.le_self_pow (by decide) 10)

theorem nestedPage_regular : nestedPage.Regular (nestedPlace 1) :=
  Page.regular_of_all (List.mem_of_getElem? (i := 0) rfl) rfl rfl rfl rfl

theorem nestedPlace_paths :
    (nestedPlace 4).path = Text.ofString "ul > li:nth-of-type(2)" ∧
      (nestedPlace 5).path = Text.ofString "ul > li:nth-of-type(2) > b" ∧
      (nestedPlace 6).path = Text.ofString "ul > li:nth-of-type(2) > b > i" := by
  decide +kernel

/-- The innermost node is read from what is left of its path, inside the element of the inner
list. -/
theorem nested_picked_found :
    nestedPage.Regular (nestedPlace 1) ∧ nestedScheme.Valid ∧
      ∃ rebased, nestedScheme.rebase = .ok rebased ∧
        ∃ found, selectAll [] (some (Text.ofString "i")) (nestedPlace 5) = .ok found ∧
          nestedPlace 6 ∈ found := by
  have valid : nestedScheme.Valid := by simp [nestedScheme]
  let picked : Scheme.Position → Place := fun position => nestedPlace (position.length + 4)
  obtain ⟨rebased, rebased_eq, finds⟩ :=
    picked_found_after_rebase nestedPage_regular valid picked []
  obtain ⟨item_path, inner_path, leaf_path⟩ := nestedPlace_paths
  have along : nestedScheme.PickedAlong (nestedPlace 1) picked [.element, .element] := by
    intro above on_way node found has_path
    simp only [List.prefix_cons_iff, List.prefix_nil] at on_way
    rcases on_way with rfl | ⟨_, rfl, rfl | ⟨_, rfl, rfl⟩⟩
    · refine ⟨List.mem_of_getElem? (i := 2) rfl, rfl, ?_, ?_, nofun⟩
      · rintro _ ⟨⟩ _ ⟨⟩
        exact congrArg some item_path.symm
      · rintro _ ⟨⟩ -
        rfl
    · refine ⟨List.mem_of_getElem? (i := 3) rfl, rfl, ?_, ?_, ?_⟩
      · rintro _ ⟨⟩ _ ⟨⟩
        exact congrArg some inner_path.symm
      · rintro _ ⟨⟩ -
        rfl
      · rintro _ ⟨⟩
        exact List.mem_of_getElem? (i := 1) rfl
    · refine ⟨List.mem_of_getElem? (i := 4) rfl, rfl, ?_, nofun, ?_⟩
      · rintro _ ⟨⟩ _ ⟨⟩
        exact congrArg some leaf_path.symm
      · rintro _ ⟨⟩
        exact List.mem_of_getElem? (i := 1) rfl
  obtain rfl : nestedScheme.rebased = rebased :=
    Except.ok.inj (valid.rebase_eq.symm.trans rebased_eq)
  exact ⟨nestedPage_regular, valid, nestedScheme.rebased, rebased_eq,
    finds [.element, .element] along _ rfl _ rfl⟩

end PageScheme
