import PageScheme.Proofs.Extraction.Picking
import PageScheme.Proofs.Page.Decoding

/-!
# It does not matter which item was picked

The items of a list are alike: the same tags, nested in the same way, with whatever texts and
attributes. Elements at the same position in two such items are reached by the same steps, since the
position that a step names is counted among siblings in the item. The step to the item itself is the
one that differs, and it is the one that is reduced to its tag when the path is expressed from the
container. So either element gives the same path, and the path finds both
(`relativeTo_eq_of_counterparts`).
-/
namespace PageScheme

/-- An element by its tags alone: its own, and those of the elements in it. -/
inductive TagTree
  | element (tag : String) (inside : List TagTree)

def TagTree.tag : TagTree → String
  | element tag _ => tag

mutual

/-- The tags of an element and of what lies in it; what is no element has none. -/
def Node.tagTree? : Node → Option TagTree
  | .element tag _ children => some (.element tag (tagTrees children))
  | .text _ => none
  | .verbatim _ => none
  | .comment _ => none
  | .instruction _ => none
  | .entity _ => none
termination_by structural node => node

def Node.tagTrees : List Node → List TagTree
  | [] => []
  | node :: rest => node.tagTree?.toList ++ tagTrees rest
termination_by structural nodes => nodes

end

namespace Place

/-- The element at a position below a place: each number says to which of the elements in a place
the way goes on. -/
def elementAt? : Place → List Nat → Option Place
  | p, [] => some p
  | p, index :: rest =>
    (p.children.filter isElement)[index]?.bind fun child => child.elementAt? rest

variable {p q r s child other : Place} {index : Nat}

/-! ### Tags -/

theorem tagTrees_eq_filterMap (nodes : List Node) :
    Node.tagTrees nodes = nodes.filterMap Node.tagTree? := by
  induction nodes with
  | nil => rfl
  | cons node rest ih => cases tree : node.tagTree? <;> simp [Node.tagTrees, tree, ih]

theorem isSome_tagTree? (node : Node) : node.tagTree?.isSome = node.isElement := by
  cases node <;> rfl

theorem lowerTag?_eq (node : Node) :
    node.lowerTag? = node.tagTree?.map fun tree => Text.lower tree.tag := by
  cases node <;> rfl

/-- Siblings of a tag are counted alike where the tags are the same. -/
theorem countTag_eq (tag : String) (nodes : List Node) :
    countTag tag nodes =
      (Node.tagTrees nodes).countP fun tree => Text.lower tree.tag == tag := by
  rw [tagTrees_eq_filterMap, List.countP_filterMap, countTag]
  apply List.countP_congr
  intro node _
  rw [lowerTag?_eq]
  cases node.tagTree? <;> simp

theorem length_filter_isElement (places : List Place) :
    (Node.tagTrees (places.map node)).length = (places.filter isElement).length := by
  rw [tagTrees_eq_filterMap]
  induction places with
  | nil => rfl
  | cons p rest ih =>
    have is_element : p.node.tagTree?.isSome = p.isElement := isSome_tagTree? p.node
    cases tree : p.node.tagTree? <;> simp_all

/-! ### Steps -/

theorem exists_split_of_filter {α : Type} {f : α → Bool} {items : List α} {item : α} {index : Nat}
    (found : (items.filter f)[index]? = some item) :
    ∃ front back, items = front ++ item :: back ∧ (front.filter f).length = index := by
  induction items generalizing index with
  | nil => simp at found
  | cons first rest ih =>
    cases keeps : f first with
    | false =>
      rw [List.filter_cons_of_neg (by simp [keeps])] at found
      obtain ⟨front, back, split, count⟩ := ih found
      exact ⟨first :: front, back, by simp [split], by simp [keeps, count]⟩
    | true =>
      rw [List.filter_cons_of_pos keeps] at found
      cases index with
      | zero =>
        obtain rfl : first = item := by simpa using found
        exact ⟨[], rest, rfl, rfl⟩
      | succ index =>
        obtain ⟨front, back, split, count⟩ := ih (by simpa using found)
        exact ⟨first :: front, back, by simp [split], by simp [keeps, count]⟩

theorem nodes_around {above : List Frame} {before nodes : List Node} {front back : List Place}
    (split : among above before nodes = front ++ child :: back) :
    child.before = (front.map node).reverse ++ before ∧ child.after = back.map node := by
  induction front generalizing before nodes with
  | nil =>
    cases nodes with
    | nil => cases split
    | cons node rest =>
      obtain ⟨rfl, rfl⟩ := List.cons.inj split
      simp [map_node_among]
  | cons first front ih =>
    cases nodes with
    | nil => cases split
    | cons node rest =>
      obtain ⟨rfl, split_rest⟩ := List.cons.inj split
      obtain ⟨before_eq, after_eq⟩ := ih split_rest
      exact ⟨by simp [before_eq], after_eq⟩

theorem tagTrees_append (front back : List Node) :
    Node.tagTrees (front ++ back) = Node.tagTrees front ++ Node.tagTrees back := by
  simp [tagTrees_eq_filterMap]

/-- The tags in a place are those before one of its elements, those of the element, and those behind
it; and there are as many before it as its position says. -/
theorem tagTrees_split (found : (p.children.filter isElement)[index]? = some child) :
    ∃ tag inside tree, p.node.tagTree? = some (.element tag inside) ∧
      child.node.tagTree? = some tree ∧
      inside = Node.tagTrees child.before.reverse ++ tree :: Node.tagTrees child.after ∧
      (Node.tagTrees child.before.reverse).length = index := by
  obtain ⟨is_child, is_element⟩ := List.mem_filter.mp (List.mem_of_getElem? found)
  obtain ⟨tag, attributes, front, back, p_node, placed⟩ := exists_element_of_mem_children is_child
  obtain ⟨tree, is_tree⟩ :=
    Option.isSome_iff_exists.mp ((isSome_tagTree? child.node).trans is_element)
  have before_eq : child.before.reverse = front := by rw [placed, List.reverse_reverse]
  have after_eq : child.after = back := by rw [placed]
  refine ⟨tag, _, tree, by rw [p_node, Node.tagTree?], is_tree, ?_, ?_⟩
  · rw [tagTrees_append, before_eq, after_eq, Node.tagTrees, is_tree]
    rfl
  · -- The elements before the child are those that the position has passed.
    obtain ⟨earlier, later, split, count⟩ := exists_split_of_filter found
    rw [children, p_node] at split
    obtain ⟨before_nodes, -⟩ := nodes_around split
    rw [before_nodes, List.append_nil, List.reverse_reverse, length_filter_isElement, count]

/-- Where the tags in two places are the same, elements at the same position have the same tags in
them and the same step. -/
theorem ownStep_eq_of_tagTree?_eq (same : p.node.tagTree? = q.node.tagTree?)
    (found : (p.children.filter isElement)[index]? = some child)
    (found_other : (q.children.filter isElement)[index]? = some other) :
    child.node.tagTree? = other.node.tagTree? ∧ child.ownStep = other.ownStep := by
  obtain ⟨tag, inside, tree, p_tree, child_tree, inside_eq, count⟩ := tagTrees_split found
  obtain ⟨_, _, other_tree, q_tree, other_is, inside_other, count_other⟩ :=
    tagTrees_split found_other
  rw [p_tree, q_tree] at same
  obtain ⟨rfl, rfl⟩ := TagTree.element.inj (Option.some.inj same)
  obtain ⟨before_same, rest_same⟩ :=
    List.append_inj (inside_eq.symm.trans inside_other) (count.trans count_other.symm)
  obtain ⟨rfl, after_same⟩ := List.cons.inj rest_same
  have counts : ∀ tag, countTag tag child.before = countTag tag other.before ∧
      countTag tag child.after = countTag tag other.after := by
    intro tag
    have reversed : ∀ nodes, countTag tag nodes = countTag tag nodes.reverse := fun nodes =>
      List.countP_reverse.symm
    rw [reversed child.before, reversed other.before]
    simp only [countTag_eq, before_same, after_same, and_self]
  refine ⟨child_tree.trans other_is.symm, ?_⟩
  simp only [ownStep, lowerTag?_eq, child_tree, other_is, counts]

/-- From places with the same tags in them, the same steps lead down to elements at the same
position. -/
theorem exists_same_steps {position : List Nat} (same : p.node.tagTree? = q.node.tagTree?)
    (to_r : p.elementAt? position = some r) (to_s : q.elementAt? position = some s) :
    ∃ left right, Descent p left r ∧ Descent q right s ∧ left.map ownStep = right.map ownStep := by
  induction position generalizing p q with
  | nil =>
    obtain rfl := Option.some.inj to_r
    obtain rfl := Option.some.inj to_s
    exact ⟨[], [], .self, .self, rfl⟩
  | cons index rest ih =>
    obtain ⟨child, found, from_child⟩ := Option.bind_eq_some_iff.mp to_r
    obtain ⟨other, found_other, from_other⟩ := Option.bind_eq_some_iff.mp to_s
    obtain ⟨tags, step⟩ := ownStep_eq_of_tagTree?_eq same found found_other
    obtain ⟨left, right, left_leads, right_leads, steps⟩ := ih tags from_child from_other
    have is_child := List.mem_of_mem_filter (List.mem_of_getElem? found)
    have is_other := List.mem_of_mem_filter (List.mem_of_getElem? found_other)
    refine ⟨left ++ [child], right ++ [other], (Descent.child .self is_child).append left_leads,
      (Descent.child .self is_other).append right_leads, ?_⟩
    simp [steps, step]

theorem isElement_of_elementAt? {position : List Nat} (is_element : p.isElement = true)
    (to_r : p.elementAt? position = some r) : r.isElement = true := by
  induction position generalizing p with
  | nil =>
    obtain rfl := Option.some.inj to_r
    exact is_element
  | cons index rest ih =>
    obtain ⟨child, found, from_child⟩ := Option.bind_eq_some_iff.mp to_r
    exact ih (List.mem_filter.mp (List.mem_of_getElem? found)).2 from_child

end Place

open Extraction Place

section Items

variable {page : Page} {body container item other picked counterpart : Place}

/-- Below an item, the path of an element is expressed from the container by the tag of the item and
the steps from there. -/
theorem relativeTo_container (regular : page.Regular body) (below : container ∈ body.subtree.tail)
    (is_item : item ∈ container.children) {lower : List Place}
    (from_item : Descent item lower picked) (is_element : picked.isElement = true) :
    Path.relativeTo picked.path container.path =
      Path.ofSteps (item.ownStep.reduced :: lower.reverse.map ownStep) := by
  obtain ⟨upper, upper_some, to_container⟩ := exists_descent_of_mem_tail below
  have from_container := (Descent.child .self is_item).append from_item
  rw [relativeTo_eq_ofSteps regular to_container upper_some from_container is_element,
    List.reverse_append, List.reverse_singleton, List.singleton_append, List.map_cons]
  rfl

/-- Elements at the same position in two items of the same tags have the same path when it is
expressed from the container, and there the path finds both of them. -/
theorem relativeTo_eq_of_counterparts (regular : page.Regular body)
    (below : container ∈ body.subtree.tail) (is_item : item ∈ container.children)
    (is_other : other ∈ container.children) (is_element : item.isElement = true)
    (same : item.node.tagTree? = other.node.tagTree?) {position : List Nat}
    (to_picked : item.elementAt? position = some picked)
    (to_counterpart : other.elementAt? position = some counterpart) (url : Text) :
    Path.relativeTo picked.path container.path = Path.relativeTo counterpart.path container.path ∧
      ∃ found, selectAll url (some (Path.relativeTo picked.path container.path)) container =
          .ok found ∧ picked ∈ found ∧ counterpart ∈ found := by
  obtain ⟨left, right, to_left, to_right, steps⟩ := exists_same_steps same to_picked to_counterpart
  have other_element : other.isElement = true := by
    rw [isElement, ← isSome_tagTree?, ← same, isSome_tagTree?]
    exact is_element
  have picked_element := isElement_of_elementAt? is_element to_picked
  have counterpart_element := isElement_of_elementAt? other_element to_counterpart
  have same_tag : item.ownStep.reduced = other.ownStep.reduced := by
    simp [ownStep, Path.Step.reduced, lowerTag?_eq, same]
  have same_path : Path.relativeTo picked.path container.path =
      Path.relativeTo counterpart.path container.path := by
    rw [relativeTo_container regular below is_item to_left picked_element,
      relativeTo_container regular below is_other to_right counterpart_element, same_tag,
      List.map_reverse, List.map_reverse, steps]
  have inside : picked ∈ container.subtree :=
    mem_subtree_of_child is_item (mem_subtree_iff.mpr ⟨left, to_left⟩)
  have inside_other : counterpart ∈ container.subtree :=
    mem_subtree_of_child is_other (mem_subtree_iff.mpr ⟨right, to_right⟩)
  obtain ⟨found, selected, has_picked⟩ :=
    selectAll_relativeTo regular below inside picked_element url
  obtain ⟨again, selected_again, has_counterpart⟩ :=
    selectAll_relativeTo regular below inside_other counterpart_element url
  rw [← same_path, selected] at selected_again
  obtain rfl := Except.ok.inj selected_again
  exact ⟨same_path, found, selected, has_picked, has_counterpart⟩

end Items

/-- Items with two elements of a tag in them, one of them with more around these, and an empty
item. -/
def itemsPage : Page where
  before := []
  root := .element "html" [] [.element "body" [] [.element "ul" [] [
    .element "li" [] [.element "b" [] [], .element "i" [] [], .element "b" [] []],
    .element "li" [] [],
    .element "li" [⟨"class", some "x"⟩] [.text "x", .element "b" [] [], .element "i" [] [],
      .comment "y", .element "b" [] [.text "z"]]]]]
  after := []

def itemsPlace (index : Nat) : Place := itemsPage.rootPlace.subtree.getD index itemsPage.rootPlace

/-- The third element of the first item and that of the last one have the same path from the list,
which finds both of them. -/
theorem itemsPage_counterparts :
    itemsPage.Regular (itemsPlace 1) ∧ itemsPlace 2 ∈ (itemsPlace 1).subtree.tail ∧
      itemsPlace 3 ∈ (itemsPlace 2).children ∧ itemsPlace 8 ∈ (itemsPlace 2).children ∧
      (itemsPlace 3).isElement = true ∧
      (itemsPlace 3).node.tagTree? = (itemsPlace 8).node.tagTree? ∧
      (itemsPlace 3).elementAt? [2] = some (itemsPlace 6) ∧
      (itemsPlace 8).elementAt? [2] = some (itemsPlace 13) ∧
      Path.relativeTo (itemsPlace 6).path (itemsPlace 2).path =
        Text.ofString "li > b:nth-of-type(2)" ∧
      Path.relativeTo (itemsPlace 13).path (itemsPlace 2).path =
        Text.ofString "li > b:nth-of-type(2)" ∧
      ∃ found, selectAll [] (some (Text.ofString "li > b:nth-of-type(2)")) (itemsPlace 2) =
          .ok found ∧ itemsPlace 6 ∈ found ∧ itemsPlace 13 ∈ found := by
  have regular : itemsPage.Regular (itemsPlace 1) :=
    Page.regular_of_all (List.mem_of_getElem? (i := 0) rfl) rfl rfl rfl rfl
  have below : itemsPlace 2 ∈ (itemsPlace 1).subtree.tail := List.mem_of_getElem? (i := 0) rfl
  have is_item : itemsPlace 3 ∈ (itemsPlace 2).children := List.mem_of_getElem? (i := 0) rfl
  have is_other : itemsPlace 8 ∈ (itemsPlace 2).children := List.mem_of_getElem? (i := 2) rfl
  have path_eq : Path.relativeTo (itemsPlace 6).path (itemsPlace 2).path =
      Text.ofString "li > b:nth-of-type(2)" := by decide +kernel
  have to_picked : (itemsPlace 3).elementAt? [2] = some (itemsPlace 6) := rfl
  have to_counterpart : (itemsPlace 8).elementAt? [2] = some (itemsPlace 13) := rfl
  obtain ⟨same_path, finds⟩ := relativeTo_eq_of_counterparts regular below is_item is_other rfl rfl
    to_picked to_counterpart []
  rw [path_eq] at same_path finds
  exact ⟨regular, below, is_item, is_other, rfl, rfl, to_picked, to_counterpart, path_eq,
    same_path.symm, finds⟩

end PageScheme
