import PageScheme.Page.Place

/-!
# Ancestry

The places of a subtree are the ones that are reached by going down from child to child. A descent
keeps the places on the way, so that what holds of a place and its children holds, by induction on a
descent, of everything below it: the way up leads back, and the document and the position in it are
those of the place above.
-/
namespace PageScheme.Place

/-- A place is reached from `top` through some places, innermost first and the place itself
included. -/
inductive Descent (top : Place) : List Place → Place → Prop
  | self : Descent top [] top
  | child {trail p child} : Descent top trail p → child ∈ p.children →
      Descent top (child :: trail) child

namespace Descent

theorem append {top middle p : Place} {upper lower : List Place}
    (from_top : Descent top upper middle) (from_middle : Descent middle lower p) :
    Descent top (lower ++ upper) p := by
  induction from_middle with
  | self => exact from_top
  | child _ is_child ih => exact .child ih is_child

theorem exists_first {top p : Place} {trail : List Place} (descent : Descent top trail p)
    (nonempty : trail ≠ []) :
    ∃ first lower, first ∈ top.children ∧ trail = lower ++ [first] ∧ Descent first lower p := by
  induction descent with
  | self => exact absurd rfl nonempty
  | @child trail q child above is_child ih =>
    -- Either this is the first step, or the way to the parent begins with it.
    cases above with
    | self => exact ⟨child, [], is_child, rfl, .self⟩
    | child =>
      obtain ⟨first, lower, is_first, split, from_first⟩ := ih (List.cons_ne_nil _ _)
      exact ⟨first, child :: lower, is_first, by rw [split]; rfl, .child from_first is_child⟩

end Descent

/-! ### Children -/

/-- A place among some nodes has the nodes before it and behind it around it. -/
theorem mem_among_iff {above : List Frame} {before nodes : List Node} {p : Place} :
    p ∈ among above before nodes ↔
      ∃ front back, nodes = front ++ p.node :: back ∧
        p = ⟨p.node, front.reverse ++ before, back, above⟩ := by
  -- The nodes that have been passed are kept in reverse, so `before` grows at its front.
  induction nodes generalizing before with
  | nil => simp [among]
  | cons node rest ih =>
    rw [among, List.mem_cons, ih]
    constructor
    · rintro (rfl | ⟨front, back, rfl, placed⟩)
      · exact ⟨[], rest, rfl, rfl⟩
      · exact ⟨node :: front, back, rfl, by rw [placed]; simp⟩
    · rintro ⟨front, back, split, placed⟩
      cases front with
      | nil =>
        obtain ⟨rfl, rfl⟩ := List.cons.inj split
        exact .inl placed
      | cons first front =>
        obtain ⟨rfl, rfl⟩ := List.cons.inj split
        exact .inr ⟨front, back, rfl, by rw [placed]; simp⟩

/-- Only an element has children. They stand between the other nodes in it. -/
theorem exists_element_of_mem_children {p child : Place} (is_child : child ∈ p.children) :
    ∃ tag attributes front back, p.node = .element tag attributes (front ++ child.node :: back) ∧
      child =
        ⟨child.node, front.reverse, back, ⟨tag, attributes, p.before, p.after⟩ :: p.above⟩ := by
  obtain ⟨node, before, after, above⟩ := p
  cases node with
  | element tag attributes nodes =>
    obtain ⟨front, back, split, placed⟩ := mem_among_iff.mp is_child
    rw [List.append_nil] at placed
    exact ⟨tag, attributes, front, back, by rw [split], placed⟩
  | _ => simp [children] at is_child

theorem parent?_of_mem_children {p child : Place} (is_child : child ∈ p.children) :
    child.parent? = some p := by
  obtain ⟨tag, attributes, front, back, p_node, placed⟩ := exists_element_of_mem_children is_child
  -- The parent is put together again from the nodes around the child.
  rw [placed, parent?]
  simp only [List.reverse_reverse, ← p_node]

theorem isElement_of_mem_children {p child : Place} (is_child : child ∈ p.children) :
    p.isElement = true := by
  obtain ⟨tag, attributes, front, back, p_node, -⟩ := exists_element_of_mem_children is_child
  rw [isElement, p_node]
  rfl

theorem sizeOf_lt_of_mem_children {p child : Place} (is_child : child ∈ p.children) :
    sizeOf child.node < sizeOf p.node := by
  obtain ⟨tag, attributes, front, back, p_node, -⟩ := exists_element_of_mem_children is_child
  have member : child.node ∈ front ++ child.node :: back := by simp
  have smaller := List.sizeOf_lt_of_mem member
  rw [p_node, Node.element.sizeOf_spec]
  omega

/-- What holds of a place whenever it holds of its children holds of every place. -/
theorem children_induction {motive : Place → Prop}
    (step : ∀ p, (∀ child ∈ p.children, motive child) → motive p) (p : Place) : motive p :=
  step p fun child _ => children_induction step child
termination_by sizeOf p.node
decreasing_by exact sizeOf_lt_of_mem_children ‹_›

/-! ### Subtrees -/

theorem allAmong_eq_flatMap (above : List Frame) (before nodes : List Node) :
    allAmong above before nodes = (among above before nodes).flatMap subtree := by
  induction nodes generalizing before with
  | nil => rfl
  | cons node rest ih =>
    rw [allAmong, ih, among, List.flatMap_cons]
    rfl

theorem subtree_eq (p : Place) : p.subtree = p :: p.children.flatMap subtree := by
  obtain ⟨node, before, after, above⟩ := p
  cases node with
  | element tag attributes children =>
    rw [subtree, allWithin, allAmong_eq_flatMap]
    rfl
  | _ => rfl

theorem self_mem_subtree (p : Place) : p ∈ p.subtree := by
  rw [subtree_eq]
  exact List.mem_cons_self

theorem mem_subtree_of_child {p child q : Place} (is_child : child ∈ p.children)
    (below : q ∈ child.subtree) : q ∈ p.subtree := by
  rw [subtree_eq]
  exact List.mem_cons_of_mem _ (List.mem_flatMap.mpr ⟨child, is_child, below⟩)

/-- A subtree holds what can be reached by going down. -/
theorem mem_subtree_iff {top p : Place} : p ∈ top.subtree ↔ ∃ trail, Descent top trail p := by
  -- Down to a member by induction on the top; up from a place by induction on the descent.
  constructor
  · intro member
    induction top using children_induction with
    | step top ih =>
      rw [subtree_eq] at member
      rcases List.mem_cons.mp member with rfl | below
      · exact ⟨[], .self⟩
      · obtain ⟨child, is_child, inside⟩ := List.mem_flatMap.mp below
        obtain ⟨trail, descent⟩ := ih child is_child inside
        exact ⟨trail ++ [child], (Descent.child .self is_child).append descent⟩
  · rintro ⟨trail, descent⟩
    -- Going down keeps inside: the subtree of a place on the way is part of the one of the top.
    have inside : ∀ q ∈ p.subtree, q ∈ top.subtree := by
      induction descent with
      | self => exact fun _ member => member
      | child _ is_child ih => exact fun q member => ih q (mem_subtree_of_child is_child member)
    exact inside p (self_mem_subtree p)

/-- What lies below a place, the place itself left out, is reached by going down at least once. -/
theorem exists_descent_of_mem_tail {top p : Place} (below : p ∈ top.subtree.tail) :
    ∃ trail, trail ≠ [] ∧ Descent top trail p := by
  rw [subtree_eq, List.tail_cons] at below
  obtain ⟨child, is_child, inside⟩ := List.mem_flatMap.mp below
  obtain ⟨trail, descent⟩ := mem_subtree_iff.mp inside
  exact ⟨trail ++ [child], by simp, (Descent.child .self is_child).append descent⟩

theorem mem_subtree_trans {p q r : Place} (upper : q ∈ p.subtree) (lower : r ∈ q.subtree) :
    r ∈ p.subtree := by
  obtain ⟨front, from_p⟩ := mem_subtree_iff.mp upper
  obtain ⟨back, from_q⟩ := mem_subtree_iff.mp lower
  exact mem_subtree_iff.mpr ⟨_, from_p.append from_q⟩

/-- Every place on the way down lies below the top. -/
theorem Descent.mem_tail {top p : Place} {trail : List Place} (descent : Descent top trail p) :
    ∀ q ∈ trail, q ∈ top.subtree.tail := by
  -- On the descent: a new place is a child of the one before, which is below the top, or is the
  -- top.
  induction descent with
  | self => simp
  | @child trail q child above is_child ih =>
    intro r member
    rcases List.mem_cons.mp member with rfl | member
    · rw [subtree_eq, List.tail_cons, List.mem_flatMap]
      cases above with
      | self => exact ⟨r, is_child, self_mem_subtree r⟩
      | child =>
        have below := ih q List.mem_cons_self
        rw [subtree_eq, List.tail_cons, List.mem_flatMap] at below
        obtain ⟨first, is_first, inside⟩ := below
        exact ⟨first, is_first,
          mem_subtree_trans inside (mem_subtree_of_child is_child (self_mem_subtree r))⟩
    · exact ih r member

theorem Descent.isElement {top p : Place} {trail : List Place} (descent : Descent top trail p)
    (is_element : p.isElement = true) : ∀ q ∈ trail, q.isElement = true := by
  induction descent with
  | self => simp
  | child _ is_child ih =>
    intro r member
    rcases List.mem_cons.mp member with rfl | member
    · exact is_element
    · exact ih (isElement_of_mem_children is_child) r member

theorem Descent.isElement_top {top p : Place} {trail : List Place} (descent : Descent top trail p)
    (is_element : p.isElement = true) : top.isElement = true := by
  induction descent with
  | self => exact is_element
  | child _ is_child ih => exact ih (isElement_of_mem_children is_child)

/-! ### What is above a place -/

theorem enclosing_cons (p outer : Place) (around : p.parent? = some outer) :
    p.ancestors = outer :: outer.ancestors := by
  obtain ⟨node, before, after, above⟩ := p
  cases above with
  | nil => simp [parent?] at around
  | cons frame above =>
    obtain rfl := Option.some_inj.mp around
    rfl

theorem outermost_of_parent? {p outer : Place} (around : p.parent? = some outer) :
    p.outermost = outer.outermost := by
  rw [outermost, outermost, enclosing_cons p outer around, List.getLastD_cons]

theorem address_of_parent? {p outer : Place} (around : p.parent? = some outer) :
    p.address = p.before.length :: outer.address := by
  obtain ⟨node, before, after, above⟩ := p
  cases above with
  | nil => simp [parent?] at around
  | cons frame above =>
    obtain rfl := Option.some_inj.mp around
    rfl

namespace Descent

variable {top p : Place} {trail : List Place}

theorem outermost_eq (descent : Descent top trail p) : p.outermost = top.outermost := by
  induction descent with
  | self => rfl
  | child _ is_child ih => rw [outermost_of_parent? (parent?_of_mem_children is_child), ih]

theorem document_eq (descent : Descent top trail p) : p.document = top.document := by
  rw [document, document, descent.outermost_eq]

theorem isWithin (descent : Descent top trail p) : p.isWithin top = true := by
  rw [Place.isWithin, List.isSuffixOf_iff_suffix]
  induction descent with
  | self => exact List.suffix_rfl
  | child _ is_child ih =>
    -- An address begins with the place itself, so the way up is what it ends in.
    rw [address_of_parent? (parent?_of_mem_children is_child)]
    exact ih.trans (List.suffix_cons _ _)

end Descent

theorem mem_document_of_mem_subtree {page : Page} {p : Place}
    (below : p ∈ page.rootPlace.subtree) : p ∈ page.rootPlace.document := by
  have root : page.rootPlace ∈ among [] [] (page.before ++ page.root :: page.after) := by
    refine mem_among_iff.mpr ⟨page.before, page.after, rfl, ?_⟩
    rw [List.append_nil]
    rfl
  rw [document, allAmong_eq_flatMap]
  refine List.mem_flatMap.mpr ⟨page.rootPlace, ?_, below⟩
  simpa [outermost, ancestors, enclosing, Page.rootPlace] using root

end PageScheme.Place
