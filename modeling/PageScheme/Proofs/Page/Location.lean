import PageScheme.Page.Locate
import PageScheme.Proofs.Selector.StructuralPath

/-!
# The path of a place below the body

The walk up from an element meets, below the body, one element after the other, and each of them
gives the segment that tells it from its siblings. So the path of an element is written from the
steps of the descent from the body, and each of these steps holds, as a demand of a selector, at the
element that it was taken from.
-/
namespace PageScheme

/-- A page whose elements below its body can be told by their tags: the tags are plain, and none of
them is that of a root. A selector reads numbers of at most `digitLimit` digits, which no page that
can be stored gets to; `countable` says that every position among siblings is such a number. -/
structure Page.Regular (page : Page) (body : Place) : Prop where
  is_child : body ∈ page.rootPlace.children
  is_body : body.node.tag? = some "body"
  plain : ∀ p ∈ body.subtree.tail, ∀ tag ∈ p.node.tag?, Text.isPlainName tag = true
  no_root : ∀ p ∈ body.subtree.tail, p.node.tag? ≠ some "html"
  countable : ∀ p ∈ body.subtree.tail, p.before.length + 1 < 10 ^ Selector.digitLimit

namespace Place

open PageScheme.Path (Step)

/-- An element on the way to a place: its tag, and its position among its siblings of the same tag,
if it has any. -/
def ownStep (p : Place) : Step :=
  let tag := p.node.lowerTag?.getD ""
  let earlier := countTag tag p.before
  ⟨tag, if earlier + countTag tag p.after = 0 then none else some (earlier + 1)⟩

theorem segment_eq {p : Place} {tag : String} (is_tag : p.node.tag? = some tag) :
    Level.segment ⟨Text.lower tag, p.before, p.after⟩ = p.ownStep.text := by
  have lower_tag : p.node.lowerTag?.getD "" = Text.lower tag := by simp [Node.lowerTag?, is_tag]
  unfold Level.segment ownStep
  rw [lower_tag]
  simp only
  split
  · rfl
  · rw [Step.text_of_some]
    rfl

theorem levels_of_mem_children {p child : Place} (is_child : child ∈ p.children) (tag : String) :
    ∃ outer, p.node.tag? = some outer ∧
      child.levels tag = ⟨Text.lower tag, child.before, child.after⟩ :: p.levels outer := by
  obtain ⟨outer, attributes, front, back, p_node, placed⟩ := exists_element_of_mem_children is_child
  refine ⟨outer, by rw [p_node]; rfl, ?_⟩
  rw [placed]
  rfl

section Regular

variable {page : Page} {body p : Place} {trail : List Place}

theorem levels_body (regular : page.Regular body) :
    ∃ root, body.levels "body" = [⟨"body", body.before, body.after⟩, root] := by
  obtain ⟨outer, -, levels_eq⟩ := levels_of_mem_children regular.is_child "body"
  -- There is one element around the body, the root.
  have plain : Text.isPlainName "body" = true := rfl
  have small := Text.lower_eq_self fun _ member => Text.isPlain_of_mem plain member
  exact ⟨⟨Text.lower outer, page.before.reverse, page.after⟩, by rw [levels_eq, small]; rfl⟩

/-- Below the body, the walk up gives one segment for each element on the way. -/
theorem segmentsUp_of_descent (regular : page.Regular body) (descent : Descent body trail p)
    {tag : String} (is_tag : p.node.tag? = some tag) :
    ∃ own outer rest, p.levels tag = own :: outer :: rest ∧
      segmentsUp (own :: outer :: rest) = trail.map fun q => q.ownStep.text := by
  -- Induction on the descent: each step puts the level of a child in front.
  induction descent generalizing tag with
  | self =>
    obtain ⟨root, levels_eq⟩ := levels_body regular
    obtain rfl := Option.some_inj.mp (regular.is_body.symm.trans is_tag)
    exact ⟨_, _, _, levels_eq, rfl⟩
  | @child trail q child _ is_child ih =>
    obtain ⟨parent_tag, parent_is, levels_eq⟩ := levels_of_mem_children is_child tag
    obtain ⟨own, outer, rest, parent_levels, segments⟩ := ih parent_is
    refine ⟨_, own, outer :: rest, by rw [levels_eq, parent_levels], ?_⟩
    -- The parent has another element around it, so the walk does not end here.
    rw [segmentsUp, segments, segment_eq is_tag]
    rfl

theorem exists_tag_of_isElement (is_element : p.isElement = true) :
    ∃ tag, p.node.tag? = some tag := by
  obtain ⟨node, before, after, above⟩ := p
  cases node with
  | element tag => exact ⟨tag, rfl⟩
  | _ => contradiction

theorem tag_ownStep {tag : String} (is_tag : p.node.tag? = some tag)
    (plain : Text.isPlainName tag = true) : p.ownStep.tag = tag := by
  have small : Text.lower tag = tag :=
    Text.lower_eq_self fun _ member => Text.isPlain_of_mem plain member
  simp [ownStep, Node.lowerTag?, is_tag, small]

/-- The steps below the body of a regular page can be read. -/
theorem isReadable_ownStep (regular : page.Regular body) (below : p ∈ body.subtree.tail)
    (is_element : p.isElement = true) : Selector.IsReadable p.ownStep := by
  obtain ⟨tag, is_tag⟩ := exists_tag_of_isElement is_element
  have plain := regular.plain p below tag is_tag
  constructor
  · rw [Step.IsPlain, tag_ownStep is_tag plain]
    exact plain
  · intro n is_position
    simp only [ownStep, Option.mem_def, Option.ite_none_left_eq_some,
      Option.some.injEq] at is_position
    -- Siblings of the same tag are not more than all siblings.
    have few := List.countP_le_length (p := fun node => node.lowerTag? == some
      (p.node.lowerTag?.getD "")) (l := p.before)
    have countable := regular.countable p below
    rw [← is_position.2]
    exact Nat.lt_of_le_of_lt (Nat.succ_le_succ few) countable

theorem dropRoot_steps {first : Step} (rest : List Text) (other : first.tag ≠ "html") :
    dropRoot (first.text :: rest) = first.text :: rest := by
  apply if_neg
  intro same
  obtain ⟨tag, _ | n⟩ := first
  · exact other (Text.ofString_injective same)
  -- A segment with a position holds a colon.
  · have colon : Letter.scalar ':' ∈ Text.ofString "html" := by
      rw [← same, Step.text_of_some]
      simp [Path.ordinal, Text.ofString]
    revert colon
    decide

/-- The path of an element below the body is made of the steps down to it. -/
theorem path_eq_ofSteps (regular : page.Regular body) (descent : Descent body trail p)
    (is_element : p.isElement = true) : p.path = Path.ofSteps (trail.reverse.map ownStep) := by
  obtain ⟨tag, is_tag⟩ := exists_tag_of_isElement is_element
  obtain ⟨own, outer, rest, levels_eq, segments⟩ := segmentsUp_of_descent regular descent is_tag
  have reversed : (trail.map fun q => q.ownStep.text).reverse =
      (trail.reverse.map ownStep).map Step.text := by
    rw [List.map_map, List.map_reverse]
    rfl
  -- The outermost segment is that of an element below the body, so it is not dropped.
  have no_root : dropRoot ((trail.reverse.map ownStep).map Step.text) =
      (trail.reverse.map ownStep).map Step.text := by
    cases outermost : trail.reverse with
    | nil => rfl
    | cons first others =>
      have on_way : first ∈ trail := by
        rw [← List.mem_reverse, outermost]
        exact List.mem_cons_self
      have below := descent.mem_tail first on_way
      obtain ⟨first_tag, first_is⟩ := exists_tag_of_isElement
        (descent.isElement is_element first on_way)
      apply dropRoot_steps
      rw [tag_ownStep first_is (regular.plain first below first_tag first_is)]
      rintro rfl
      exact regular.no_root first below first_is
  rw [path, is_tag]
  simp only [levels_eq, segments, reversed, no_root]
  rfl

/-! ### Steps hold where they were taken -/

theorem countOf_eq_countTag {tag : String} {nodes : List Node}
    (plain : ∀ node ∈ nodes, ∀ other ∈ node.tag?, Text.isPlainName other = true) :
    Selector.countOf (some tag) nodes = countTag tag nodes := by
  apply List.countP_congr
  intro node member
  cases is_tag : node.tag? with
  | none => simp [Selector.hasTag, Node.lowerTag?, is_tag]
  | some other =>
    have small : Text.lower other = other :=
      Text.lower_eq_self fun _ letter => Text.isPlain_of_mem (plain node member other is_tag) letter
    simp only [Selector.hasTag, Node.lowerTag?, is_tag, Option.map_some, small, Option.all_some,
      decide_eq_true_eq, beq_iff_eq, Option.some.injEq]
    exact eq_comm

theorem exists_sibling {q child : Place} (is_child : child ∈ q.children) {node : Node}
    (member : node ∈ child.before) : ∃ sibling ∈ q.children, sibling.node = node := by
  obtain ⟨tag, attributes, front, back, q_node, placed⟩ := exists_element_of_mem_children is_child
  rw [placed] at member
  obtain ⟨first, second, front_split⟩ := List.append_of_mem (List.mem_reverse.mp member)
  rw [children, q_node]
  refine ⟨⟨node, first.reverse ++ [], second ++ child.node :: back, _⟩,
    mem_among_iff.mpr ⟨first, second ++ child.node :: back, ?_, rfl⟩, rfl⟩
  rw [front_split, List.append_assoc]
  rfl

/-- The step of an element below the body holds at the element. -/
theorem holds_ownStep (regular : page.Regular body) (below : p ∈ body.subtree.tail)
    (is_element : p.isElement = true) (context : Place) :
    (Selector.stepDemand p.ownStep).holds context p = true := by
  obtain ⟨tag, is_tag⟩ := exists_tag_of_isElement is_element
  have plain := regular.plain p below tag is_tag
  have same_tag := tag_ownStep is_tag plain
  obtain ⟨trail, nonempty, descent⟩ := exists_descent_of_mem_tail below
  cases descent with
  | self => exact absurd rfl nonempty
  | @child trail q _ above is_child =>
    -- Siblings lie below the body as well: their tags are plain, and both sides count them alike.
    have siblings : ∀ node ∈ p.before, ∀ other ∈ node.tag?, Text.isPlainName other = true := by
      intro node member
      obtain ⟨sibling, is_sibling, rfl⟩ := exists_sibling is_child member
      have on_way := (Descent.child above is_sibling).mem_tail sibling List.mem_cons_self
      exact regular.plain sibling on_way
    have count : Selector.countOf (some p.ownStep.tag) p.before = countTag p.ownStep.tag p.before :=
      countOf_eq_countTag siblings
    have element_holds : (Selector.stepDemand p.ownStep).element.holds p.node = true := by
      simp [Selector.stepDemand, Selector.ElementTest.holds, Selector.hasTag, is_tag, same_tag]
    rw [Selector.Demand.holds, element_holds, Bool.true_and]
    cases position : p.ownStep.position with
    | none => simp [Selector.stepDemand, position, Selector.Condition.holds]
    | some n =>
      have earlier : countTag p.ownStep.tag p.before + 1 = n := by
        simp only [ownStep, Option.ite_none_left_eq_some, Option.some.injEq] at position
        exact position.2
      simp [Selector.stepDemand, position, Selector.Condition.holds, Selector.inSeries, count,
        ← earlier]

/-- Without its position, the step of an element holds at the element all the more. -/
theorem holds_reduced_ownStep (regular : page.Regular body) (below : p ∈ body.subtree.tail)
    (is_element : p.isElement = true) (context : Place) :
    (Selector.stepDemand p.ownStep.reduced).holds context p = true := by
  have holds := holds_ownStep regular below is_element context
  rw [Selector.Demand.holds, Bool.and_eq_true] at holds ⊢
  exact ⟨holds.1, rfl⟩

end Regular

end Place
end PageScheme
