import PageScheme.Proofs.Extraction.Picking
import PageScheme.Proofs.Page.Decoding

/-!
# What a located path finds on its page

The path of an element begins below the body of its page, but as a selector it may begin anywhere:
it finds every element to which steps of the same tags and positions lead. So a located path always
finds an element, and it is the one that it was located from if and only if no earlier element of
the page ends the same steps (`selectOne_path`).
-/
namespace PageScheme

namespace Place

/-- An element has the tag that a step names, and the position among its siblings of the tag if the
step says one. -/
def FitsStep (step : Path.Step) (q : Place) : Prop :=
  q.node.tag? = some step.tag ∧
    ∀ n ∈ step.position, Selector.countOf (some step.tag) q.before + 1 = n

/-- Some steps, innermost first, lead from parent to child down to a place; they may begin anywhere
inside the context. -/
inductive EndsSteps (context : Place) : List Path.Step → Place → Prop
  | begin {step : Path.Step} {q : Place} (within : q.isWithin context = true)
      (fits : q.FitsStep step) : EndsSteps context [step] q
  | child {step : Path.Step} {outer : List Path.Step} {parent q : Place}
      (above : EndsSteps context outer parent) (around : q.parent? = some parent)
      (fits : q.FitsStep step) : EndsSteps context (step :: outer) q

variable {page : Page} {body context p q : Place} {trail : List Place}

theorem holds_stepDemand_iff (step : Path.Step) :
    (Selector.stepDemand step).holds context q = true ↔ q.FitsStep step := by
  have has_tag : (Selector.stepDemand step).element.holds q.node = true ↔
      q.node.tag? = some step.tag := by
    change Selector.hasTag (some step.tag) q.node = true ↔ _
    cases is_tag : q.node.tag? <;> simp [Selector.hasTag, is_tag, eq_comm]
  rw [Selector.Demand.holds, Bool.and_eq_true, has_tag]
  apply and_congr_right'
  cases position : step.position with
  | none => simp [Selector.stepDemand, position, Selector.Condition.holds]
  | some n =>
    simp only [Selector.stepDemand, position, Selector.Condition.holds, Selector.inSeries]
    simp
    omega

theorem endsSteps_single_iff {step : Path.Step} :
    EndsSteps context [step] q ↔ q.FitsStep step ∧ q.isWithin context = true := by
  constructor
  · intro ends
    cases ends with
    | begin within fits => exact ⟨fits, within⟩
    | child above => cases above
  · rintro ⟨fits, within⟩
    exact .begin within fits

theorem endsSteps_cons_iff {step : Path.Step} {outer : List Path.Step} (more : outer ≠ []) :
    EndsSteps context (step :: outer) q ↔
      q.FitsStep step ∧ ∃ parent, q.parent? = some parent ∧ EndsSteps context outer parent := by
  constructor
  · intro ends
    cases ends with
    | begin => exact absurd rfl more
    | child above around fits => exact ⟨fits, _, around, above⟩
  · rintro ⟨fits, parent, around, above⟩
    exact .child above around fits

/-- The route of some steps ends where the steps do. -/
theorem endsAt_iff {first : Path.Step} {rest : List Path.Step} :
    Selector.Route.endsAt ⟨Selector.stepDemand first, Selector.childDemands rest⟩ context q = true ↔
      EndsSteps context (rest.reverse ++ [first]) q := by
  induction rest using List.reverseRecOn generalizing q with
  | nil =>
    change ((Selector.stepDemand first).holds context q && q.isWithin context) = true ↔ _
    rw [Bool.and_eq_true, holds_stepDemand_iff, List.reverse_nil, List.nil_append,
      endsSteps_single_iff]
  | append_singleton rest next ih =>
    -- The trail of the last step goes to the parent, where the route so far has to end.
    rw [List.reverse_append, List.reverse_singleton, List.singleton_append, List.cons_append,
      endsSteps_cons_iff (by simp), Selector.Route.endsAt, Selector.backwards_append]
    simp only [Bool.and_eq_true, holds_stepDemand_iff]
    apply and_congr_right'
    simp only [← ih, Selector.Route.endsAt, Selector.Trail.leadsTo, Selector.Combinator.sources,
      Selector.Demand.holds]
    cases q.parent? <;> simp [and_assoc]

/-- Below the body of a regular page, a walk up goes through the places on the way down. -/
theorem walk_of_descent (regular : page.Regular body) (descent : Descent body trail p) :
    p.walk = trail ∧ 0 < p.above.length := by
  induction descent with
  | self =>
    obtain ⟨frame, above_eq⟩ := above_of_mem_children regular.is_child
    have above_single : body.above = [frame] := above_eq
    have plain : Text.isPlainName "body" = true := rfl
    have small := Text.lower_eq_self fun _ member => Text.isPlain_of_mem plain member
    have boundary : body.isBoundary = true := by
      rw [isBoundary_eq regular.is_body, above_single, small]
      rfl
    rw [walk_of_mem_children regular.is_child, boundary, above_single]
    exact ⟨rfl, Nat.one_pos⟩
  | @child trail q child _ is_child ih =>
    obtain ⟨walk_eq, inner⟩ := ih
    obtain ⟨frame, above_eq⟩ := above_of_mem_children is_child
    have no_boundary : child.isBoundary = false := by
      have deep : ¬ child.above.length ≤ 1 := by
        rw [above_eq, List.length_cons]
        omega
      rw [isBoundary, decide_eq_false deep, Bool.false_and]
    rw [walk_of_mem_children is_child, no_boundary, walk_eq, above_eq]
    exact ⟨rfl, Nat.succ_pos _⟩

end Place

open Extraction Place

section Located

variable {page : Page} {body p : Place}

/-- A located path can be run, and finds the places of the document at which its steps end. -/
theorem selectAll_path_eq (regular : page.Regular body) (below : p ∈ body.subtree.tail)
    (is_element : p.isElement = true) (url : Text) :
    ∃ ends : Place → Bool,
      (∀ q, ends q = true ↔ EndsSteps page.rootPlace (p.walk.map ownStep) q) ∧
        selectAll url (some p.path) page.rootPlace = .ok (page.rootPlace.document.filter ends) := by
  obtain ⟨trail, nonempty, descent⟩ := exists_descent_of_mem_tail below
  obtain ⟨walk_eq, -⟩ := walk_of_descent regular descent
  have path_eq := path_eq_ofSteps regular descent is_element
  have is_given := given_some_eq_some.mpr (path_ne_nil regular below is_element)
  have readable : ∀ step ∈ trail.reverse.map ownStep, Selector.IsReadable step := by
    intro step member
    obtain ⟨r, r_member, rfl⟩ := List.mem_map.mp member
    have on_way := List.mem_reverse.mp r_member
    exact isReadable_ownStep regular (descent.mem_tail r on_way)
      (descent.isElement is_element r on_way)
  cases steps_eq : trail.reverse.map ownStep with
  | nil => simp_all
  | cons first rest =>
    rw [steps_eq] at readable path_eq
    refine ⟨fun q => Selector.Route.endsAt
      ⟨Selector.stepDemand first, Selector.childDemands rest⟩ page.rootPlace q, ?_, ?_⟩
    · intro q
      have reversed : rest.reverse ++ [first] = p.walk.map ownStep := by
        rw [walk_eq, ← List.reverse_cons, ← steps_eq, List.map_reverse, List.reverse_reverse]
      rw [endsAt_iff, reversed]
    · rw [selectAll, is_given]
      simp only [path_eq, Selector.select_ofSteps readable]

/-- What is selected first is the first place that is selected. -/
theorem selectOne_eq_ok {url : Text} {path : Option Text} {context first : Place}
    {found : List Place} (selected : selectAll url path context = .ok found)
    (is_first : found.head? = some first) : selectOne url path context = .ok first := by
  obtain ⟨others, rfl⟩ := List.head?_eq_some_iff.mp is_first
  rw [selectOne, selected]
  rfl

/-- A located path always finds an element, at which the steps of the element end that it was
located from. The two are the same if and only if the steps end at no earlier place of the
document. -/
theorem selectOne_path (regular : page.Regular body) (below : p ∈ body.subtree.tail)
    (is_element : p.isElement = true) (url : Text) :
    ∃ first, selectOne url (some p.path) page.rootPlace = .ok first ∧
      (∀ label reading content,
        one url (.string label (some p.path) reading content) page.rootPlace =
          .ok (readElement reading first)) ∧
      EndsSteps page.rootPlace (p.walk.map ownStep) first ∧
      (first = p ↔ ∃ front back, page.rootPlace.document = front ++ p :: back ∧
        ∀ q ∈ front, ¬ EndsSteps page.rootPlace (p.walk.map ownStep) q) := by
  obtain ⟨ends, ends_iff, selected⟩ := selectAll_path_eq regular below is_element url
  obtain ⟨found, found_eq, member⟩ := selectAll_path regular below is_element url
  obtain rfl := Except.ok.inj (selected.symm.trans found_eq)
  -- The element is among what is found, so something is found first.
  obtain ⟨first, is_first⟩ := Option.isSome_iff_exists.mp
    (List.isSome_head?.mpr (List.ne_nil_of_mem member))
  have selected_first := selectOne_eq_ok selected is_first
  rw [List.head?_filter] at is_first
  obtain ⟨first_ends, front, back, split, none_earlier⟩ := List.find?_eq_some_iff_append.mp is_first
  simp only [Bool.not_eq_true', ← Bool.not_eq_true, ends_iff] at none_earlier
  refine ⟨first, selected_first, ?_, (ends_iff first).mp first_ends, ?_⟩
  · intro label reading content
    rw [one, selected_first]
    rfl
  constructor
  · rintro rfl
    exact ⟨front, back, split, none_earlier⟩
  · rintro ⟨front, back, split, none_earlier⟩
    have p_first : page.rootPlace.document.find? ends = some p := by
      rw [List.find?_eq_some_iff_append]
      refine ⟨(List.mem_filter.mp member).2, front, back, split, ?_⟩
      intro q earlier
      rw [Bool.not_eq_true', ← Bool.not_eq_true, ends_iff]
      exact none_earlier q earlier
    exact Option.some_inj.mp (is_first.symm.trans p_first)

end Located

/-- A page with a paragraph that stands where the path of another one leads, but further down. -/
def echoPage : Page where
  before := []
  root := .element "html" [] [.element "body" []
    [.element "div" [] [.element "p" [] [.text "inner"]], .element "p" [] [.text "outer"]]]
  after := []

def echoPlace (index : Nat) : Place := echoPage.rootPlace.subtree.getD index echoPage.rootPlace

theorem echoPage_regular : echoPage.Regular (echoPlace 1) :=
  Page.regular_of_all (List.mem_of_getElem? (i := 0) rfl) rfl rfl rfl rfl

/-- The path of the inner paragraph finds it, since nothing before it is a paragraph. -/
theorem echoPage_inner_selected :
    echoPage.Regular (echoPlace 1) ∧ echoPlace 3 ∈ (echoPlace 1).subtree.tail ∧
      (echoPlace 3).isElement = true ∧
        selectOne [] (some (echoPlace 3).path) echoPage.rootPlace = .ok (echoPlace 3) := by
  have below : echoPlace 3 ∈ (echoPlace 1).subtree.tail := List.mem_of_getElem? (i := 1) rfl
  obtain ⟨first, selected, -, -, same_iff⟩ := selectOne_path echoPage_regular below rfl []
  have steps_eq : (echoPlace 3).walk.map ownStep = [⟨"p", none⟩, ⟨"div", none⟩] := by
    decide +kernel
  have none_earlier : ∀ q ∈ [echoPlace 0, echoPlace 1, echoPlace 2],
      ¬ EndsSteps echoPage.rootPlace ((echoPlace 3).walk.map ownStep) q := by
    intro q earlier ends
    rw [steps_eq, endsSteps_cons_iff (by simp)] at ends
    obtain ⟨⟨is_paragraph, -⟩, -⟩ := ends
    have other : ∀ q ∈ [echoPlace 0, echoPlace 1, echoPlace 2], q.node.tag? ≠ some "p" := by
      decide +kernel
    exact other q earlier is_paragraph
  have same : first = echoPlace 3 :=
    same_iff.mpr ⟨_, [echoPlace 4, echoPlace 5, echoPlace 6], rfl, none_earlier⟩
  rw [same] at selected
  exact ⟨echoPage_regular, below, rfl, selected⟩

/-- The path of the outer paragraph finds the inner one. -/
theorem echoPage_outer_not_selected :
    ¬ ∀ (page : Page) (body p : Place), page.Regular body → p ∈ body.subtree.tail →
      p.isElement = true → selectOne [] (some p.path) page.rootPlace = .ok p := by
  intro each_selected
  have below : echoPlace 5 ∈ (echoPlace 1).subtree.tail := List.mem_of_getElem? (i := 3) rfl
  have outer_selected :=
    each_selected echoPage (echoPlace 1) (echoPlace 5) echoPage_regular below rfl
  have path_eq : (echoPlace 5).path = Text.ofString "p" := by decide +kernel
  have inner_selected : selectOne [] (some (Text.ofString "p")) echoPage.rootPlace =
      .ok (echoPlace 3) := by
    rfl
  rw [path_eq, inner_selected] at outer_selected
  have addresses := congrArg Place.address (Except.ok.inj outer_selected)
  revert addresses
  decide +kernel

end PageScheme
