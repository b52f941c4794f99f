import PageScheme.Proofs.Page.Location
import PageScheme.Proofs.Path.Legible

/-!
# Paths can be decoded

The path of an element is read from where the walk up ended: a bare segment means the elements of a
tag among the places at hand, a segment with a position means one of them. Each segment of a located
path means exactly one place, because a position is left out only where there is no choice, and is
counted among the elements of the same tag alone.

Main result: a located path leads to its element and to nothing else, so that two elements below the
same anchor have different paths (`path_decodes`).
-/
namespace PageScheme.Place

open PageScheme.Path (Step)

/-! ### What a segment means -/

/-- The elements of a tag among some places, in order. -/
def ofTag (tag : String) (places : List Place) : List Place :=
  places.filter fun q => q.node.lowerTag? == some tag

/-- What a segment means among some places: the elements of a tag, or the one at a position among
them. -/
inductive Meant (places : List Place) : Text → Place → Prop
  | bare {tag : String} {q : Place} (member : q ∈ ofTag tag places) :
      Meant places (Text.ofString tag) q
  | ordinal {tag : String} {earlier : Nat} {q : Place}
      (found : (ofTag tag places)[earlier]? = some q) :
      Meant places (Path.ordinal (Text.ofString tag) (earlier + 1 : Nat)) q

/-- Segments lead from some places to one place: each of them means exactly one, and the next is
read among its children. -/
inductive Resolves : List Place → List Text → Place → Prop
  | last {places : List Place} {segment : Text} {p : Place}
      (only : ∀ q, Meant places segment q ↔ q = p) : Resolves places [segment] p
  | down {places : List Place} {segment : Text} {p q : Place} {rest : List Text}
      (only : ∀ r, Meant places segment r ↔ r = q) (below : Resolves q.children rest p) :
      Resolves places (segment :: rest) p

theorem Resolves.ne_nil {places : List Place} {segments : List Text} {p : Place}
    (resolves : Resolves places segments p) : segments ≠ [] := by
  cases resolves <;> exact List.cons_ne_nil _ _

theorem Resolves.unique {places : List Place} {segments : List Text} {p q : Place}
    (resolves : Resolves places segments p) (again : Resolves places segments q) : p = q := by
  induction resolves with
  | last only =>
    cases again with
    | last only_again => exact (only_again _).mp ((only _).mpr rfl)
    | down _ below => exact absurd rfl below.ne_nil
  | down only below ih =>
    cases again with
    | last => exact absurd rfl below.ne_nil
    | down only_again below_again =>
      obtain rfl := (only_again _).mp ((only _).mpr rfl)
      exact ih below_again

theorem Resolves.snoc {places : List Place} {segments : List Text} {segment : Text} {p q : Place}
    (resolves : Resolves places segments q) (only : ∀ r, Meant q.children segment r ↔ r = p) :
    Resolves places (segments ++ [segment]) p := by
  induction resolves with
  | last first => exact .down first (.last only)
  | down first _ ih => exact .down first (ih only)

/-- The step that was taken from an element means that element. -/
theorem meant_iff {front back : List Place} {child q : Place} {tag : String}
    (is_tag : child.node.lowerTag? = some tag)
    (legible : ∀ r ∈ front ++ child :: back, ∀ other ∈ r.node.lowerTag?, Legible other) :
    Meant (front ++ child :: back)
      (Step.text ⟨tag, if (ofTag tag front).length + (ofTag tag back).length = 0 then none
        else some ((ofTag tag front).length + 1)⟩) q ↔ q = child := by
  have of_tag :
      ofTag tag (front ++ child :: back) = ofTag tag front ++ child :: ofTag tag back := by
    simp [ofTag, is_tag]
  have unopened : '(' ∉ tag.toList := (legible child (by simp) tag is_tag).unopened
  have others_unopened : ∀ other r, r ∈ ofTag other (front ++ child :: back) →
      '(' ∉ other.toList := by
    intro other r member
    obtain ⟨inside, has_tag⟩ := List.mem_filter.mp member
    exact (legible r inside other (by simpa using has_tag)).unopened
  split
  next alone =>
    have none_before : ofTag tag front = [] := List.length_eq_zero_iff.mp (by omega)
    have none_after : ofTag tag back = [] := List.length_eq_zero_iff.mp (by omega)
    constructor
    · intro meant
      generalize segment_eq : Step.text ⟨tag, none⟩ = segment at meant
      cases meant with
      | bare member =>
        obtain rfl := Text.ofString_injective segment_eq
        simpa [of_tag, none_before, none_after] using member
      | ordinal found =>
        rw [← Step.text_of_some] at segment_eq
        exact absurd segment_eq (Step.text_none_ne_some unopened _)
    · rintro rfl
      exact .bare (by simp [of_tag])
  next =>
    constructor
    · intro meant
      generalize segment_eq :
        Step.text ⟨tag, some ((ofTag tag front).length + 1)⟩ = segment at meant
      cases meant with
      | @bare other _ member =>
        exact absurd segment_eq.symm (Step.text_none_ne_some (others_unopened other q member) _)
      | @ordinal other earlier _ found =>
        rw [← Step.text_of_some] at segment_eq
        obtain ⟨rfl, same⟩ := Step.text_some_inj unopened segment_eq
        obtain rfl := Nat.succ.inj same
        rw [of_tag] at found
        simpa [eq_comm] using found
    · rintro rfl
      rw [Step.text_of_some]
      exact .ordinal (by simp [of_tag])

theorem length_ofTag (tag : String) (places : List Place) :
    (ofTag tag places).length = countTag tag (places.map Place.node) := by
  rw [ofTag, ← List.countP_eq_length_filter, countTag, List.countP_map]
  rfl

theorem map_node_among (above : List Frame) (before nodes : List Node) :
    (among above before nodes).map Place.node = nodes := by
  induction nodes generalizing before with
  | nil => rfl
  | cons node rest ih => rw [among, List.map_cons, ih]

theorem among_split (above : List Frame) (before front back : List Node) (node : Node) :
    ∃ earlier later, earlier.map Place.node = front ∧ later.map Place.node = back ∧
      among above before (front ++ node :: back) =
        earlier ++ ⟨node, front.reverse ++ before, back, above⟩ :: later := by
  induction front generalizing before with
  | nil => exact ⟨[], among above (node :: before) back, rfl, map_node_among .., rfl⟩
  | cons first front ih =>
    obtain ⟨earlier, later, earlier_nodes, later_nodes, split⟩ := ih (first :: before)
    refine ⟨⟨first, before, front ++ node :: back, above⟩ :: earlier, later, ?_, later_nodes, ?_⟩
    · rw [List.map_cons, earlier_nodes]
    · rw [List.cons_append, among, split]
      simp

/-- A child has the nodes before and after it around it. -/
theorem children_split {p child : Place} (is_child : child ∈ p.children) :
    ∃ earlier later, p.children = earlier ++ child :: later ∧
      earlier.map Place.node = child.before.reverse ∧ later.map Place.node = child.after := by
  obtain ⟨tag, attributes, front, back, p_node, placed⟩ := exists_element_of_mem_children is_child
  obtain ⟨earlier, later, earlier_nodes, later_nodes, split⟩ :=
    among_split (⟨tag, attributes, p.before, p.after⟩ :: p.above) [] front back child.node
  refine ⟨earlier, later, ?_, ?_, ?_⟩
  · rw [children, p_node]
    simp only [split, List.append_nil]
    rw [← placed]
  · rw [placed, earlier_nodes, List.reverse_reverse]
  · rw [placed, later_nodes]

theorem exists_lowerTag_of_isElement {p : Place} (is_element : p.isElement = true) :
    ∃ tag, p.node.lowerTag? = some tag := by
  obtain ⟨tag, is_tag⟩ := exists_tag_of_isElement is_element
  exact ⟨Text.lower tag, by rw [Node.lowerTag?, is_tag, Option.map_some]⟩

/-- Among the children of a place, the step of one means that one. -/
theorem meant_ownStep_iff {p child q : Place} (is_child : child ∈ p.children)
    (is_element : child.isElement = true)
    (legible : ∀ r ∈ p.children, ∀ other ∈ r.node.lowerTag?, Legible other) :
    Meant p.children child.ownStep.text q ↔ q = child := by
  obtain ⟨tag, is_tag⟩ := exists_lowerTag_of_isElement is_element
  obtain ⟨earlier, later, split, earlier_nodes, later_nodes⟩ := children_split is_child
  rw [split] at legible ⊢
  have before_length : countTag tag child.before = (ofTag tag earlier).length := by
    rw [length_ofTag, earlier_nodes, countTag, countTag, List.countP_reverse]
  have after_length : countTag tag child.after = (ofTag tag later).length := by
    rw [length_ofTag, later_nodes]
  rw [ownStep, is_tag, Option.getD_some, before_length, after_length]
  exact meant_iff is_tag legible

/-! ### The walk up -/

/-- Where a walk up ends: the body or the root of a document, which have at most one element around
them. -/
def isBoundary (p : Place) : Bool :=
  p.above.length ≤ 1 && p.node.lowerTag?.any boundaryTags.contains

/-- The places on the way up, the place itself first. -/
def upward (p : Place) : List Place := p :: p.ancestors

/-- The places that the path of a place goes through, innermost first. -/
def walk (p : Place) : List Place := p.upward.takeWhile fun q => !q.isBoundary

/-- Where the walk up from a place ends; there may be nothing above a tree for it to end at. -/
def anchor? (p : Place) : Option Place := p.upward.find? isBoundary

/-- The places that the first segment of a path is read among: the children of the anchor, or the
root of a tree that has none. -/
def basis (p : Place) : List Place :=
  match p.anchor? with
  | some anchor => anchor.children
  | none => [p.outermost]

/-- The step of a place on a walk. A root has no siblings to be told apart from. -/
def walkStep (p : Place) : Step :=
  match p.above with
  | [] => ⟨p.node.lowerTag?.getD "", none⟩
  | _ :: _ => p.ownStep

section Walk
variable {root p child : Place} {trail : List Place}

theorem upward_of_mem_children (is_child : child ∈ p.children) :
    child.upward = child :: p.upward := by
  rw [upward, enclosing_cons child p (parent?_of_mem_children is_child)]
  rfl

theorem walk_of_mem_children (is_child : child ∈ p.children) :
    child.walk = if child.isBoundary then [] else child :: p.walk := by
  rw [walk, upward_of_mem_children is_child, List.takeWhile_cons]
  cases child.isBoundary <;> rfl

theorem anchor?_of_mem_children (is_child : child ∈ p.children) :
    child.anchor? = if child.isBoundary then some child else p.anchor? := by
  rw [anchor?, upward_of_mem_children is_child, List.find?_cons]
  cases child.isBoundary <;> rfl

theorem basis_of_mem_children (is_child : child ∈ p.children) (inner : child.isBoundary = false) :
    child.basis = p.basis := by
  rw [basis, basis, anchor?_of_mem_children is_child, inner,
    outermost_of_parent? (parent?_of_mem_children is_child)]
  rfl

theorem basis_of_isBoundary (boundary : p.isBoundary = true) : p.basis = p.children := by
  rw [basis, anchor?, upward, List.find?_cons, boundary]

theorem above_of_mem_children (is_child : child ∈ p.children) :
    ∃ frame, child.above = frame :: p.above := by
  obtain ⟨tag, attributes, front, back, -, placed⟩ := exists_element_of_mem_children is_child
  exact ⟨_, congrArg Place.above placed⟩

theorem upward_of_top (top : root.above = []) : root.upward = [root] := by
  rw [upward, ancestors, top, enclosing]

theorem isBoundary_eq {tag : String} (is_tag : p.node.tag? = some tag) :
    p.isBoundary = (decide (p.above.length ≤ 1) && boundaryTags.contains (Text.lower tag)) := by
  simp [isBoundary, Node.lowerTag?, is_tag]

/-- The walk up gives one segment for each place on it. -/
theorem segmentsUp_levels (top : root.above = []) (descent : Descent root trail p) {tag : String}
    (is_tag : p.node.tag? = some tag) :
    segmentsUp (p.levels tag) = p.walk.map fun q => q.walkStep.text := by
  induction descent generalizing tag with
  | self =>
    have step : root.walkStep = ⟨Text.lower tag, none⟩ := by
      simp [walkStep, top, Node.lowerTag?, is_tag]
    rw [levels, top, walk, upward_of_top top, List.map_nil, segmentsUp, List.takeWhile_cons,
      isBoundary_eq is_tag, top]
    cases boundaryTags.contains (Text.lower tag) <;> simp [step, Step.text_of_none]
  | @child trail q child _ is_child ih =>
    obtain ⟨outer, outer_is, levels_eq⟩ := levels_of_mem_children is_child tag
    obtain ⟨frame, above_eq⟩ := above_of_mem_children is_child
    have step : child.walkStep = child.ownStep := by rw [walkStep, above_eq]
    let around := q.above.map fun frame =>
      (⟨Text.lower frame.tag, frame.before, frame.after⟩ : Level)
    have parent_levels : q.levels outer = ⟨Text.lower outer, q.before, q.after⟩ :: around := rfl
    -- A child of a root is the last that a walk may end at.
    have last : around.isEmpty = decide (child.above.length ≤ 1) := by
      rw [above_eq]
      cases above_q : q.above <;> simp [around, above_q]
    rw [levels_eq, parent_levels, segmentsUp, ← parent_levels, ih outer_is, last,
      ← isBoundary_eq is_tag, walk_of_mem_children is_child, segment_eq is_tag]
    cases child.isBoundary <;> simp [step]

theorem path_eq_walk (top : root.above = []) (descent : Descent root trail p)
    (is_element : p.isElement = true) :
    p.path = Path.join (dropRoot (p.walk.map fun q => q.walkStep.text).reverse) := by
  obtain ⟨tag, is_tag⟩ := exists_tag_of_isElement is_element
  rw [path, is_tag]
  simp only [segmentsUp_levels top descent is_tag]

theorem isElement_of_path (located : p.path ≠ []) : p.isElement = true := by
  obtain ⟨node, before, after, above⟩ := p
  cases node with
  | element => rfl
  | _ => exact absurd rfl located

theorem walk_of_top (top : root.above = []) :
    root.walk = if root.isBoundary then [] else [root] := by
  rw [walk, upward_of_top top]
  cases inner : root.isBoundary <;> simp [inner]

/-- From the place where a walk ended, its segments lead down to where it began. -/
theorem resolves_walk (top : root.above = []) (descent : Descent root trail p)
    (is_element : p.isElement = true)
    (legible : ∀ q ∈ root.subtree, ∀ tag ∈ q.node.lowerTag?, Legible tag) (walked : p.walk ≠ []) :
    Resolves p.basis (p.walk.map fun q => q.walkStep.text).reverse p := by
  induction descent with
  | self =>
    rw [walk_of_top top] at walked ⊢
    cases inner : root.isBoundary with
    | true => simp [inner] at walked
    | false =>
      obtain ⟨tag, is_tag⟩ := exists_lowerTag_of_isElement is_element
      have step : root.walkStep = ⟨tag, none⟩ := by simp [walkStep, top, is_tag]
      have basis_eq : root.basis = [] ++ root :: [] := by
        rw [basis, anchor?, upward_of_top top, List.find?_cons, inner, outermost, ancestors, top]
        rfl
      rw [basis_eq, if_neg (by decide), List.map_singleton, List.reverse_singleton, step]
      apply Resolves.last
      intro q
      apply meant_iff is_tag
      simpa using legible root (self_mem_subtree root)
  | @child trail q child above is_child ih =>
    have inside : q ∈ root.subtree := mem_subtree_iff.mpr ⟨trail, above⟩
    have only : ∀ r, Meant q.children child.ownStep.text r ↔ r = child := by
      intro r
      apply meant_ownStep_iff is_child is_element
      intro sibling is_sibling
      exact legible sibling (mem_subtree_trans inside
        (mem_subtree_of_child is_sibling (self_mem_subtree sibling)))
    obtain ⟨frame, above_eq⟩ := above_of_mem_children is_child
    have step : child.walkStep = child.ownStep := by rw [walkStep, above_eq]
    rw [walk_of_mem_children is_child] at walked ⊢
    cases inner : child.isBoundary with
    | true => simp [inner] at walked
    | false =>
      rw [basis_of_mem_children is_child inner, if_neg (by decide), List.map_cons,
        List.reverse_cons, step]
      by_cases ends : q.walk = []
      · -- The walk ended at the parent, whose children are those that the segment is read among.
        have boundary : q.isBoundary = true := by simpa [walk, upward] using ends
        rw [ends, basis_of_isBoundary boundary]
        exact .last only
      · exact (ih (isElement_of_mem_children is_child) ends).snoc only

theorem mem_root_of_mem_walk (top : root.above = []) (descent : Descent root trail p)
    (is_element : p.isElement = true) :
    ∀ q ∈ p.walk, q.isElement = true ∧ q ∈ root.subtree := by
  induction descent with
  | self =>
    intro q member
    rw [walk_of_top top] at member
    cases inner : root.isBoundary with
    | true => simp [inner] at member
    | false =>
      obtain rfl : q = root := by simpa [inner] using member
      exact ⟨is_element, self_mem_subtree q⟩
  | @child trail q child above is_child ih =>
    intro r member
    rw [walk_of_mem_children is_child] at member
    cases inner : child.isBoundary with
    | true => simp [inner] at member
    | false =>
      rcases List.mem_cons.mp (by simpa [inner] using member) with rfl | outer
      · exact ⟨is_element, mem_subtree_iff.mpr ⟨_, .child above is_child⟩⟩
      · exact ih (isElement_of_mem_children is_child) r outer

theorem tag_walkStep (p : Place) : p.walkStep.tag = p.node.lowerTag?.getD "" := by
  unfold walkStep
  split <;> rfl

/-- A located path leads from its basis to its element, if the outermost element on the walk is no
root that is left out. -/
theorem resolves_path (top : root.above = []) (inside : p ∈ root.subtree)
    (legible : ∀ q ∈ root.subtree, ∀ tag ∈ q.node.lowerTag?, Legible tag) (located : p.path ≠ [])
    (no_root : ∀ q ∈ p.walk.getLast?, q.node.lowerTag? ≠ some "html") :
    Resolves p.basis (Path.split p.path) p := by
  obtain ⟨trail, descent⟩ := mem_subtree_iff.mp inside
  have is_element := isElement_of_path located
  have path_eq := path_eq_walk top descent is_element
  let segments := (p.walk.map fun q => q.walkStep.text).reverse
  have walked : p.walk ≠ [] := by
    intro ends
    rw [path_eq, ends] at located
    exact located rfl
  have legible_steps :
      ∀ q ∈ p.walk, ∃ tag, q.node.lowerTag? = some tag ∧ Legible q.walkStep.tag := by
    intro q member
    obtain ⟨on_way, below⟩ := mem_root_of_mem_walk top descent is_element q member
    obtain ⟨tag, is_tag⟩ := exists_lowerTag_of_isElement on_way
    refine ⟨tag, is_tag, ?_⟩
    rw [tag_walkStep, is_tag]
    exact legible q below tag is_tag
  have no_root_dropped : dropRoot segments = segments := by
    obtain ⟨front, last, split⟩ := (List.eq_nil_or_concat p.walk).resolve_left walked
    obtain ⟨tag, is_tag, -⟩ := legible_steps last (by simp [split])
    have segments_eq : segments =
        last.walkStep.text :: (front.map fun q => q.walkStep.text).reverse := by
      simp [segments, split]
    rw [segments_eq]
    apply dropRoot_steps
    rw [tag_walkStep, is_tag, Option.getD_some]
    rintro rfl
    exact no_root last (by simp [split]) is_tag
  have segments_split : Path.split (Path.join segments) = segments := by
    apply Path.split_join (by simpa [segments] using walked)
    intro segment member
    obtain ⟨q, on_walk, rfl⟩ := List.mem_map.mp (List.mem_reverse.mp member)
    obtain ⟨-, -, legible_step⟩ := legible_steps q on_walk
    exact Step.isSegment_text_of_legible legible_step
  rw [path_eq, no_root_dropped, segments_split]
  exact resolves_walk top descent is_element legible walked

end Walk

/-- A located path leads to its element and to nothing else. So two elements below the same anchor
have different paths. -/
theorem path_decodes {root p : Place} (top : root.above = []) (inside : p ∈ root.subtree)
    (legible : ∀ q ∈ root.subtree, ∀ tag ∈ q.node.lowerTag?, Legible tag) (located : p.path ≠ [])
    (no_root : ∀ q ∈ p.walk.getLast?, q.node.lowerTag? ≠ some "html") :
    Resolves p.basis (Path.split p.path) p ∧
      ∀ q ∈ root.subtree, q.anchor? = p.anchor? →
        (∀ r ∈ q.walk.getLast?, r.node.lowerTag? ≠ some "html") → q.path = p.path → q = p := by
  have resolves := resolves_path top inside legible located no_root
  refine ⟨resolves, ?_⟩
  intro q q_inside same_anchor q_no_root same_path
  have q_resolves := resolves_path top q_inside legible (same_path ▸ located) q_no_root
  obtain ⟨_, descent⟩ := mem_subtree_iff.mp inside
  obtain ⟨_, q_descent⟩ := mem_subtree_iff.mp q_inside
  have same_basis : q.basis = p.basis := by
    rw [basis, basis, same_anchor, q_descent.outermost_eq, descent.outermost_eq]
  rw [same_basis, same_path] at q_resolves
  exact q_resolves.unique resolves

/-- A tree that is no document, with other nodes between its elements and tags in either case. -/
def clipping : Place where
  node := .element "Section" [] [.comment "", .element "Li" [] [], .entity "nbsp",
    .element "LI" [] [.element "b" [] []], .instruction "", .element "p" [] []]
  before := []
  after := []
  above := []

def clippingItem : Place where
  node := .element "b" [] []
  before := []
  after := []
  above := [⟨"LI", [], [.entity "nbsp", .element "Li" [] [], .comment ""],
    [.instruction "", .element "p" [] []]⟩, ⟨"Section", [], [], []⟩]

/-- Nothing but elements of the tag are counted, in whatever case they are written. -/
theorem clippingItem_decodes :
    clippingItem ∈ clipping.subtree ∧
      (∀ q ∈ clipping.subtree, ∀ tag ∈ q.node.lowerTag?, Legible tag) ∧
        clippingItem.path = Text.ofString "section > li:nth-of-type(2) > b" ∧
          (∀ q ∈ clippingItem.walk.getLast?, q.node.lowerTag? ≠ some "html") ∧
            Resolves [clipping] (Path.split clippingItem.path) clippingItem := by
  have inside : clippingItem ∈ clipping.subtree := by
    simp [clipping, clippingItem, subtree, allWithin, allAmong]
  have plain : ∀ q ∈ clipping.subtree, ∀ tag ∈ q.node.lowerTag?, Text.isPlainName tag = true := by
    decide +kernel
  have legible : ∀ q ∈ clipping.subtree, ∀ tag ∈ q.node.lowerTag?, Legible tag :=
    fun q member tag is_tag => legible_of_isPlainName (plain q member tag is_tag)
  have path_eq : clippingItem.path = Text.ofString "section > li:nth-of-type(2) > b" := by
    decide +kernel
  have located : clippingItem.path ≠ [] := by decide +kernel
  have no_root : ∀ q ∈ clippingItem.walk.getLast?, q.node.lowerTag? ≠ some "html" := by
    decide +kernel
  exact ⟨inside, legible, path_eq, no_root, (path_decodes rfl inside legible located no_root).1⟩

end PageScheme.Place
