import Mathlib.Data.List.Forall2
import PageScheme.Proofs.Page.Ancestry

/-!
# Subtrees apart from what is around them

The places that lie within a place are those of its subtree (`filter_isWithin`), and a node has the
same subtree wherever it stands: two places with the same node have subtrees that mirror each other,
place by place, with the same nodes around each of them below the top (`forall₂_mirrors`).
-/
namespace PageScheme.Place

/-! ### Subtrees in the document -/

/-- A place and the places next to it, in order. -/
def siblings (p : Place) : List Place := among p.above [] (p.before.reverse ++ p.node :: p.after)

theorem length_before_le {above : List Frame} {before nodes : List Node} :
    ∀ q ∈ among above before nodes, before.length ≤ q.before.length ∧ q.above = above := by
  intro q member
  obtain ⟨front, back, -, placed⟩ := mem_among_iff.mp member
  rw [placed]
  simp

/-- Subtrees of places next to each other have nothing in common. -/
theorem length_before_eq {p q r : Place} (beside : q.above = p.above) (below : r ∈ q.subtree)
    (within : r.isWithin p = true) : q.before.length = p.before.length := by
  obtain ⟨trail, descent⟩ := mem_subtree_iff.mp below
  have of_q := descent.isWithin
  rw [isWithin, List.isSuffixOf_iff_suffix] at within of_q
  have same_length : q.address.length = p.address.length := by
    simp [address, beside]
  have suffix := List.suffix_of_suffix_length_le of_q within (Nat.le_of_eq same_length)
  exact (List.cons.inj (suffix.eq_of_length same_length)).1

theorem filter_subtree (p : Place) : p.subtree.filter (·.isWithin p) = p.subtree := by
  rw [List.filter_eq_self]
  intro q below
  obtain ⟨trail, descent⟩ := mem_subtree_iff.mp below
  exact descent.isWithin

theorem filter_subtree_beside {p q : Place} (beside : q.above = p.above)
    (other : q.before.length ≠ p.before.length) : q.subtree.filter (·.isWithin p) = [] := by
  rw [List.filter_eq_nil_iff]
  intro r below within
  exact other (length_before_eq beside below within)

/-- Among the subtrees of places next to each other only one is within a place. -/
theorem filter_among {p : Place} {before front : List Node}
    (placed : p.before = front.reverse ++ before) :
    ((among p.above before (front ++ p.node :: p.after)).flatMap subtree).filter (·.isWithin p) =
      p.subtree := by
  -- On the nodes in front: none of their places is the one in question.
  induction front generalizing before with
  | nil =>
    have behind : ((among p.above (p.node :: before) p.after).flatMap subtree).filter
        (·.isWithin p) = [] := by
      rw [List.filter_flatMap, List.flatMap_eq_nil_iff]
      intro q member
      obtain ⟨longer, beside⟩ := length_before_le q member
      apply filter_subtree_beside beside
      rw [placed]
      simp only [List.length_cons, List.reverse_nil, List.nil_append] at longer ⊢
      omega
    obtain rfl : p.before = before := placed
    rw [List.nil_append, among, List.flatMap_cons, List.filter_append, behind, List.append_nil]
    exact filter_subtree p
  | cons node front ih =>
    have first : (subtree ⟨node, before, front ++ p.node :: p.after, p.above⟩).filter
        (·.isWithin p) = [] := by
      have beside : above ⟨node, before, front ++ p.node :: p.after, p.above⟩ = p.above := rfl
      apply filter_subtree_beside beside
      rw [placed]
      simp only [List.length_append, List.length_reverse, List.length_cons]
      omega
    rw [List.cons_append, among, List.flatMap_cons, List.filter_append, first, List.nil_append]
    apply ih
    rw [placed, List.reverse_cons, List.append_assoc]
    rfl

theorem filter_siblings (p : Place) :
    (p.siblings.flatMap subtree).filter (·.isWithin p) = p.subtree :=
  filter_among (by simp)

/-- What holds of the topmost places, and of a place whenever it holds of the one around it, holds
of every place. -/
theorem parent_induction {motive : Place → Prop} (top : ∀ p : Place, p.above = [] → motive p)
    (inner : ∀ p outer : Place, p.parent? = some outer → motive outer → motive p) (p : Place) :
    motive p := by
  obtain ⟨node, before, after, above⟩ := p
  induction above generalizing node before after with
  | nil => exact top _ rfl
  | cons frame above ih => exact inner _ _ rfl (ih _ _ _)

/-- What lies within a place lies within the place around it. -/
theorem isWithin_of_parent? {p outer r : Place} (around : p.parent? = some outer)
    (within : r.isWithin p = true) : r.isWithin outer = true := by
  rw [isWithin, List.isSuffixOf_iff_suffix] at within ⊢
  rw [address_of_parent? around] at within
  exact (List.suffix_cons _ _).trans within

/-- No place lies within a place below it. -/
theorem not_isWithin_of_parent? {p outer : Place} (around : p.parent? = some outer) :
    outer.isWithin p = false := by
  rw [← Bool.not_eq_true, isWithin, List.isSuffixOf_iff_suffix, address_of_parent? around]
  intro shorter
  have length := shorter.length_le
  rw [List.length_cons] at length
  omega

theorem children_of_parent? {p outer : Place} (around : p.parent? = some outer) :
    outer.children = p.siblings := by
  obtain ⟨node, before, after, above⟩ := p
  cases above with
  | nil => cases around
  | cons frame above =>
    obtain rfl := Option.some_inj.mp around
    rfl

theorem document_of_parent? {p outer : Place} (around : p.parent? = some outer) :
    p.document = outer.document := by
  rw [document, document, outermost_of_parent? around]

theorem document_of_above_nil {p : Place} (top : p.above = []) :
    p.document = p.siblings.flatMap subtree := by
  have outermost_eq : p.outermost = p := by
    rw [outermost, ancestors, top]
    rfl
  rw [document, outermost_eq, allAmong_eq_flatMap, siblings, top]

/-- The places of a document that lie within a place are those of its subtree. -/
theorem filter_isWithin (p : Place) : p.document.filter (·.isWithin p) = p.subtree := by
  induction p using parent_induction with
  | top p top =>
    rw [document_of_above_nil top]
    exact filter_siblings p
  | inner p outer around ih =>
    -- What lies within the place is found among what lies within the place around it.
    have inside : ∀ r : Place, (r.isWithin p && r.isWithin outer) = r.isWithin p := by
      intro r
      rw [Bool.and_eq_left_iff_imp]
      exact isWithin_of_parent? around
    have narrowed : p.document.filter (·.isWithin p) = outer.subtree.filter (·.isWithin p) := by
      rw [← ih, List.filter_filter, document_of_parent? around]
      simp only [inside]
    rw [narrowed, subtree_eq outer, List.filter_cons, not_isWithin_of_parent? around,
      children_of_parent? around]
    exact filter_siblings p

/-! ### Mirrored subtrees -/

/-- Two places of the subtrees of two places that stand at the same spot below them. -/
inductive Mirrors (p q : Place) : Place → Place → Prop
  | top : Mirrors p q p q
  | child {outer other r s} : Mirrors p q outer other → r ∈ outer.children → s ∈ other.children →
      r.node = s.node → r.before = s.before → Mirrors p q r s

namespace Mirrors
variable {p q r s : Place}

theorem symm (mirrors : Mirrors p q r s) : Mirrors q p s r := by
  induction mirrors with
  | top => exact .top
  | child _ left right node before ih => exact .child ih right left node.symm before.symm

theorem node_eq (same : p.node = q.node) (mirrors : Mirrors p q r s) : r.node = s.node := by
  cases mirrors with
  | top => exact same
  | child _ _ _ node => exact node

theorem exists_descent (mirrors : Mirrors p q r s) : ∃ trail, Descent p trail r := by
  induction mirrors with
  | top => exact ⟨[], .self⟩
  | child _ left _ _ _ ih =>
    obtain ⟨trail, descent⟩ := ih
    exact ⟨_, .child descent left⟩

end Mirrors

theorem forall₂_flatMap {α β : Type} {related : α → α → Prop} {results : β → β → Prop}
    {f g : α → List β} {lefts rights : List α} (each : List.Forall₂ related lefts rights)
    (step : ∀ left right, left ∈ lefts → right ∈ rights → related left right →
      List.Forall₂ results (f left) (g right)) :
    List.Forall₂ results (lefts.flatMap f) (rights.flatMap g) := by
  induction each with
  | nil => exact .nil
  | cons head _ ih =>
    rw [List.flatMap_cons, List.flatMap_cons]
    apply List.rel_append (step _ _ List.mem_cons_self List.mem_cons_self head)
    apply ih
    intro left right left_member right_member
    exact step left right (List.mem_cons_of_mem _ left_member) (List.mem_cons_of_mem _ right_member)

theorem forall₂_among (above other : List Frame) (before nodes : List Node) :
    List.Forall₂ (fun r s => r.node = s.node ∧ r.before = s.before) (among above before nodes)
      (among other before nodes) := by
  induction nodes generalizing before with
  | nil => exact .nil
  | cons node rest ih => exact .cons ⟨rfl, rfl⟩ (ih (node :: before))

theorem forall₂_children {r s : Place} (same : r.node = s.node) :
    List.Forall₂ (fun r s => r.node = s.node ∧ r.before = s.before) r.children s.children := by
  rw [children, children, same]
  split
  · exact forall₂_among _ _ _ _
  · exact .nil

/-- Places with the same node have subtrees that mirror each other. -/
theorem forall₂_mirrors {p q : Place} (same : p.node = q.node) :
    List.Forall₂ (Mirrors p q) p.subtree q.subtree := by
  have from_spot : ∀ r s, Mirrors p q r s → List.Forall₂ (Mirrors p q) r.subtree s.subtree := by
    intro r
    induction r using children_induction with
    | step r ih =>
      intro s mirrors
      rw [subtree_eq r, subtree_eq s]
      apply List.Forall₂.cons mirrors
      apply forall₂_flatMap (forall₂_children (mirrors.node_eq same))
      rintro child other is_child is_other ⟨node, before⟩
      exact ih child is_child other (.child mirrors is_child is_other node before)
  exact from_spot p q .top

end PageScheme.Place
