import PageScheme.Proofs.Path.Segments
import PageScheme.Proofs.Scheme.Position

/-!
# When rebasing again changes nothing

Rebasing is meant for the paths that were recorded from the top of a page. A scheme that has been
rebased holds settled paths below its lists, and those are expressed anew from the settled paths of
the lists above them. `rebase_idempotent_iff` says when this changes nothing: no path may start with
the segment that the path of the nearest list above it starts with.
-/
namespace PageScheme.Scheme

/-- The path of every node below a list that is expressed from a path starts with another segment
than that path. -/
def HeadsDiffer (scheme : Scheme) : Prop :=
  ∀ position node own parent, scheme.at? position = some node → node.path? = some own →
    scheme.basis position = some parent → (Path.split own).head? ≠ (Path.split parent).head?

/-! ### Schemes that keep their paths -/

theorem path?_rebasedOnto (node : Scheme) (parent : Text) :
    (node.rebasedOnto parent).path? =
      node.path?.bind fun own => given (some (Path.relativeTo own parent)) := by
  cases node with
  | string label path reading content =>
    rw [rebasedOnto_string, path?, path?, pathOnto]
    -- An absent path stays absent.
    cases found : given path with
    | none => exact found
    | some own => rfl
  | list label path element content elements =>
    cases found : given path with
    | none =>
      rw [rebasedOnto_list_of_none _ _ _ _ _ _ found, path?, found]
      rfl
    | some own =>
      rw [rebasedOnto_list _ _ _ _ _ _ found, path?, path?, found]
      rfl
  | object => rfl
  | foreign => rfl

theorem nonempty_of_path? {node : Scheme} {own : Text} (has_path : node.path? = some own) :
    own ≠ [] := by
  cases node with
  | string => exact (given_eq_some.mp has_path).2
  | list => exact (given_eq_some.mp has_path).2
  | object => simp [path?] at has_path
  | foreign => simp [path?] at has_path

theorem relativeTo_eq_of_rebasedOnto_eq {node : Scheme} {own parent : Text}
    (unchanged : node.rebasedOnto parent = node) (has_path : node.path? = some own) :
    Path.relativeTo own parent = own := by
  have rewritten := path?_rebasedOnto node parent
  rw [unchanged, has_path, Option.bind_some] at rewritten
  exact Option.some_inj.mp (given_eq_some.mp rewritten.symm).1

/-- A path of a node that has been expressed from another path is settled. -/
theorem settled_of_path?_rebasedOnto {node : Scheme} {own parent : Text}
    (has_path : (node.rebasedOnto parent).path? = some own) : Path.Settled own := by
  rw [path?_rebasedOnto] at has_path
  obtain ⟨before, -, rewritten⟩ := Option.bind_eq_some_iff.mp has_path
  rw [← Option.some_inj.mp (given_eq_some.mp rewritten).1]
  exact Path.settled_relativeTo before parent

/-- Expressing a scheme from a path changes nothing if and only if it keeps each path. -/
theorem rebasedOnto_eq_self_iff {scheme : Scheme} {parent : Text} :
    scheme.rebasedOnto parent = scheme ↔
      ∀ position node own nearest, scheme.at? position = some node → node.path? = some own →
        nearestPath parent (scheme.listsAbove position) = some nearest →
          Path.relativeTo own nearest = own := by
  -- What stands at a position is known from `at?_rebasedOnto`; the converse is by induction on the
  -- scheme.
  constructor
  · intro unchanged position node own nearest found has_path nearest_eq
    have stands := at?_rebasedOnto parent scheme position
    rw [unchanged, found, nearest_eq] at stands
    exact relativeTo_eq_of_rebasedOnto_eq (Option.some_inj.mp stands).symm has_path
  · intro keeps
    induction scheme generalizing parent with
    | string label path reading content =>
      cases found : given path with
      | none => simp [pathOnto, found]
      | some own =>
        have kept := keeps [] _ own parent rfl found rfl
        simp only [rebasedOnto_string, pathOnto, found]
        rw [kept, (given_eq_some.mp found).1]
    | list label path element content elements element_ih elements_ih =>
      cases found : given path with
      | none => exact rebasedOnto_list_of_none _ _ _ _ _ _ found
      | some own =>
        have kept := keeps [] _ own parent rfl found rfl
        -- Each node below is expressed from the path of this list, or from one further down.
        have below : ∀ branch child, (list label path element content elements).child? branch =
            some child → ∀ position node inner nearest, child.at? position = some node →
              node.path? = some inner →
                nearestPath own (child.listsAbove position) = some nearest →
                  Path.relativeTo inner nearest = inner := by
          intro branch child leads position node inner nearest node_found has_path nearest_eq
          refine keeps (branch :: position) node inner nearest ?_ has_path ?_
          · rw [at?_cons_of_child position leads, node_found]
          · rw [listsAbove_cons_of_isList position rfl leads, nearestPath_cons, path?, found]
            exact nearest_eq
        obtain ⟨in_element, in_elements⟩ := forall_child?_list.mp below
        have element_eq : element.map (rebasedOnto own) = element := by
          apply element_map_eq_self
          intro child is_element
          exact element_ih child is_element (in_element child is_element)
        have elements_eq : elements.map (List.map (rebasedOnto own)) = elements := by
          apply copies_map_eq_self
          intro copies listed child member
          exact elements_ih copies listed child member (in_elements copies listed child member)
        rw [rebasedOnto_list _ _ _ _ _ _ found, kept, element_eq, elements_eq,
          (given_eq_some.mp found).1]
    | object label fields ih =>
      rw [rebasedOnto_object, fields_map_eq_self]
      intro field member child is_value
      obtain ⟨index, field_found⟩ := List.mem_iff_getElem?.mp member
      have leads : (object label fields).child? (.field index) = some child :=
        Option.bind_eq_some_iff.mpr ⟨field, field_found, is_value⟩
      -- An object passes on the path that it is expressed from.
      refine ih field member child is_value ?_
      intro position node own nearest node_found has_path nearest_eq
      refine keeps (.field index :: position) node own nearest ?_ has_path ?_
      · rw [at?_cons_of_child position leads, node_found]
      · rw [listsAbove_cons_of_not_isList position rfl leads, nearest_eq]
    | foreign => rfl

/-- Rebasing a scheme changes nothing if and only if it keeps each path. -/
theorem rebased_eq_self_iff {scheme : Scheme} :
    scheme.rebased = scheme ↔
      ∀ position node own parent, scheme.at? position = some node → node.path? = some own →
        scheme.basis position = some parent → Path.relativeTo own parent = own := by
  constructor
  · intro unchanged position node own parent found has_path basis_eq
    have stands := at?_rebased scheme position
    -- Something is expressed from a path only below a list.
    have inside : (scheme.listsAbove position).isEmpty = false := by
      rw [List.isEmpty_eq_false_iff]
      intro outside
      rw [basis_eq_none_of_listsAbove outside] at basis_eq
      contradiction
    rw [unchanged, found, Option.map_some, inside, basis_eq] at stands
    exact relativeTo_eq_of_rebasedOnto_eq (Option.some_inj.mp stands).symm has_path
  · intro keeps
    induction scheme with
    | string => rfl
    | list label path element content elements =>
      cases element with
      | none => rfl
      | some element =>
        cases found : given path with
        | none => exact rebased_list_of_none _ _ _ _ _ found
        | some own =>
          -- Below an outermost list the question is the one that is answered above.
          have below : ∀ branch child, (list label path (some element) content elements).child?
              branch = some child → child.rebasedOnto own = child := by
            intro branch child leads
            apply rebasedOnto_eq_self_iff.mpr
            intro position node inner nearest node_found has_path nearest_eq
            refine keeps (branch :: position) node inner nearest ?_ has_path ?_
            · rw [at?_cons_of_child position leads, node_found]
            · rw [basis_cons_of_isList position rfl leads, path?, found]
              exact nearest_eq
          obtain ⟨in_element, in_elements⟩ := forall_child?_list.mp below
          rw [rebased_list _ _ _ _ _ found, in_element element rfl, copies_map_eq_self in_elements]
    | object label fields ih =>
      rw [rebased_object, fields_map_eq_self]
      intro field member child is_value
      obtain ⟨index, field_found⟩ := List.mem_iff_getElem?.mp member
      have leads : (object label fields).child? (.field index) = some child :=
        Option.bind_eq_some_iff.mpr ⟨field, field_found, is_value⟩
      refine ih field member child is_value ?_
      intro position node own parent node_found has_path basis_eq
      refine keeps (.field index :: position) node own parent ?_ has_path ?_
      · rw [at?_cons_of_child position leads, node_found]
      · rw [basis_cons_of_not_isList position rfl leads, basis_eq]
    | foreign => rfl

/-! ### Paths of a rebased scheme -/

/-- Below a list, the paths of a rebased scheme are settled wherever rebasing comes by again. -/
theorem settled_of_at?_rebasedOnto {scheme node : Scheme} {parent around own nearest : Text}
    {position : Position} (found : (scheme.rebasedOnto parent).at? position = some node)
    (has_path : node.path? = some own)
    (reached :
      nearestPath around ((scheme.rebasedOnto parent).listsAbove position) = some nearest) :
    Path.Settled own := by
  -- On the position: here the first pass expresses from `parent`, and the second one from `around`.
  induction position generalizing scheme parent around with
  | nil =>
    cases found
    exact settled_of_path?_rebasedOnto has_path
  | cons branch rest ih =>
    obtain ⟨child, leads, child_found⟩ := at?_cons_eq_some.mp found
    cases scheme with
    | string => simp [child?] at leads
    | foreign => simp [rebasedOnto, child?] at leads
    | object label fields =>
      rw [rebasedOnto_object] at leads reached
      rw [listsAbove_cons_of_not_isList rest rfl leads] at reached
      rw [child?_object_map] at leads
      obtain ⟨old, -, rfl⟩ := Option.map_eq_some_iff.mp leads
      exact ih child_found reached
    | list label path element content elements =>
      cases given_path : given path with
      | none =>
        -- The second pass stops at a list without a path.
        rw [rebasedOnto_list_of_none _ _ _ _ _ _ given_path] at leads reached
        rw [listsAbove_cons_of_isList rest rfl leads, nearestPath_cons, path?, given_path]
          at reached
        contradiction
      | some before =>
        have is_list : ((list label path element content elements).rebasedOnto parent).isList := by
          rw [rebasedOnto_list _ _ _ _ _ _ given_path]
          rfl
        rw [listsAbove_cons_of_isList rest is_list leads, nearestPath_cons] at reached
        obtain ⟨after, -, inner_reached⟩ := Option.bind_eq_some_iff.mp reached
        rw [child?_rebasedOnto_list given_path] at leads
        obtain ⟨old, -, rfl⟩ := Option.map_eq_some_iff.mp leads
        exact ih child_found inner_reached

theorem settled_of_at?_rebased {scheme node : Scheme} {own parent : Text} {position : Position}
    (found : scheme.rebased.at? position = some node) (has_path : node.path? = some own)
    (reached : scheme.rebased.basis position = some parent) : Path.Settled own := by
  induction position generalizing scheme with
  | nil => simp [basis] at reached
  | cons branch rest ih =>
    obtain ⟨child, leads, child_found⟩ := at?_cons_eq_some.mp found
    cases scheme with
    | string => simp [child?] at leads
    | foreign => simp [rebased, child?] at leads
    | object label fields =>
      rw [rebased_object] at leads reached
      rw [basis_cons_of_not_isList rest rfl leads] at reached
      rw [child?_object_map] at leads
      obtain ⟨old, -, rfl⟩ := Option.map_eq_some_iff.mp leads
      exact ih child_found reached
    | list label path element content elements =>
      cases element with
      | none =>
        -- A list without an element scheme keeps both passes out.
        rw [rebased_untyped] at leads reached
        rw [basis_cons_of_isList rest rfl leads] at reached
        simp [isTyped] at reached
      | some element =>
        cases given_path : given path with
        | none =>
          rw [rebased_list_of_none _ _ _ _ _ given_path] at leads reached
          rw [basis_cons_of_isList rest rfl leads, path?, given_path] at reached
          simp at reached
        | some before =>
          have is_list : ((list label path (some element) content elements).rebased).isList := by
            rw [rebased_list _ _ _ _ _ given_path]
            rfl
          rw [basis_cons_of_isList rest is_list leads] at reached
          obtain ⟨after, -, inner_reached⟩ :=
            Option.bind_eq_some_iff.mp (Option.ite_none_right_eq_some.mp reached).2
          rw [child?_rebased_list given_path] at leads
          obtain ⟨old, -, rfl⟩ := Option.map_eq_some_iff.mp leads
          exact settled_of_at?_rebasedOnto child_found has_path inner_reached

/-- Rebasing a scheme a second time changes nothing if and only if, where the second pass comes by,
no path starts with the segment that the path of the nearest list above it starts with. -/
theorem rebase_idempotent_iff {scheme : Scheme} (valid : scheme.Valid) :
    ∃ once, scheme.rebase = .ok once ∧ (once.rebase = .ok once ↔ once.HeadsDiffer) := by
  refine ⟨scheme.rebased, valid.rebase_eq, ?_⟩
  rw [valid.rebased.rebase_eq, Except.ok.injEq, rebased_eq_self_iff]
  -- The paths that the second pass reaches are settled, so keeping one is a matter of its head.
  have keeps_iff : ∀ position node own parent, scheme.rebased.at? position = some node →
      node.path? = some own → scheme.rebased.basis position = some parent →
        (Path.relativeTo own parent = own ↔
          (Path.split own).head? ≠ (Path.split parent).head?) := by
    intro position node own parent found has_path reached
    have settled := settled_of_at?_rebased found has_path reached
    exact Path.relativeTo_eq_self_iff settled (nonempty_of_path? has_path) parent
  constructor
  · intro keeps position node own parent found has_path reached
    exact (keeps_iff position node own parent found has_path reached).mp
      (keeps position node own parent found has_path reached)
  · intro differ position node own parent found has_path reached
    exact (keeps_iff position node own parent found has_path reached).mpr
      (differ position node own parent found has_path reached)

/-- A list in a list, both with the paths that were recorded from the top of the page. -/
def nestedShelf : Scheme :=
  list {} (some (Text.ofString "ul > li"))
    (some (list {} (some (Text.ofString "ul > li > ul > li"))
      (some (string {} (some (Text.ofString "ul > li > ul > li > b")) .innerHtml .null)) none none))
    none none

/-- The inner list is found again under the same path as the outer one. The second pass takes this
for the way to the outer list and cuts it off. -/
theorem rebase_nestedShelf_twice :
    nestedShelf.Valid ∧ ∃ once, nestedShelf.rebase = .ok once ∧ ¬ once.HeadsDiffer ∧
      once.rebase ≠ .ok once := by
  have valid : nestedShelf.Valid := by simp [nestedShelf]
  obtain ⟨once, once_eq, unchanged_iff⟩ := rebase_idempotent_iff valid
  have same_head : ¬ once.HeadsDiffer := by
    intro differ
    obtain rfl : nestedShelf.rebased = once := Except.ok.inj (valid.rebase_eq.symm.trans once_eq)
    exact differ [.element] _ (Text.ofString "ul > li") (Text.ofString "ul > li") rfl rfl rfl rfl
  exact ⟨valid, once, once_eq, same_head, fun unchanged => same_head (unchanged_iff.mp unchanged)⟩

end PageScheme.Scheme
