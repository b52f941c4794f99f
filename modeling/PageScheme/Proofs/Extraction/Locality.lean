import PageScheme.Proofs.Extraction.Locating
import PageScheme.Proofs.Extraction.Modes
import PageScheme.Proofs.Page.Mirroring
import PageScheme.Proofs.Scheme.Everywhere

/-!
# A run sees nothing but its place

A scheme whose paths lead from child to child reads nothing from a page but what is inside the place
that it is run at, and of what is around it only how many siblings of the same tag come before.
Places that are alike in this are read alike, in whatever documents they stand: the steps of a path
begin inside the place and go down from there, so they end at spots of the subtree; the subtrees of
places that are alike mirror each other; and what is read of a spot is in its node.
-/
namespace PageScheme

open Selector (countOf)

/-- A path from child to child: tags of plain letters, each with a position among the siblings of
its tag or without, joined by marks with any blanks around them. -/
def Path.IsStructural (path : Text) : Prop :=
  ∃ steps blanks chars, (∀ step ∈ steps, step.IsPlain) ∧ Selector.Lexer.Blanks blanks ∧
    Selector.Lexer.Writes steps chars ∧ path = (blanks ++ chars).map .scalar

/-- The path of a node, if it has one that is not empty, leads from child to child. -/
def Scheme.HasStructuralPath (node : Scheme) : Prop :=
  ∀ path ∈ node.path?, Path.IsStructural path

namespace Place

/-- Two places have the same subtree, and as many siblings of their tag before them. -/
def Alike (p q : Place) : Prop :=
  p.node = q.node ∧ ∀ tag ∈ p.node.tag?, countOf (some tag) p.before = countOf (some tag) q.before

variable {p q r s context : Place} {steps : List Path.Step}

theorem Alike.symm (alike : Alike p q) : Alike q p := by
  obtain ⟨node, counts⟩ := alike
  refine ⟨node.symm, ?_⟩
  intro tag is_tag
  rw [← node] at is_tag
  exact (counts tag is_tag).symm

theorem Alike.fitsStep {step : Path.Step} (alike : Alike p q) (fits : p.FitsStep step) :
    q.FitsStep step := by
  obtain ⟨node, counts⟩ := alike
  obtain ⟨is_tag, position⟩ := fits
  have same_count := counts step.tag is_tag
  exact ⟨node ▸ is_tag, fun n is_position => same_count ▸ position n is_position⟩

/-- Below places that are alike, mirrored spots are alike. -/
theorem Mirrors.alike (mirrors : Mirrors p q r s) (alike : Alike p q) : Alike r s := by
  cases mirrors with
  | top => exact alike
  | child _ _ _ node before => exact ⟨node, fun tag _ => by rw [before]⟩

/-! ### Steps -/

theorem isWithin_of_around (around : r.parent? = some s) (within : s.isWithin context = true) :
    r.isWithin context = true := by
  rw [isWithin, List.isSuffixOf_iff_suffix] at within ⊢
  rw [address_of_parent? around]
  exact within.trans (List.suffix_cons _ _)

/-- Steps end inside the place that they are followed from. -/
theorem EndsSteps.isWithin (ends : EndsSteps context steps r) : r.isWithin context = true := by
  induction ends with
  | begin within _ => exact within
  | child _ around _ ih => exact isWithin_of_around around ih

/-- Steps that end at a spot below a place end at the mirrored spot below a place that is alike. -/
theorem EndsSteps.mirrored (ends : EndsSteps p steps r) (alike : Alike p q)
    (mirrors : Mirrors p q r s) : EndsSteps q steps s := by
  -- On the steps: each of them goes one place up, and so does the mirror.
  induction ends generalizing s with
  | begin _ fits =>
    obtain ⟨trail, descent⟩ := mirrors.symm.exists_descent
    exact .begin descent.isWithin ((mirrors.alike alike).fitsStep fits)
  | child above around fits ih =>
    have fits_mirrored := (mirrors.alike alike).fitsStep fits
    cases mirrors with
    | top =>
      -- The steps would have to begin outside the place.
      have outside := not_isWithin_of_parent? around
      rw [above.isWithin] at outside
      cases outside
    | child mirrors_outer left right =>
      obtain rfl := Option.some_inj.mp ((parent?_of_mem_children left).symm.trans around)
      exact .child (ih mirrors_outer) (parent?_of_mem_children right) fits_mirrored

theorem endsSteps_iff_of_mirrors (alike : Alike p q) (mirrors : Mirrors p q r s) :
    EndsSteps p steps r ↔ EndsSteps q steps s :=
  ⟨fun ends => ends.mirrored alike mirrors, fun ends => ends.mirrored alike.symm mirrors.symm⟩

end Place

namespace Extraction

open Place

variable {url : Text} {p q : Place}

/-! ### Selection -/

/-- A structural path cannot be read, or finds the spots at which its steps end. -/
theorem selectAll_of_isStructural {path : Text} (structural : Path.IsStructural path)
    (given_path : path ≠ []) :
    (∃ fault, ∀ context, selectAll url (some path) context = .error fault) ∨
      ∃ (steps : List Path.Step) (ends : Place → Place → Bool),
        (∀ context r, ends context r = true ↔ EndsSteps context steps r) ∧
        ∀ context, selectAll url (some path) context =
          .ok (context.document.filter (ends context)) := by
  obtain ⟨steps, blanks, chars, plain, blank, writes, rfl⟩ := structural
  have read_as_written :
      Text.markedBroken ((blanks ++ chars).map .scalar) = String.ofList (blanks ++ chars) := by
    rw [Text.markedBroken, List.map_map]
    exact congrArg String.ofList (List.map_id _)
  have is_given := given_some_eq_some.mpr given_path
  cases steps with
  | nil => cases writes
  | cons first rest =>
    cases is_read : Selector.routes (String.ofList (blanks ++ chars)) with
    | error fault =>
      refine .inl ⟨.invalidPath ((blanks ++ chars).map .scalar) url, fun context => ?_⟩
      simp only [selectAll, is_given, read_as_written, Selector.select, is_read]
    | ok routes =>
      obtain rfl := Selector.eq_of_routes_of_writes blank writes plain is_read
      refine .inr ⟨rest.reverse ++ [first], fun context r => Selector.Route.endsAt
        ⟨Selector.stepDemand first, Selector.childDemands rest⟩ context r, ?_, ?_⟩
      · exact fun context r => endsAt_iff
      · intro context
        simp only [selectAll, is_given, read_as_written, Selector.select_of_routes is_read]

theorem filter_document {ends : Place → Bool} (inside : ∀ r, ends r = true → r.isWithin p = true) :
    p.document.filter ends = p.subtree.filter ends := by
  rw [← filter_isWithin, List.filter_filter]
  congr 1
  funext r
  rw [Bool.eq_iff_iff, Bool.and_eq_true]
  exact ⟨fun holds => ⟨holds, inside r holds⟩, And.left⟩

/-- Inside places that are alike, a structural path finds places that are alike. -/
theorem selectAll_agree {path : Option Text}
    (structural : ∀ found ∈ given path, Path.IsStructural found) (alike : Alike p q) :
    Agree (List.Forall₂ Alike) (selectAll url path p) (selectAll url path q) := by
  cases is_given : given path with
  | none =>
    simp only [selectAll, is_given]
    exact .ok (.cons alike .nil)
  | some own =>
    obtain ⟨rfl, nonempty⟩ := given_eq_some.mp is_given
    rcases selectAll_of_isStructural (structural own is_given) nonempty with
      ⟨fault, fails⟩ | ⟨steps, ends, ends_iff, finds⟩
    · rw [fails p, fails q]
      exact .error fault
    · have inside : ∀ context r, ends context r = true → r.isWithin context = true :=
        fun context r holds => ((ends_iff context r).mp holds).isWithin
      rw [finds p, finds q, filter_document (inside p), filter_document (inside q)]
      -- The steps end at mirrored spots, and mirrored spots are alike.
      have mirrored : List.Forall₂ (Mirrors p q) (p.subtree.filter (ends p))
          (q.subtree.filter (ends q)) := by
        apply List.rel_filter _ (forall₂_mirrors alike.1)
        intro r s mirrors
        exact (ends_iff p r).trans
          ((endsSteps_iff_of_mirrors alike mirrors).trans (ends_iff q s).symm)
      exact .ok (mirrored.imp fun r s mirrors => mirrors.alike alike)

theorem selectOne_agree {path : Option Text}
    (structural : ∀ found ∈ given path, Path.IsStructural found) (alike : Alike p q) :
    Agree Alike (selectOne url path p) (selectOne url path q) := by
  apply (selectAll_agree structural alike).bind
  intro here there each
  cases each with
  | nil => exact .error _
  | cons first_alike _ => exact .ok first_alike

/-! ### Schemes -/

theorem readElement_eq_of_alike (reading : Reading) (alike : Alike p q) :
    readElement reading p = readElement reading q := by
  cases reading <;> simp only [readElement, attribute?, alike.1]

theorem untypedItems_eq_of_alike (alike : Alike p q) : untypedItems p = untypedItems q := by
  rw [untypedItems, untypedItems, alike.1]

theorem many_eq_of_alike {scheme : Scheme} (structural : scheme.Everywhere Scheme.HasStructuralPath)
    (alike : Alike p q) : many url scheme p = many url scheme q := by
  induction scheme generalizing p q with
  | string label path reading content =>
    apply (selectAll_agree structural.here alike).bind_eq
    intro here there each
    rw [map_eq_of_forall₂ (each.imp fun _ _ => readElement_eq_of_alike reading)]
  | list label path element content elements element_ih _ =>
    cases element with
    | none =>
      apply (selectAll_agree structural.here alike).bind_eq
      intro here there each
      rw [map_eq_of_forall₂ (each.imp fun _ _ => untypedItems_eq_of_alike)]
    | some element =>
      obtain ⟨-, element_structural, -⟩ := Scheme.everywhere_list.mp structural
      apply (selectAll_agree structural.here alike).bind_eq
      intro here there each
      apply mapM_eq_of_forall₂ (each.imp fun r s found_alike => ?_)
      rw [element_ih element rfl (element_structural element rfl) found_alike]
  | object label fields ih =>
    obtain ⟨-, each_structural⟩ := Scheme.everywhere_object.mp structural
    have same : columns url none (fields.map (Field.map id)) p = columns url none fields q :=
      columns_map fun field member value is_value =>
        ih field member value is_value (each_structural field member value is_value) alike
    rw [Field.map_id, List.map_id] at same
    simp only [many, same]
  | foreign => rfl

theorem one_eq_of_alike {scheme : Scheme} (structural : scheme.Everywhere Scheme.HasStructuralPath)
    (alike : Alike p q) : one url scheme p = one url scheme q := by
  induction scheme generalizing p q with
  | string label path reading content =>
    apply (selectOne_agree structural.here alike).bind_eq
    intro here there found_alike
    rw [readElement_eq_of_alike reading found_alike]
  | list label path element content elements =>
    cases element with
    | none =>
      apply (selectOne_agree structural.here alike).bind_eq
      intro here there found_alike
      rw [untypedItems_eq_of_alike found_alike]
    | some element =>
      obtain ⟨-, element_structural, -⟩ := Scheme.everywhere_list.mp structural
      apply (selectOne_agree structural.here alike).bind_eq
      intro here there found_alike
      rw [many_eq_of_alike (element_structural element rfl) found_alike]
  | object label fields ih =>
    obtain ⟨-, each_structural⟩ := Scheme.everywhere_object.mp structural
    have same : members url (fields.map (Field.map id)) p = members url fields q :=
      members_map fun field member value is_value =>
        ih field member value is_value (each_structural field member value is_value) alike
    rw [Field.map_id, List.map_id] at same
    simp only [one, same]
  | foreign => rfl

/-- A scheme with structural paths gives the same at places that are alike, or fails alike: nothing
else around them leaks in, in either way of running it. -/
theorem runs_eq_of_alike {scheme : Scheme} (structural : scheme.Everywhere Scheme.HasStructuralPath)
    (alike : p.Alike q) (url : Text) :
    one url scheme p = one url scheme q ∧ many url scheme p = many url scheme q :=
  ⟨one_eq_of_alike structural alike, many_eq_of_alike structural alike⟩

/-- The second item of a list, and all of them. -/
def itemsScheme : Scheme :=
  .object {}
    [⟨Text.ofString "second",
        some (.string {} (some (Text.ofString "ul>li:nth-of-type(2)")) .innerHtml .null)⟩,
      ⟨Text.ofString "all", some (.list {} (some (Text.ofString "ul")) (some (.string {}
        (some (Text.ofString "li")) .innerHtml .null)) none none)⟩]

def itemList : Node := .element "ul" [] [.element "li" [] [.text "x"], .element "li" [] [.text "y"]]

/-- The list by itself. -/
def loneList : Place := ⟨itemList, [], [], []⟩

/-- The list inside an item of another list, between a heading and one more list. -/
def nestedList : Place :=
  ⟨itemList, [.element "h1" [] [.text "z"]], [itemList], [⟨"li", [], [], []⟩, ⟨"ul", [], [], []⟩]⟩

/-- The list is read inside another one as it is by itself. -/
theorem nestedList_runs_as_loneList :
    itemsScheme.Everywhere Scheme.HasStructuralPath ∧ loneList.Alike nestedList ∧
      one [] itemsScheme loneList = one [] itemsScheme nestedList ∧
      many [] itemsScheme loneList = many [] itemsScheme nestedList := by
  have no_blanks : Selector.Lexer.Blanks [] := List.forall_mem_nil _
  have plain_ul : Text.isPlainName "ul" = true := by decide
  have plain_li : Text.isPlainName "li" = true := by decide
  have second : Path.IsStructural (Text.ofString "ul>li:nth-of-type(2)") :=
    ⟨[⟨"ul", none⟩, ⟨"li", some 2⟩], [], _, by simp [Path.Step.IsPlain, plain_ul, plain_li],
      no_blanks, .more no_blanks no_blanks (.last no_blanks), rfl⟩
  have all : Path.IsStructural (Text.ofString "ul") :=
    ⟨[⟨"ul", none⟩], [], _, by simp [Path.Step.IsPlain, plain_ul], no_blanks, .last no_blanks, rfl⟩
  have item : Path.IsStructural (Text.ofString "li") :=
    ⟨[⟨"li", none⟩], [], _, by simp [Path.Step.IsPlain, plain_li], no_blanks, .last no_blanks, rfl⟩
  have structural : itemsScheme.Everywhere Scheme.HasStructuralPath := by
    simp [itemsScheme, Scheme.everywhere_object, Scheme.everywhere_list, Scheme.HasStructuralPath,
      Scheme.path?, given_eq_some, second, all, item]
  have alike : loneList.Alike nestedList := by
    refine ⟨rfl, ?_⟩
    intro tag is_tag
    obtain rfl := Option.some_inj.mp is_tag
    rfl
  exact ⟨structural, alike, runs_eq_of_alike structural alike []⟩

end Extraction
end PageScheme
