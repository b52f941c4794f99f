import PageScheme.Proofs.Json.Members
import PageScheme.Proofs.Scheme.Outline
import PageScheme.Proofs.Scheme.Skeleton
import PageScheme.Scheme.Sources

/-!
# The page of a position

The pages of a scheme are collected on the way down, each node handing its page on to what lies in
it. Read from a node upwards, its page is the one that the nearest node names which names any, or
else the page around the scheme. The two agree at every position, so the sources of instructions are
these pages in preorder, each where it first comes (`sources_eq_pages`).

Which pages there are depends on the labels and on how the nodes lie in each other alone. Populating
keeps both with the skeleton, and rebasing with the outline.
-/
namespace PageScheme.Scheme

/-! ### Positions in preorder -/

/-- Which of two ways from a node is taken first. -/
def Branch.Before : Branch → Branch → Prop
  | .field i, .field j => i < j
  | _, _ => False

/-- The positions of a scheme outside of copies, a node before what lies in it, and what lies in one
field before what lies in a later one. -/
structure IsPreorder (scheme : Scheme) (positions : List Position) : Prop where
  mem_iff : ∀ position,
    position ∈ positions ↔ (scheme.at? position).isSome ∧ ∀ index, .copy index ∉ position
  ordered : positions.Pairwise (List.Lex Branch.Before)

mutual

/-- The positions that are walked while the pages are collected. -/
def preorder : Scheme → List Position
  | string .. => [[]]
  | list _ _ element _ _ =>
    [] :: match element with
      | some element => element.preorder.map (.element :: ·)
      | none => []
  | object _ fields => [] :: preorderFrom 0 fields
  | foreign _ => [[]]
termination_by structural scheme => scheme

/-- The positions in fields of which `index` is the first. -/
def preorderFrom (index : Nat) : List (Field Scheme) → List Position
  | [] => []
  | ⟨_, value⟩ :: rest =>
    (match value with
    | some value => value.preorder.map (.field index :: ·)
    | none => []) ++ preorderFrom (index + 1) rest
termination_by structural fields => fields

end

theorem preorder_list (label : Label) (path : Option Text) (element : Option Scheme)
    (content : Option (List Json)) (elements : Option (List Scheme)) :
    (list label path element content elements).preorder =
      [] :: ((element.map preorder).getD []).map (.element :: ·) := by
  cases element <;> rfl

theorem preorderFrom_cons (index : Nat) (key : Text) (value : Option Scheme)
    (rest : List (Field Scheme)) :
    preorderFrom index (⟨key, value⟩ :: rest) =
      ((value.map preorder).getD []).map (.field index :: ·) ++ preorderFrom (index + 1) rest := by
  cases value <;> rfl

theorem mem_preorderFrom_iff {index : Nat} {fields : List (Field Scheme)} {position : Position} :
    position ∈ preorderFrom index fields ↔
      ∃ offset value rest, (fields[offset]?.bind Field.value) = some value ∧ rest ∈ value.preorder ∧
        position = .field (index + offset) :: rest := by
  induction fields generalizing index with
  | nil => simp [preorderFrom]
  | cons field fields ih =>
    obtain ⟨key, value⟩ := field
    rw [preorderFrom_cons, List.mem_append, ih]
    constructor
    · rintro (here | ⟨offset, found, rest, leads, member, rfl⟩)
      · cases value with
        | none => simp at here
        | some value =>
          obtain ⟨rest, member, rfl⟩ := List.mem_map.mp here
          exact ⟨0, value, rest, rfl, member, rfl⟩
      · refine ⟨offset + 1, found, rest, by simpa using leads, member, ?_⟩
        rw [Nat.add_right_comm, Nat.add_assoc]
    · rintro ⟨offset, found, rest, leads, member, rfl⟩
      cases offset with
      | zero =>
        obtain rfl : value = some found := by simpa using leads
        exact .inl (List.mem_map.mpr ⟨rest, member, rfl⟩)
      | succ offset =>
        refine .inr ⟨offset, found, rest, by simpa using leads, member, ?_⟩
        rw [Nat.add_right_comm, Nat.add_assoc]

theorem mem_preorder_iff {scheme : Scheme} {position : Position} :
    position ∈ scheme.preorder ↔
      (scheme.at? position).isSome ∧ ∀ index, .copy index ∉ position := by
  induction position generalizing scheme with
  | nil => cases scheme <;> simp [preorder, preorder_list]
  | cons branch rest ih =>
    cases scheme with
    | string => simp [preorder, at?, child?]
    | foreign => simp [preorder, at?, child?]
    | list label path element content elements =>
      rw [preorder_list]
      cases branch with
      | element => cases element <;> simp [at?, child?, ih]
      | copy index => simpa using fun _ => ⟨index, fun other => absurd rfl other⟩
      | field index => simp [at?, child?]
    | object label fields =>
      rw [preorder, List.mem_cons, mem_preorderFrom_iff]
      cases branch with
      | field index =>
        cases leads : fields[index]?.bind Field.value with
        | none => simp [at?, child?, leads]
        | some value => simp [at?, child?, leads, ih]
      | element => simp [at?, child?]
      | copy index => simp [at?, child?]

theorem pairwise_preorderFrom {index : Nat} {fields : List (Field Scheme)}
    (each : ∀ field ∈ fields, ∀ value ∈ field.value,
      value.preorder.Pairwise (List.Lex Branch.Before)) :
    (preorderFrom index fields).Pairwise (List.Lex Branch.Before) := by
  induction fields generalizing index with
  | nil => exact .nil
  | cons field fields ih =>
    obtain ⟨key, value⟩ := field
    have later := @ih (index + 1) fun other member =>
      each other (List.mem_cons_of_mem _ member)
    cases value with
    | none => exact later
    | some value =>
      have here := each ⟨key, some value⟩ List.mem_cons_self value rfl
      rw [preorderFrom_cons, List.pairwise_append, List.pairwise_map]
      refine ⟨here.imp .cons, later, ?_⟩
      rintro first in_field second in_later
      obtain ⟨rest, -, rfl⟩ := List.mem_map.mp in_field
      obtain ⟨offset, _, other, -, -, rfl⟩ := mem_preorderFrom_iff.mp in_later
      apply List.Lex.rel
      show index < index + 1 + offset
      omega

theorem pairwise_preorder (scheme : Scheme) :
    scheme.preorder.Pairwise (List.Lex Branch.Before) := by
  induction scheme with
  | string => exact List.pairwise_singleton _ _
  | foreign => exact List.pairwise_singleton _ _
  | list label path element content elements element_ih =>
    cases element with
    | none => exact List.pairwise_singleton _ _
    | some element =>
      rw [preorder, List.pairwise_cons, List.forall_mem_map, List.pairwise_map]
      exact ⟨fun _ _ => .nil, (element_ih element rfl).imp .cons⟩
  | object label fields ih =>
    rw [preorder, List.pairwise_cons]
    refine ⟨?_, pairwise_preorderFrom ih⟩
    intro position member
    obtain ⟨offset, _, rest, -, -, rfl⟩ := mem_preorderFrom_iff.mp member
    exact .nil

theorem isPreorder_preorder (scheme : Scheme) : scheme.IsPreorder scheme.preorder :=
  ⟨fun _ => mem_preorder_iff, pairwise_preorder scheme⟩

/-! ### Pages read upwards -/

/-- The page that a node names itself; an empty address names none. -/
def ownUrl? : Scheme → Option Text
  | string label .. => label.url.filter (· ≠ [])
  | list label .. => label.url.filter (· ≠ [])
  | object label _ => label.url.filter (· ≠ [])
  | foreign _ => none

/-- The nodes from a position up to the root, the one at the position first. -/
def upward (scheme : Scheme) (position : Position) : List Scheme :=
  position.inits.reverse.filterMap scheme.at?

/-- The page of the node at a position: the one that the nearest node on the way up names, the node
itself included, or the page around the scheme if none of them names one. -/
def urlAt (around : Text) (scheme : Scheme) (position : Position) : Text :=
  ((scheme.upward position).findSome? ownUrl?).getD around

theorem upward_cons {scheme child : Scheme} {branch : Branch} (rest : Position)
    (leads : scheme.child? branch = some child) :
    scheme.upward (branch :: rest) = child.upward rest ++ [scheme] := by
  have below : scheme.at? ∘ (branch :: ·) = child.at? := by
    funext position
    exact at?_cons_of_child position leads
  have inits : (branch :: rest).inits = [] :: rest.inits.map (branch :: ·) := rfl
  rw [upward, inits, List.reverse_cons, List.filterMap_append, ← List.map_reverse,
    List.filterMap_map, below]
  rfl

theorem urlAt_nil (around : Text) (scheme : Scheme) :
    scheme.urlAt around [] = scheme.ownUrl?.getD around := by
  cases named : scheme.ownUrl? <;> simp [urlAt, upward, named]

/-- What a node names is the page around all that lies in it. -/
theorem urlAt_cons (around : Text) {scheme child : Scheme} {branch : Branch} (rest : Position)
    (leads : scheme.child? branch = some child) :
    scheme.urlAt around (branch :: rest) = child.urlAt (scheme.urlAt around []) rest := by
  rw [urlAt, upward_cons rest leads, List.findSome?_append, urlAt_nil, urlAt]
  cases (child.upward rest).findSome? ownUrl? with
  | some url => rfl
  | none => cases named : scheme.ownUrl? <;> simp [named]

/-- The pages below a branch are those of what it leads to. -/
theorem map_urlAt_cons (around : Text) {scheme child : Scheme} {branch : Branch}
    (positions : List Position) (leads : scheme.child? branch = some child) :
    (positions.map (branch :: ·)).map (scheme.urlAt around) =
      positions.map (child.urlAt (scheme.urlAt around [])) := by
  rw [List.map_map]
  exact List.map_congr_left fun position _ => urlAt_cons around position leads

theorem pagesOf_eq (around : Text) (label : Label) (front : List (Field Scheme))
    {fields : List (Field Scheme)}
    (each : ∀ field ∈ fields, ∀ value ∈ field.value, ∀ around,
      value.pages around = .ok (value.preorder.map (value.urlAt around))) :
    pagesOf ((object label (front ++ fields)).urlAt around []) fields =
      .ok ((preorderFrom front.length fields).map
        ((object label (front ++ fields)).urlAt around)) := by
  -- The fields that have been passed stay in the object, since positions count from the first one.
  induction fields generalizing front with
  | nil => rfl
  | cons field fields ih =>
    obtain ⟨key, value⟩ := field
    have tail := ih (front ++ [⟨key, value⟩]) fun other member =>
      each other (List.mem_cons_of_mem _ member)
    rw [List.append_assoc, List.singleton_append, List.length_append, List.length_singleton] at tail
    rw [preorderFrom_cons, List.map_append]
    cases value with
    | none =>
      simp only [pagesOf, tail]
      rfl
    | some value =>
      have leads : (object label (front ++ ⟨key, some value⟩ :: fields)).child?
          (.field front.length) = some value := by
        simp [child?]
      simp only [pagesOf, tail, each ⟨key, some value⟩ List.mem_cons_self value rfl,
        Option.map_some, Option.getD_some, map_urlAt_cons around _ leads]
      rfl

/-- The pages that are collected on the way down are those that are read upwards. -/
theorem Valid.pages_eq {scheme : Scheme} (valid : scheme.Valid) (around : Text) :
    scheme.pages around = .ok (scheme.preorder.map (scheme.urlAt around)) := by
  induction valid generalizing around with
  | @string label path reading content =>
    have here : (Scheme.string label path reading content).urlAt around [] =
        label.effectiveUrl around := urlAt_nil around _
    rw [pages, preorder, List.map_singleton, here]
  | @list label path element content elements _ _ element_ih =>
    have here : (Scheme.list label path element content elements).urlAt around [] =
        label.effectiveUrl around := urlAt_nil around _
    rw [preorder_list, List.map_cons, here]
    cases element with
    | none => rfl
    | some element =>
      rw [Option.map_some, Option.getD_some, map_urlAt_cons around _ rfl, here]
      simp only [pages, element_ih element rfl]
      rfl
  | @object label fields _ ih =>
    have here : (Scheme.object label fields).urlAt around [] = label.effectiveUrl around :=
      urlAt_nil around _
    have below := pagesOf_eq around label [] ih
    simp only [List.nil_append, List.length_nil, here] at below
    simp only [pages, below, preorder, List.map_cons, here]
    rfl

/-! ### What keeps the pages -/

theorem pagesOf_map {change : Scheme → Scheme} {around : Text} {fields : List (Field Scheme)}
    (each :
      ∀ field ∈ fields, ∀ value ∈ field.value, (change value).pages around = value.pages around) :
    pagesOf around (fields.map (Field.map change)) = pagesOf around fields := by
  induction fields with
  | nil => rfl
  | cons field fields ih =>
    have tail := ih fun other member => each other (List.mem_cons_of_mem _ member)
    obtain ⟨key, value⟩ := field
    cases value with
    | none => simp only [List.map_cons, Field.map, Option.map_none, pagesOf, tail]
    | some value =>
      have head := each ⟨key, some value⟩ List.mem_cons_self value rfl
      simp only [List.map_cons, Field.map, Option.map_some, pagesOf, head, tail]

theorem pages_skeleton (scheme : Scheme) (around : Text) :
    scheme.skeleton.pages around = scheme.pages around := by
  induction scheme generalizing around with
  | string => rfl
  | list label path element content elements element_ih =>
    cases element with
    | none => rfl
    | some element => simp only [skeleton_list, Option.map_some, pages, element_ih element rfl]
  | object label fields ih =>
    simp only [skeleton_object, pages]
    rw [pagesOf_map fun field member value is_value => ih field member value is_value _]
  | foreign => rfl

theorem pages_outline (scheme : Scheme) (around : Text) :
    scheme.outline.pages around = scheme.pages around := by
  induction scheme generalizing around with
  | string => rfl
  | list label path element content elements element_ih =>
    cases element with
    | none => cases elements <;> rfl
    | some element => simp only [outline_list, Option.map_some, pages, element_ih element rfl]
  | object label fields ih =>
    simp only [outline_object, pages]
    rw [pagesOf_map fun field member value is_value => ih field member value is_value _]
  | foreign => rfl

theorem pages_populated (spread : Spread) (scheme : Scheme) (content : Json) (around : Text) :
    (scheme.populated spread content).pages around = scheme.pages around := by
  rw [← pages_skeleton, skeleton_populated, pages_skeleton]

theorem pages_rebased (scheme : Scheme) (around : Text) :
    scheme.rebased.pages around = scheme.pages around := by
  rw [← pages_outline, outline_rebased, pages_outline]

/-- The sources of instructions are the pages of all nodes outside of copies in preorder, each where
it first comes; and neither populating nor rebasing changes them. -/
theorem sources_eq_pages {i : Instructions} (valid : i.scheme.Valid) :
    ∃ positions urls, i.scheme.IsPreorder positions ∧ i.sources = .ok urls ∧ urls.Nodup ∧
      urls = (positions.map (i.scheme.urlAt i.url)).eraseDups ∧
      (∀ spread content, ∃ populated, i.populate spread content = .ok populated ∧
        populated.sources = .ok urls) ∧
      ∃ rebased, i.rebase = .ok rebased ∧ rebased.sources = .ok urls := by
  have sources_eq : i.sources =
      .ok (i.scheme.preorder.map (i.scheme.urlAt i.url)).eraseDups := by
    rw [Instructions.sources, valid.pages_eq]
    rfl
  refine ⟨i.scheme.preorder, _, isPreorder_preorder i.scheme, sources_eq, Json.nodup_eraseDups _,
    rfl, ?_, ?_⟩
  · intro spread content
    refine ⟨{ i with scheme := i.scheme.populated spread content }, ?_, ?_⟩
    · rw [Instructions.populate, valid.populate_eq]
      rfl
    · rw [← sources_eq, Instructions.sources, Instructions.sources, pages_populated]
  · refine ⟨{ i with scheme := i.scheme.rebased }, ?_, ?_⟩
    · rw [Instructions.rebase, valid.rebase_eq]
      rfl
    · rw [← sources_eq, Instructions.sources, Instructions.sources, pages_rebased]

def labelled (url : String) : Label := { url := some (Text.ofString url) }

/-- Instructions for a page, with a part that is read from another one. The address at the root is
empty, and the list has a copy that is read from a page of its own. -/
def twoPages : Instructions where
  url := Text.ofString "a"
  scheme := .object (labelled "")
    [⟨Text.ofString "other", some (.object (labelled "b")
      [⟨Text.ofString "title", some (.string {} none .innerHtml .null)⟩])⟩,
      ⟨Text.ofString "later", none⟩,
      ⟨Text.ofString "items", some (.list {} (some (Text.ofString "ul"))
        (some (.string (labelled "b") none .innerHtml .null)) none
        (some [.string (labelled "c") none .innerHtml .null]))⟩]

/-- The page of the copy is no source of its own, and the other page is one only once. -/
theorem twoPages_sources :
    twoPages.scheme.Valid ∧ ∃ positions, twoPages.scheme.IsPreorder positions ∧
      twoPages.sources = .ok [Text.ofString "a", Text.ofString "b"] ∧
      (positions.map (twoPages.scheme.urlAt twoPages.url)).eraseDups =
        [Text.ofString "a", Text.ofString "b"] ∧
      ∃ rebased, twoPages.rebase = .ok rebased ∧
        rebased.sources = .ok [Text.ofString "a", Text.ofString "b"] := by
  have valid : twoPages.scheme.Valid := by simp [twoPages]
  have sources_are : twoPages.sources = .ok [Text.ofString "a", Text.ofString "b"] := rfl
  obtain ⟨positions, urls, is_preorder, sources_eq, -, urls_eq, -, rebased⟩ :=
    sources_eq_pages valid
  obtain rfl := Except.ok.inj (sources_eq.symm.trans sources_are)
  exact ⟨valid, positions, is_preorder, sources_eq, urls_eq.symm, rebased⟩

end PageScheme.Scheme
