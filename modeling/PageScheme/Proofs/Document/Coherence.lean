import PageScheme.Proofs.Document.Editing
import PageScheme.Proofs.Scheme.Skeleton

/-!
# Copies go with their element scheme

Where a list has copies of its element scheme, there is one for each item of its content, the first
is the element scheme itself, and all of them have its rules, which is to say its skeleton.
Populating does not touch the skeleton and rebasing a scheme rebases its skeleton, so that element
scheme and copies change alike.

Main result: a document that was loaded without copies is coherent at every node, in the copies too,
after any number of edits (`coherent_after_edits`).
-/
namespace PageScheme.Scheme

theorem skeleton_finite (scheme : Scheme) : scheme.finite.skeleton = scheme.skeleton := by
  induction scheme with
  | string => rfl
  | list label path element content elements element_ih =>
    rw [finite_list, skeleton_list, skeleton_list, Option.map_map]
    congr 1
    exact Option.map_congr element_ih
  | object label fields ih =>
    rw [finite_object, skeleton_object, skeleton_object, fields_map_map]
    congr 1
    exact fields_map_congr ih
  | foreign node => rfl

/-! ### Coherence -/

/-- Where a node has copies of an element scheme, there is one for each item of its content, the
first is the element scheme, and all have the same rules. -/
def Coherent : Scheme → Prop
  | list _ _ element content (some copies) =>
    ∃ first ∈ element, ∃ items ∈ content, copies.length = items.length ∧
      (∀ copy ∈ copies.head?, copy = first) ∧ ∀ copy ∈ copies, copy.skeleton = first.skeleton
  | _ => True

theorem coherent_of_copies?_eq_none {scheme : Scheme} (none_there : scheme.copies? = none) :
    scheme.Coherent := by
  cases scheme with
  | list label path element content copies =>
    obtain rfl : copies = none := none_there
    trivial
  | _ => trivial

/-- A change by which schemes of the same rules come to have the same rules again. -/
def KeepsRules (change : Scheme → Scheme) : Prop :=
  ∀ scheme other, scheme.skeleton = other.skeleton →
    (change scheme).skeleton = (change other).skeleton

theorem keepsRules_rebasedOnto (parent : Text) : KeepsRules (rebasedOnto parent) := by
  intro scheme other same
  rw [skeleton_rebasedOnto, skeleton_rebasedOnto, same]

theorem keepsRules_finite : KeepsRules finite := by
  intro scheme other same
  rw [skeleton_finite, skeleton_finite, same]

section Lists
variable {label : Label} {path : Option Text} {element : Option Scheme}
  {content : Option (List Json)} {elements : Option (List Scheme)}

/-- An element scheme and its copies that change alike stay coherent, if no item is added to the
content and none is taken away. -/
theorem Coherent.map (coherent : (list label path element content elements).Coherent)
    {change : Scheme → Scheme} (keeps : KeepsRules change) (moved : Option Text)
    {kept : Option (List Json)} (same_lengths : kept.map List.length = content.map List.length) :
    (list label moved (element.map change) kept (elements.map (List.map change))).Coherent := by
  cases elements with
  | none => trivial
  | some copies =>
    obtain ⟨first, is_element, items, is_content, length_eq, same_first, same_rules⟩ := coherent
    rw [is_content, Option.map_some, Option.map_eq_some_iff] at same_lengths
    obtain ⟨kept_items, is_kept, kept_length⟩ := same_lengths
    refine ⟨change first, Option.mem_map_of_mem change is_element, kept_items, is_kept, ?_, ?_, ?_⟩
    · rw [List.length_map, length_eq, kept_length]
    · intro copy is_head
      rw [List.head?_map] at is_head
      obtain ⟨old, old_head, rfl⟩ := Option.map_eq_some_iff.mp is_head
      rw [same_first old old_head]
    · rw [List.forall_mem_map]
      intro copy member
      exact keeps copy first (same_rules copy member)

/-- A list whose element scheme and copies have changed alike is coherent everywhere if they are. -/
theorem everywhere_coherent_list_map
    (coherent : (list label path element content elements).Coherent)
    {change : Scheme → Scheme} (keeps : KeepsRules change) (moved : Option Text)
    {kept : Option (List Json)} (same_lengths : kept.map List.length = content.map List.length)
    (in_element : ∀ scheme ∈ element, (change scheme).Everywhere Coherent)
    (in_elements : ∀ schemes ∈ elements, ∀ scheme ∈ schemes, (change scheme).Everywhere Coherent) :
    (list label moved (element.map change) kept
      (elements.map (List.map change))).Everywhere Coherent :=
  everywhere_list.mpr ⟨coherent.map keeps moved same_lengths, forall_mem_element_map.mpr in_element,
    forall_mem_copies_map.mpr in_elements⟩

theorem coherent_populated (spread : Spread) (element : Scheme) (content : Json) :
    (list label path (some (element.populated spread (content.items.head?.getD .null)))
      (some content.items) (copies spread element content.items)).Coherent := by
  cases spread with
  | representative => trivial
  | perElement =>
    refine ⟨_, rfl, content.items, rfl, List.length_map _, ?_, ?_⟩
    · intro copy is_head
      rw [List.head?_map] at is_head
      obtain ⟨item, item_head, rfl⟩ := Option.map_eq_some_iff.mp is_head
      rw [item_head, Option.getD_some]
    · rw [List.forall_mem_map]
      intro item _
      rw [skeleton_populated, skeleton_populated]

end Lists

theorem everywhere_coherent_populated {scheme : Scheme} (each : scheme.Everywhere Coherent)
    (spread : Spread) (content : Json) : (scheme.populated spread content).Everywhere Coherent := by
  induction scheme generalizing content with
  | string => exact everywhere_string.mpr trivial
  | list label path element old elements element_ih =>
    cases element with
    | none =>
      rw [populated_untyped, everywhere_list]
      exact ⟨trivial, nofun, nofun⟩
    | some element =>
      obtain ⟨-, in_element, -⟩ := everywhere_list.mp each
      have coherent_inside := element_ih element rfl (in_element element rfl)
      rw [populated_list, everywhere_list]
      refine ⟨coherent_populated spread element content, ?_, ?_⟩
      · intro scheme is_element
        obtain rfl := Option.some_inj.mp is_element
        exact coherent_inside _
      · intro schemes copied scheme member
        cases spread with
        | representative => cases copied
        | perElement =>
          obtain rfl := Option.some_inj.mp copied
          obtain ⟨item, -, rfl⟩ := List.mem_map.mp member
          exact coherent_inside item
  | object label fields ih =>
    obtain ⟨-, in_fields⟩ := everywhere_object.mp each
    rw [populated_object, everywhere_object]
    refine ⟨trivial, ?_⟩
    intro field member scheme is_value
    obtain ⟨old, old_member, rfl⟩ := List.mem_map.mp member
    obtain ⟨value, value_eq, rfl⟩ := Option.map_eq_some_iff.mp is_value
    have coherent_inside := in_fields old old_member value value_eq
    rw [populatedFrom]
    split
    · exact ih old old_member value value_eq coherent_inside _
    · exact coherent_inside
  | foreign node => exact everywhere_foreign.mpr trivial

theorem everywhere_coherent_rebasedOnto {scheme : Scheme} (each : scheme.Everywhere Coherent)
    (parent : Text) : (scheme.rebasedOnto parent).Everywhere Coherent := by
  induction scheme generalizing parent with
  | string => exact everywhere_string.mpr trivial
  | list label path element content elements element_ih elements_ih =>
    cases found : given path with
    | none =>
      rw [rebasedOnto_list_of_none _ _ _ _ _ _ found]
      exact each
    | some own =>
      obtain ⟨here, in_element, in_elements⟩ := everywhere_list.mp each
      rw [rebasedOnto_list _ _ _ _ _ _ found]
      apply everywhere_coherent_list_map here (keepsRules_rebasedOnto own) _ rfl
      · intro scheme is_element
        exact element_ih scheme is_element (in_element scheme is_element) own
      · intro schemes listed scheme member
        exact elements_ih schemes listed scheme member
          (in_elements schemes listed scheme member) own
  | object label fields ih =>
    obtain ⟨-, in_fields⟩ := everywhere_object.mp each
    rw [rebasedOnto_object, everywhere_object, forall_mem_fields_map]
    exact ⟨trivial, fun field member scheme is_value => ih field member scheme is_value
      (in_fields field member scheme is_value) parent⟩
  | foreign node => exact everywhere_foreign.mpr trivial

theorem everywhere_coherent_rebased {scheme : Scheme} (each : scheme.Everywhere Coherent) :
    scheme.rebased.Everywhere Coherent := by
  induction scheme with
  | string => exact everywhere_string.mpr trivial
  | list label path element content elements =>
    cases found : given path with
    | none =>
      rw [rebased_list_of_none _ _ _ _ _ found]
      exact each
    | some own =>
      cases element with
      | none => exact each
      | some element =>
        obtain ⟨here, in_element, in_elements⟩ := everywhere_list.mp each
        rw [rebased_list _ _ _ _ _ found]
        apply everywhere_coherent_list_map here (keepsRules_rebasedOnto own) _ rfl
        · intro scheme is_element
          exact everywhere_coherent_rebasedOnto (in_element scheme is_element) own
        · intro schemes listed scheme member
          exact everywhere_coherent_rebasedOnto (in_elements schemes listed scheme member) own
  | object label fields ih =>
    obtain ⟨-, in_fields⟩ := everywhere_object.mp each
    rw [rebased_object, everywhere_object, forall_mem_fields_map]
    exact ⟨trivial, fun field member scheme is_value => ih field member scheme is_value
      (in_fields field member scheme is_value)⟩
  | foreign node => exact each

theorem everywhere_coherent_finite {scheme : Scheme} (each : scheme.Everywhere Coherent) :
    scheme.finite.Everywhere Coherent := by
  induction scheme with
  | string => exact everywhere_string.mpr trivial
  | list label path element content elements element_ih elements_ih =>
    obtain ⟨here, in_element, in_elements⟩ := everywhere_list.mp each
    have same_lengths : (content.map (List.map Json.finite)).map List.length =
        content.map List.length := by
      cases content <;> simp
    rw [finite_list]
    apply everywhere_coherent_list_map here keepsRules_finite _ same_lengths
    · intro scheme is_element
      exact element_ih scheme is_element (in_element scheme is_element)
    · intro schemes listed scheme member
      exact elements_ih schemes listed scheme member (in_elements schemes listed scheme member)
  | object label fields ih =>
    obtain ⟨-, in_fields⟩ := everywhere_object.mp each
    rw [finite_object, everywhere_object, forall_mem_fields_map]
    exact ⟨trivial, fun field member scheme is_value => ih field member scheme is_value
      (in_fields field member scheme is_value)⟩
  | foreign node => exact each

/-- Whatever an edit makes of a coherent scheme is coherent. -/
theorem Change.everywhere_coherent {scheme next : Scheme} (change : Change scheme next)
    (each : scheme.Everywhere Coherent) : next.Everywhere Coherent := by
  cases change with
  | rebased => exact everywhere_coherent_rebased each
  | rebasedOnto parent => exact everywhere_coherent_rebasedOnto each parent
  | populated spread content => exact everywhere_coherent_populated each spread content
  | child leads => exact each.child leads
  | finite => exact everywhere_coherent_finite each

end PageScheme.Scheme

namespace PageScheme.Document

/-- A document that was loaded without copies of element schemes is coherent at every node, those
inside copies included, after any number of edits. -/
theorem coherent_after_edits {limits : Limits} {written : Written} {start document : Document}
    (loaded : load limits written = .ok start)
    (no_copies : start.scheme.Everywhere fun node => node.copies? = none)
    (edits : Relation.ReflTransGen (Edit limits) start document) :
    document.scheme.Everywhere Scheme.Coherent := by
  have begins : start.scheme.Everywhere Scheme.Coherent := fun position node found =>
    Scheme.coherent_of_copies?_eq_none (no_copies position node found)
  obtain ⟨-, coherent⟩ := holds_after_edits (Scheme.Everywhere Scheme.Coherent)
    (fun change each => change.everywhere_coherent each) edits (admissible_of_load loaded) begins
  exact coherent

/-- A list of objects that have a list of tags. -/
def tagged : Document :=
  .bare (.list {} (some (Text.ofString "ul"))
    (some (.object {} [⟨Text.ofString "tags", some (.list {} (some (Text.ofString "ul > li"))
      (some (.string {} (some (Text.ofString "ul > li > b")) .innerHtml .null)) none none)⟩]))
    none none)

/-- Two items, of which the second has no tags. -/
def tags : Json := .array [.ofMembers [("tags", .array [.int 1, .int 2])], .ofMembers []]

def taggedOnce : Document := .bare (tagged.scheme.populated .perElement tags)

/-- The list populated with a copy for each item, rebased, and populated again. -/
def taggedTwice : Document := .bare (taggedOnce.scheme.rebased.populated .perElement tags)

/-- Lists inside the copies of a list are coherent, also in a copy whose item has no content for
them. -/
theorem taggedTwice_coherent :
    load .usual (.value tagged.toJson) = .ok tagged ∧
      tagged.scheme.Everywhere (fun node => node.copies? = none) ∧
        Relation.ReflTransGen (Edit .usual) tagged taggedTwice ∧
          taggedTwice.scheme.copies?.map List.length = some 2 ∧
            taggedTwice.scheme.Everywhere Scheme.Coherent := by
  have valid : tagged.scheme.Valid := by simp [tagged, scheme]
  have loaded : load .usual (.value tagged.toJson) = .ok tagged := rfl
  have no_copies : tagged.scheme.Everywhere fun node => node.copies? = none := by
    simp [tagged, scheme, Scheme.everywhere_list, Scheme.everywhere_object, Scheme.copies?]
  have once_valid := valid.populated .perElement tags
  have edits : Relation.ReflTransGen (Edit .usual) tagged taggedTwice :=
    .tail (.tail (.single (.populate .perElement tags (valid.populate_eq _ _)))
        (.rebase once_valid.rebase_eq))
      (.populate .perElement tags (once_valid.rebased.populate_eq _ _))
  exact ⟨loaded, no_copies, edits, rfl, coherent_after_edits loaded no_copies edits⟩

end PageScheme.Document
