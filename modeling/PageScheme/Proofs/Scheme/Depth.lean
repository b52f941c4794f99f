import Mathlib.Data.Option.Basic
import Mathlib.Tactic.Tauto
import PageScheme.Proofs.Json.Depth
import PageScheme.Proofs.Scheme.Everywhere
import PageScheme.Proofs.Scheme.Populated
import PageScheme.Scheme.Writing

/-!
# How deep a scheme goes

A scheme lies within some room if every node of it does, with what the node takes below its own
position: one level for the node itself, or that and the levels of the content it holds. Rebasing
and populating leave the nodes as deep as they were (`NodesWithin.populated`).

Main result: a scheme can be written if and only if its content has no key that is unfit for writing
and the levels of nodes and content do not exceed the room there is (`obstacle?_eq_none`).
-/
namespace PageScheme

/-- What can keep something from being written: a key, or how deep it goes. -/
inductive Fault.StopsWriting : Fault → Prop
  | unwritableKey (key : Text) : StopsWriting (.unwritableKey key)
  | tooDeep : StopsWriting .tooDeepToWrite

namespace Json
variable {room : Nat} {fault : Fault}

theorem obstacleOfItems_eq (items : List Json) :
    obstacleOfItems room items = items.findSome? (obstacle? room) := by
  induction items with
  | nil => rfl
  | cons item rest ih =>
    rw [obstacleOfItems, ih, List.findSome?_cons]
    cases item.obstacle? room <;> rfl

theorem obstacleOfMembers_eq (members : List (Text × Json)) :
    obstacleOfMembers room members = members.findSome? fun member =>
      if member.1.isWellFormed then member.2.obstacle? room
      else some (.unwritableKey member.1) := by
  induction members with
  | nil => rfl
  | cons member rest ih =>
    rw [obstacleOfMembers, ih, List.findSome?_cons]
    split
    · cases member.2.obstacle? room <;> rfl
    · rfl

/-- A value can be written if its keys are well-formed and there is room for its levels. -/
theorem obstacle?_eq_none {value : Json} :
    value.obstacle? room = none ↔ value.KeysWellFormed ∧ value.levels ≤ room := by
  induction value generalizing room with
  | array items ih =>
    cases room with
    | zero => simp [obstacle?, height]
    | succ room =>
      rw [obstacle?, obstacleOfItems_eq, List.findSome?_eq_none_iff, keysWellFormed_array,
        height_array_le, ← forall₂_and]
      exact forall₂_congr fun item listed => ih item listed
  | object members ih =>
    cases room with
    | zero => simp [obstacle?, height]
    | succ room =>
      rw [obstacle?, obstacleOfMembers_eq, List.findSome?_eq_none_iff, keysWellFormed_object,
        height_object_le, and_assoc, ← forall₂_and, ← forall₂_and]
      refine forall₂_congr fun member inside => ?_
      rw [← ih member inside]
      cases member.1.isWellFormed <;> simp
  | _ => cases room <;> simp [obstacle?, height]

theorem stopsWriting_of_obstacle? {value : Json} (stopped : value.obstacle? room = some fault) :
    fault.StopsWriting := by
  induction value generalizing room with
  | array items ih =>
    cases room with
    | zero => cases stopped; exact .tooDeep
    | succ room =>
      rw [obstacle?, obstacleOfItems_eq] at stopped
      obtain ⟨item, listed, at_item⟩ := List.exists_of_findSome?_eq_some stopped
      exact ih item listed at_item
  | object members ih =>
    cases room with
    | zero => cases stopped; exact .tooDeep
    | succ room =>
      rw [obstacle?, obstacleOfMembers_eq] at stopped
      obtain ⟨member, listed, at_member⟩ := List.exists_of_findSome?_eq_some stopped
      split at at_member
      · exact ih member listed at_member
      · cases at_member
        exact .unwritableKey member.1
  | _ => cases room <;> cases stopped; exact .tooDeep

end Json

namespace Scheme
variable {takes : Scheme → Nat} {room : Nat} {scheme : Scheme} {label : Label}

/-- Every node lies within some room, with what it takes of it. -/
def Within (takes : Scheme → Nat) (room : Nat) (scheme : Scheme) : Prop :=
  ∀ position, ∀ node ∈ scheme.at? position, position.length + takes node ≤ room

/-- A scheme lies within some room if its node does, and what is below it in one level less. -/
theorem within_succ_iff :
    scheme.Within takes (room + 1) ↔ takes scheme ≤ room + 1 ∧
      ∀ branch child, scheme.child? branch = some child → child.Within takes room := by
  constructor
  · intro within
    refine ⟨by simpa using within [] scheme rfl, ?_⟩
    intro branch child leads position node found
    have deep := within (branch :: position) node (at?_cons_eq_some.mpr ⟨child, leads, found⟩)
    rw [List.length_cons] at deep
    omega
  · rintro ⟨here, below⟩ position node found
    cases position with
    | nil =>
      obtain rfl := Option.some_inj.mp found
      simpa using here
    | cons branch rest =>
      obtain ⟨child, leads, inside⟩ := at?_cons_eq_some.mp found
      have deep := below branch child leads rest node inside
      rw [List.length_cons]
      omega

theorem not_within_zero (some_room : 0 < takes scheme) : ¬ scheme.Within takes 0 := by
  intro within
  have here := within [] scheme rfl
  omega

theorem Within.mono {more : Nat} (within : scheme.Within takes room) (enough : room ≤ more) :
    scheme.Within takes more :=
  fun position node found => Nat.le_trans (within position node found) enough

/-! ### Nodes -/

/-- At most so many nodes of a scheme lie in each other. -/
abbrev NodesWithin : Nat → Scheme → Prop := Within fun _ => 1

/-- There is room for the first of the nodes at least. -/
theorem NodesWithin.exists_room (within : scheme.NodesWithin room) : ∃ left, room = left + 1 :=
  Nat.exists_eq_succ_of_ne_zero fun none_left => not_within_zero Nat.one_pos (none_left ▸ within)

theorem nodesWithin_succ_iff :
    scheme.NodesWithin (room + 1) ↔
      ∀ branch child, scheme.child? branch = some child → child.NodesWithin room := by
  rw [NodesWithin, within_succ_iff, and_iff_right (by omega)]

theorem nodesWithin_string {path : Option Text} {reading : Reading} {content : Json} :
    (string label path reading content).NodesWithin (room + 1) :=
  nodesWithin_succ_iff.mpr nofun

theorem nodesWithin_list {path : Option Text} {element : Option Scheme}
    {content : Option (List Json)} {elements : Option (List Scheme)} :
    (list label path element content elements).NodesWithin (room + 1) ↔
      (∀ scheme ∈ element, scheme.NodesWithin room) ∧
        ∀ schemes ∈ elements, ∀ scheme ∈ schemes, scheme.NodesWithin room := by
  rw [nodesWithin_succ_iff, forall_child?_list]

theorem nodesWithin_object {fields : List (Field Scheme)} :
    (object label fields).NodesWithin (room + 1) ↔
      ∀ field ∈ fields, ∀ scheme ∈ field.value, scheme.NodesWithin room := by
  rw [nodesWithin_succ_iff, forall_child?_object]

/-- Rebasing changes nodes where they are. -/
theorem NodesWithin.rebased (within : scheme.NodesWithin room) :
    scheme.rebased.NodesWithin room := by
  intro position node found
  rw [at?_rebased] at found
  obtain ⟨old, old_found, -⟩ := Option.map_eq_some_iff.mp found
  exact within position old old_found

theorem NodesWithin.rebasedOnto (within : scheme.NodesWithin room) (parent : Text) :
    (scheme.rebasedOnto parent).NodesWithin room := by
  intro position node found
  rw [at?_rebasedOnto] at found
  obtain ⟨old, old_found, -⟩ := Option.map_eq_some_iff.mp found
  exact within position old old_found

/-- Populating makes copies of the element schemes of lists, none of them deeper than the element
scheme was. -/
theorem NodesWithin.populated (within : scheme.NodesWithin room) (spread : Spread)
    (content : Json) :
    (scheme.populated spread content).NodesWithin room := by
  induction scheme generalizing room content with
  | foreign node => exact within
  | string label path reading old =>
    obtain ⟨room, rfl⟩ := within.exists_room
    exact nodesWithin_string
  | list label path element old elements element_ih elements_ih =>
    obtain ⟨room, rfl⟩ := within.exists_room
    obtain ⟨element_within, -⟩ := nodesWithin_list.mp within
    cases element with
    | none =>
      rw [populated_untyped, nodesWithin_list]
      exact ⟨nofun, nofun⟩
    | some element =>
      have each := fun item => element_ih element rfl (element_within element rfl) item
      rw [populated_list, nodesWithin_list]
      refine ⟨by simpa using each _, ?_⟩
      intro schemes copied scheme member
      cases spread with
      | representative => cases copied
      | perElement =>
        obtain rfl := Option.some_inj.mp copied
        obtain ⟨item, -, rfl⟩ := List.mem_map.mp member
        exact each item
  | object label fields ih =>
    obtain ⟨room, rfl⟩ := within.exists_room
    rw [populated_object, nodesWithin_object]
    intro field member scheme is_value
    obtain ⟨old, old_member, rfl⟩ := List.mem_map.mp member
    obtain ⟨value, value_eq, rfl⟩ := Option.map_eq_some_iff.mp is_value
    have old_within := nodesWithin_object.mp within old old_member value value_eq
    -- A field is populated, or stays as it was.
    simp only [populatedFrom]
    split
    · exact ih old old_member value value_eq old_within _
    · exact old_within

theorem NodesWithin.child {child : Scheme} {branch : Branch} (within : scheme.NodesWithin room)
    (leads : scheme.child? branch = some child) : child.NodesWithin room := by
  obtain ⟨room, rfl⟩ := within.exists_room
  exact (nodesWithin_succ_iff.mp within branch child leads).mono (Nat.le_succ room)

/-- What may be made of a document: no node is foreign, and at most `room` of them lie in each
other. -/
structure Admissible (room : Nat) (scheme : Scheme) : Prop where
  valid : scheme.Valid
  within : scheme.NodesWithin room

theorem admissible_string {path : Option Text} {reading : Reading} {content : Json} :
    (string label path reading content).Admissible (room + 1) :=
  ⟨.string, nodesWithin_string⟩

theorem admissible_list {path : Option Text} {element : Option Scheme}
    {content : Option (List Json)} {elements : Option (List Scheme)}
    (in_element : ∀ scheme ∈ element, scheme.Admissible room)
    (in_elements : ∀ schemes ∈ elements, ∀ scheme ∈ schemes, scheme.Admissible room) :
    (list label path element content elements).Admissible (room + 1) where
  valid := .list (fun scheme inside => (in_element scheme inside).valid)
    fun schemes listed scheme inside => (in_elements schemes listed scheme inside).valid
  within := nodesWithin_list.mpr ⟨fun scheme inside => (in_element scheme inside).within,
    fun schemes listed scheme inside => (in_elements schemes listed scheme inside).within⟩

theorem admissible_object {fields : List (Field Scheme)}
    (in_fields : ∀ field ∈ fields, ∀ scheme ∈ field.value, scheme.Admissible room) :
    (object label fields).Admissible (room + 1) where
  valid := .object fun field member scheme is_value =>
    (in_fields field member scheme is_value).valid
  within := nodesWithin_object.mpr fun field member scheme is_value =>
    (in_fields field member scheme is_value).within

/-! ### Nodes and content -/

/-- How many levels a node is of itself, with the content that is written for it. Null is not
written for the content of a string. -/
def levels : Scheme → Nat
  | string _ _ _ content => if content.isNull then 1 else content.levels + 1
  | list _ _ _ content _ => Json.heightOfItems 1 (content.getD []) + 1
  | object _ _ => 1
  | foreign node => node.toJson.levels

/-- At most so many nodes and values of content lie in each other. -/
abbrev LevelsWithin : Nat → Scheme → Prop := Within levels

theorem levels_pos (scheme : Scheme) : 0 < scheme.levels := by
  cases scheme with
  | string label path reading content => rw [levels]; split <;> omega
  | list => exact Nat.succ_pos _
  | object => exact Nat.one_pos
  | foreign node => exact Json.levels_pos _

theorem levelsWithin_string {path : Option Text} {reading : Reading} {content : Json} :
    (string label path reading content).LevelsWithin (room + 1) ↔
      content.isNull ∨ content.levels ≤ room := by
  rw [LevelsWithin, within_succ_iff, levels]
  cases content.isNull <;> simp [child?]

theorem levelsWithin_list {path : Option Text} {element : Option Scheme}
    {content : Option (List Json)} {elements : Option (List Scheme)} :
    (list label path element content elements).LevelsWithin (room + 1) ↔
      (∀ items ∈ content, ∀ item ∈ items, item.levels ≤ room) ∧
        (∀ scheme ∈ element, scheme.LevelsWithin room) ∧
          ∀ schemes ∈ elements, ∀ scheme ∈ schemes, scheme.LevelsWithin room := by
  rw [LevelsWithin, within_succ_iff, forall_child?_list, levels, Nat.add_le_add_iff_right,
    Json.heightOfItems_le]
  apply and_congr_left'
  cases content <;> simp

theorem levelsWithin_object {fields : List (Field Scheme)} :
    (object label fields).LevelsWithin (room + 1) ↔
      ∀ field ∈ fields, ∀ scheme ∈ field.value, scheme.LevelsWithin room := by
  rw [LevelsWithin, within_succ_iff, forall_child?_object, levels, and_iff_right (by omega)]

/-! ### What keeps a scheme from being written -/

theorem obstacleOfItems_eq (schemes : List Scheme) :
    obstacleOfItems room schemes = schemes.findSome? (obstacle? room) := by
  induction schemes with
  | nil => rfl
  | cons scheme rest ih =>
    rw [obstacleOfItems, ih, List.findSome?_cons]
    cases scheme.obstacle? room <;> rfl

theorem obstacleOfFields_eq (fields : List (Field Scheme)) :
    obstacleOfFields room fields =
      fields.findSome? fun field => field.value.bind (obstacle? room) := by
  induction fields with
  | nil => rfl
  | cons field rest ih =>
    obtain ⟨key, value⟩ := field
    cases value with
    | none => simp [obstacleOfFields, ih]
    | some value =>
      simp only [obstacleOfFields, ih, List.findSome?_cons, Option.bind_some]
      cases value.obstacle? room <;> rfl

/-- The element scheme of a list is written first, then its content, and the copies last. -/
theorem obstacle?_list {path : Option Text} {element : Option Scheme}
    {content : Option (List Json)} {elements : Option (List Scheme)} :
    (list label path element content elements).obstacle? (room + 1) =
      (element.bind (obstacle? room) <|> content.bind (List.findSome? (Json.obstacle? room)) <|>
        elements.bind (List.findSome? (obstacle? room))) := by
  have in_content : Json.obstacleOfItems room = List.findSome? (Json.obstacle? room) :=
    funext Json.obstacleOfItems_eq
  cases element <;> cases elements <;> simp [obstacle?, in_content, obstacleOfItems_eq]

/-- A valid scheme can be written if the keys in its content are well-formed and there is room for
its levels. Nothing else can keep it from being written. -/
theorem obstacle?_eq_none (valid : scheme.Valid) :
    scheme.obstacle? room = none ↔
      scheme.EveryContent Json.KeysWellFormed ∧ scheme.LevelsWithin room := by
  induction valid generalizing room with
  | @string label path reading content =>
    cases room with
    | zero => simp [obstacle?, not_within_zero (levels_pos _)]
    | succ room =>
      rw [everyContent_string, levelsWithin_string, obstacle?]
      cases content <;> simp [Json.isNull, Json.obstacle?_eq_none]
  | @list label path element content elements _ _ element_ih elements_ih =>
    cases room with
    | zero => simp [obstacle?, not_within_zero (levels_pos _)]
    | succ room =>
      have in_element := forall₂_congr (fun scheme inside => @element_ih scheme inside room)
      have in_elements := forall₂_congr fun schemes listed =>
        forall₂_congr fun scheme inside => @elements_ih schemes listed scheme inside room
      simp only [obstacle?_list, Option.orElse_eq_none, Option.bind_eq_none_iff,
        List.findSome?_eq_none_iff, ← Option.mem_def, everyContent_list, levelsWithin_list,
        in_element, in_elements, Json.obstacle?_eq_none, forall_and]
      tauto
  | @object label fields _ ih =>
    cases room with
    | zero => simp [obstacle?, not_within_zero (levels_pos _)]
    | succ room =>
      have in_fields := forall₂_congr fun field member =>
        forall₂_congr fun scheme inside => @ih field member scheme inside room
      simp only [obstacle?, obstacleOfFields_eq, List.findSome?_eq_none_iff,
        Option.bind_eq_none_iff, ← Option.mem_def, everyContent_object, levelsWithin_object,
        in_fields, forall_and]

/-- Whatever keeps a scheme from being written is a key, or how deep it goes. -/
theorem stopsWriting_of_obstacle? {fault : Fault} (stopped : scheme.obstacle? room = some fault) :
    fault.StopsWriting := by
  induction scheme generalizing room with
  | string label path reading content =>
    cases room with
    | zero => cases stopped; exact .tooDeep
    | succ room =>
      rw [obstacle?] at stopped
      split at stopped
      · cases stopped
      · exact Json.stopsWriting_of_obstacle? stopped
  | list label path element content elements element_ih elements_ih =>
    cases room with
    | zero => cases stopped; exact .tooDeep
    | succ room =>
      simp only [obstacle?_list, Option.orElse_eq_some, Option.bind_eq_some_iff] at stopped
      rcases stopped with ⟨scheme, is_element, inside⟩ | ⟨-, stopped⟩
      · exact element_ih scheme is_element inside
      rcases stopped with ⟨items, -, inside⟩ | ⟨-, schemes, listed, inside⟩
      · obtain ⟨item, -, at_item⟩ := List.exists_of_findSome?_eq_some inside
        exact Json.stopsWriting_of_obstacle? at_item
      · obtain ⟨scheme, member, at_scheme⟩ := List.exists_of_findSome?_eq_some inside
        exact elements_ih schemes listed scheme member at_scheme
  | object label fields ih =>
    cases room with
    | zero => cases stopped; exact .tooDeep
    | succ room =>
      rw [obstacle?, obstacleOfFields_eq] at stopped
      obtain ⟨field, member, inside⟩ := List.exists_of_findSome?_eq_some stopped
      obtain ⟨scheme, is_value, at_scheme⟩ := Option.bind_eq_some_iff.mp inside
      exact ih field member scheme is_value at_scheme
  | foreign node =>
    cases room with
    | zero => cases stopped; exact .tooDeep
    | succ room => exact Json.stopsWriting_of_obstacle? stopped

end Scheme
end PageScheme
