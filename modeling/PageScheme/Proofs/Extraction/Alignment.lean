import PageScheme.Proofs.Extraction.Transposing
import PageScheme.Proofs.Page.Mirroring
import PageScheme.Proofs.Path.Step
import PageScheme.Proofs.Scheme.Position
import PageScheme.Proofs.Scheme.ReadingBack

/-!
# Rows and items

A row takes one element from each column, and a column is collected from the whole container:
nothing but its length is compared with the other columns. So a row may be put together from several
of the items in the container, where one item has more of one sort and another item more of another
(`splitItems_mixed`).

The elements of a column stand in the order of the page, and so do the items. The numbers of the
items that they lie in never go down, and two such sequences are the same if each number is in both
of them equally often. So every row keeps to one item if, and only if, all columns have as many
elements in each of the items (`rows_stay_iff`).
-/
namespace PageScheme

namespace Place

variable {u item other p : Place}

/-- The number of the child of a place that another place lies in: how many nodes come before it. -/
def branch (u p : Place) : Nat := p.address.reverse.getD u.address.length 0

theorem branch_of_mem (is_item : item ∈ u.children) (below : p ∈ item.subtree) :
    u.branch p = item.before.length := by
  obtain ⟨trail, descent⟩ := mem_subtree_iff.mp below
  have within := descent.isWithin
  rw [isWithin, List.isSuffixOf_iff_suffix,
    address_of_parent? (parent?_of_mem_children is_item)] at within
  obtain ⟨front, split⟩ := within
  simp [branch, ← split]

/-! ### The order of the page -/

theorem pairwise_among {above : List Frame} {before nodes : List Node} :
    (among above before nodes).Pairwise fun p q => p.before.length < q.before.length := by
  induction nodes generalizing before with
  | nil => exact .nil
  | cons node rest ih =>
    refine .cons ?_ ih
    intro q member
    have longer := (length_before_le q member).1
    rw [List.length_cons] at longer
    exact longer

theorem pairwise_children (u : Place) :
    u.children.Pairwise fun p q => p.before.length < q.before.length := by
  rw [children]
  split
  · exact pairwise_among
  · exact .nil

theorem eq_of_length_before_eq (is_item : item ∈ u.children) (is_other : other ∈ u.children)
    (same : item.before.length = other.before.length) : item = other := by
  have distinct : (u.children.map fun p => p.before.length).Nodup := by
    rw [List.Nodup, List.pairwise_map]
    exact (pairwise_children u).imp Nat.ne_of_lt
  exact List.inj_on_of_nodup_map distinct is_item is_other same

/-- A place below some child lies in the one that has its number. -/
theorem mem_subtree_of_branch (is_item : item ∈ u.children) (is_other : other ∈ u.children)
    (below : p ∈ other.subtree) (same : u.branch p = item.before.length) : p ∈ item.subtree := by
  rw [branch_of_mem is_other below] at same
  rwa [← eq_of_length_before_eq is_other is_item same]

theorem above_eq_of_mem_children (is_item : item ∈ u.children) (is_other : other ∈ u.children) :
    other.above = item.above := by
  rw [children_of_parent? (parent?_of_mem_children is_item)] at is_other
  exact (length_before_le other is_other).2

theorem isWithin_iff_branch (is_item : item ∈ u.children) (is_other : other ∈ u.children)
    (below : p ∈ other.subtree) : p.isWithin item = true ↔ u.branch p = item.before.length := by
  constructor
  · intro within
    rw [branch_of_mem is_other below]
    exact length_before_eq (above_eq_of_mem_children is_item is_other) below within
  · intro same
    obtain ⟨trail, descent⟩ :=
      mem_subtree_iff.mp (mem_subtree_of_branch is_item is_other below same)
    exact descent.isWithin

/-- In the order of the page, the numbers of the children never go down. -/
theorem pairwise_branch (u : Place) : (u.subtree.map u.branch).Pairwise (· ≤ ·) := by
  have top : u.branch u = 0 := by simp [branch]
  rw [subtree_eq, List.map_cons, List.pairwise_cons, top, List.map_flatMap, List.pairwise_flatMap]
  refine ⟨fun _ _ => Nat.zero_le _, ?_, ?_⟩
  · -- In one child there is one number.
    intro item is_item
    rw [List.pairwise_map]
    apply List.pairwise_of_forall_mem_list
    intro p below q below'
    rw [branch_of_mem is_item below, branch_of_mem is_item below']
  · apply (pairwise_children u).imp_of_mem
    intro item other is_item is_other earlier
    simp only [List.forall_mem_map]
    intro p below q below'
    rw [branch_of_mem is_item below, branch_of_mem is_other below']
    exact Nat.le_of_lt earlier

/-- How many of the places that were found lie in an item. -/
def countIn (item : Place) (found : List Place) : Nat := found.countP (·.isWithin item)

/-- All places that were found lie in items of a container. -/
def InItems (u : Place) (found : List Place) : Prop :=
  ∀ element ∈ found, ∃ item ∈ u.children, element ∈ item.subtree

theorem count_branch {found : List Place} (is_item : item ∈ u.children) (inside : InItems u found) :
    (found.map u.branch).count item.before.length = countIn item found := by
  rw [List.count_eq_countP, List.countP_map, countIn]
  apply List.countP_congr
  intro element member
  obtain ⟨other, is_other, below⟩ := inside element member
  simp [isWithin_iff_branch is_item is_other below]

/-- Places in the order of the page have the same numbers one by one if they have equally many
places in each item. -/
theorem branches_eq_iff {found found' : List Place} (ordered : found.Sublist u.subtree)
    (ordered' : found'.Sublist u.subtree) (inside : InItems u found) (inside' : InItems u found') :
    found.map u.branch = found'.map u.branch ↔
      ∀ item ∈ u.children, countIn item found = countIn item found' := by
  constructor
  · intro same item is_item
    rw [← count_branch is_item inside, ← count_branch is_item inside', same]
  · intro counts
    have sorted := (pairwise_branch u).sublist (ordered.map u.branch)
    have sorted' := (pairwise_branch u).sublist (ordered'.map u.branch)
    apply List.Perm.eq_of_pairwise (fun _ _ _ _ => Nat.le_antisymm) sorted sorted'
    rw [List.perm_iff_count]
    intro number
    by_cases is_number : ∃ item ∈ u.children, item.before.length = number
    · obtain ⟨item, is_item, rfl⟩ := is_number
      rw [count_branch is_item inside, count_branch is_item inside', counts item is_item]
    · -- No item has the number.
      have nowhere : ∀ {places}, InItems u places → (places.map u.branch).count number = 0 := by
        intro places all_inside
        rw [List.count_eq_zero, List.mem_map]
        rintro ⟨element, member, rfl⟩
        obtain ⟨item, is_item, below⟩ := all_inside element member
        exact is_number ⟨item, is_item, (branch_of_mem is_item below).symm⟩
      rw [nowhere inside, nowhere inside']

end Place

namespace Extraction

open Place Scheme

variable {url : Text} {u : Place} {label : Label} {fields : List (Field Scheme)}
  {field field' : Field Scheme} {reading reading' : Reading} {found found' : List Place}
  {objects : List Json} {index : Nat} {members : List (Text × Json)} {member : Text × Json}
  {element : Place}

/-! ### Columns -/

theorem sublist_of_select {source : String} (selected : Selector.select source u = .ok found) :
    found.Sublist u.document := by
  rw [Selector.select] at selected
  split at selected
  · cases selected
  · split_ifs at selected
    obtain rfl := Except.ok.inj selected
    exact List.filter_sublist

theorem sublist_document {path : Option Text} (selected : selectAll url path u = .ok found) :
    found.Sublist u.document := by
  cases is_given : given path with
  | none =>
    simp only [selectAll, is_given] at selected
    obtain rfl := Except.ok.inj selected
    have own : u ∈ u.document.filter (·.isWithin u) := by simp [filter_isWithin, self_mem_subtree]
    exact List.singleton_sublist.mpr (List.mem_of_mem_filter own)
  | some own =>
    simp only [selectAll, is_given] at selected
    cases ran : Selector.select own.markedBroken u with
    | ok places =>
      rw [ran] at selected
      obtain rfl := Except.ok.inj selected
      exact sublist_of_select ran
    | error failure => cases failure <;> simp [ran] at selected

/-- What is found in the items of a container stands in the order of the page. -/
theorem sublist_subtree {path : Option Text} (selected : selectAll url path u = .ok found)
    (inside : InItems u found) : found.Sublist u.subtree := by
  have within : found.filter (·.isWithin u) = found := by
    rw [List.filter_eq_self]
    intro element member
    obtain ⟨item, is_item, below⟩ := inside element member
    obtain ⟨trail, descent⟩ := mem_subtree_iff.mp (mem_subtree_of_child is_item below)
    exact descent.isWithin
  rw [← within, ← filter_isWithin]
  exact (sublist_document selected).filter _

/-- A field holds a text, which is read in some way from each of the elements that it finds in a
container. -/
def Finds (url : Text) (u : Place) (field : Field Scheme) (reading : Reading)
    (found : List Place) : Prop :=
  ∃ label path content, field.value = some (.string label path reading content) ∧
    selectAll url path u = .ok found

def HoldsText (field : Field Scheme) : Prop :=
  ∃ label path reading content, field.value = some (.string label path reading content)

theorem many_of_finds (finds : Finds url u field reading found) :
    ∃ value, field.value = some value ∧
      many url value u = .ok (found.map (readElement reading)) := by
  obtain ⟨label, path, content, is_value, selected⟩ := finds
  refine ⟨_, is_value, ?_⟩
  rw [many, selected]
  rfl

theorem givesCount_of_many (ran : many url (.object label fields) u = .ok objects) :
    ∀ field ∈ fields, GivesCount url u objects.length field := by
  obtain ⟨table, table_ran, put_together⟩ := bind_eq_ok.mp ran
  obtain rfl := Except.ok.inj put_together
  apply givesCount_of_columnOf (columnOf_of_columns table_ran)
  simpa [rows] using length_eq_of_columns table_ran

/-- Every field with a text finds as many elements as there are rows. -/
theorem length_of_finds (ran : many url (.object label fields) u = .ok objects)
    (is_field : field ∈ fields) (finds : Finds url u field reading found) :
    found.length = objects.length := by
  obtain ⟨value, is_value, value_ran⟩ := many_of_finds finds
  obtain ⟨values, values_ran, count⟩ := givesCount_of_many ran field is_field value is_value
  rw [value_ran] at values_ran
  obtain rfl := Except.ok.inj values_ran
  rwa [List.length_map] at count

theorem exists_finds (ran : many url (.object label fields) u = .ok objects)
    (is_field : field ∈ fields) (holds : HoldsText field) :
    ∃ reading found, Finds url u field reading found := by
  obtain ⟨own, path, reading, content, is_value⟩ := holds
  obtain ⟨values, values_ran, -⟩ := givesCount_of_many ran field is_field _ is_value
  obtain ⟨found, selected, -⟩ := bind_eq_ok.mp values_ran
  exact ⟨reading, found, own, path, content, is_value, selected⟩

/-! ### Rows -/

/-- A member of a row is read from an element: the one at the position of the row among those that
the last field with its key finds. -/
def ReadFrom (url : Text) (u : Place) (fields : List (Field Scheme)) (index : Nat)
    (member : Text × Json) (element : Place) : Prop :=
  ∃ field reading found, lastField member.1 fields = some field ∧ Finds url u field reading found ∧
    found[index]? = some element ∧ member.2 = readElement reading element

/-- All elements that a row is read from lie in an item. -/
def StaysIn (url : Text) (u : Place) (fields : List (Field Scheme)) (index : Nat)
    (members : List (Text × Json)) (item : Place) : Prop :=
  ∀ member ∈ members, ∀ element, ReadFrom url u fields index member element →
    element ∈ item.subtree

/-- Elements that rows are read from: some field finds them, and no later one takes its place. -/
def FeedsRows (url : Text) (u : Place) (fields : List (Field Scheme)) (found : List Place) : Prop :=
  ∃ field reading, lastField field.key fields = some field ∧ Finds url u field reading found

theorem ReadFrom.feedsRows (read : ReadFrom url u fields index member element) :
    ∃ found, FeedsRows url u fields found ∧ found[index]? = some element := by
  obtain ⟨field, reading, found, is_last, finds, is_element, -⟩ := read
  refine ⟨found, ⟨field, reading, ?_, finds⟩, is_element⟩
  rwa [(mem_of_lastField is_last).2]

theorem isRow_of_many (ran : many url (.object label fields) u = .ok objects) {object : Json}
    (is_object : objects[index]? = some object) :
    IsRow url u (.object label fields) index object := by
  obtain ⟨table, table_ran, put_together⟩ := bind_eq_ok.mp ran
  obtain rfl := Except.ok.inj put_together
  exact isRow_of_columns label table_ran is_object

theorem mem_keys (is_row : IsRow url u (.object label fields) index (.object members))
    (key : Text) :
    key ∈ members.map Prod.fst ↔ key ∈ fields.map Field.key := by
  obtain ⟨_, same, same_keys, -⟩ := is_row
  obtain rfl := Json.object.inj same
  rw [same_keys, List.mem_eraseDups, keys]

/-- What the last field with a key finds is read one by one into the rows. -/
theorem getElem?_of_finds (is_row : IsRow url u (.object label fields) index (.object members))
    (listed : member ∈ members) (is_last : lastField member.1 fields = some field)
    (finds : Finds url u field reading found) :
    found[index]?.map (readElement reading) = some member.2 := by
  obtain ⟨_, same, -, filled⟩ := is_row
  obtain rfl := Json.object.inj same
  obtain ⟨value, is_value, value_ran⟩ := many_of_finds finds
  have found_value : (Scheme.object label fields).get member.1 = some value := by
    rw [Scheme.get, is_last, Option.bind_some, is_value]
  obtain ⟨values, values_ran, at_index⟩ := (filled member listed).2 value found_value
  rw [value_ran] at values_ran
  obtain rfl := Except.ok.inj values_ran
  rwa [List.getElem?_map] at at_index

/-- Every member of a row is read from an element, if all fields hold texts. -/
theorem exists_readFrom (ran : many url (.object label fields) u = .ok objects)
    (texts : ∀ field ∈ fields, HoldsText field)
    (is_row : IsRow url u (.object label fields) index (.object members))
    (listed : member ∈ members) : ∃ element, ReadFrom url u fields index member element := by
  have is_key := (mem_keys is_row member.1).mp (List.mem_map_of_mem listed)
  obtain ⟨field, is_last, -⟩ := exists_lastField is_key
  have is_field := (mem_of_lastField is_last).1
  obtain ⟨reading, found, finds⟩ := exists_finds ran is_field (texts field is_field)
  obtain ⟨element, is_element, read⟩ :=
    Option.map_eq_some_iff.mp (getElem?_of_finds is_row listed is_last finds)
  exact ⟨element, field, reading, found, is_last, finds, is_element, read.symm⟩

/-- No element that is found for the rows is left out: the row at its position has a member that is
read from it. -/
theorem exists_member (is_row : IsRow url u (.object label fields) index (.object members))
    (feeds : FeedsRows url u fields found) (is_element : found[index]? = some element) :
    ∃ member ∈ members, ReadFrom url u fields index member element := by
  obtain ⟨field, reading, is_last, finds⟩ := feeds
  have is_key : field.key ∈ fields.map Field.key := List.mem_map_of_mem (mem_of_lastField is_last).1
  obtain ⟨member, listed, same_key⟩ := List.mem_map.mp ((mem_keys is_row field.key).mpr is_key)
  rw [← same_key] at is_last
  have read := getElem?_of_finds is_row listed is_last finds
  rw [is_element, Option.map_some, Option.some.injEq] at read
  exact ⟨member, listed, field, reading, found, is_last, finds, is_element, read.symm⟩

/-! ### Rows that keep to an item -/

theorem feedsRows_branches_eq_iff (feeds : FeedsRows url u fields found)
    (feeds' : FeedsRows url u fields found') (inside : InItems u found)
    (inside' : InItems u found') :
    found.map u.branch = found'.map u.branch ↔
      ∀ item ∈ u.children, countIn item found = countIn item found' := by
  obtain ⟨_, _, -, _, _, _, -, selected⟩ := feeds
  obtain ⟨_, _, -, _, _, _, -, selected'⟩ := feeds'
  exact branches_eq_iff (sublist_subtree selected inside) (sublist_subtree selected' inside') inside
    inside'

theorem branches_eq_of_rows_stay (ran : many url (.object label fields) u = .ok objects)
    (rows_stay : ∀ index members, objects[index]? = some (.object members) →
      ∃ item ∈ u.children, StaysIn url u fields index members item)
    (feeds : FeedsRows url u fields found) (feeds' : FeedsRows url u fields found') :
    found.map u.branch = found'.map u.branch := by
  have counts : ∀ places, FeedsRows url u fields places → places.length = objects.length := by
    rintro places ⟨field, reading, is_last, finds⟩
    exact length_of_finds ran (mem_of_lastField is_last).1 finds
  have same_count := (counts found feeds).trans (counts found' feeds').symm
  apply List.ext_getElem (by simpa using same_count)
  intro index below below'
  rw [List.length_map] at below below'
  have is_object := List.getElem?_eq_getElem (counts found feeds ▸ below)
  obtain ⟨members, is_members, -⟩ := isRow_of_many ran is_object
  rw [is_members] at is_object
  have is_row := isRow_of_many ran is_object
  obtain ⟨item, is_item, stays⟩ := rows_stay index members is_object
  obtain ⟨member, listed, read⟩ := exists_member is_row feeds (List.getElem?_eq_getElem below)
  obtain ⟨member', listed', read'⟩ := exists_member is_row feeds' (List.getElem?_eq_getElem below')
  rw [List.getElem_map, List.getElem_map, branch_of_mem is_item (stays member listed _ read),
    branch_of_mem is_item (stays member' listed' _ read')]

theorem exists_staysIn (ran : many url (.object label fields) u = .ok objects)
    (texts : ∀ field ∈ fields, HoldsText field)
    (inside : ∀ found, FeedsRows url u fields found → InItems u found)
    (same : ∀ found found', FeedsRows url u fields found → FeedsRows url u fields found' →
      found.map u.branch = found'.map u.branch)
    (is_object : objects[index]? = some (.object members)) :
    ∃ item ∈ u.children, StaysIn url u fields index members item := by
  have is_row := isRow_of_many ran is_object
  -- There is a member, or else there would be no field, and no row.
  obtain ⟨first, listed⟩ : ∃ first, first ∈ members := by
    cases fields with
    | nil =>
      obtain rfl := Except.ok.inj ran
      cases is_object
    | cons field rest =>
      have has_key := (mem_keys is_row field.key).mpr List.mem_cons_self
      obtain ⟨first, listed, -⟩ := List.mem_map.mp has_key
      exact ⟨first, listed⟩
  obtain ⟨element, read⟩ := exists_readFrom ran texts is_row listed
  obtain ⟨found, feeds, is_element⟩ := read.feedsRows
  obtain ⟨item, is_item, below⟩ := inside found feeds element (List.mem_of_getElem? is_element)
  refine ⟨item, is_item, ?_⟩
  intro member _ element' read'
  obtain ⟨found', feeds', is_element'⟩ := read'.feedsRows
  obtain ⟨item', is_item', below'⟩ :=
    inside found' feeds' element' (List.mem_of_getElem? is_element')
  -- The element has the number of the item, as the one of the first member has.
  have numbers := congrArg (·[index]?) (same found found' feeds feeds')
  simp only [List.getElem?_map, is_element, is_element', Option.map_some, Option.some.injEq]
    at numbers
  apply mem_subtree_of_branch is_item is_item' below'
  rw [← numbers, branch_of_mem is_item below]

/-- Each member of a row is read from an element, and every row keeps to one item of the container
if, and only if, all fields that rows are read from find equally many elements in each item. -/
theorem rows_stay_iff (texts : ∀ field ∈ fields, HoldsText field)
    (inside : ∀ found, FeedsRows url u fields found → InItems u found)
    (ran : many url (.object label fields) u = .ok objects) :
    (∀ index object, objects[index]? = some object → ∃ members, object = .object members ∧
      members.map Prod.fst = (Scheme.object label fields).keys.eraseDups ∧
      ∀ member ∈ members, ∃ element, ReadFrom url u fields index member element) ∧
    ((∀ index members, objects[index]? = some (.object members) →
        ∃ item ∈ u.children, StaysIn url u fields index members item) ↔
      ∀ item ∈ u.children, ∀ found found', FeedsRows url u fields found →
        FeedsRows url u fields found' → countIn item found = countIn item found') := by
  refine ⟨?_, ?_, ?_⟩
  · intro index object is_object
    have is_row := isRow_of_many ran is_object
    obtain ⟨members, rfl, same_keys, -⟩ := id is_row
    exact ⟨members, rfl, same_keys, fun member listed => exists_readFrom ran texts is_row listed⟩
  · intro rows_stay item is_item found found' feeds feeds'
    have same := branches_eq_of_rows_stay ran rows_stay feeds feeds'
    rw [feedsRows_branches_eq_iff feeds feeds' (inside found feeds) (inside found' feeds')] at same
    exact same item is_item
  · intro counts index members is_object
    apply exists_staysIn ran texts inside _ is_object
    intro found found' feeds feeds'
    rw [feedsRows_branches_eq_iff feeds feeds' (inside found feeds) (inside found' feeds')]
    intro item is_item
    exact counts item is_item found found' feeds feeds'

/-! ### A list whose rows stay, and one whose row does not -/

/-- The elements of a tag in a place. -/
def tagged (u : Place) (tag : String) : List Place :=
  u.subtree.filter fun p => p.node.tag? = some tag

theorem inItems_tagged {tag : String} (other : u.node.tag? ≠ some tag) :
    InItems u (tagged u tag) := by
  intro element member
  obtain ⟨below, is_tag⟩ := List.mem_filter.mp member
  rw [subtree_eq, List.mem_cons, List.mem_flatMap] at below
  rcases below with rfl | inside
  · exact absurd (of_decide_eq_true is_tag) other
  · exact inside

def pairFields : List (Field Scheme) :=
  [⟨Text.ofString "a", some (textsOf "li > a")⟩, ⟨Text.ofString "b", some (textsOf "li > b")⟩]

def pair (first second : String) : List (Text × Json) :=
  [(Text.ofString "a", .ofString first), (Text.ofString "b", .ofString second)]

theorem eq_tagged_of_finds
    (selected_a : selectAll [] (some (Text.ofString "li > a")) u = .ok (tagged u "a"))
    (selected_b : selectAll [] (some (Text.ofString "li > b")) u = .ok (tagged u "b"))
    (is_field : field ∈ pairFields) (finds : Finds [] u field reading found) :
    found = tagged u "a" ∨ found = tagged u "b" := by
  obtain ⟨own, path, content, is_value, selected⟩ := finds
  rw [pairFields, List.mem_cons, List.mem_singleton] at is_field
  rcases is_field with rfl | rfl
  · cases is_value
    exact .inl (Except.ok.inj (selected.symm.trans selected_a))
  · cases is_value
    exact .inr (Except.ok.inj (selected.symm.trans selected_b))

/-- An item with two of each, one with nothing, and one with one of each. -/
def pairedItems : Place :=
  ⟨.element "ul" [] [
    .element "li" [] [.element "a" [] [.text "1"], .element "a" [] [.text "2"],
      .element "b" [] [.text "x"], .element "b" [] [.text "y"]],
    .element "li" [] [],
    .element "li" [] [.element "b" [] [.text "z"], .element "a" [] [.text "3"]]], [], [], []⟩

def pairedRows : List Json :=
  [.object (pair "1" "x"), .object (pair "2" "y"), .object (pair "3" "z")]

/-- Items with as many of one sort as of the other make rows that keep to their items. -/
theorem pairedItems_stay :
    (∀ field ∈ pairFields, HoldsText field) ∧
      (∀ found, FeedsRows [] pairedItems pairFields found → InItems pairedItems found) ∧
      many [] (.object {} pairFields) pairedItems = .ok pairedRows ∧
      (∀ index object, pairedRows[index]? = some object → ∃ members, object = .object members ∧
        members.map Prod.fst = (Scheme.object {} pairFields).keys.eraseDups ∧
        ∀ member ∈ members, ∃ element, ReadFrom [] pairedItems pairFields index member element) ∧
      ∀ index members, pairedRows[index]? = some (.object members) →
        ∃ item ∈ pairedItems.children, StaysIn [] pairedItems pairFields index members item := by
  have texts : ∀ field ∈ pairFields, HoldsText field := by
    simp [pairFields, HoldsText, textsOf]
  have either : ∀ found, FeedsRows [] pairedItems pairFields found →
      found = tagged pairedItems "a" ∨ found = tagged pairedItems "b" := by
    rintro found ⟨field, reading, is_last, finds⟩
    exact eq_tagged_of_finds rfl rfl (mem_of_lastField is_last).1 finds
  have inside : ∀ found, FeedsRows [] pairedItems pairFields found →
      InItems pairedItems found := by
    intro found feeds
    rcases either found feeds with rfl | rfl
    · exact inItems_tagged (by decide)
    · exact inItems_tagged (by decide)
  have ran : many [] (.object {} pairFields) pairedItems = .ok pairedRows := rfl
  obtain ⟨each_read, stay_iff⟩ := rows_stay_iff texts inside ran
  have counts : ∀ item ∈ pairedItems.children,
      countIn item (tagged pairedItems "a") = countIn item (tagged pairedItems "b") := by
    decide +kernel
  refine ⟨texts, inside, ran, each_read, stay_iff.mpr ?_⟩
  intro item is_item found found' feeds feeds'
  have same : ∀ places, FeedsRows [] pairedItems pairFields places →
      countIn item places = countIn item (tagged pairedItems "a") := by
    intro places places_feed
    rcases either places places_feed with rfl | rfl
    · rfl
    · exact (counts item is_item).symm
  rw [same found feeds, same found' feeds']

/-- A text whose path leads from child to child and begins with a tag. -/
def ReadsBelow (tag : String) (field : Field Scheme) : Prop :=
  ∃ label steps reading content, (∀ step ∈ ⟨tag, none⟩ :: steps, Path.Step.IsPlain step) ∧
    field.value =
      some (.string label (some (Path.ofSteps (⟨tag, none⟩ :: steps))) reading content)

/-- An item with one sort, and one with the other. -/
def splitItems : Place :=
  ⟨.element "ul" [] [.element "li" [] [.element "a" [] [.text "1"]],
    .element "li" [] [.element "b" [] [.text "2"]]], [], [], []⟩

/-- Two items, each of which lacks what the other one has, make a row of both. -/
theorem splitItems_mixed :
    ¬ ∀ (url : Text) (u : Place) (label : Label) (fields : List (Field Scheme)) (tag : String)
      (objects : List Json), (∀ field ∈ fields, ReadsBelow tag field) →
      (∀ field ∈ fields, ∀ reading found, Finds url u field reading found → ∀ element ∈ found,
        ∃ item ∈ u.children, item.node.tag? = some tag ∧ element ∈ item.subtree) →
      many url (.object label fields) u = .ok objects →
      ∀ index members, objects[index]? = some (.object members) →
        ∃ item ∈ u.children, StaysIn url u fields index members item := by
  intro never_mixed
  have plain : ∀ tag ∈ ["li", "a", "b"], Text.isPlainName tag = true := by decide
  have below : ∀ field ∈ pairFields, ReadsBelow "li" field := by
    rw [pairFields, List.forall_mem_cons, List.forall_mem_singleton]
    exact ⟨⟨{}, [⟨"a", none⟩], .innerHtml, .null, by simp [Path.Step.IsPlain, plain], rfl⟩,
      ⟨{}, [⟨"b", none⟩], .innerHtml, .null, by simp [Path.Step.IsPlain, plain], rfl⟩⟩
  have inside : ∀ field ∈ pairFields, ∀ reading found, Finds [] splitItems field reading found →
      ∀ element ∈ found, ∃ item ∈ splitItems.children,
        item.node.tag? = some "li" ∧ element ∈ item.subtree := by
    intro field is_field reading found finds element member
    have in_items : InItems splitItems found := by
      rcases eq_tagged_of_finds rfl rfl is_field finds with rfl | rfl
      · exact inItems_tagged (by decide)
      · exact inItems_tagged (by decide)
    obtain ⟨item, is_item, lies⟩ := in_items element member
    have tags : ∀ item ∈ splitItems.children, item.node.tag? = some "li" := by decide
    exact ⟨item, is_item, tags item is_item, lies⟩
  obtain ⟨item, is_item, stays⟩ := never_mixed [] splitItems {} pairFields "li"
    [.object (pair "1" "2")] below inside rfl 0 (pair "1" "2") rfl
  have has_first : (splitItems.subtree.getD 2 splitItems) ∈ item.subtree :=
    stays _ (List.mem_of_getElem? (i := 0) rfl) _
      ⟨_, .innerHtml, tagged splitItems "a", rfl, ⟨{}, _, .null, rfl, rfl⟩, rfl, rfl⟩
  have has_second : (splitItems.subtree.getD 5 splitItems) ∈ item.subtree :=
    stays _ (List.mem_of_getElem? (i := 1) rfl) _
      ⟨_, .innerHtml, tagged splitItems "b", rfl, ⟨{}, _, .null, rfl, rfl⟩, rfl, rfl⟩
  -- The elements of the row have different numbers.
  have same := (branch_of_mem is_item has_first).trans (branch_of_mem is_item has_second).symm
  revert same
  decide +kernel

end Extraction
end PageScheme
