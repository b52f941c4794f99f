import PageScheme.Json.TextReader
import PageScheme.Proofs.Json.Content
import PageScheme.Proofs.Sequencing

/-!
# How deep a value goes

Containers lie in each other, and so do all values. `depth` counts the containers on the longest way
into a value and `levels` the values, those that hold no others included. Both are a `height`, and
differ in what a value counts that is no container.

Main result: what is read where so many containers may be opened is no deeper than that
(`depth_le_of_readDecoded`).
-/
namespace PageScheme.Json

mutual

/-- The length of the longest way into a value, where what is no container counts for `plain`. -/
def height (plain : Nat) : Json → Nat
  | array items => heightOfItems plain items + 1
  | object members => heightOfMembers plain members + 1
  | _ => plain
termination_by structural value => value

def heightOfItems (plain : Nat) : List Json → Nat
  | [] => 0
  | item :: rest => max (item.height plain) (heightOfItems plain rest)
termination_by structural items => items

def heightOfMembers (plain : Nat) : List (Text × Json) → Nat
  | [] => 0
  | (_, value) :: rest => max (value.height plain) (heightOfMembers plain rest)
termination_by structural members => members

end

/-- How many containers lie in each other. -/
abbrev depth (value : Json) : Nat := value.height 0

/-- How many values lie in each other, the whole one included. -/
abbrev levels (value : Json) : Nat := value.height 1

section Height
variable {plain room : Nat}

theorem heightOfItems_le {items : List Json} :
    heightOfItems plain items ≤ room ↔ ∀ item ∈ items, item.height plain ≤ room := by
  induction items with
  | nil => simp [heightOfItems]
  | cons item rest ih => rw [heightOfItems, Nat.max_le, ih, List.forall_mem_cons]

theorem heightOfMembers_le {members : List (Text × Json)} :
    heightOfMembers plain members ≤ room ↔ ∀ member ∈ members, member.2.height plain ≤ room := by
  induction members with
  | nil => simp [heightOfMembers]
  | cons member rest ih => rw [heightOfMembers, Nat.max_le, ih, List.forall_mem_cons]

/-- A container takes one level, and its items have what is left. -/
theorem height_array_le {items : List Json} :
    (array items).height plain ≤ room + 1 ↔ ∀ item ∈ items, item.height plain ≤ room := by
  rw [height, Nat.add_le_add_iff_right, heightOfItems_le]

theorem height_object_le {members : List (Text × Json)} :
    (object members).height plain ≤ room + 1 ↔
      ∀ member ∈ members, member.2.height plain ≤ room := by
  rw [height, Nat.add_le_add_iff_right, heightOfMembers_le]

theorem levels_pos (value : Json) : 0 < value.levels := by
  cases value <;> simp [levels, height]

end Height

/-- Null within arrays, one in the other. -/
def nested : Nat → Json
  | 0 => null
  | count + 1 => array [nested count]

section Nested
variable (count : Nat)

theorem height_nested (plain : Nat) : (nested count).height plain = count + plain := by
  induction count with
  | zero => exact (Nat.zero_add plain).symm
  | succ count ih => simp [nested, height, heightOfItems, ih, Nat.add_right_comm]

theorem levels_nested : (nested count).levels = count + 1 := height_nested count 1

theorem isFinite_nested : (nested count).IsFinite := by
  induction count with
  | zero => exact .null
  | succ count ih => exact .array (by simpa using ih)

theorem keysWellFormed_nested : (nested count).KeysWellFormed := by
  induction count with
  | zero => exact .null
  | succ count ih => exact .array (by simpa using ih)

end Nested

namespace TextReader

variable {fuel room : Nat} {t rest : Text} {value : Json}

theorem depth_words : ∀ word ∈ words, word.2.depth = 0 := by
  simp [words, depth, height]

theorem depth_of_takeWord (taken : takeWord t = some (value, rest)) : value.depth = 0 := by
  obtain ⟨⟨word, found⟩, listed, is_taken⟩ := List.exists_of_findSome?_eq_some taken
  obtain ⟨after, -, same⟩ := Option.map_eq_some_iff.mp is_taken
  cases same
  exact depth_words _ listed

theorem depth_of_readNumber (read : readNumber t = .ok (value, rest)) : value.depth = 0 := by
  unfold readNumber at read
  split at read
  next => cases read
  next numeral after _ =>
    split at read
    next => cases read
    next =>
      cases read
      unfold Numeral.value
      split <;> rfl

/-- Setting a member makes an object no deeper than its old members and the new one. -/
theorem depth_le_of_mem_put (key : Text) {done : List (Text × Json)}
    (each : ∀ member ∈ done, member.2.depth ≤ room) (small : value.depth ≤ room) :
    ∀ member ∈ put key value done, member.2.depth ≤ room := by
  induction done with
  | nil => simpa [put] using small
  | cons member done ih =>
    obtain ⟨here, each_rest⟩ := List.forall_mem_cons.mp each
    rw [put]
    split
    next => exact List.forall_mem_cons.mpr ⟨small, each_rest⟩
    next => exact List.forall_mem_cons.mpr ⟨here, ih each_rest⟩

/-- What is read with some fuel is no deeper than there is room for, and what has been read of a
container before does not change that. -/
structure ReadsWithin (fuel : Nat) : Prop where
  value : ∀ {room t value rest}, readValue fuel room t = .ok (value, rest) → value.depth ≤ room
  items : ∀ {room done t value rest}, (∀ item ∈ done, item.depth ≤ room) →
    readItems fuel room done t = .ok (value, rest) → value.depth ≤ room + 1
  members : ∀ {room done t value rest}, (∀ member ∈ done, member.2.depth ≤ room) →
    readMembers fuel room done t = .ok (value, rest) → value.depth ≤ room + 1

section Step
variable (within : ReadsWithin fuel)
include within

theorem depth_le_of_readValue_succ (read : readValue (fuel + 1) room t = .ok (value, rest)) :
    value.depth ≤ room := by
  unfold readValue at read
  split at read
  next =>
    obtain ⟨⟨content, after⟩, -, same⟩ := bind_eq_ok.mp read
    cases same
    exact Nat.zero_le room
  next =>
    split at read
    next => cases read
    next room =>
      split at read
      next =>
        cases read
        exact height_array_le.mpr (by simp)
      next => exact within.items (by simp) read
  next =>
    split at read
    next => cases read
    next room =>
      split at read
      next =>
        cases read
        exact height_object_le.mpr (by simp)
      next => exact within.members (by simp) read
  next =>
    split at read
    next taken =>
      cases read
      rw [depth_of_takeWord taken]
      exact Nat.zero_le room
    next =>
      rw [depth_of_readNumber read]
      exact Nat.zero_le room

theorem depth_le_of_readItems_succ {done : List Json} (each : ∀ item ∈ done, item.depth ≤ room)
    (read : readItems (fuel + 1) room done t = .ok (value, rest)) : value.depth ≤ room + 1 := by
  rw [readItems] at read
  obtain ⟨⟨item, after⟩, item_read, read⟩ := bind_eq_ok.mp read
  have each_so_far : ∀ other ∈ item :: done, other.depth ≤ room :=
    List.forall_mem_cons.mpr ⟨within.value item_read, each⟩
  simp only at read
  split at read
  next =>
    cases read
    rw [height_array_le]
    intro item listed
    exact each_so_far item (List.mem_reverse.mp listed)
  next => exact within.items each_so_far read
  next => cases read

theorem depth_le_of_readMembers_succ {done : List (Text × Json)}
    (each : ∀ member ∈ done, member.2.depth ≤ room)
    (read : readMembers (fuel + 1) room done t = .ok (value, rest)) : value.depth ≤ room + 1 := by
  unfold readMembers at read
  split at read
  next =>
    obtain ⟨⟨key, after⟩, -, read⟩ := bind_eq_ok.mp read
    simp only at read
    split at read
    next =>
      obtain ⟨⟨member, behind⟩, member_read, read⟩ := bind_eq_ok.mp read
      have each_so_far := depth_le_of_mem_put key each (within.value member_read)
      simp only at read
      split at read
      next =>
        cases read
        exact height_object_le.mpr each_so_far
      next => exact within.members each_so_far read
      next => cases read
    next => cases read
  next => cases read

end Step

theorem readsWithin (fuel : Nat) : ReadsWithin fuel := by
  induction fuel with
  | zero => exact ⟨nofun, nofun, nofun⟩
  | succ fuel within =>
    exact ⟨depth_le_of_readValue_succ within, depth_le_of_readItems_succ within,
      depth_le_of_readMembers_succ within⟩

end TextReader

/-- What is read is no deeper than there was room for. -/
theorem depth_le_of_readDecoded {room : Nat} {document : Text} {value : Json}
    (read : readDecoded room document = .ok value) : value.depth ≤ room := by
  obtain ⟨⟨found, rest⟩, is_read, done⟩ := bind_eq_ok.mp read
  simp only at done
  split at done
  next =>
    cases done
    exact (TextReader.readsWithin _).value is_read
  next => cases done

end PageScheme.Json
