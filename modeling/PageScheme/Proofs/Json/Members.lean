import Mathlib.Data.List.Induction
import Mathlib.Data.List.Nodup
import PageScheme.Proofs.Json.Content

/-!
# Members set one after the other

An object is built by setting keys one after the other (`putAll`). Its keys are then the distinct
ones, each where it first came, and it holds for each key what was set last. Both together say what
the object is (`putAll_eq`).
-/
namespace PageScheme.Json

variable {α : Type} {key : Text} {value : α} {members : List (Text × α)}

theorem putAll_concat (members : List (Text × α)) (key : Text) (value : α) :
    putAll (members ++ [(key, value)]) = put key value (putAll members) := by
  simp [putAll]

/-! ### Keys -/

theorem keys_put (key : Text) (value : α) (members : List (Text × α)) :
    (put key value members).map Prod.fst =
      if key ∈ members.map Prod.fst then members.map Prod.fst
      else members.map Prod.fst ++ [key] := by
  induction members with
  | nil => rfl
  | cons member rest ih =>
    obtain ⟨first, old⟩ := member
    by_cases same : first = key
    · simp [put, same]
    · simp only [put, if_neg same, List.map_cons, ih, List.mem_cons, Ne.symm same, false_or]
      split <;> rfl

/-- The keys of an object are those that were set, without repetitions, in the order in which they
first came. -/
theorem keys_putAll (members : List (Text × α)) :
    (putAll members).map Prod.fst = (members.map Prod.fst).eraseDups := by
  induction members using List.reverseRecOn with
  | nil => rfl
  | append_singleton members member ih =>
    obtain ⟨key, value⟩ := member
    rw [putAll_concat, keys_put, ih, List.map_append, List.eraseDups_append]
    by_cases before : key ∈ members.map Prod.fst
    · simp [before, List.removeAll]
    · simp [before, List.removeAll, List.eraseDups_cons]

theorem nodup_eraseDups (keys : List Text) : keys.eraseDups.Nodup := by
  induction keys using List.reverseRecOn with
  | nil => exact List.nodup_nil
  | append_singleton keys key ih =>
    rw [List.eraseDups_append]
    by_cases before : key ∈ keys
    · simpa [before, List.removeAll] using ih
    · have fresh : ∀ other ∈ keys, other ≠ key := by
        rintro other member rfl
        exact before member
      simpa [before, List.removeAll, List.eraseDups_cons, List.nodup_append] using ⟨ih, fresh⟩

theorem nodup_keys_putAll (members : List (Text × α)) :
    ((putAll members).map Prod.fst).Nodup := by
  rw [keys_putAll]
  exact nodup_eraseDups _

/-! ### Values -/

/-- An object holds for a key what was set for it last. -/
theorem lookup_putAll (key : Text) (members : List (Text × α)) :
    lookup key (putAll members) = lookup key members.reverse := by
  induction members using List.reverseRecOn with
  | nil => rfl
  | append_singleton members member ih =>
    obtain ⟨last, value⟩ := member
    rw [putAll_concat, List.reverse_concat, lookup]
    by_cases same : last = key
    · rw [if_pos same, same, lookup_put_self]
    · rw [if_neg same, lookup_put_of_ne _ _ (Ne.symm same), ih]

/-- Where no key comes twice, a member is what is held for its key. -/
theorem lookup_of_mem (distinct : (members.map Prod.fst).Nodup) (listed : (key, value) ∈ members) :
    lookup key members = some value := by
  induction members with
  | nil => cases listed
  | cons member rest ih =>
    obtain ⟨first, old⟩ := member
    obtain ⟨fresh, distinct_rest⟩ := List.nodup_cons.mp distinct
    rcases List.mem_cons.mp listed with same | later
    · cases same
      exact if_pos rfl
    · have different : first ≠ key := by
        rintro rfl
        exact fresh (List.mem_map.mpr ⟨_, later, rfl⟩)
      rw [lookup, if_neg different]
      exact ih distinct_rest later

/-- Members with the same distinct keys that hold the same values are the same. -/
theorem members_ext {front back : List (Text × α)}
    (keys : front.map Prod.fst = back.map Prod.fst) (distinct : (back.map Prod.fst).Nodup)
    (same : ∀ member ∈ back, lookup member.1 front = some member.2) : front = back := by
  induction back generalizing front with
  | nil => exact List.map_eq_nil_iff.mp keys
  | cons member rest ih =>
    obtain ⟨⟨key, value⟩, others, rfl, rfl, keys_rest⟩ := List.map_eq_cons_iff.mp keys
    obtain ⟨fresh, distinct_rest⟩ := List.nodup_cons.mp distinct
    obtain ⟨here, rest_same⟩ := List.forall_mem_cons.mp same
    have head : (member.1, value) = member := by
      rw [lookup, if_pos rfl] at here
      exact Prod.ext rfl (Option.some_inj.mp here)
    have tail : others = rest := by
      apply ih keys_rest distinct_rest
      intro later listed
      have different : member.1 ≠ later.1 := by
        intro equal
        exact fresh (equal ▸ List.mem_map_of_mem listed)
      have held := rest_same later listed
      rwa [lookup, if_neg different] at held
    rw [head, tail]

/-- What an object is: its keys are the distinct ones in the order in which they first came, and it
holds what was set last for each of them. -/
theorem putAll_eq {set : List (Text × α)}
    (keys : members.map Prod.fst = (set.map Prod.fst).eraseDups)
    (last : ∀ member ∈ members, lookup member.1 set.reverse = some member.2) :
    putAll set = members := by
  have same_keys : (putAll set).map Prod.fst = members.map Prod.fst := by
    rw [keys_putAll, keys]
  apply members_ext same_keys
  · rw [← same_keys]
    exact nodup_keys_putAll set
  · intro member listed
    rw [lookup_putAll]
    exact last member listed

end PageScheme.Json
