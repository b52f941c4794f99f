import Mathlib.Data.List.DropRight
import PageScheme.Path

/-!
# Segments and the normal form of paths

A path can be written in many ways. Splitting always gives segments, which hold no `>` and no blank
at either end, and `split_join` says that joining segments and splitting the path again gives them
back. A rewritten path is settled: it is written as joining writes it, and its first segment is
reduced already. So rewriting a settled path changes it if and only if it shares its first segment
with the path that it is expressed from.
-/
namespace PageScheme

namespace Text

variable {α : Type} {blank : α → Bool}

theorem stripBy_cons_of_blank {x : α} (xs : List α) (is_blank : blank x = true) :
    stripBy blank (x :: xs) = stripBy blank xs := by
  simp [stripBy, is_blank]

theorem stripBy_concat_of_blank {x : α} (xs : List α) (is_blank : blank x = true) :
    stripBy blank (xs ++ [x]) = stripBy blank xs := by
  -- Either everything is blank, or what is left ends in the blank that was added.
  simp only [stripBy, List.dropWhile_append]
  split
  next all_blank =>
    rw [List.isEmpty_iff.mp all_blank]
    simp [is_blank]
  next => simp [is_blank]

/-- What is dropped at the end does not uncover a blank at the front. -/
theorem dropWhile_rdropWhile {xs : List α} (front : xs.dropWhile blank = xs) :
    (xs.rdropWhile blank).dropWhile blank = xs.rdropWhile blank := by
  rw [List.dropWhile_eq_self_iff] at front ⊢
  intro nonempty
  -- What is left is a prefix, so it begins with the same letter.
  rw [(List.rdropWhile_prefix blank xs).getElem nonempty]
  exact front _

theorem dropWhile_stripBy (xs : List α) :
    (stripBy blank xs).dropWhile blank = stripBy blank xs :=
  dropWhile_rdropWhile (List.dropWhile_idempotent blank xs)

theorem stripBy_stripBy (xs : List α) : stripBy blank (stripBy blank xs) = stripBy blank xs := by
  change ((stripBy blank xs).dropWhile blank).rdropWhile blank = _
  rw [dropWhile_stripBy]
  exact List.rdropWhile_idempotent blank _

theorem mem_of_mem_stripBy {x : α} {xs : List α} (member : x ∈ stripBy blank xs) : x ∈ xs := by
  have inner := (List.dropWhile_sublist blank).mem (List.mem_reverse.mp member)
  exact (List.dropWhile_sublist blank).mem (List.mem_reverse.mp inner)

/-- Stripping leaves alone what has no blank at either end. -/
theorem stripBy_eq_self_iff {xs : List α} :
    stripBy blank xs = xs ↔
      (∀ first ∈ xs.head?, blank first = false) ∧ ∀ last ∈ xs.getLast?, blank last = false := by
  have front_iff : xs.dropWhile blank = xs ↔ ∀ first ∈ xs.head?, blank first = false := by
    cases xs <;> simp [List.dropWhile_eq_self_iff]
  have back_iff : xs.rdropWhile blank = xs ↔ ∀ last ∈ xs.getLast?, blank last = false := by
    rw [List.rdropWhile_eq_self_iff]
    constructor
    · intro last_visible last is_last
      obtain ⟨nonempty, rfl⟩ := List.mem_getLast?_eq_getLast is_last
      simpa using last_visible nonempty
    · intro last_visible nonempty
      simp [last_visible _ (List.getLast_mem_getLast? nonempty)]
  rw [← front_iff, ← back_iff]
  constructor
  · intro unchanged
    have front : xs.dropWhile blank = xs := by
      rw [← unchanged]
      exact dropWhile_stripBy xs
    -- With nothing to drop at the front, stripping is dropping at the end.
    rw [stripBy, front] at unchanged
    exact ⟨front, unchanged⟩
  · rintro ⟨front, back⟩
    rw [stripBy, front]
    exact back

theorem stripBy_eq_self {xs : List α} (none_blank : ∀ x ∈ xs, blank x = false) :
    stripBy blank xs = xs :=
  stripBy_eq_self_iff.mpr ⟨fun _ first => none_blank _ (List.mem_of_mem_head? first),
    fun _ last => none_blank _ (List.mem_of_mem_getLast? last)⟩

end Text

namespace Path

/-- A piece of a path as splitting gives it: it holds no `>`, and no blank at either end. -/
def IsSegment (segment : Text) : Prop :=
  .scalar '>' ∉ segment ∧ Text.stripBy isBlank segment = segment

/-! ### Splitting and joining -/

theorem cut_cons_of_ne {letter : Letter} (other : letter ≠ .scalar '>') (rest : Text) :
    cut (letter :: rest) =
      match cut rest with
      | [] => [[letter]]
      | piece :: pieces => (letter :: piece) :: pieces :=
  cut.eq_3 letter rest other

theorem cut_append_bar {front : Text} (clean : .scalar '>' ∉ front) (rest : Text) :
    cut (front ++ .scalar '>' :: rest) = front :: cut rest := by
  -- No letter of the front is a bar, so the first cut is the one behind it.
  induction front with
  | nil => rfl
  | cons letter front ih =>
    have other : letter ≠ .scalar '>' := fun same => clean (by simp [same])
    have tail := ih fun member => clean (List.mem_cons_of_mem _ member)
    rw [List.cons_append, cut_cons_of_ne other, tail]

theorem cut_of_not_mem {path : Text} (clean : .scalar '>' ∉ path) : cut path = [path] := by
  induction path with
  | nil => rfl
  | cons letter rest ih =>
    have other : letter ≠ .scalar '>' := fun same => clean (by simp [same])
    rw [cut_cons_of_ne other, ih fun member => clean (List.mem_cons_of_mem _ member)]

theorem not_mem_of_mem_cut {path piece : Text} (member : piece ∈ cut path) :
    .scalar '>' ∉ piece := by
  induction path generalizing piece with
  | nil => simp_all [cut]
  | cons letter rest ih =>
    -- At a bar a new piece begins; any other letter goes to the first piece of the rest.
    by_cases bar : letter = .scalar '>'
    · subst bar
      rcases List.mem_cons.mp member with rfl | member
      · simp
      · exact ih member
    · rw [cut_cons_of_ne bar] at member
      split at member
      next none_cut => exact absurd none_cut (cut_ne_nil rest)
      next first pieces cut_rest =>
        rcases List.mem_cons.mp member with rfl | member
        · have tail : .scalar '>' ∉ first := ih (by simp [cut_rest])
          simp [Ne.symm bar, tail]
        · exact ih (by simp [cut_rest, member])

theorem isSegment_of_mem_split {path segment : Text} (member : segment ∈ split path) :
    IsSegment segment := by
  obtain ⟨piece, cut_member, rfl⟩ := List.mem_map.mp member
  exact ⟨fun bar => not_mem_of_mem_cut cut_member (Text.mem_of_mem_stripBy bar),
    Text.stripBy_stripBy piece⟩

theorem split_cons_of_blank {letter : Letter} (rest : Text) (is_blank : isBlank letter = true) :
    split (letter :: rest) = split rest := by
  have other : letter ≠ .scalar '>' := by
    rintro rfl
    revert is_blank
    decide
  simp only [split, cut_cons_of_ne other]
  cases cut_rest : cut rest with
  | nil => exact absurd cut_rest (cut_ne_nil rest)
  | cons piece pieces => simp [Text.stripBy_cons_of_blank _ is_blank]

theorem split_append_separator {segment : Text} (is_segment : IsSegment segment) (rest : Text) :
    split (segment ++ (separator ++ rest)) = segment :: split rest := by
  have blank : isBlank (.scalar ' ') = true := by decide
  -- The separator puts a blank on either side of the bar; both are stripped.
  have spaced : segment ++ (separator ++ rest) =
      (segment ++ [.scalar ' ']) ++ .scalar '>' :: .scalar ' ' :: rest := by
    rw [List.append_assoc]
    rfl
  have clean : .scalar '>' ∉ segment ++ [.scalar ' '] := by simpa using is_segment.1
  have split_spaced := split_cons_of_blank rest blank
  rw [spaced, split, cut_append_bar clean, List.map_cons, ← split, split_spaced,
    Text.stripBy_concat_of_blank _ blank, is_segment.2]

theorem join_cons_cons (segment next : Text) (rest : List Text) :
    join (segment :: next :: rest) = segment ++ (separator ++ join (next :: rest)) := by
  simp [join, List.intercalate_cons_cons]

/-- Splitting gives back the segments of a joined path. -/
theorem split_join {segments : List Text} (nonempty : segments ≠ [])
    (clean : ∀ segment ∈ segments, IsSegment segment) : split (join segments) = segments := by
  induction segments with
  | nil => exact absurd rfl nonempty
  | cons segment rest ih =>
    have head := clean segment List.mem_cons_self
    -- A single segment is joined without a separator.
    cases rest with
    | nil => simp [join, split, cut_of_not_mem head.1, head.2]
    | cons next rest =>
      have tail := ih (by simp) fun other member => clean other (List.mem_cons_of_mem _ member)
      rw [join_cons_cons, split_append_separator head, tail]

/-! ### Leading tags -/

theorem isTagChar_iff {c : Char} :
    isTagChar c = true ↔ (48 ≤ c.toNat ∧ c.toNat ≤ 57) ∨ (65 ≤ c.toNat ∧ c.toNat ≤ 90) ∨
      (97 ≤ c.toNat ∧ c.toNat ≤ 122) ∨ c.toNat = 95 ∨ c.toNat = 45 := by
  -- In codes the test is linear arithmetic.
  have low_line : c = '_' ↔ c.toNat = 95 := by
    rw [← Char.toNat_inj]
    rfl
  have hyphen : c = '-' ↔ c.toNat = 45 := by
    rw [← Char.toNat_inj]
    rfl
  have upper : c.isUpper = decide (c.val ≥ 'A'.val ∧ c.val ≤ 'Z'.val) := rfl
  have lower : c.isLower = (decide (c.val ≥ 'a'.val) && decide (c.val ≤ 'z'.val)) := rfl
  have letter : c.isAlpha = (c.isUpper || c.isLower) := rfl
  simp only [isTagChar, Char.isAlphanum, letter, upper, lower, Char.isDigit, Bool.or_eq_true,
    Bool.and_eq_true, decide_eq_true_eq, beq_iff_eq, ge_iff_le, UInt32.le_iff_toNat_le, low_line,
    hyphen]
  change ((((65 ≤ c.toNat ∧ c.toNat ≤ 90) ∨ (97 ≤ c.toNat ∧ c.toNat ≤ 122)) ∨
    (48 ≤ c.toNat ∧ c.toNat ≤ 57)) ∨ c.toNat = 95) ∨ c.toNat = 45 ↔ _
  omega

theorem isBlank_of_isTagChar {c : Char} (tag_char : isTagChar c = true) :
    isBlank (.scalar c) = false := by
  have range := isTagChar_iff.mp tag_char
  simp only [isBlank, Letter.char?, Option.any_some, Text.isBlank, Bool.or_eq_false_iff,
    Bool.and_eq_false_iff, decide_eq_false_iff_not, beq_eq_false_iff_ne]
  omega

abbrev isTagLetter (letter : Letter) : Bool := letter.char?.any isTagChar

theorem leadingTag_of_takeWhile {segment tag : Text}
    (front : segment.takeWhile isTagLetter = tag) (nonempty : tag ≠ []) :
    leadingTag segment = tag := by
  subst front
  unfold leadingTag
  split
  next none_taken => exact absurd none_taken nonempty
  next => rfl

theorem leadingTag_of_takeWhile_nil {segment : Text}
    (front : segment.takeWhile isTagLetter = []) : leadingTag segment = segment := by
  unfold leadingTag
  split
  next => rfl
  next found => exact absurd front found

theorem leadingTag_leadingTag (segment : Text) :
    leadingTag (leadingTag segment) = leadingTag segment := by
  -- A segment that begins with no tag is left alone both times.
  by_cases front : segment.takeWhile isTagLetter = []
  · rw [leadingTag_of_takeWhile_nil front, leadingTag_of_takeWhile_nil front]
  · rw [leadingTag_of_takeWhile rfl front]
    exact leadingTag_of_takeWhile List.takeWhile_idem front

theorem isBlank_of_isTagLetter {letter : Letter} (tag_letter : isTagLetter letter = true) :
    isBlank letter = false := by
  cases letter with
  | scalar c => exact isBlank_of_isTagChar (by simpa [isTagLetter, Letter.char?] using tag_letter)
  | lone half => rfl

theorem isSegment_of_isTagLetter {segment : Text}
    (tag_letters : ∀ letter ∈ segment, isTagLetter letter = true) : IsSegment segment := by
  refine ⟨fun bar => ?_, Text.stripBy_eq_self fun letter member => ?_⟩
  · have tag_letter := tag_letters _ bar
    revert tag_letter
    decide
  · exact isBlank_of_isTagLetter (tag_letters letter member)

theorem isSegment_leadingTag {segment : Text} (is_segment : IsSegment segment) :
    IsSegment (leadingTag segment) := by
  by_cases front : segment.takeWhile isTagLetter = []
  · rw [leadingTag_of_takeWhile_nil front]
    exact is_segment
  · rw [leadingTag_of_takeWhile rfl front]
    exact isSegment_of_isTagLetter fun letter member => List.mem_takeWhile_imp member

/-! ### Settled paths -/

/-- A path as rewriting leaves it: it is written as joining writes it, and its first segment is
reduced. -/
structure Settled (path : Text) : Prop where
  joined : join (split path) = path
  reduced : reduceHead (split path) = split path

/-- The segments that are left of a path when it is expressed from another one. -/
def remaining (child parent : Text) : List Text :=
  let segments := split child
  reduceHead (segments.drop (sharedLength (split parent) segments))

theorem relativeTo_eq_join (child parent : Text) :
    relativeTo child parent = join (remaining child parent) := rfl

theorem length_reduceHead (segments : List Text) :
    (reduceHead segments).length = segments.length := by
  cases segments <;> rfl

theorem reduceHead_reduceHead (segments : List Text) :
    reduceHead (reduceHead segments) = reduceHead segments := by
  cases segments <;> simp [reduceHead, leadingTag_leadingTag]

theorem isSegment_of_mem_reduceHead {segments : List Text}
    (clean : ∀ segment ∈ segments, IsSegment segment) :
    ∀ segment ∈ reduceHead segments, IsSegment segment := by
  cases segments with
  | nil => simp [reduceHead]
  | cons first rest =>
    intro segment member
    rcases List.mem_cons.mp member with rfl | member
    · exact isSegment_leadingTag (clean first List.mem_cons_self)
    · exact clean segment (List.mem_cons_of_mem _ member)

theorem isSegment_of_mem_remaining {child parent segment : Text}
    (member : segment ∈ remaining child parent) : IsSegment segment :=
  isSegment_of_mem_reduceHead
    (fun _ inner => isSegment_of_mem_split (List.mem_of_mem_drop inner)) segment member

/-- Splitting a rewritten path gives its segments, unless nothing is left of it. -/
theorem split_relativeTo {child parent : Text} (left : remaining child parent ≠ []) :
    split (relativeTo child parent) = remaining child parent :=
  split_join left fun _ member => isSegment_of_mem_remaining member

/-- A rewritten path is settled. -/
theorem settled_relativeTo (child parent : Text) : Settled (relativeTo child parent) := by
  -- Where no segment is left, the path is empty, and that is settled.
  by_cases left : remaining child parent = []
  · rw [relativeTo_eq_join, left]
    exact ⟨rfl, rfl⟩
  · have segments := split_relativeTo left
    exact ⟨by rw [segments]; rfl, by rw [segments]; exact reduceHead_reduceHead _⟩

theorem sharedLength_eq_zero_iff {lefts rights : List Text} (left_some : lefts ≠ [])
    (right_some : rights ≠ []) : sharedLength lefts rights = 0 ↔ rights.head? ≠ lefts.head? := by
  obtain ⟨left, lefts, rfl⟩ := List.exists_cons_of_ne_nil left_some
  obtain ⟨right, rights, rfl⟩ := List.exists_cons_of_ne_nil right_some
  by_cases same : left = right
  · simp [sharedLength, same]
  · simp [sharedLength, same, Ne.symm same]

/-- Rewriting a settled path from a path that begins with another segment changes nothing; from one
that begins with the same segment, it takes at least that segment away. -/
theorem relativeTo_eq_self_iff {own : Text} (settled : Settled own) (nonempty : own ≠ [])
    (parent : Text) :
    relativeTo own parent = own ↔ (split own).head? ≠ (split parent).head? := by
  rw [← sharedLength_eq_zero_iff (split_ne_nil parent) (split_ne_nil own)]
  constructor
  · intro unchanged
    -- If nothing were left, the path would have become empty.
    have left : remaining own parent ≠ [] := by
      intro none_left
      rw [relativeTo_eq_join, none_left] at unchanged
      exact nonempty unchanged.symm
    have segments := split_relativeTo left
    rw [unchanged] at segments
    -- As many segments are left as there were, so none has been dropped.
    have length := congrArg List.length segments
    have positive := List.length_pos_of_ne_nil (split_ne_nil own)
    simp only [remaining, length_reduceHead, List.length_drop] at length
    omega
  · intro none_shared
    rw [relativeTo_eq_join, remaining, none_shared, List.drop_zero, settled.reduced, settled.joined]

/-- Joining and splitting undo each other exactly on clean segments: what splitting gives back are
the lists of at least one segment, each without a `>` in it and without a blank at either end. All
that splitting gives is of this kind, and rewritten paths are written as joining writes them. -/
theorem split_join_eq_self_iff :
    (∀ segments : List Text, split (join segments) = segments ↔
      segments ≠ [] ∧ ∀ segment ∈ segments, .scalar '>' ∉ segment ∧
        (∀ first ∈ segment.head?, isBlank first = false) ∧
          ∀ last ∈ segment.getLast?, isBlank last = false) ∧
    (∀ path, split (join (split path)) = split path) ∧
    ∀ child parent, join (split (relativeTo child parent)) = relativeTo child parent := by
  refine ⟨?_, ?_, ?_⟩
  · intro segments
    simp only [← Text.stripBy_eq_self_iff]
    constructor
    · intro given_back
      rw [← given_back]
      exact ⟨split_ne_nil _, fun segment member => isSegment_of_mem_split member⟩
    · rintro ⟨nonempty, clean⟩
      exact split_join nonempty clean
  · intro path
    exact split_join (split_ne_nil path) fun segment member => isSegment_of_mem_split member
  · intro child parent
    exact (settled_relativeTo child parent).joined

end Path
end PageScheme
