import PageScheme.Proofs.Path.Segments
import PageScheme.Proofs.Text.Plain

/-!
# Steps

A step is what a segment of a structural path says of its element: the tag, and the position among
the siblings of the same tag where there are any. A path that is written from steps can be split
into them again, and is expressed from another one by leaving out the steps that it starts with.
-/
namespace PageScheme.Path

/-- The tag of an element, and its position among its siblings of the same tag, if it has any. -/
structure Step where
  tag : String
  position : Option Nat
  deriving DecidableEq, Repr

namespace Step

def chars (step : Step) : List Char :=
  match step.position with
  | none => step.tag.toList
  | some n => step.tag.toList ++ (":nth-of-type(".toList ++ (Nat.toDigits 10 n ++ [')']))

def text (step : Step) : Text := step.chars.map .scalar

/-- A step without its position. -/
def reduced (step : Step) : Step := ⟨step.tag, none⟩

variable {step : Step}

theorem text_of_none (tag : String) : text ⟨tag, none⟩ = Text.ofString tag := rfl

theorem text_of_some (tag : String) (n : Nat) :
    text ⟨tag, some n⟩ = ordinal (Text.ofString tag) n := by
  simp [text, chars, ordinal, Text.ofString, Int.repr]

def IsPlain (step : Step) : Prop := Text.isPlainName step.tag = true

theorem isTagChar_of_isPlain {c : Char} (plain : Text.isPlain c = true) : isTagChar c = true :=
  Text.of_isPlain (motive := fun c => isTagChar c = true) plain (by decide)

/-- The characters of a step are those of tags, and the punctuation of a position. -/
theorem isTagChar_or_of_mem_chars (plain : step.IsPlain) {c : Char} (member : c ∈ step.chars) :
    isTagChar c = true ∨ c ∈ [':', '(', ')'] := by
  have tag_plain := fun c member => isTagChar_of_isPlain (Text.isPlain_of_mem plain (c := c) member)
  -- With a position there are four pieces: the tag, the name, the numeral, the closing.
  unfold chars at member
  split at member
  · exact .inl (tag_plain c member)
  · rcases List.mem_append.mp member with in_tag | member
    · exact .inl (tag_plain c in_tag)
    rcases List.mem_append.mp member with in_name | member
    · have known : ":nth-of-type(".toList.all (fun c => isTagChar c || [':', '(', ')'].contains c) =
        true := rfl
      simpa using List.all_eq_true.mp known c in_name
    rcases List.mem_append.mp member with digit | closing
    · have is_digit := Text.isDigit_of_mem_numeral digit
      exact .inl (isTagChar_of_isPlain (Text.isPlain_of_isDigit is_digit))
    · simp_all

theorem isSegment_text (plain : step.IsPlain) : IsSegment step.text := by
  -- Neither a letter of a tag nor the punctuation is a bar or a blank.
  constructor
  · intro bar
    obtain ⟨c, member, same⟩ := List.mem_map.mp bar
    obtain rfl := Letter.scalar.inj same
    have known := isTagChar_or_of_mem_chars plain member
    revert known
    decide
  · apply Text.stripBy_eq_self
    intro letter member
    obtain ⟨c, char_member, rfl⟩ := List.mem_map.mp member
    rcases isTagChar_or_of_mem_chars plain char_member with tag_char | punctuation
    · exact isBlank_of_isTagChar tag_char
    · simp only [List.mem_cons, List.not_mem_nil, or_false] at punctuation
      rcases punctuation with rfl | rfl | rfl <;> decide

/-- Reducing a segment leaves out the position. -/
theorem leadingTag_text (plain : step.IsPlain) : leadingTag step.text = step.reduced.text := by
  have tag_letters : ∀ letter ∈ step.reduced.text, isTagLetter letter = true := by
    intro letter member
    obtain ⟨c, in_tag, rfl⟩ := List.mem_map.mp member
    exact isTagChar_of_isPlain (Text.isPlain_of_mem plain in_tag)
  have front : step.text.takeWhile isTagLetter = step.reduced.text := by
    obtain ⟨tag, _ | n⟩ := step
    · exact List.takeWhile_eq_self_iff.mpr tag_letters
    · rw [text_of_some, ordinal]
      -- The colon behind the tag is no letter of a tag.
      apply Text.takeWhile_append_of_boundary tag_letters
      intro letter is_colon
      obtain rfl : letter = .scalar ':' := by
        simpa [Text.ofString, eq_comm] using is_colon
      decide
  apply leadingTag_of_takeWhile front
  obtain ⟨c, rest, tag_eq, -⟩ := Text.isPlainName_iff.mp plain
  simp [text_of_none, reduced, Text.ofString, tag_eq]

end Step

/-! ### Paths of steps -/

def ofSteps (steps : List Step) : Text := join (steps.map Step.text)

def charsOf (steps : List Step) : List Char := " > ".toList.intercalate (steps.map Step.chars)

theorem charsOf_cons_cons (step next : Step) (rest : List Step) :
    charsOf (step :: next :: rest) =
      step.chars ++ (' ' :: '>' :: ' ' :: charsOf (next :: rest)) := by
  simp [charsOf, List.intercalate_cons_cons]

theorem ofSteps_eq_map (steps : List Step) : ofSteps steps = (charsOf steps).map .scalar := by
  induction steps with
  | nil => rfl
  | cons step rest ih =>
    -- The separator stands between two steps only.
    cases rest with
    | nil => simp [ofSteps, charsOf, join, Step.text]
    | cons next rest =>
      rw [charsOf_cons_cons, ofSteps, List.map_cons, List.map_cons, join_cons_cons, ← List.map_cons,
        ← ofSteps, ih]
      simp [Step.text, separator, Text.ofString]

theorem ofSteps_ne_nil {step : Step} (plain : step.IsPlain) (rest : List Step) :
    ofSteps (step :: rest) ≠ [] := by
  obtain ⟨c, front, tag_eq, -⟩ := Text.isPlainName_iff.mp plain
  have chars_some : step.chars ≠ [] := by
    unfold Step.chars
    split <;> simp [tag_eq]
  rw [ofSteps_eq_map, Ne, List.map_eq_nil_iff]
  cases rest with
  | nil => simpa [charsOf] using chars_some
  | cons next rest => simp [charsOf_cons_cons]

/-- As a selector, a path of steps is read as it is written. -/
theorem markedBroken_ofSteps (steps : List Step) :
    (ofSteps steps).markedBroken = String.ofList (charsOf steps) := by
  rw [ofSteps_eq_map, Text.markedBroken, List.map_map]
  exact congrArg String.ofList (List.map_id _)

theorem split_ofSteps {steps : List Step} (nonempty : steps ≠ [])
    (plain : ∀ step ∈ steps, step.IsPlain) : split (ofSteps steps) = steps.map Step.text := by
  apply split_join (by simpa using nonempty)
  intro segment member
  obtain ⟨step, step_member, rfl⟩ := List.mem_map.mp member
  exact Step.isSegment_text (plain step step_member)

theorem sharedLength_append (front back : List Text) :
    sharedLength front (front ++ back) = front.length := by
  induction front with
  | nil => cases back <;> rfl
  | cons segment front ih => simp [sharedLength, ih]

def reduceFirst : List Step → List Step
  | [] => []
  | step :: rest => step.reduced :: rest

/-- A path is expressed from one that it goes on from by the steps that it has in addition, the
first of them without its position. -/
theorem relativeTo_ofSteps {front back : List Step} (nonempty : front ≠ [])
    (plain : ∀ step ∈ front ++ back, step.IsPlain) :
    relativeTo (ofSteps (front ++ back)) (ofSteps front) = ofSteps (reduceFirst back) := by
  -- The shared segments are exactly the steps of the front, and dropping them leaves those behind.
  have split_front : split (ofSteps front) = front.map Step.text :=
    split_ofSteps nonempty fun step member => plain step (List.mem_append_left _ member)
  have split_own : split (ofSteps (front ++ back)) = front.map Step.text ++ back.map Step.text := by
    rw [split_ofSteps (by simp [nonempty]) plain, List.map_append]
  rw [relativeTo_eq_join, remaining, split_front, split_own, sharedLength_append, List.drop_left,
    ofSteps]
  cases back with
  | nil => rfl
  | cons step rest =>
    have head := Step.leadingTag_text (plain step (by simp))
    rw [List.map_cons, reduceHead, head]
    rfl

end PageScheme.Path
