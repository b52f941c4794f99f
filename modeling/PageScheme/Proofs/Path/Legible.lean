import PageScheme.Proofs.Path.Step

/-!
# Segments that can be told from their text

A segment of a path is a tag, alone or with a position. Which of the two it is, what tag it names
and what position it says can all be told from its text, if the tag does not hold the mark that
opens a position.
-/
namespace PageScheme

/-- A tag that can stand in a path: it has no blank at either end, and holds neither the mark
between segments nor the one that opens a position. -/
structure Legible (tag : String) : Prop where
  nonempty : tag ≠ ""
  is_segment : Path.IsSegment (Text.ofString tag)
  unopened : '(' ∉ tag.toList

namespace Path.Step

theorem chars_eq_of_text_eq {step other : Step} (same : step.text = other.text) :
    step.chars = other.chars :=
  List.map_injective_iff.mpr (fun _ _ => Letter.scalar.inj) same

theorem chars_of_some (tag : String) (n : Nat) :
    chars ⟨tag, some n⟩ =
      (tag.toList ++ ":nth-of-type".toList) ++ '(' :: (Nat.toDigits 10 n ++ [')']) := by
  simp [chars]

theorem not_mem_numeral {c : Char} (other : c.isDigit = false) (n : Nat) :
    c ∉ Nat.toDigits 10 n := by
  intro member
  rw [Text.isDigit_of_mem_numeral member] at other
  contradiction

theorem opening_not_mem_numeral (n : Nat) : '(' ∉ Nat.toDigits 10 n ++ [')'] := by
  simp [not_mem_numeral (c := '(') rfl]

/-- A segment with a position is no bare one. -/
theorem text_none_ne_some {tag other : String} (unopened : '(' ∉ tag.toList) (n : Nat) :
    text ⟨tag, none⟩ ≠ text ⟨other, some n⟩ := by
  intro same
  apply unopened
  have chars_eq : tag.toList = chars ⟨other, some n⟩ := chars_eq_of_text_eq same
  rw [chars_eq, chars_of_some]
  simp

/-- Tag and position can be told from a segment. -/
theorem text_some_inj {tag other : String} {n m : Nat} (unopened : '(' ∉ tag.toList)
    (same : text ⟨tag, some n⟩ = text ⟨other, some m⟩) : tag = other ∧ n = m := by
  have chars_eq := chars_eq_of_text_eq same
  rw [chars_of_some, chars_of_some, List.append_cons_inj_of_notMem
    (by simp [unopened]) (opening_not_mem_numeral n)] at chars_eq
  obtain ⟨tags, -, numerals⟩ := chars_eq
  have digits : Nat.toDigits 10 n = Nat.toDigits 10 m := List.append_cancel_right numerals
  refine ⟨String.toList_injective (List.append_cancel_right tags), ?_⟩
  calc
    n = Nat.ofDigitChars 10 (Nat.toDigits 10 n) 0 := Nat.ofDigitChars_ten_toDigits.symm
    _ = Nat.ofDigitChars 10 (Nat.toDigits 10 m) 0 := by rw [digits]
    _ = m := Nat.ofDigitChars_ten_toDigits

/-- What a position adds to a segment holds no mark between segments. -/
theorem bar_not_mem_position (n : Nat) :
    '>' ∉ ":nth-of-type".toList ++ '(' :: (Nat.toDigits 10 n ++ [')']) := by
  simp [not_mem_numeral (c := '>') rfl]

theorem isSegment_text_of_legible {step : Step} (legible : Legible step.tag) :
    IsSegment step.text := by
  obtain ⟨tag, _ | n⟩ := step
  · exact legible.is_segment
  obtain ⟨clean, stripped⟩ := legible.is_segment
  have text_eq : text ⟨tag, some n⟩ = Text.ofString tag ++
      (":nth-of-type".toList ++ '(' :: (Nat.toDigits 10 n ++ [')'])).map .scalar := by
    rw [text, chars_of_some, List.append_assoc, List.map_append]
    rfl
  constructor
  · rw [text_eq, List.mem_append]
    rintro (in_tag | in_position)
    · exact clean in_tag
    · obtain ⟨c, member, same⟩ := List.mem_map.mp in_position
      obtain rfl := Letter.scalar.inj same
      exact bar_not_mem_position n member
  · -- In front the tag decides, and at the end there is a bracket.
    have front : (text ⟨tag, some n⟩).dropWhile isBlank = text ⟨tag, some n⟩ := by
      have some_letter : Text.ofString tag ≠ [] := by simpa [Text.ofString] using legible.nonempty
      have tag_front : (Text.ofString tag).dropWhile isBlank = Text.ofString tag := by
        rw [← stripped]
        exact Text.dropWhile_stripBy _
      rw [text_eq, List.dropWhile_append, tag_front, if_neg (by simpa using some_letter)]
    have back : (text ⟨tag, some n⟩).rdropWhile isBlank = text ⟨tag, some n⟩ := by
      have closing : text ⟨tag, some n⟩ = (tag.toList ++ (":nth-of-type".toList ++
          '(' :: Nat.toDigits 10 n)).map .scalar ++ [.scalar ')'] := by
        simp [text, chars]
      rw [closing, List.rdropWhile_concat_neg _ _ _ (by decide)]
    rw [Text.stripBy, front]
    exact back

end Path.Step

/-- A tag of plain letters can be read in a path. -/
theorem legible_of_isPlainName {tag : String} (plain : Text.isPlainName tag = true) :
    Legible tag := by
  obtain ⟨c, rest, tag_eq, -⟩ := Text.isPlainName_iff.mp plain
  have bare : Path.IsSegment (Path.Step.text ⟨tag, none⟩) :=
    Path.Step.isSegment_text plain
  refine ⟨?_, bare, ?_⟩
  · rintro rfl
    cases tag_eq
  · intro opening
    have plain_opening := Text.isPlain_of_mem plain opening
    revert plain_opening
    decide

end PageScheme
