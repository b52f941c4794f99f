import Mathlib.Data.List.Chain
import PageScheme.Json.Printing
import PageScheme.Json.TextReader
import PageScheme.Proofs.Json.Spelling

/-!
# Strings are read as they were written

A string is written in pieces, some letters as escapes of their UTF-16 units. The reader of letters
takes the pieces up again one by one, with one exception: the escapes of the two halves of a
surrogate pair are read as the character that they make up. So it reads what the pieces stand for
(`readString_glyphText`). A text can be written letter by letter if it holds no such halves next to
each other (`IsJoined`), which is so of all well-formed text.
-/
namespace PageScheme

namespace Json

theorem isHighSurrogate_iff {n : Nat} : isHighSurrogate n = true ↔ 0xD800 ≤ n ∧ n < 0xDC00 := by
  simp [isHighSurrogate]

theorem isLowSurrogate_iff {n : Nat} : isLowSurrogate n = true ↔ 0xDC00 ≤ n ∧ n < 0xE000 := by
  simp [isLowSurrogate]

end Json

/-- Two letters are the halves of a surrogate pair. -/
def Letter.ArePair (first second : Letter) : Prop :=
  Json.isHighSurrogate first.code = true ∧ Json.isLowSurrogate second.code = true

/-- No two halves of a surrogate pair stand next to each other. -/
def Text.IsJoined (t : Text) : Prop := t.IsChain fun first second => ¬ first.ArePair second

namespace Letter

theorem code_scalar_bounds (c : Char) :
    (scalar c).code < 0xD800 ∨ 0xE000 ≤ (scalar c).code ∧ (scalar c).code < 0x110000 := by
  have valid := c.valid
  simp only [UInt32.isValidChar, Nat.isValidChar, Char.toNat_val] at valid
  rw [code]
  omega

theorem isHighSurrogate_scalar (c : Char) : Json.isHighSurrogate (scalar c).code = false := by
  have bounds := code_scalar_bounds c
  rw [Bool.eq_false_iff, Ne, Json.isHighSurrogate_iff]
  omega

theorem ofCode_code (l : Letter) : ofCode l.code = l := by
  cases l with
  | scalar c =>
    have bounds := code_scalar_bounds c
    have no_surrogate : ¬ (0xD800 ≤ (scalar c).code ∧ (scalar c).code < 0xE000) := by omega
    rw [ofCode, dif_neg no_surrogate, if_pos (by omega), code, Char.ofNat_toNat]
  | lone half =>
    have surrogate : 0xD800 ≤ (lone half).code ∧ (lone half).code < 0xE000 := by
      rw [code]
      omega
    rw [ofCode, dif_pos surrogate]
    simp [code]

theorem code_ofCode {n : Nat} (bounded : n < 0x110000) : (ofCode n).code = n := by
  by_cases surrogate : 0xD800 ≤ n ∧ n < 0xE000
  · rw [ofCode, dif_pos surrogate]
    exact Nat.add_sub_cancel' surrogate.1
  · have valid : n.isValidChar := by
      rw [Nat.isValidChar]
      omega
    have made : Char.ofNat n = Char.ofNatAux n valid := dif_pos valid
    rw [ofCode, dif_neg surrogate, if_pos bounded, made]
    rfl

end Letter

theorem Text.isJoined_ofString (s : String) : (ofString s).IsJoined := by
  apply List.Pairwise.isChain
  rw [ofString, List.pairwise_map]
  apply List.pairwise_of_forall
  intro c d pair
  simpa [Letter.isHighSurrogate_scalar] using pair.1

namespace Json

open TextReader

/-! ### Pieces of a string -/

theorem hexDigit?_char (digit : HexDigit) :
    Text.hexDigit? digit.char.toNat = some digit.value.val := by
  have each : ∀ (value : Fin 16) (capital : Bool),
      Text.hexDigit? (HexDigit.char ⟨value, capital⟩).toNat = some value.val := by decide
  exact each digit.value digit.capital

theorem isAscii_hexDigit (digit : HexDigit) : 0 < digit.char.toNat ∧ digit.char.toNat < 0x80 := by
  have each : ∀ (value : Fin 16) (capital : Bool), 0 < (HexDigit.char ⟨value, capital⟩).toNat ∧
      (HexDigit.char ⟨value, capital⟩).toNat < 0x80 := by
    decide
  exact each digit.value digit.capital

theorem hexNumber?_chars (unit : UnitEscape) :
    hexNumber? unit.first.char.toNat unit.second.char.toNat unit.third.char.toNat
      unit.fourth.char.toNat = some unit.code := by
  simp [hexNumber?, hexDigit?_char, UnitEscape.code]

theorem UnitEscape.code_lt (unit : UnitEscape) : unit.code < 0x10000 := by
  have := unit.first.value.isLt
  have := unit.second.value.isLt
  have := unit.third.value.isLt
  have := unit.fourth.value.isLt
  rw [UnitEscape.code]
  omega

theorem simpleEscape?_mark (escape : ShortEscape) :
    simpleEscape? escape.mark.toNat = some escape.char := by
  cases escape <;> rfl

theorem mark_ne (escape : ShortEscape) : escape.mark ≠ 'u' := by
  cases escape <;> decide

/-- What follows cannot be taken for the second half of a surrogate pair: it is no escape of a unit,
or that of a unit that is none. -/
def NoSecondHalf (rest : Text) : Prop :=
  (∀ after, rest ≠ .scalar '\\' :: .scalar 'u' :: after) ∨
    ∃ (unit : UnitEscape) (after : Text), isLowSurrogate unit.code = false ∧
      rest = unit.chars.map .scalar ++ after

theorem UnitEscape.chars_append (unit : UnitEscape) (rest : Text) :
    unit.chars.map .scalar ++ rest =
      .scalar '\\' :: .scalar 'u' :: .scalar unit.first.char :: .scalar unit.second.char ::
        .scalar unit.third.char :: .scalar unit.fourth.char :: rest := rfl

section Reading
variable {opening : Nat} {done rest : Text}

/-- The escape of a unit by itself is read as the letter with its code. -/
theorem readString_unit {unit : UnitEscape} (more : rest ≠ [])
    (alone : isHighSurrogate unit.code = true → NoSecondHalf rest) :
    readString opening done (unit.chars.map .scalar ++ rest) =
      readString opening (.ofCode unit.code :: done) rest := by
  obtain ⟨next, after, rfl⟩ := List.exists_cons_of_ne_nil more
  rw [UnitEscape.chars_append, readString]
  simp only [Letter.code, hexNumber?_chars]
  split
  next e f g h last beyond =>
    -- An escape follows: if this one is a first half, that one is no second half.
    split
    next high =>
      rcases alone high with no_escape | ⟨low, beyond', no_low, same⟩
      · exact absurd rfl (no_escape _)
      · simp only [UnitEscape.chars_append, List.cons.injEq, true_and] at same
        obtain ⟨rfl, rfl, rfl, rfl, -⟩ := same
        simp only [hexNumber?_chars, no_low, Bool.false_eq_true, if_false]
    next => rfl
  next => rfl

/-- The escapes of the two halves of a pair are read as one letter. -/
theorem readString_pair {high low : UnitEscape} (is_high : isHighSurrogate high.code = true)
    (is_low : isLowSurrogate low.code = true) (more : rest ≠ []) :
    readString opening done (high.chars.map .scalar ++ (low.chars.map .scalar ++ rest)) =
      readString opening (.ofCode (pairCode high.code low.code) :: done) rest := by
  obtain ⟨last, beyond, rfl⟩ := List.exists_cons_of_ne_nil more
  rw [UnitEscape.chars_append, UnitEscape.chars_append, readString]
  simp [Letter.code, hexNumber?_chars, is_high, is_low]

theorem readString_short (escape : ShortEscape) :
    readString opening done (.scalar '\\' :: .scalar escape.mark :: rest) =
      readString opening (.scalar escape.char :: done) rest := by
  rw [readString]
  · simp only [Letter.code, simpleEscape?_mark]
  · simp [mark_ne]

theorem readString_literal {letter : Letter} (is_literal : IsLiteral letter) :
    readString opening done (letter :: rest) = readString opening (letter :: done) rest := by
  rw [readString]
  · exact if_neg (Nat.not_lt.mpr is_literal.visible)
  all_goals simp [is_literal.not_mark, is_literal.not_stroke]

end Reading

theorem glyphText_ne_nil (glyphs : List Glyph) (rest : Text) : glyphText glyphs ++ rest ≠ [] := by
  simp [glyphText]

theorem glyphText_cons (glyph : Glyph) (glyphs : List Glyph) :
    glyphText (glyph :: glyphs) = glyph.text ++ glyphText glyphs := by
  simp [glyphText]

/-- No escape of a second half stands at the start. -/
def NoHalfFirst (glyphs : List Glyph) : Prop :=
  ∀ low after, glyphs = .unit low :: after → isLowSurrogate low.code = false

/-- What a string goes on with is no escape of a unit unless it is written as one. -/
theorem noSecondHalf_glyphText {glyphs : List Glyph} {rest : Text} (no_low : NoHalfFirst glyphs) :
    NoSecondHalf (glyphText glyphs ++ rest) := by
  cases glyphs with
  | nil => exact .inl (by simp [glyphText])
  | cons glyph others =>
    rw [glyphText_cons, List.append_assoc]
    cases glyph with
    | literal letter is_literal => exact .inl (by simp [Glyph.text, is_literal.not_stroke])
    | short escape => exact .inl (by simp [Glyph.text, mark_ne])
    | unit low => exact .inr ⟨low, _, no_low low others rfl, rfl⟩

/-- A string is read as what it stands for. -/
theorem readString_glyphText {opening : Nat} {done rest : Text} (glyphs : List Glyph) :
    readString opening done (glyphText glyphs ++ rest) =
      .ok (done.reverse ++ lettersOf glyphs, rest) := by
  fun_induction lettersOf glyphs generalizing done with
  | case1 => simp [glyphText, readString]
  | case2 letter is_literal others ih =>
    rw [glyphText_cons, List.append_assoc]
    exact (readString_literal is_literal).trans (by simp [ih])
  | case3 escape others ih =>
    rw [glyphText_cons, List.append_assoc]
    exact (readString_short escape).trans (by simp [ih])
  | case4 high low others pair ih =>
    obtain ⟨is_high, is_low⟩ := Bool.and_eq_true_iff.mp pair
    rw [glyphText_cons, glyphText_cons, List.append_assoc, List.append_assoc]
    exact (readString_pair is_high is_low (glyphText_ne_nil _ _)).trans (by simp [ih])
  | case5 high low others no_pair ih =>
    rw [glyphText_cons, List.append_assoc]
    refine (readString_unit (glyphText_ne_nil _ _) ?_).trans (by simp [ih])
    intro is_high
    apply noSecondHalf_glyphText
    rintro _ _ ⟨⟩
    simpa [is_high] using no_pair
  | case6 escape others no_unit ih =>
    rw [glyphText_cons, List.append_assoc]
    refine (readString_unit (glyphText_ne_nil _ _) ?_).trans (by simp [ih])
    intro _
    apply noSecondHalf_glyphText
    rintro low rest rfl
    exact absurd rfl (no_unit low rest)

end Json
end PageScheme
