import PageScheme.Json.ByteReader
import PageScheme.Proofs.Json.Decoding
import PageScheme.Proofs.Json.TextReading

/-!
# Numbers and strings are read from bytes

All that the reader of bytes comes to are the bytes of some text, so that what is known of the text
tells where blanks and digits end. A number is taken if it has no more than `digitLimit` whole
digits, with a fraction or without, and a string if it stands for well-formed text
(`decides_glyphText`).
-/
namespace PageScheme.Json

open ByteReader

/-! ### Bytes of a text -/

section Bytes
variable {rest : Text}

theorem bytes_scalar {c : Char} (ascii : c.toNat < 0x80) :
    Text.bytes (.scalar c :: rest) = c.toNat.toUInt8 :: Text.bytes rest := by
  have single : (Letter.scalar c).bytes = [c.toNat.toUInt8] := Letter.bytes_of_ascii ascii
  rw [Text.bytes_cons, single]
  rfl

/-- The first byte of a letter is its code, or lies beyond ASCII like the letter. -/
theorem exists_lead (letter : Letter) : ∃ lead others, letter.bytes = lead :: others ∧
    (lead.toNat = letter.code ∧ others = [] ∨ 0x80 ≤ lead.toNat ∧ 0x80 ≤ letter.code) := by
  by_cases ascii : letter.code < 0x80
  · exact ⟨_, _, Letter.bytes_of_ascii ascii, .inl ⟨Utf8.toNat_toUInt8 (by omega), rfl⟩⟩
  · have large : 0x80 ≤ letter.code := Nat.le_of_not_lt ascii
    obtain ⟨lead, others, same, -⟩ := Utf8.first_encodeCode letter.code_lt
    have beyond := Letter.le_of_mem_bytes large lead (by simp [Letter.bytes, same])
    exact ⟨lead, others, same, .inr ⟨beyond, large⟩⟩

/-- A byte of ASCII is a letter by itself. -/
theorem of_bytes_eq_cons {c : Char} {t : Text} {after : List UInt8} (ascii : c.toNat < 0x80)
    (same : Text.bytes t = c.toNat.toUInt8 :: after) :
    ∃ others, t = .scalar c :: others ∧ Text.bytes others = after := by
  cases t with
  | nil => simp at same
  | cons letter others =>
    obtain ⟨lead, behind, bytes, is_lead⟩ := exists_lead letter
    have byte : c.toNat.toUInt8.toNat = c.toNat := Utf8.toNat_toUInt8 (by omega)
    rw [Text.bytes_cons, bytes, List.cons_append, List.cons.injEq] at same
    obtain ⟨rfl, rfl⟩ := same
    rw [byte] at is_lead
    obtain ⟨code, rfl⟩ | ⟨beyond, -⟩ := is_lead
    · have is_c : letter = .scalar c := by
        rw [← letter.ofCode_code, ← code]
        exact Letter.ofCode_code (.scalar c)
      exact ⟨others, by rw [is_c], rfl⟩
    · omega

theorem bytes_ne_cons {c : Char} (ascii : c.toNat < 0x80)
    (other : ∀ after, rest ≠ .scalar c :: after)
    (after : List UInt8) : Text.bytes rest ≠ c.toNat.toUInt8 :: after := by
  intro same
  obtain ⟨others, is_rest, -⟩ := of_bytes_eq_cons ascii same
  exact other others is_rest

theorem skipSpace_bytes (t : Text) :
    skipSpace (Text.bytes t) = Text.bytes (TextReader.skipSpace t) := by
  have beyond : ∀ code, 0x80 ≤ code → isSpace code = false := by
    intro code large
    simp [isSpace]
    omega
  induction t with
  | nil => rfl
  | cons letter t ih =>
    obtain ⟨lead, others, same, ⟨code, rfl⟩ | ⟨lead_large, large⟩⟩ := exists_lead letter
    · rw [Text.bytes_cons, same, List.cons_append, List.nil_append]
      cases spaced : isSpace letter.code with
      | false =>
        rw [TextReader.skipSpace_visible spaced, Text.bytes_cons, same]
        simp [skipSpace, code, spaced]
      | true =>
        have skipped : skipSpace (lead :: Text.bytes t) = skipSpace (Text.bytes t) := by
          simp [skipSpace, code, spaced]
        rw [skipped, ih]
        simp [TextReader.skipSpace, spaced]
    · rw [TextReader.skipSpace_visible (beyond _ large), Text.bytes_cons, same]
      simp [skipSpace, beyond _ lead_large]

theorem takeDigits_bytes (done : List Nat) (t : Text) :
    takeDigits done (Text.bytes t) =
      ((TextReader.takeDigits done t).1, Text.bytes (TextReader.takeDigits done t).2) := by
  have beyond : ∀ code, 0x80 ≤ code → Text.digit? code = none := by
    intro code large
    simp [Text.digit?]
    omega
  induction t generalizing done with
  | nil => rfl
  | cons letter t ih =>
    obtain ⟨lead, others, same, ⟨code, rfl⟩ | ⟨lead_large, large⟩⟩ := exists_lead letter
    · rw [Text.bytes_cons, same, List.cons_append, List.nil_append, takeDigits, code,
        TextReader.takeDigits]
      cases Text.digit? letter.code with
      | none => simp [same]
      | some digit => exact ih (digit :: done)
    · rw [Text.bytes_cons, same, List.cons_append, takeDigits, beyond _ lead_large,
        TextReader.takeDigits, beyond _ large]
      simp [same]

end Bytes

/-! ### Numbers -/

section Numbers
variable {rest : Text}

namespace ByteReader

theorem readDigits_chars (digits : Digits) (ends : NoDigit rest) :
    readDigits (Text.bytes (digits.chars.map .scalar ++ rest)) =
      .ok (digits.values, Text.bytes rest) := by
  rw [readDigits, takeDigits_bytes, TextReader.takeDigits_chars digits ends]
  rfl

theorem readWhole_chars (decimal : Decimal) (ends : NoDigit rest) :
    readWhole (Text.bytes (decimal.whole.chars.map .scalar ++ rest)) =
      .ok (decimal.whole.values, Text.bytes rest) := by
  by_cases zero : decimal.whole.first = 0
  · have no_more : takeDigits [] (Text.bytes rest) = ([], Text.bytes rest) := by
      have taken := TextReader.takeDigits_append [] [] ends
      simp only [List.map_nil, List.nil_append, List.reverse_nil] at taken
      rw [takeDigits_bytes, taken]
    simp only [Digits.chars, Digits.values, Digits.all, zero, decimal.zero_alone zero]
    show readWhole (0x30 :: Text.bytes rest) = _
    rw [readWhole, no_more]
    rfl
  · have no_zero : Nat.digitChar decimal.whole.first.val ≠ '0' := by
      have each : ∀ digit : Fin 10, digit ≠ 0 → Nat.digitChar digit.val ≠ '0' := by decide
      exact each _ zero
    rw [readWhole]
    · exact readDigits_chars decimal.whole ends
    · exact bytes_ne_cons (c := '0') (by decide) (by simp [Digits.chars, Digits.all, no_zero])

theorem readFraction_chars (decimal : Decimal) (ends : NoDigit rest)
    (no_point : ∀ after, rest ≠ .scalar '.' :: after) :
    readFraction (Text.bytes (decimal.fractionChars.map .scalar ++ rest)) =
      .ok (decimal.fraction.map Digits.values, Text.bytes rest) := by
  cases is_fraction : decimal.fraction with
  | none =>
    simp only [Decimal.fractionChars, is_fraction, Option.elim, List.map_nil, List.nil_append]
    rw [readFraction]
    · rfl
    · exact bytes_ne_cons (c := '.') (by decide) no_point
  | some digits =>
    simp only [Decimal.fractionChars, is_fraction]
    show readFraction (0x2E :: Text.bytes (digits.chars.map .scalar ++ rest)) = _
    rw [readFraction, readDigits_chars digits ends]
    rfl

theorem takeSign_chars (exponent : Exponent) :
    takeSign (Text.bytes (exponent.signChars.map .scalar ++
        (exponent.digits.chars.map .scalar ++ rest))) =
      (exponent.sign.getD false, Text.bytes (exponent.digits.chars.map .scalar ++ rest)) := by
  cases is_sign : exponent.sign with
  | none =>
    simp only [Exponent.signChars, is_sign, Option.elim, List.map_nil, List.nil_append]
    rw [takeSign]
    · rfl
    · exact bytes_ne_cons (c := '-') (by decide)
        (by simp [Digits.chars, Digits.all, TextReader.digitChar_ne_sign])
    · exact bytes_ne_cons (c := '+') (by decide)
        (by simp [Digits.chars, Digits.all, TextReader.digitChar_ne_sign])
  | some negative =>
    simp only [Exponent.signChars, is_sign]
    cases negative <;> rfl

theorem readExponent_chars (decimal : Decimal) (follows : FollowsValue rest) :
    readExponent (Text.bytes (decimal.exponentChars.map .scalar ++ rest)) =
      .ok (decimal.exponent.map fun exponent => (exponent.sign.getD false, exponent.digits.values),
        Text.bytes rest) := by
  cases is_exponent : decimal.exponent with
  | none =>
    simp only [Decimal.exponentChars, is_exponent, Option.elim, List.map_nil, List.nil_append,
      Option.map_none]
    cases rest with
    | nil => rfl
    | cons letter rest =>
      obtain ⟨lead, others, same, is_lead⟩ := exists_lead letter
      have ends := follows letter rfl
      have no_letter : ¬ (lead = 0x65 ∨ lead = 0x45) := by
        rintro (rfl | rfl)
        all_goals
          rcases is_lead with ⟨code, -⟩ | ⟨beyond, -⟩
          · rw [← code] at ends
            exact absurd ends (by decide)
          · exact absurd beyond (by decide)
      rw [Text.bytes_cons, same, List.cons_append, readExponent, if_neg no_letter]
  | some exponent =>
    have read := readDigits_chars exponent.digits follows.noDigit
    have by_letter : ∀ b : UInt8, b = 0x65 ∨ b = 0x45 →
        readExponent (b :: Text.bytes (exponent.signChars.map .scalar ++
          (exponent.digits.chars.map .scalar ++ rest))) =
          .ok (some (exponent.sign.getD false, exponent.digits.values), Text.bytes rest) := by
      intro b is_letter
      rw [readExponent, if_pos is_letter, takeSign_chars]
      simp only [read]
      rfl
    simp only [Decimal.exponentChars, is_exponent, Option.elim, Exponent.chars, List.map_cons,
      List.map_append, List.cons_append, List.append_assoc]
    cases exponent.capital with
    | false => exact by_letter 0x65 (.inl rfl)
    | true => exact by_letter 0x45 (.inr rfl)

theorem length_bytes_chars (digits : Digits) :
    (Text.bytes (digits.chars.map .scalar)).length = digits.values.length := by
  have each : ∀ listed : List (Fin 10),
      (Text.bytes (listed.map fun digit => .scalar (Nat.digitChar digit.val))).length =
        listed.length := by
    intro listed
    induction listed with
    | nil => rfl
    | cons digit listed ih =>
      have single := Letter.bytes_of_ascii (begins_digit digit []).ascii
      rw [List.map_cons, Text.bytes_cons, single, List.length_append, ih, List.length_cons]
      exact Nat.add_comm _ _
  simpa [Digits.chars, Digits.values, Function.comp_def] using each digits.all

/-- The digits of a number are counted by what is left behind them. -/
theorem decides_readUnsigned (decimal : Decimal) (follows : FollowsValue rest) {unsigned : Text}
    (same : unsigned = decimal.whole.chars.map .scalar ++
      (decimal.fractionChars.map .scalar ++ (decimal.exponentChars.map .scalar ++ rest))) :
    Decides (decimal.whole.values.length ≤ digitLimit) (decimal.numeral.value, Text.bytes rest)
      (readUnsigned decimal.negative (Text.bytes unsigned).length (Text.bytes unsigned)) := by
  have behind_point := TextReader.noDigit_exponentChars decimal follows
  have read_whole := readWhole_chars decimal (TextReader.noDigit_fractionChars decimal behind_point)
  have read_fraction := readFraction_chars decimal behind_point
    (TextReader.exponentChars_ne_point decimal follows)
  have read_exponent := readExponent_chars decimal follows
  have counted : (Text.bytes unsigned).length - (Text.bytes (decimal.fractionChars.map .scalar ++
      (decimal.exponentChars.map .scalar ++ rest))).length = decimal.whole.values.length := by
    rw [same, Text.bytes_append, List.length_append, length_bytes_chars]
    omega
  rw [← same] at read_whole
  rw [readUnsigned, read_whole]
  simp only [bind, Except.bind, counted]
  by_cases short : decimal.whole.values.length ≤ digitLimit
  · rw [if_neg (Nat.not_lt.mpr short), read_fraction]
    simp only [read_exponent]
    refine ⟨short, ?_⟩
    cases is_fraction : decimal.fraction <;> cases is_exponent : decimal.exponent <;>
      simp [Decimal.numeral, is_fraction, is_exponent]
  · rw [if_pos (Nat.lt_of_not_le short)]
    exact short

/-- The byte of a digit, which begins neither a word nor another value. -/
theorem readValue_digit (digit : Fin 10) (bytes : List UInt8) (fuel room : Nat) :
    readValue (fuel + 1) room ((Nat.digitChar digit.val).toNat.toUInt8 :: bytes) =
        readUnsigned false (bytes.length + 1) ((Nat.digitChar digit.val).toNat.toUInt8 :: bytes) ∧
      readValue (fuel + 1) room (0x2D :: (Nat.digitChar digit.val).toNat.toUInt8 :: bytes) =
        readUnsigned true (bytes.length + 1)
          ((Nat.digitChar digit.val).toNat.toUInt8 :: bytes) := by
  fin_cases digit <;> exact ⟨rfl, rfl⟩

theorem decides_readValue_number (decimal : Decimal) (follows : FollowsValue rest)
    (fuel room : Nat) :
    Decides (decimal.whole.values.length ≤ digitLimit) (decimal.numeral.value, Text.bytes rest)
      (readValue (fuel + 1) room (Text.bytes (decimal.chars.map .scalar ++ rest))) := by
  generalize is_unsigned : decimal.whole.chars.map Letter.scalar ++
    (decimal.fractionChars.map .scalar ++ (decimal.exponentChars.map .scalar ++ rest)) = unsigned
  have decides := decides_readUnsigned decimal follows is_unsigned.symm
  obtain ⟨others, begins⟩ : ∃ others, Text.bytes unsigned =
      (Nat.digitChar decimal.whole.first.val).toNat.toUInt8 :: others := by
    rw [← is_unsigned]
    exact ⟨_, bytes_scalar (begins_digit decimal.whole.first []).ascii⟩
  rw [begins] at decides
  have read := readValue_digit decimal.whole.first others fuel room
  cases negative : decimal.negative with
  | true =>
    have same : decimal.chars.map Letter.scalar ++ rest = .scalar '-' :: unsigned := by
      simp [← is_unsigned, Decimal.chars, negative]
    have signed : Text.bytes (.scalar '-' :: unsigned) = 0x2D :: Text.bytes unsigned := rfl
    rw [same, signed, begins, read.2]
    rwa [negative] at decides
  | false =>
    have same : decimal.chars.map Letter.scalar ++ rest = unsigned := by
      simp [← is_unsigned, Decimal.chars, negative]
    rw [same, begins, read.1]
    rwa [negative] at decides

end ByteReader

end Numbers

/-! ### Strings -/

section Strings
variable {rest : Text}

namespace ByteReader

theorem readHex_digits (unit : UnitEscape) :
    readHex (Text.bytes (unit.digits.map .scalar ++ rest)) = .ok (unit.code, Text.bytes rest) := by
  have ascii := fun digit => (isAscii_hexDigit digit).2
  have byte : ∀ digit : HexDigit, digit.char.toNat.toUInt8.toNat = digit.char.toNat := by
    intro digit
    have small := ascii digit
    exact Utf8.toNat_toUInt8 (by omega)
  simp only [UnitEscape.digits, List.map_cons, List.map_nil, List.cons_append, List.nil_append]
  rw [bytes_scalar (ascii _), bytes_scalar (ascii _), bytes_scalar (ascii _),
    bytes_scalar (ascii _)]
  simp [readHex, byte, hexDigit?_char, hexNumber?_chars]

theorem readLowHalf_pair {low : UnitEscape} (high : Nat) (is_low : isLowSurrogate low.code = true) :
    readLowHalf high (Text.bytes (low.chars.map .scalar ++ rest)) =
      .ok (pairCode high low.code, Text.bytes rest) := by
  show readLowHalf high (0x5C :: 0x75 :: Text.bytes (low.digits.map .scalar ++ rest)) = _
  rw [readLowHalf, readHex_digits]
  simp only [bind, Except.bind, is_low]
  rfl

/-- A first half is refused if no second one follows. -/
theorem readLowHalf_alone (high : Nat) (alone : NoSecondHalf rest) :
    ∃ fault, readLowHalf high (Text.bytes rest) = .error fault := by
  rcases alone with no_escape | ⟨low, after, no_low, rfl⟩
  · unfold readLowHalf
    split
    next same =>
      obtain ⟨others, rfl, behind⟩ := of_bytes_eq_cons (c := '\\') (by decide) same
      obtain ⟨after, rfl, -⟩ := of_bytes_eq_cons (c := 'u') (by decide) behind
      exact absurd rfl (no_escape after)
    all_goals exact ⟨_, rfl⟩
  · show ∃ fault,
      readLowHalf high (0x5C :: 0x75 :: Text.bytes (low.digits.map .scalar ++ after)) = _
    rw [readLowHalf, readHex_digits]
    simp only [bind, Except.bind, no_low]
    exact ⟨_, rfl⟩

theorem readEscape_pair {high low : UnitEscape} (is_high : isHighSurrogate high.code = true)
    (is_low : isLowSurrogate low.code = true) :
    readEscape (Text.bytes (high.digits.map .scalar ++ (low.chars.map .scalar ++ rest))) =
      .ok (pairCode high.code low.code, Text.bytes rest) := by
  have no_low : isLowSurrogate high.code = false := by
    rw [isHighSurrogate_iff] at is_high
    rw [Bool.eq_false_iff, Ne, isLowSurrogate_iff]
    omega
  rw [readEscape, readHex_digits]
  simp only [bind, Except.bind, no_low, is_high, Bool.false_eq_true, if_false, if_true]
  exact readLowHalf_pair high.code is_low

theorem isSome_char?_ofCode {n : Nat} :
    (Letter.ofCode n).char?.isSome = true ↔
      ¬ (isHighSurrogate n = true ∨ isLowSurrogate n = true) := by
  rw [isHighSurrogate_iff, isLowSurrogate_iff, Letter.ofCode]
  split_ifs <;> simp [Letter.char?] <;> omega

/-- The escape of a half is refused where it stands alone. -/
theorem decides_readEscape {unit : UnitEscape}
    (alone : isHighSurrogate unit.code = true → NoSecondHalf rest) :
    Decides ((Letter.ofCode unit.code).char?.isSome = true) (unit.code, Text.bytes rest)
      (readEscape (Text.bytes (unit.digits.map .scalar ++ rest))) := by
  rw [readEscape, readHex_digits, isSome_char?_ofCode]
  simp only [bind, Except.bind]
  cases is_low : isLowSurrogate unit.code with
  | true => simp [fail, Decides]
  | false =>
    cases is_high : isHighSurrogate unit.code with
    | true =>
      obtain ⟨fault, failed⟩ := readLowHalf_alone unit.code (alone is_high)
      simp [failed, Decides]
    | false => exact .ok (by simp)

theorem readString_escape (start : Nat) (done bytes : List UInt8) :
    readString start done (0x5C :: 0x75 :: bytes) =
      readEscape bytes >>= fun (code, after) =>
        readString start ((Utf8.encodeCode code).reverse ++ done) after := by
  rw [readString, if_neg (by decide), if_pos rfl, if_pos rfl]
  split
  next fault failed => simp [failed, bind, Except.bind]
  next code after read => simp [read, bind, Except.bind]

theorem readString_short (start : Nat) (done bytes : List UInt8) (escape : ShortEscape) :
    readString start done (0x5C :: escape.mark.toNat.toUInt8 :: bytes) =
      readString start (escape.char.toNat.toUInt8 :: done) bytes := by
  have no_unit : escape.mark.toNat.toUInt8 ≠ 0x75 := by cases escape <;> decide
  have known : simpleEscape? escape.mark.toNat.toUInt8.toNat = some escape.char := by
    cases escape <;> rfl
  rw [readString, if_neg (by decide), if_pos rfl]
  simp only [no_unit, if_false, known]

/-- Bytes that stand for themselves. -/
theorem readString_bytes (start : Nat) (done rest bytes : List UInt8)
    (plain : ∀ b ∈ bytes, b ≠ 0x22 ∧ b ≠ 0x5C ∧ ¬ b < 0x20) :
    readString start done (bytes ++ rest) = readString start (bytes.reverse ++ done) rest := by
  induction bytes generalizing done with
  | nil => rfl
  | cons b bytes ih =>
    obtain ⟨⟨no_mark, no_stroke, visible⟩, others⟩ := List.forall_mem_cons.mp plain
    rw [List.cons_append, readString.eq_def]
    simp [no_mark, no_stroke, visible, ih _ others]

theorem plain_bytes {letter : Letter} (is_literal : IsLiteral letter) :
    ∀ b ∈ letter.bytes, b ≠ 0x22 ∧ b ≠ 0x5C ∧ ¬ b < 0x20 := by
  obtain ⟨visible, no_mark, no_stroke⟩ := is_literal
  intro b member
  have mark : letter.code ≠ 0x22 := by
    intro code
    exact no_mark (by rw [← letter.ofCode_code, code]; rfl)
  have stroke : letter.code ≠ 0x5C := by
    intro code
    exact no_stroke (by rw [← letter.ofCode_code, code]; rfl)
  have bounds : 0x20 ≤ b.toNat ∧ b.toNat ≠ 0x22 ∧ b.toNat ≠ 0x5C := by
    by_cases ascii : letter.code < 0x80
    · rw [Letter.bytes_of_ascii ascii, List.mem_singleton] at member
      rw [member, Utf8.toNat_toUInt8 (by omega)]
      exact ⟨visible, mark, stroke⟩
    · have beyond := Letter.le_of_mem_bytes (Nat.le_of_not_lt ascii) b member
      omega
  rw [UInt8.lt_iff_toNat_lt, Ne, Ne, ← UInt8.toNat_inj, ← UInt8.toNat_inj]
  exact ⟨bounds.2.1, bounds.2.2, Nat.not_lt.mpr bounds.1⟩

theorem decides_stringOf (start : Nat) (t : Text) :
    Decides (t.isWellFormed = true) t.withoutLone (stringOf start (Text.bytes t).reverse) := by
  have decides := t.decides_decode?
  rw [stringOf, List.reverse_reverse]
  cases decoded : Utf8.decode? (Text.bytes t) with
  | ok s =>
    rw [decoded] at decides
    exact decides
  | error fault =>
    rw [decoded] at decides
    exact decides

theorem readString_mark (start : Nat) (done rest : List UInt8) :
    readString start done (0x22 :: rest) = (stringOf start done).map fun s => (s, rest) := by
  rw [readString.eq_def]
  simp

theorem reverse_bytes_concat (read : Text) (letter : Letter) :
    (Text.bytes (read ++ [letter])).reverse =
      letter.bytes.reverse ++ (Text.bytes read).reverse := by
  simp

/-- After the bytes of a letter the reading goes on with one more letter read. -/
theorem reverse_bytes_ofCode {n : Nat} (bounded : n < 0x110000) (read : Text) :
    (Utf8.encodeCode n).reverse ++ (Text.bytes read).reverse =
      (Text.bytes (read ++ [.ofCode n])).reverse := by
  rw [reverse_bytes_concat, Letter.bytes, Letter.code_ofCode bounded]

theorem bytes_chars (unit : UnitEscape) :
    Text.bytes (unit.chars.map .scalar ++ rest) =
      0x5C :: 0x75 :: Text.bytes (unit.digits.map .scalar ++ rest) := rfl

theorem isWellFormed_concat_iff {read letters : Text} {letter : Letter} :
    letter.char?.isSome = true ∧ Text.isWellFormed (read ++ [letter] ++ letters) = true ↔
      Text.isWellFormed (read ++ letter :: letters) = true := by
  simp [Text.isWellFormed]
  tauto

/-- The rest of a string is read after what has been read of it. -/
def DecidesString (rest letters text : Text) : Prop := ∀ (start : Nat) (read : Text),
  Decides (Text.isWellFormed (read ++ letters) = true)
    ((read ++ letters).withoutLone, Text.bytes rest)
    (readString start (Text.bytes read).reverse (Text.bytes text))

theorem DecidesString.unit {unit : UnitEscape} {letters text : Text}
    (alone : isHighSurrogate unit.code = true → NoSecondHalf text)
    (decides : DecidesString rest letters text) :
    DecidesString rest (.ofCode unit.code :: letters) (unit.chars.map .scalar ++ text) := by
  intro start read
  rw [bytes_chars, readString_escape]
  refine ((decides_readEscape alone).bind fun _ => ?_).congr isWellFormed_concat_iff
  have small := unit.code_lt
  have bounded : unit.code < 0x110000 := by omega
  have going_on := decides start (read ++ [.ofCode unit.code])
  rw [← reverse_bytes_ofCode bounded] at going_on
  simpa using going_on

/-- A string is refused for the escape of a half alone as soon as it comes, and for a lone surrogate
that stands for itself at the end of the string. -/
theorem decides_glyphText (glyphs : List Glyph) :
    DecidesString rest (lettersOf glyphs) (glyphText glyphs ++ rest) := by
  fun_induction lettersOf glyphs with
  | case1 =>
    intro start read
    show Decides _ _ (readString start (Text.bytes read).reverse (0x22 :: Text.bytes rest))
    rw [readString_mark, List.append_nil]
    exact (decides_stringOf start read).map fun s => (s, Text.bytes rest)
  | case2 letter is_literal others ih =>
    intro start read
    have decides := ih start (read ++ [letter])
    rw [reverse_bytes_concat, ← readString_bytes _ _ _ _ (plain_bytes is_literal)] at decides
    simpa [glyphText_cons, Glyph.text] using decides
  | case3 escape others ih =>
    intro start read
    have decides := ih start (read ++ [.scalar escape.char])
    have mark : Text.bytes (glyphText (.short escape :: others) ++ rest) =
        0x5C :: escape.mark.toNat.toUInt8 :: Text.bytes (glyphText others ++ rest) := by
      have ascii : escape.mark.toNat < 0x80 := by cases escape <;> decide
      rw [glyphText_cons, List.append_assoc]
      show 0x5C :: Text.bytes (.scalar escape.mark :: (glyphText others ++ rest)) = _
      rw [bytes_scalar ascii]
    have byte : (Letter.scalar escape.char).bytes = [escape.char.toNat.toUInt8] := by
      cases escape <;> rfl
    rw [reverse_bytes_concat, byte] at decides
    rw [mark, readString_short]
    simpa using decides
  | case4 high low others pair ih =>
    intro start read
    obtain ⟨is_high, is_low⟩ := Bool.and_eq_true_iff.mp pair
    have decides := ih start (read ++ [.ofCode (pairCode high.code low.code)])
    have bounded : pairCode high.code low.code < 0x110000 := by
      rw [isHighSurrogate_iff] at is_high
      rw [isLowSurrogate_iff] at is_low
      unfold pairCode
      omega
    rw [glyphText_cons, glyphText_cons, List.append_assoc, List.append_assoc, Glyph.text,
      Glyph.text, bytes_chars, readString_escape, readEscape_pair is_high is_low]
    rw [← reverse_bytes_ofCode bounded] at decides
    simpa [bind, Except.bind] using decides
  | case5 high low others no_pair ih =>
    rw [glyphText_cons, List.append_assoc]
    refine .unit (fun is_high => noSecondHalf_glyphText ?_) ih
    rintro _ _ ⟨⟩
    simpa [is_high] using no_pair
  | case6 escape others no_unit ih =>
    rw [glyphText_cons, List.append_assoc]
    refine .unit (fun _ => noSecondHalf_glyphText ?_) ih
    rintro low rest rfl
    exact absurd rfl (no_unit low rest)

end ByteReader

end Strings

end PageScheme.Json
