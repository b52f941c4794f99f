import Mathlib.Data.Fintype.Basic
import Mathlib.Tactic.FinCases
import PageScheme.Proofs.Json.Escapes
import PageScheme.Proofs.Sequencing

/-!
# Letters are read as they were written

The reader of letters takes up a writing, whatever follows it, and gives the value that it stands
for. It has two limits, and decides them (`Writing.decides_readDecoded`): a whole number has at most
`digitLimit` digits, and only so many containers are open at once.

The reading is followed along the spelling. Blanks are skipped up to the next visible letter, digits
end where no digit follows, and each value is read with fuel for its length.
-/
namespace PageScheme.Json

open TextReader

/-! ### What stands around a value -/

/-- What may follow a value: a blank, a comma, or the end of what holds it. -/
def EndsValue (code : Nat) : Prop := isSpace code = true ∨ code = 0x2C ∨ code = 0x5D ∨ code = 0x7D

instance (code : Nat) : Decidable (EndsValue code) := inferInstanceAs (Decidable (_ ∨ _ ∨ _ ∨ _))

def FollowsValue (rest : Text) : Prop := ∀ letter ∈ rest.head?, EndsValue letter.code

def NoDigit (rest : Text) : Prop := ∀ letter ∈ rest.head?, Text.digit? letter.code = none

theorem isSpace_letter (blank : Blank) : isSpace blank.letter.code = true := by
  cases blank <;> rfl

section Surroundings
variable {rest : Text}

theorem FollowsValue.nil : FollowsValue [] := nofun

theorem FollowsValue.cons {letter : Letter} (ends : EndsValue letter.code) :
    FollowsValue (letter :: rest) := by
  simpa [FollowsValue] using ends

theorem FollowsValue.blankText_append (follows : FollowsValue rest) (blanks : List Blank) :
    FollowsValue (blankText blanks ++ rest) := by
  cases blanks with
  | nil => exact follows
  | cons blank blanks => exact .cons (.inl (isSpace_letter blank))

theorem EndsValue.no_digit {code : Nat} (ends : EndsValue code) : Text.digit? code = none := by
  simp [EndsValue, isSpace] at ends
  simp [Text.digit?]
  omega

theorem FollowsValue.noDigit (follows : FollowsValue rest) : NoDigit rest :=
  fun letter is_head => (follows letter is_head).no_digit

namespace TextReader

theorem skipSpace_blankText (blanks : List Blank) :
    skipSpace (blankText blanks ++ rest) = skipSpace rest := by
  apply List.dropWhile_append_of_pos
  simp [blankText, isSpace_letter]

theorem skipSpace_visible {letter : Letter} (visible : isSpace letter.code = false) :
    skipSpace (letter :: rest) = letter :: rest := by
  simp [skipSpace, visible]

@[simp] theorem skipSpace_closing_bracket :
    skipSpace (.scalar ']' :: rest) = .scalar ']' :: rest := rfl

@[simp] theorem skipSpace_closing_brace :
    skipSpace (.scalar '\x7d' :: rest) = .scalar '\x7d' :: rest := rfl

@[simp] theorem skipSpace_comma : skipSpace (.scalar ',' :: rest) = .scalar ',' :: rest := rfl

@[simp] theorem skipSpace_colon : skipSpace (.scalar ':' :: rest) = .scalar ':' :: rest := rfl

end TextReader

end Surroundings

/-! ### Numbers -/

theorem digit?_digitChar (digit : Fin 10) :
    Text.digit? (Nat.digitChar digit.val).toNat = some digit.val := by
  revert digit
  decide

section Numbers
variable {rest : Text}

namespace TextReader

theorem takeDigits_append (done : List Nat) (digits : List (Fin 10)) (ends : NoDigit rest) :
    takeDigits done (digits.map (fun digit => .scalar (Nat.digitChar digit.val)) ++ rest) =
      (done.reverse ++ digits.map Fin.val, rest) := by
  induction digits generalizing done with
  | nil =>
    cases rest with
    | nil => simp [takeDigits]
    | cons letter rest => simp [takeDigits, ends letter rfl]
  | cons digit digits ih => simp [takeDigits, Letter.code, digit?_digitChar, ih]

theorem takeDigits_chars (digits : Digits) (ends : NoDigit rest) :
    takeDigits [] (digits.chars.map .scalar ++ rest) = (digits.values, rest) := by
  simpa [Digits.chars, Digits.values, Function.comp_def] using takeDigits_append [] digits.all ends

theorem takeWhole_chars (decimal : Decimal) (ends : NoDigit rest) :
    takeWhole (decimal.whole.chars.map .scalar ++ rest) = some (decimal.whole.values, rest) := by
  by_cases zero : decimal.whole.first = 0
  · simp [Digits.chars, Digits.values, Digits.all, zero, decimal.zero_alone zero, takeWhole]
    rfl
  · have no_zero : Nat.digitChar decimal.whole.first.val ≠ '0' := by
      have each : ∀ digit : Fin 10, digit ≠ 0 → Nat.digitChar digit.val ≠ '0' := by decide
      exact each _ zero
    rw [takeWhole, takeDigits_chars decimal.whole ends]
    · rfl
    · simp [Digits.chars, Digits.all, no_zero]

theorem takeFraction_chars (decimal : Decimal) (ends : NoDigit rest)
    (no_point : ∀ after, rest ≠ .scalar '.' :: after) :
    takeFraction (decimal.fractionChars.map .scalar ++ rest) =
      decimal.fraction.map fun digits => (digits.values, rest) := by
  cases is_fraction : decimal.fraction with
  | none =>
    simp only [Decimal.fractionChars, is_fraction, Option.elim, List.map_nil, List.nil_append]
    rw [takeFraction]
    · rfl
    · exact no_point
  | some digits =>
    simp [Decimal.fractionChars, is_fraction, takeFraction, takeDigits_chars digits ends]
    rfl

theorem digitChar_ne_sign (digit : Fin 10) :
    Nat.digitChar digit.val ≠ '-' ∧ Nat.digitChar digit.val ≠ '+' := by
  revert digit
  decide

theorem takeSign_chars (exponent : Exponent) :
    takeSign (exponent.signChars.map .scalar ++ (exponent.digits.chars.map .scalar ++ rest)) =
      (exponent.sign.getD false, exponent.digits.chars.map .scalar ++ rest) := by
  cases is_sign : exponent.sign with
  | none =>
    simp only [Exponent.signChars, is_sign, Option.elim, List.map_nil, List.nil_append]
    rw [takeSign]
    · rfl
    all_goals simp [Digits.chars, Digits.all, digitChar_ne_sign]
  | some negative => cases negative <;> simp [Exponent.signChars, is_sign, takeSign]

theorem takeExponent_chars (decimal : Decimal) (follows : FollowsValue rest) :
    takeExponent (decimal.exponentChars.map .scalar ++ rest) =
      decimal.exponent.map fun exponent =>
        (exponent.sign.getD false, exponent.digits.values, rest) := by
  cases is_exponent : decimal.exponent with
  | none =>
    simp only [Decimal.exponentChars, is_exponent, Option.elim, List.map_nil, List.nil_append,
      Option.map_none]
    cases rest with
    | nil => rfl
    | cons letter rest =>
      cases letter with
      | lone half => rfl
      | scalar c =>
        have no_letter : c ≠ 'e' ∧ c ≠ 'E' := by
          constructor
          all_goals
            rintro rfl
            exact absurd (follows _ rfl) (by decide)
        simp [takeExponent, no_letter]
  | some exponent =>
    have taken := takeDigits_chars exponent.digits follows.noDigit
    have by_letter : ∀ c : Char, (c == 'e' || c == 'E') = true →
        takeExponent (.scalar c :: (exponent.signChars.map .scalar ++
          (exponent.digits.chars.map .scalar ++ rest))) =
          some (exponent.sign.getD false, exponent.digits.values, rest) := by
      intro c is_letter
      rw [takeExponent, if_pos is_letter, takeSign_chars]
      simp only [taken]
      rfl
    cases capital : exponent.capital <;>
      simpa [Decimal.exponentChars, is_exponent, Exponent.chars, capital] using by_letter _ rfl

-- What stands behind the pieces of a number goes on with no digit, and with no point unless there
-- is a fraction.

theorem noDigit_exponentChars (decimal : Decimal) (follows : FollowsValue rest) :
    NoDigit (decimal.exponentChars.map .scalar ++ rest) := by
  cases is_exponent : decimal.exponent with
  | none => simpa [Decimal.exponentChars, is_exponent] using follows.noDigit
  | some exponent =>
    cases capital : exponent.capital <;>
      simp [Decimal.exponentChars, is_exponent, Exponent.chars, capital, NoDigit] <;> rfl

theorem noDigit_fractionChars (decimal : Decimal) (ends : NoDigit rest) :
    NoDigit (decimal.fractionChars.map .scalar ++ rest) := by
  cases is_fraction : decimal.fraction with
  | none => simpa [Decimal.fractionChars, is_fraction] using ends
  | some digits => simp [Decimal.fractionChars, is_fraction, NoDigit]; rfl

theorem exponentChars_ne_point (decimal : Decimal) (follows : FollowsValue rest) (after : Text) :
    decimal.exponentChars.map .scalar ++ rest ≠ .scalar '.' :: after := by
  cases is_exponent : decimal.exponent with
  | none =>
    simp only [Decimal.exponentChars, is_exponent, Option.elim, List.map_nil, List.nil_append]
    rintro rfl
    exact absurd (follows _ rfl) (by decide)
  | some exponent =>
    cases capital : exponent.capital <;>
      simp [Decimal.exponentChars, is_exponent, Exponent.chars, capital]

theorem finishNumeral_chars (decimal : Decimal) (follows : FollowsValue rest) :
    finishNumeral decimal.negative decimal.whole.values
        (decimal.fractionChars.map .scalar ++ (decimal.exponentChars.map .scalar ++ rest)) =
      (decimal.numeral, rest) := by
  rw [finishNumeral, takeFraction_chars decimal (noDigit_exponentChars decimal follows)
    (exponentChars_ne_point decimal follows)]
  cases is_fraction : decimal.fraction with
  | none =>
    have same : decimal.fractionChars = [] := by simp [Decimal.fractionChars, is_fraction]
    simp only [same, Option.map_none, List.map_nil, List.nil_append,
      takeExponent_chars decimal follows]
    cases is_exponent : decimal.exponent with
    | none => simp [Decimal.numeral, is_fraction, is_exponent, Decimal.exponentChars]
    | some exponent => simp [Decimal.numeral, is_fraction, is_exponent]
  | some digits =>
    simp only [Option.map_some, takeExponent_chars decimal follows]
    cases is_exponent : decimal.exponent with
    | none => simp [Decimal.numeral, is_fraction, is_exponent, Decimal.exponentChars]
    | some exponent => simp [Decimal.numeral, is_fraction, is_exponent]

theorem takeNumeral_chars (decimal : Decimal) (follows : FollowsValue rest) :
    takeNumeral (decimal.chars.map .scalar ++ rest) = some (decimal.numeral, rest) := by
  have ends := noDigit_fractionChars decimal (noDigit_exponentChars decimal follows)
  have taken := takeWhole_chars decimal ends
  have finished := finishNumeral_chars decimal follows
  cases negative : decimal.negative with
  | true =>
    rw [negative] at finished
    simp [Decimal.chars, negative, takeNumeral, taken, finished]
  | false =>
    rw [negative] at finished
    simp only [Decimal.chars, negative, Bool.false_eq_true, if_false, List.nil_append,
      List.map_append, List.append_assoc]
    rw [takeNumeral]
    · simp [taken, finished]
    · simp [Digits.chars, Digits.all, digitChar_ne_sign]

theorem takeWord_digit (digit : Fin 10) :
    takeWord (.scalar (Nat.digitChar digit.val) :: rest) = none ∧
      takeWord (.scalar '-' :: .scalar (Nat.digitChar digit.val) :: rest) = none := by
  fin_cases digit <;> exact ⟨rfl, rfl⟩

/-- A number is not taken for the beginning of another value. -/
theorem readValue_number (decimal : Decimal) (fuel room : Nat) :
    readValue (fuel + 1) room (decimal.chars.map .scalar ++ rest) =
      readNumber (decimal.chars.map .scalar ++ rest) := by
  have begins : ∀ t : Text, takeWord t = none →
      (∀ after, t ≠ .scalar '"' :: after ∧ t ≠ .scalar '[' :: after ∧ t ≠ .scalar '\x7b' :: after) →
      readValue (fuel + 1) room t = readNumber t := by
    intro t no_word visible
    rw [readValue, no_word]
    · exact fun after => (visible after).1
    · exact fun after => (visible after).2.1
    · exact fun after => (visible after).2.2
  have no_mark : ∀ digit : Fin 10, Nat.digitChar digit.val ≠ '"' ∧ Nat.digitChar digit.val ≠ '[' ∧
      Nat.digitChar digit.val ≠ '\x7b' := by
    decide
  apply begins
  · cases negative : decimal.negative <;>
      simp [Decimal.chars, negative, Digits.chars, Digits.all, takeWord_digit]
  · intro after
    cases negative : decimal.negative <;>
      simp [Decimal.chars, negative, Digits.chars, Digits.all, no_mark]

/-- A number is read if it is none with too many digits. -/
theorem readNumber_chars (decimal : Decimal) (follows : FollowsValue rest)
    (short : decimal.numeral.isFloat = false → decimal.numeral.whole.length ≤ digitLimit) :
    readNumber (decimal.chars.map .scalar ++ rest) = .ok (decimal.numeral.value, rest) := by
  rw [readNumber, takeNumeral_chars decimal follows]
  have no_fault :
      ¬ (!decimal.numeral.isFloat && digitLimit < decimal.numeral.whole.length) = true := by
    simpa using short
  simp [no_fault]

theorem readNumber_of_long (decimal : Decimal) (follows : FollowsValue rest)
    (whole : decimal.numeral.isFloat = false) (long : digitLimit < decimal.numeral.whole.length) :
    ∃ left, readNumber (decimal.chars.map .scalar ++ rest) =
      .error ⟨.tooManyDigits decimal.numeral.whole.length, left⟩ := by
  rw [readNumber, takeNumeral_chars decimal follows]
  have fault : (!decimal.numeral.isFloat && digitLimit < decimal.numeral.whole.length) = true := by
    simpa [whole] using long
  simp [fault, fail]

end TextReader

end Numbers

/-! ### Values -/

/-- Text that begins with a visible character of ASCII which closes nothing. -/
structure Begins (t : Text) (first : Letter) : Prop where
  head : t.head? = some first
  visible : isSpace first.code = false
  ascii : first.code < 0x80
  no_bracket : first ≠ .scalar ']'
  no_brace : first ≠ .scalar '\x7d'

theorem Begins.append {t : Text} {first : Letter} (begins : Begins t first) (rest : Text) :
    Begins (t ++ rest) first := by
  refine ⟨?_, begins.visible, begins.ascii, begins.no_bracket, begins.no_brace⟩
  simp [begins.head]

theorem Begins.skipSpace {t : Text} {first : Letter} (begins : Begins t first) :
    skipSpace t = t := by
  obtain ⟨others, rfl⟩ := List.head?_eq_some_iff.mp begins.head
  exact skipSpace_visible begins.visible

theorem Begins.ne_bracket {t : Text} {first : Letter} (begins : Begins t first) (after : Text) :
    t ≠ .scalar ']' :: after := by
  rintro rfl
  exact begins.no_bracket (Option.some_inj.mp begins.head).symm

theorem Begins.ne_brace {t : Text} {first : Letter} (begins : Begins t first) (after : Text) :
    t ≠ .scalar '\x7d' :: after := by
  rintro rfl
  exact begins.no_brace (Option.some_inj.mp begins.head).symm

theorem begins_digit (digit : Fin 10) (rest : Text) :
    Begins (.scalar (Nat.digitChar digit.val) :: rest) (.scalar (Nat.digitChar digit.val)) := by
  have each : ∀ digit : Fin 10, isSpace (Nat.digitChar digit.val).toNat = false ∧
      (Nat.digitChar digit.val).toNat < 0x80 := by
    decide
  exact ⟨rfl, (each digit).1, (each digit).2, by simp, by simp⟩

theorem Spelling.begins (spelling : Spelling) : ∃ first, Begins spelling.text first := by
  cases spelling with
  | number decimal =>
    cases negative : decimal.negative with
    | true =>
      have head : (text (.number decimal)).head? = some (.scalar '-') := by
        simp [text, Decimal.chars, negative]
      exact ⟨_, head, rfl, by decide, by decide, by decide⟩
    | false =>
      simp only [text, Decimal.chars, negative, Digits.chars, Digits.all]
      exact ⟨_, begins_digit decimal.whole.first _⟩
  | bool value => cases value <;> exact ⟨_, rfl, rfl, by decide, by decide, by decide⟩
  | _ => exact ⟨_, rfl, rfl, by decide, by decide, by decide⟩

theorem Items.begins (items : Items) : ∃ first, Begins items.text first := by
  cases items with
  | last item after =>
    obtain ⟨first, begins⟩ := item.begins
    exact ⟨first, begins.append _⟩
  | more item after before rest =>
    obtain ⟨first, begins⟩ := item.begins
    exact ⟨first, begins.append _⟩

theorem Members.begins (members : Members) : ∃ first, Begins members.text first := by
  cases members with
  | last key value after => exact ⟨_, rfl, rfl, by decide, by decide, by decide⟩
  | more key value after before rest => exact ⟨_, rfl, rfl, by decide, by decide, by decide⟩

theorem Spelling.length_text_pos (spelling : Spelling) : 0 < spelling.text.length := by
  obtain ⟨first, begins⟩ := spelling.begins
  obtain ⟨others, same⟩ := List.head?_eq_some_iff.mp begins.head
  simp [same]

/-! ### Limits -/

/-- A whole number that is not too long. Floating-point numbers may be as long as they like. -/
def Decimal.IsShort (decimal : Decimal) : Prop :=
  decimal.numeral.isFloat = false → decimal.numeral.whole.length ≤ digitLimit

/-- A part of a text is within the limits, where `room` containers may be opened. -/
structure Extent.Legible (room : Nat) (extent : Extent) : Prop where
  opened_le : extent.opened ≤ room
  short : ∀ decimal ∈ extent.decimals, decimal.IsShort

namespace Extent
variable {room : Nat} {extent first second : Extent}

theorem legible_beside :
    (first.beside second).Legible room ↔ first.Legible room ∧ second.Legible room := by
  constructor
  · rintro ⟨opened_le, short⟩
    obtain ⟨first_opened, second_opened⟩ := Nat.max_le.mp opened_le
    obtain ⟨first_short, second_short⟩ := List.forall_mem_append.mp short
    exact ⟨⟨first_opened, first_short⟩, ⟨second_opened, second_short⟩⟩
  · rintro ⟨first, second⟩
    exact ⟨Nat.max_le.mpr ⟨first.opened_le, second.opened_le⟩,
      List.forall_mem_append.mpr ⟨first.short, second.short⟩⟩

theorem not_legible_inside : ¬ extent.inside.Legible 0 := by
  rintro ⟨opened_le, -⟩
  cases opened_le

theorem legible_inside : extent.inside.Legible (room + 1) ↔ extent.Legible room := by
  constructor
  · rintro ⟨opened_le, short⟩
    exact ⟨Nat.le_of_succ_le_succ opened_le, short⟩
  · rintro ⟨opened_le, short⟩
    exact ⟨Nat.succ_le_succ opened_le, short⟩

theorem legible_strings {strings : List (List Glyph)} : Extent.Legible room { strings } :=
  ⟨Nat.zero_le room, nofun⟩

theorem legible_opened : Extent.Legible room { opened := 1 } ↔ 0 < room :=
  ⟨Legible.opened_le, fun some_room => ⟨some_room, nofun⟩⟩

theorem legible_decimal {decimal : Decimal} :
    Extent.Legible room { decimals := [decimal] } ↔ decimal.IsShort :=
  ⟨fun legible => legible.short decimal List.mem_cons_self,
    fun short => ⟨Nat.zero_le room, by simpa using short⟩⟩

end Extent

/-! ### Values -/

section Values
variable {rest : Text} {fuel room : Nat}

namespace TextReader

theorem decides_readNumber (decimal : Decimal) (follows : FollowsValue rest) :
    Decides decimal.IsShort (decimal.numeral.value, rest)
      (readNumber (decimal.chars.map .scalar ++ rest)) := by
  by_cases short : decimal.IsShort
  · rw [readNumber_chars decimal follows short]
    exact .ok short
  · obtain ⟨whole, long⟩ : decimal.numeral.isFloat = false ∧
        digitLimit < decimal.numeral.whole.length := by
      simpa [Decimal.IsShort] using short
    obtain ⟨left, failed⟩ := readNumber_of_long decimal follows whole long
    rw [failed]
    exact short

theorem readValue_null :
    readValue (fuel + 1) room (Spelling.text .null ++ rest) = .ok (.null, rest) := rfl

theorem readValue_bool (value : Bool) :
    readValue (fuel + 1) room (Spelling.text (.bool value) ++ rest) = .ok (.bool value, rest) := by
  cases value <;> rfl

theorem readValue_string (glyphs : List Glyph) :
    readValue (fuel + 1) room (Spelling.text (.string glyphs) ++ rest) =
      .ok (.string (lettersOf glyphs), rest) := by
  simp only [Spelling.text, List.cons_append]
  rw [readValue, readString_glyphText]
  rfl

theorem decides_readValue_emptyArray (inside : List Blank) :
    Decides (0 < room) (.array [], rest)
      (readValue (fuel + 1) room (Spelling.text (.emptyArray inside) ++ rest)) := by
  cases room with
  | zero => exact Nat.lt_irrefl 0
  | succ room =>
    simp [Spelling.text, readValue, skipSpace_blankText, Decides]

theorem decides_readValue_emptyObject (inside : List Blank) :
    Decides (0 < room) (.object [], rest)
      (readValue (fuel + 1) room (Spelling.text (.emptyObject inside) ++ rest)) := by
  cases room with
  | zero => exact Nat.lt_irrefl 0
  | succ room =>
    simp [Spelling.text, readValue, skipSpace_blankText, Decides]

/-- A container is opened if there is room for it, and then its items have the room that is left. -/
theorem decides_readValue_array {result : Json × Text} (before : List Blank) (items : Items)
    (decides : ∀ room, Decides (items.extent.Legible room) result
      (readItems fuel room [] (items.text ++ .scalar ']' :: rest))) :
    Decides (items.extent.inside.Legible room) result
      (readValue (fuel + 1) room (Spelling.text (.array before items) ++ rest)) := by
  cases room with
  | zero => exact Extent.not_legible_inside
  | succ room =>
    apply Decides.congr _ Extent.legible_inside.symm
    obtain ⟨first, begins⟩ := items.begins
    have opens := begins.append (.scalar ']' :: rest)
    simp only [Spelling.text, readValue, List.cons_append, List.append_assoc, List.nil_append,
      skipSpace_blankText, opens.skipSpace]
    split
    next after closed => exact absurd closed (opens.ne_bracket after)
    next => exact decides room

theorem decides_readValue_object {result : Json × Text} (before : List Blank) (members : Members)
    (decides : ∀ room, Decides (members.extent.Legible room) result
      (readMembers fuel room [] (members.text ++ .scalar '\x7d' :: rest))) :
    Decides (members.extent.inside.Legible room) result
      (readValue (fuel + 1) room (Spelling.text (.object before members) ++ rest)) := by
  cases room with
  | zero => exact Extent.not_legible_inside
  | succ room =>
    apply Decides.congr _ Extent.legible_inside.symm
    obtain ⟨first, begins⟩ := members.begins
    have opens := begins.append (.scalar '\x7d' :: rest)
    simp only [Spelling.text, readValue, List.cons_append, List.append_assoc, List.nil_append,
      skipSpace_blankText, opens.skipSpace]
    split
    next after closed => exact absurd closed (opens.ne_brace after)
    next => exact decides room

section Containers
variable {t : Text} {condition others : Prop} {result : Json × Text} (after before : List Blank)
  {first other : Letter}

/-- An item that is read is followed by the end of the array or by another item. -/
theorem decides_readItems_last {item : Json} {done : List Json}
    (decides : Decides condition (item, blankText after ++ .scalar ']' :: rest)
      (readValue fuel room t)) :
    Decides condition (.array (done.reverse ++ [item]), rest)
      (readItems (fuel + 1) room done t) := by
  rw [readItems]
  apply decides.bind_ok
  intro _
  simp [skipSpace_blankText]

theorem decides_readItems_more {item : Json} {done : List Json} (begins : Begins rest first)
    (decides : Decides condition
      (item, blankText after ++ .scalar ',' :: (blankText before ++ rest)) (readValue fuel room t))
    (decides_others : Decides others result (readItems fuel room (item :: done) rest)) :
    Decides (condition ∧ others) result (readItems (fuel + 1) room done t) := by
  rw [readItems]
  apply decides.bind
  intro _
  simpa [skipSpace_blankText, begins.skipSpace] using decides_others

theorem text_key (key : Key) (t : Text) : key.text ++ t =
    .scalar '"' :: (glyphText key.glyphs ++
      (blankText key.before ++ .scalar ':' :: (blankText key.after ++ t))) := by
  simp [Key.text]

/-- A key is read in any case, so that its value decides what becomes of the member. -/
theorem decides_readString (opening : Nat) (glyphs : List Glyph) :
    Decides True (lettersOf glyphs, t) (readString opening [] (glyphText glyphs ++ t)) := by
  rw [readString_glyphText]
  exact .ok trivial

theorem decides_readMembers_last {key : Key} {value : Json} {done : List (Text × Json)}
    (begins : Begins t first)
    (decides : Decides condition (value, blankText after ++ .scalar '\x7d' :: rest)
      (readValue fuel room t)) :
    Decides condition (.object (put (lettersOf key.glyphs) value done), rest)
      (readMembers (fuel + 1) room done (key.text ++ t)) := by
  rw [text_key, readMembers, ← true_and condition]
  apply (decides_readString _ key.glyphs).bind
  intro _
  simp only [skipSpace_blankText, skipSpace_colon, begins.skipSpace]
  apply decides.bind_ok
  intro _
  simp [skipSpace_blankText]

theorem decides_readMembers_more {key : Key} {value : Json} {done : List (Text × Json)}
    (begins : Begins t first) (begins_rest : Begins rest other)
    (decides : Decides condition
      (value, blankText after ++ .scalar ',' :: (blankText before ++ rest)) (readValue fuel room t))
    (decides_others : Decides others result
      (readMembers fuel room (put (lettersOf key.glyphs) value done) rest)) :
    Decides (condition ∧ others) result (readMembers (fuel + 1) room done (key.text ++ t)) := by
  rw [text_key, readMembers, ← true_and (condition ∧ others)]
  apply (decides_readString _ key.glyphs).bind
  intro _
  simp only [skipSpace_blankText, skipSpace_colon, begins.skipSpace]
  apply decides.bind
  intro _
  simpa [skipSpace_blankText, begins_rest.skipSpace] using decides_others

end Containers

end TextReader

end Values

-- By structure, for whatever follows: the rest of a value is what stands between it and the next
-- one.

mutual

/-- The reading of a value, with as much fuel as it has letters, decides whether it is within the
limits. -/
theorem Spelling.decides_readValue_text (spelling : Spelling) {fuel room : Nat} {rest : Text}
    (follows : FollowsValue rest) (enough : spelling.text.length ≤ fuel) :
    Decides (spelling.extent.Legible room) (spelling.value, rest)
      (readValue fuel room (spelling.text ++ rest)) := by
  have some_fuel : fuel ≠ 0 := by have := spelling.length_text_pos; omega
  obtain ⟨fuel, rfl⟩ := Nat.exists_eq_succ_of_ne_zero some_fuel
  match spelling with
  | .null =>
    rw [readValue_null]
    exact .ok Extent.legible_strings
  | .bool value =>
    rw [readValue_bool]
    exact .ok Extent.legible_strings
  | .number decimal =>
    rw [Spelling.text, readValue_number]
    exact (decides_readNumber decimal follows).congr Extent.legible_decimal.symm
  | .string glyphs =>
    rw [readValue_string]
    exact .ok Extent.legible_strings
  | .emptyArray inside =>
    exact (decides_readValue_emptyArray inside).congr Extent.legible_opened.symm
  | .emptyObject inside =>
    exact (decides_readValue_emptyObject inside).congr Extent.legible_opened.symm
  | .array before items =>
    simp only [Spelling.text, List.length_cons, List.length_append] at enough
    exact decides_readValue_array before items fun _ => items.decides_readItems_text (by omega)
  | .object before members =>
    simp only [Spelling.text, List.length_cons, List.length_append] at enough
    exact decides_readValue_object before members fun _ =>
      members.decides_readMembers_text (by omega)

theorem Items.decides_readItems_text (items : Items) {fuel room : Nat} {done : List Json}
    {rest : Text} (enough : items.text.length < fuel) :
    Decides (items.extent.Legible room) (.array (done.reverse ++ items.values), rest)
      (readItems fuel room done (items.text ++ .scalar ']' :: rest)) := by
  obtain ⟨fuel, rfl⟩ := Nat.exists_eq_succ_of_ne_zero (Nat.ne_zero_of_lt enough)
  match items with
  | .last item after =>
    simp only [Items.text, List.length_append] at enough
    have follows : FollowsValue (.scalar ']' :: rest) := .cons (by decide)
    rw [Items.text, List.append_assoc]
    exact decides_readItems_last after
      (item.decides_readValue_text (follows.blankText_append after) (by omega))
  | .more item after before others =>
    simp only [Items.text, List.length_append, List.length_cons] at enough
    obtain ⟨first, begins⟩ := others.begins
    have follows : FollowsValue
        (.scalar ',' :: (blankText before ++ (others.text ++ .scalar ']' :: rest))) :=
      .cons (by decide)
    have decides_others : Decides (others.extent.Legible room)
        (.array (done.reverse ++ Items.values (.more item after before others)), rest)
        (readItems fuel room (item.value :: done) (others.text ++ .scalar ']' :: rest)) := by
      rw [Items.values, ← List.singleton_append, ← List.append_assoc, ← List.reverse_cons]
      exact others.decides_readItems_text (by omega)
    rw [Items.text, List.append_assoc, List.append_assoc, List.cons_append, List.append_assoc]
    exact (decides_readItems_more after before (begins.append _)
      (item.decides_readValue_text (follows.blankText_append after) (by omega))
        decides_others).congr
        Extent.legible_beside.symm

theorem Members.decides_readMembers_text (members : Members) {fuel room : Nat}
    {done : List (Text × Json)} {rest : Text} (enough : members.text.length < fuel) :
    Decides (members.extent.Legible room)
      (.object (members.entries.foldl (fun done (key, value) => put key value done) done), rest)
      (readMembers fuel room done (members.text ++ .scalar '\x7d' :: rest)) := by
  obtain ⟨fuel, rfl⟩ := Nat.exists_eq_succ_of_ne_zero (Nat.ne_zero_of_lt enough)
  match members with
  | .last key value after =>
    simp only [Members.text, List.length_append] at enough
    obtain ⟨first, begins⟩ := value.begins
    have follows : FollowsValue (.scalar '\x7d' :: rest) := .cons (by decide)
    rw [Members.text, List.append_assoc, List.append_assoc]
    refine (decides_readMembers_last after (begins.append _)
      (value.decides_readValue_text (follows.blankText_append after) (by omega))).congr ?_
    simp only [Members.extent, Key.extent, Extent.legible_beside, Extent.legible_strings, true_and]
  | .more key value after before others =>
    simp only [Members.text, List.length_append, List.length_cons] at enough
    obtain ⟨first, begins⟩ := value.begins
    obtain ⟨other, begins_others⟩ := others.begins
    have follows : FollowsValue
        (.scalar ',' :: (blankText before ++ (others.text ++ .scalar '\x7d' :: rest))) :=
      .cons (by decide)
    rw [Members.text, List.append_assoc, List.append_assoc, List.append_assoc, List.cons_append,
      List.append_assoc]
    refine (decides_readMembers_more after before (begins.append _) (begins_others.append _)
      (value.decides_readValue_text (follows.blankText_append after) (by omega))
      (others.decides_readMembers_text (by omega))).congr ?_
    simp only [Members.extent, Key.extent, Extent.legible_beside, Extent.legible_strings, true_and]

end

/-! ### Texts -/

namespace Writing
variable {writing : Writing}

/-- A text begins with a blank or with the first letter of its value, and so with ASCII. -/
theorem exists_first (writing : Writing) :
    ∃ first others, writing.text = first :: others ∧ first.code < 0x80 := by
  obtain ⟨blanks, spelling, after⟩ := writing
  cases blanks with
  | cons blank blanks => exact ⟨blank.letter, _, rfl, by cases blank <;> decide⟩
  | nil =>
    obtain ⟨first, begins⟩ := spelling.begins
    obtain ⟨others, same⟩ := List.head?_eq_some_iff.mp (begins.append (blankText after)).head
    exact ⟨first, others, same, begins.ascii⟩

/-- The reader of letters takes a text exactly if it is within the limits. -/
theorem decides_readDecoded (writing : Writing) (room : Nat) :
    Decides (writing.spelling.extent.Legible room) writing.value
      (readDecoded room writing.text) := by
  obtain ⟨first, begins⟩ := writing.spelling.begins
  have start : skipSpace writing.text = writing.spelling.text ++ blankText writing.after := by
    rw [text, skipSpace_blankText, (begins.append _).skipSpace]
  have skipped : skipSpace (blankText writing.after) = [] := by
    have skips := @skipSpace_blankText [] writing.after
    rwa [List.append_nil] at skips
  have follows : FollowsValue (blankText writing.after) := by
    have ends := FollowsValue.nil.blankText_append writing.after
    rwa [List.append_nil] at ends
  have enough : writing.spelling.text.length ≤ 2 * writing.text.length + 2 := by
    simp only [text, List.length_append]
    omega
  rw [readDecoded, start]
  apply (writing.spelling.decides_readValue_text follows enough).bind_ok
  intro _
  simp only [skipped]
  rfl

/-- No text begins with a byte order mark. -/
theorem readText_eq (writing : Writing) (room : Nat) :
    readText room writing.text = readDecoded room writing.text := by
  obtain ⟨first, others, same, ascii⟩ := writing.exists_first
  rw [readText]
  rintro rest marked
  cases same.symm.trans marked
  exact absurd ascii (by decide)

end Writing

end PageScheme.Json
