import PageScheme.Proofs.Json.Decoding
import PageScheme.Proofs.Json.TextReading

/-!
# The letters of a text

A text is written in ASCII, but for the letters that stand for themselves in a string. So it holds
no zero character, which would make the bytes of it look like those of another encoding, and holds a
lone surrogate only if one of its strings does.
-/
namespace PageScheme.Json

def IsAsciiText (c : Char) : Prop := 0 < c.toNat ∧ c.toNat < 0x80

instance (c : Char) : Decidable (IsAsciiText c) := inferInstanceAs (Decidable (_ ∧ _))

/-- A letter of ASCII other than the zero character, or one that stands for itself in a string. -/
def IsWrittenIn (strings : List (List Glyph)) (letter : Letter) : Prop :=
  (0 < letter.code ∧ letter.code < 0x80) ∨
    ∃ glyphs ∈ strings, ∃ is_literal, Glyph.literal letter is_literal ∈ glyphs

section Letters
variable {strings : List (List Glyph)} {t : Text}

theorem isWrittenIn_mono {others : List (List Glyph)} (subset : strings ⊆ others)
    (written : ∀ letter ∈ t, IsWrittenIn strings letter) :
    ∀ letter ∈ t, IsWrittenIn others letter := by
  intro letter member
  rcases written letter member with ascii | ⟨glyphs, listed, stands⟩
  · exact .inl ascii
  · exact .inr ⟨glyphs, subset listed, stands⟩

theorem isWrittenIn_scalar {c : Char} (ascii : IsAsciiText c) : IsWrittenIn strings (.scalar c) :=
  .inl ascii

theorem isWrittenIn_chars {cs : List Char} (ascii : ∀ c ∈ cs, IsAsciiText c) :
    ∀ letter ∈ cs.map Letter.scalar, IsWrittenIn strings letter :=
  List.forall_mem_map.mpr fun c member => isWrittenIn_scalar (ascii c member)

/-- A list of characters at hand is checked one by one. -/
theorem isAsciiText_of_all {cs : List Char} (all_ascii : (cs.all fun c => IsAsciiText c) = true) :
    ∀ c ∈ cs, IsAsciiText c := by
  simpa using all_ascii

theorem isWrittenIn_blankText (blanks : List Blank) :
    ∀ letter ∈ blankText blanks, IsWrittenIn strings letter := by
  rw [blankText, List.forall_mem_map]
  intro blank _
  exact .inl (by cases blank <;> decide)

theorem isAsciiText_unit (unit : UnitEscape) : ∀ c ∈ unit.chars, IsAsciiText c := by
  simp only [UnitEscape.chars, UnitEscape.digits, List.forall_mem_cons]
  exact ⟨by decide, by decide, isAscii_hexDigit _, isAscii_hexDigit _, isAscii_hexDigit _,
    isAscii_hexDigit _, nofun⟩

theorem isWrittenIn_glyphText (glyphs : List Glyph) :
    ∀ letter ∈ glyphText glyphs, IsWrittenIn [glyphs] letter := by
  rw [glyphText, List.forall_mem_append, List.forall_mem_singleton]
  refine ⟨?_, isWrittenIn_scalar (by decide)⟩
  intro letter member
  obtain ⟨glyph, listed, inside⟩ := List.mem_flatMap.mp member
  cases glyph with
  | literal literal is_literal =>
    obtain rfl := List.mem_singleton.mp inside
    exact .inr ⟨glyphs, List.mem_singleton_self _, is_literal, listed⟩
  | short escape =>
    have ascii : (['\\', escape.mark].all fun c => IsAsciiText c) = true := by
      cases escape <;> decide
    exact isWrittenIn_chars (isAsciiText_of_all ascii) letter inside
  | unit escape => exact isWrittenIn_chars (isAsciiText_unit escape) letter inside

theorem isAsciiText_digits (digits : Digits) : ∀ c ∈ digits.chars, IsAsciiText c := by
  have each : ∀ digit : Fin 10, IsAsciiText (Nat.digitChar digit.val) := by decide
  rw [Digits.chars, List.forall_mem_map]
  exact fun digit _ => each digit

theorem isAsciiText_decimal (decimal : Decimal) : ∀ c ∈ decimal.chars, IsAsciiText c := by
  have sign : ∀ negative : Bool, IsAsciiText (if negative then '-' else '+') := by decide
  have letter : ∀ capital : Bool, IsAsciiText (if capital then 'E' else 'e') := by decide
  simp only [Decimal.chars, List.forall_mem_append]
  refine ⟨?_, isAsciiText_digits _, ?_, ?_⟩
  · cases decimal.negative <;> exact isAsciiText_of_all (by decide)
  · cases is_fraction : decimal.fraction with
    | none => simp [Decimal.fractionChars, is_fraction]
    | some digits =>
      simp only [Decimal.fractionChars, is_fraction, Option.elim, List.forall_mem_cons]
      exact ⟨by decide, isAsciiText_digits digits⟩
  · cases is_exponent : decimal.exponent with
    | none => simp [Decimal.exponentChars, is_exponent]
    | some exponent =>
      simp only [Decimal.exponentChars, is_exponent, Option.elim, Exponent.chars,
        List.forall_mem_cons, List.forall_mem_append]
      refine ⟨letter _, ?_, isAsciiText_digits _⟩
      cases is_sign : exponent.sign with
      | none => simp [Exponent.signChars, is_sign]
      | some negative => simpa [Exponent.signChars, is_sign] using sign negative

theorem isWrittenIn_key (key : Key) :
    ∀ letter ∈ key.text, IsWrittenIn key.extent.strings letter := by
  simp only [Key.text, List.forall_mem_append, List.forall_mem_cons]
  exact ⟨⟨isWrittenIn_scalar (by decide), isWrittenIn_glyphText _⟩, isWrittenIn_blankText _,
    isWrittenIn_scalar (by decide), isWrittenIn_blankText _⟩

end Letters

mutual

theorem Spelling.isWrittenIn_text (spelling : Spelling) :
    ∀ letter ∈ spelling.text, IsWrittenIn spelling.extent.strings letter := by
  match spelling with
  | .null => exact isWrittenIn_chars (isAsciiText_of_all (by decide))
  | .bool value => cases value <;> exact isWrittenIn_chars (isAsciiText_of_all (by decide))
  | .number decimal => exact isWrittenIn_chars (isAsciiText_decimal decimal)
  | .string glyphs =>
    rw [Spelling.text, List.forall_mem_cons]
    exact ⟨isWrittenIn_scalar (by decide), isWrittenIn_glyphText glyphs⟩
  | .emptyArray inside | .emptyObject inside =>
    simp only [Spelling.text, List.forall_mem_cons, List.forall_mem_append]
    exact ⟨isWrittenIn_scalar (by decide), isWrittenIn_blankText _,
      isWrittenIn_scalar (by decide), nofun⟩
  | .array before items =>
    simp only [Spelling.text, List.forall_mem_cons, List.forall_mem_append]
    exact ⟨isWrittenIn_scalar (by decide), isWrittenIn_blankText _, items.isWrittenIn_text,
      isWrittenIn_scalar (by decide), nofun⟩
  | .object before members =>
    simp only [Spelling.text, List.forall_mem_cons, List.forall_mem_append]
    exact ⟨isWrittenIn_scalar (by decide), isWrittenIn_blankText _, members.isWrittenIn_text,
      isWrittenIn_scalar (by decide), nofun⟩

theorem Items.isWrittenIn_text (items : Items) :
    ∀ letter ∈ items.text, IsWrittenIn items.extent.strings letter := by
  match items with
  | .last item after =>
    simp only [Items.text, List.forall_mem_append]
    exact ⟨item.isWrittenIn_text, isWrittenIn_blankText _⟩
  | .more item after before others =>
    simp only [Items.text, List.forall_mem_cons, List.forall_mem_append]
    exact ⟨isWrittenIn_mono (List.subset_append_left _ _) item.isWrittenIn_text,
      isWrittenIn_blankText _, isWrittenIn_scalar (by decide), isWrittenIn_blankText _,
      isWrittenIn_mono (List.subset_append_right _ _) others.isWrittenIn_text⟩

theorem Members.isWrittenIn_text (members : Members) :
    ∀ letter ∈ members.text, IsWrittenIn members.extent.strings letter := by
  match members with
  | .last key value after =>
    simp only [Members.text, List.forall_mem_append]
    exact ⟨isWrittenIn_mono (List.subset_append_left _ _) (isWrittenIn_key key),
      isWrittenIn_mono (List.subset_append_right _ _) value.isWrittenIn_text,
        isWrittenIn_blankText _⟩
  | .more key value after before others =>
    let strings := ((key.extent.beside value.extent).beside others.extent).strings
    have in_key : key.extent.strings ⊆ strings :=
      List.subset_append_of_subset_left _ (List.subset_append_left _ _)
    have in_value : value.extent.strings ⊆ strings :=
      List.subset_append_of_subset_left _ (List.subset_append_right _ _)
    simp only [Members.text, List.forall_mem_cons, List.forall_mem_append]
    exact ⟨isWrittenIn_mono in_key (isWrittenIn_key key),
      isWrittenIn_mono in_value value.isWrittenIn_text, isWrittenIn_blankText _,
      isWrittenIn_scalar (by decide), isWrittenIn_blankText _,
      isWrittenIn_mono (List.subset_append_right _ _) others.isWrittenIn_text⟩

end

/-! ### Texts -/

theorem mem_lettersOf {glyphs : List Glyph} {letter : Letter} {is_literal : IsLiteral letter}
    (member : .literal letter is_literal ∈ glyphs) : letter ∈ lettersOf glyphs := by
  fun_induction lettersOf glyphs with
  | case1 => simp at member
  | case2 rest other is_other ih =>
    rcases List.mem_cons.mp member with same | member
    · obtain rfl := (Glyph.literal.injEq ..).mp same
      exact List.mem_cons_self
    · exact List.mem_cons_of_mem _ (ih member)
  | case3 rest escape ih => simp_all
  | case4 rest high low is_pair ih => simp_all
  | case5 rest high low no_pair ih => simp_all
  | case6 rest escape single ih => simp_all

namespace Writing
variable {writing : Writing}

theorem isWrittenIn_text (writing : Writing) :
    ∀ letter ∈ writing.text, IsWrittenIn writing.spelling.extent.strings letter := by
  simp only [text, List.forall_mem_append]
  exact ⟨isWrittenIn_blankText _, writing.spelling.isWrittenIn_text, isWrittenIn_blankText _⟩

/-- A text is decoded as it is, also with lone surrogates. -/
theorem decode_text (writing : Writing) : decode (Text.bytes writing.text) = .ok writing.text := by
  obtain ⟨first, others, same, ascii⟩ := writing.exists_first
  have written := writing.isWrittenIn_text
  rw [same] at written ⊢
  apply decode_bytes ascii
  intro letter member
  rcases written letter member with ⟨no_zero, -⟩ | ⟨-, -, is_literal, -⟩
  · omega
  · have visible := is_literal.visible
    omega

/-- A text is well-formed if its strings are. -/
theorem isWellFormed_text (well_formed : ∀ glyphs ∈ writing.spelling.extent.strings,
    (lettersOf glyphs).isWellFormed = true) : writing.text.isWellFormed = true := by
  rw [Text.isWellFormed, List.all_eq_true]
  intro letter member
  rcases writing.isWrittenIn_text letter member with ⟨-, ascii⟩ |
    ⟨glyphs, listed, is_literal, stands⟩
  · cases letter with
    | scalar c => rfl
    | lone half => rw [Letter.code] at ascii; omega
  · exact List.all_eq_true.mp (well_formed glyphs listed) letter (mem_lettersOf stands)

end Writing

end PageScheme.Json
