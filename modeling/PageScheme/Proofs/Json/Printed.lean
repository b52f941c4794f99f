import PageScheme.Json.Printing
import PageScheme.Proofs.Json.Depth
import PageScheme.Proofs.Json.Letters
import PageScheme.Proofs.Json.Members

/-!
# Values are read as they were printed

What is read from a page is made of null, strings, arrays and objects. A value of these is portable
if no object in it has a key twice and every string is read as it was written. What is printed for a
portable value is one of the ways to write it (`IsPortable.isSpelled`), so that a file is read as
the value that was printed to it, where there is room for the value (`IsPortable.read_printed`).
-/
namespace PageScheme.Json

/-- A value of null, joined texts, arrays and objects, where no object has a key twice. -/
inductive IsPortable : Json → Prop
  | null : IsPortable null
  | string {t : Text} : t.IsJoined → IsPortable (string t)
  | array {items : List Json} : (∀ item ∈ items, IsPortable item) → IsPortable (array items)
  | object {members : List (Text × Json)} : (members.map Prod.fst).Nodup →
      (∀ member ∈ members, member.1.IsJoined) → (∀ member ∈ members, IsPortable member.2) →
      IsPortable (object members)

section Equations

@[simp] theorem isPortable_string {t : Text} : (string t).IsPortable ↔ t.IsJoined :=
  ⟨fun | .string joined => joined, .string⟩

@[simp] theorem isPortable_array {items : List Json} :
    (array items).IsPortable ↔ ∀ item ∈ items, item.IsPortable :=
  ⟨fun | .array each => each, .array⟩

theorem isPortable_object {members : List (Text × Json)} :
    (object members).IsPortable ↔ (members.map Prod.fst).Nodup ∧
      (∀ member ∈ members, member.1.IsJoined) ∧ ∀ member ∈ members, member.2.IsPortable :=
  ⟨fun | .object distinct joined each => ⟨distinct, joined, each⟩,
    fun ⟨distinct, joined, each⟩ => .object distinct joined each⟩

/-- Keys without lone surrogates are always read as they were written. -/
@[simp] theorem isPortable_ofMembers {members : List (String × Json)} :
    (ofMembers members).IsPortable ↔
      (members.map Prod.fst).Nodup ∧ ∀ member ∈ members, member.2.IsPortable := by
  have distinct : ((members.map Prod.fst).map Text.ofString).Nodup ↔
      (members.map Prod.fst).Nodup :=
    List.nodup_map_iff fun _ _ => Text.ofString_injective
  rw [ofMembers, isPortable_object, ← distinct, List.map_map, List.map_map, List.forall_mem_map,
    List.forall_mem_map]
  apply and_congr_right'
  simp [Text.isJoined_ofString]

theorem isPortable_nested (count : Nat) : (nested count).IsPortable := by
  induction count with
  | zero => exact .null
  | succ count ih => exact .array (by simpa using ih)

end Equations

/-! ### The layout -/

theorem indentedItems_eq_map (level : Nat) (items : List Json) :
    indentedItems level items = items.map (indentedChars level) := by
  induction items with
  | nil => rfl
  | cons item rest ih => rw [indentedItems, ih, List.map_cons]

/-- A member on a line of its own. -/
def indentedMember (level : Nat) (member : Text × Json) : List Char :=
  writtenText member.1 ++ ':' :: ' ' :: member.2.indentedChars level

theorem indentedMembers_eq_map (level : Nat) (members : List (Text × Json)) :
    indentedMembers level members = members.map (indentedMember level) := by
  induction members with
  | nil => rfl
  | cons member rest ih => rw [indentedMembers, ih, List.map_cons, indentedMember]

/-- What stands between the lines of a container. -/
def lineEnd (level : Nat) : List Char := ',' :: newLine (level + 1)

/-- The pieces of a container with what stands between and behind them. -/
def lines (level : Nat) (pieces : List (List Char)) : List Char :=
  (lineEnd level).intercalate pieces ++ newLine level

theorem block_cons (opening closing : Char) (level : Nat) (piece : List Char)
    (pieces : List (List Char)) :
    block opening closing level (piece :: pieces) =
      opening :: (newLine (level + 1) ++ (lines level (piece :: pieces) ++ [closing])) := by
  simp [block, lines, lineEnd]

section Lines
variable (level : Nat) (piece next : List Char) (pieces : List (List Char))

theorem lines_singleton : lines level [piece] = piece ++ newLine level := by
  rw [lines, List.intercalate_singleton]

theorem lines_cons_cons : lines level (piece :: next :: pieces) =
    piece ++ ',' :: (newLine (level + 1) ++ lines level (next :: pieces)) := by
  simp [lines, lineEnd, List.intercalate_cons_cons]

end Lines

/-- The blanks of a new line. -/
def lineBlanks (level : Nat) : List Blank := .lineFeed :: List.replicate (2 * level) .space

theorem blankText_lineBlanks (level : Nat) :
    blankText (lineBlanks level) = (newLine level).map .scalar := by
  simp [blankText, lineBlanks, newLine, Blank.letter]

/-! ### Escapes of units -/

theorem hexDigits_succ {width n : Nat} (some_digit : 0 < width) :
    Text.hexDigits (width + 1) n =
      Text.hexDigits width (n / 0x10) ++ [Nat.digitChar (n % 0x10)] := by
  rw [Text.hexDigits, Text.hexDigits, Nat.toDigits_eq_if (by decide)]
  split
  next small =>
    have no_rest : n / 0x10 = 0 := Nat.div_eq_of_lt small
    obtain ⟨zeros, rfl⟩ := Nat.exists_eq_succ_of_ne_zero some_digit.ne'
    simp [no_rest, Nat.mod_eq_of_lt small, Nat.digitChar, List.replicate_succ']
  next => simp

/-- The four digits of a unit. -/
theorem hexDigits_four {n : Nat} (small : n < 0x10000) :
    Text.hexDigits 4 n = [Nat.digitChar (n / 0x1000), Nat.digitChar (n / 0x100 % 0x10),
      Nat.digitChar (n / 0x10 % 0x10), Nat.digitChar (n % 0x10)] := by
  have first : Text.hexDigits 1 (n / 0x1000) = [Nat.digitChar (n / 0x1000)] := by
    rw [Text.hexDigits, Nat.toDigits_of_lt_base (by omega)]
    rfl
  rw [hexDigits_succ (by decide), hexDigits_succ (by decide), hexDigits_succ (by decide)]
  simp only [Nat.div_div_eq_div_mul, Nat.reduceMul, first, List.cons_append, List.nil_append]

/-- The escape of a unit as it is printed. -/
def UnitEscape.printed (n : Nat) : UnitEscape where
  first := ⟨Fin.ofNat 16 (n / 0x1000), false⟩
  second := ⟨Fin.ofNat 16 (n / 0x100), false⟩
  third := ⟨Fin.ofNat 16 (n / 0x10), false⟩
  fourth := ⟨Fin.ofNat 16 n, false⟩

theorem UnitEscape.code_printed {n : Nat} (small : n < 0x10000) : (printed n).code = n := by
  simp only [printed, code, Fin.val_ofNat]
  omega

theorem UnitEscape.chars_printed {n : Nat} (small : n < 0x10000) :
    (printed n).chars = Text.escapeUnit n := by
  have first : n / 0x1000 % 16 = n / 0x1000 := by omega
  rw [Text.escapeUnit, hexDigits_four small]
  simp [chars, digits, printed, HexDigit.char, first]

/-! ### Strings -/

/-- The units of a character beyond the first plane are the halves of a pair that make it up. -/
theorem pair_of_large {n : Nat} (large : 0x10000 ≤ n) (bounded : n < 0x110000) :
    isHighSurrogate (0xD800 + (n - 0x10000) / 0x400) = true ∧
      isLowSurrogate (0xDC00 + (n - 0x10000) % 0x400) = true ∧
        pairCode (0xD800 + (n - 0x10000) / 0x400) (0xDC00 + (n - 0x10000) % 0x400) = n := by
  rw [isHighSurrogate_iff, isLowSurrogate_iff]
  refine ⟨by omega, by omega, ?_⟩
  unfold pairCode
  omega

/-- The four ways to write a letter. -/
inductive WrittenAs : Letter → List Glyph → Prop
  | literal {letter : Letter} (is_literal : IsLiteral letter) :
      WrittenAs letter [.literal letter is_literal]
  | short (escape : ShortEscape) : WrittenAs (.scalar escape.char) [.short escape]
  | unit (escape : UnitEscape) : WrittenAs (.ofCode escape.code) [.unit escape]
  | pair {high low : UnitEscape} (is_high : isHighSurrogate high.code = true)
      (is_low : isLowSurrogate low.code = true) :
      WrittenAs (.ofCode (pairCode high.code low.code)) [.unit high, .unit low]

theorem exists_unit {letter : Letter} (small : letter.code < 0x10000) :
    ∃ glyphs, WrittenAs letter glyphs ∧
      glyphs.flatMap Glyph.text = (Text.escapeUnit letter.code).map .scalar := by
  refine ⟨[.unit (.printed letter.code)], ?_, ?_⟩
  · have way := WrittenAs.unit (.printed letter.code)
    rwa [UnitEscape.code_printed small, letter.ofCode_code] at way
  · simp [Glyph.text, UnitEscape.chars_printed small]

theorem exists_pair {letter : Letter} {high low : Nat} (is_high : isHighSurrogate high = true)
    (is_low : isLowSurrogate low = true) (together : pairCode high low = letter.code) :
    ∃ glyphs, WrittenAs letter glyphs ∧ glyphs.flatMap Glyph.text =
      (Text.escapeUnit high ++ Text.escapeUnit low).map .scalar := by
  have high_bounds := isHighSurrogate_iff.mp is_high
  have low_bounds := isLowSurrogate_iff.mp is_low
  have small_high : high < 0x10000 := by omega
  have small_low : low < 0x10000 := by omega
  refine ⟨[.unit (.printed high), .unit (.printed low)], ?_, ?_⟩
  · rw [← UnitEscape.code_printed small_high] at is_high
    rw [← UnitEscape.code_printed small_low] at is_low
    have way := WrittenAs.pair is_high is_low
    rwa [UnitEscape.code_printed small_high, UnitEscape.code_printed small_low, together,
      letter.ofCode_code] at way
  · simp [Glyph.text, UnitEscape.chars_printed small_high, UnitEscape.chars_printed small_low]

/-- Every letter is printed in one of these ways. -/
theorem exists_writtenAs (letter : Letter) : ∃ glyphs, WrittenAs letter glyphs ∧
    glyphs.flatMap Glyph.text = (writtenLetter letter).map .scalar := by
  have small_of_lone : ∀ half, (Letter.lone half).code < 0x10000 := by
    intro half
    rw [Letter.code]
    omega
  unfold writtenLetter
  split
  next half => exact exists_unit (small_of_lone half)
  next => exact ⟨_, .short .quotationMark, rfl⟩
  next => exact ⟨_, .short .stroke, rfl⟩
  next => exact ⟨_, .short .lineFeed, rfl⟩
  next => exact ⟨_, .short .carriageReturn, rfl⟩
  next => exact ⟨_, .short .tab, rfl⟩
  next => exact ⟨_, .short .backspace, rfl⟩
  next => exact ⟨_, .short .formFeed, rfl⟩
  next c not_mark not_stroke _ _ _ _ _ =>
    have bounds := Letter.code_scalar_bounds c
    rw [Letter.code] at bounds
    dsimp only
    split
    next visible =>
      simp only [Bool.and_eq_true, decide_eq_true_eq] at visible
      have is_literal : IsLiteral (.scalar c) := ⟨visible.1, by simpa, by simpa⟩
      exact ⟨_, .literal is_literal, rfl⟩
    next =>
      split
      next small => exact exists_unit small
      next large =>
        obtain ⟨is_high, is_low, together⟩ := pair_of_large (Nat.le_of_not_lt large) (by omega)
        exact exists_pair is_high is_low together

namespace WrittenAs
variable {letter : Letter} {glyphs : List Glyph}

/-- What a letter is written as stands for it, unless it is the first half of a pair and its other
half follows. -/
theorem lettersOf_append (way : WrittenAs letter glyphs) {rest : List Glyph}
    (alone : isHighSurrogate letter.code = true → NoHalfFirst rest) :
    lettersOf (glyphs ++ rest) = letter :: lettersOf rest := by
  cases way with
  | literal => rfl
  | short => rfl
  | pair is_high is_low => simp [lettersOf, is_high, is_low]
  | unit escape =>
    have small := escape.code_lt
    rw [Letter.code_ofCode (by omega)] at alone
    cases rest with
    | nil => rfl
    | cons next rest =>
      cases next with
      | literal => rfl
      | short => rfl
      | unit low =>
        have no_pair : ¬ (isHighSurrogate escape.code && isLowSurrogate low.code) = true := by
          rw [Bool.and_eq_true]
          rintro ⟨is_high, is_low⟩
          simp [alone is_high low rest rfl] at is_low
        rw [List.singleton_append, lettersOf, if_neg no_pair]

/-- What a letter is written as cannot be taken for a second half, unless it is one. -/
theorem noHalfFirst (way : WrittenAs letter glyphs) (no_low : isLowSurrogate letter.code = false)
    (rest : List Glyph) : NoHalfFirst (glyphs ++ rest) := by
  intro low after same
  cases way with
  | literal => cases same
  | short => cases same
  | unit escape =>
    have small := escape.code_lt
    cases same
    rwa [Letter.code_ofCode (by omega)] at no_low
  | pair is_high is_low =>
    cases same
    rw [isHighSurrogate_iff] at is_high
    rw [Bool.eq_false_iff, Ne, isLowSurrogate_iff]
    omega

end WrittenAs

/-- A joined text is printed as a string that stands for it. -/
theorem exists_glyphs {t : Text} (joined : t.IsJoined) : ∃ glyphs, lettersOf glyphs = t ∧
    glyphs.flatMap Glyph.text = (t.flatMap writtenLetter).map .scalar ∧
      ((∀ letter ∈ t.head?, isLowSurrogate letter.code = false) → NoHalfFirst glyphs) := by
  induction t with
  | nil => exact ⟨[], rfl, rfl, nofun⟩
  | cons letter t ih =>
    obtain ⟨no_pair, joined_rest⟩ := List.isChain_cons.mp joined
    obtain ⟨others, stands, text, no_half⟩ := ih joined_rest
    obtain ⟨glyphs, way, text_letter⟩ := exists_writtenAs letter
    refine ⟨glyphs ++ others, ?_, ?_, ?_⟩
    · rw [way.lettersOf_append, stands]
      intro is_high
      apply no_half
      intro next is_head
      rw [Bool.eq_false_iff]
      exact fun is_low => no_pair next is_head ⟨is_high, is_low⟩
    · rw [List.flatMap_append, text, text_letter, List.flatMap_cons, List.map_append]
    · intro no_low
      exact way.noHalfFirst (no_low letter rfl) others

/-! ### Values -/

/-- What is printed for a value at a level of indentation is a way to write it. -/
def IsSpelled (level : Nat) (value : Json) : Prop := ∃ spelling : Spelling,
  spelling.text = (value.indentedChars level).map .scalar ∧ spelling.value = value ∧
    spelling.extent.opened = value.depth ∧ spelling.extent.decimals = []

theorem exists_items {level : Nat} {item : Json} {items : List Json}
    (each : ∀ other ∈ item :: items, IsSpelled (level + 1) other) : ∃ spelled : Items,
      spelled.text = (lines level ((item :: items).map (indentedChars (level + 1)))).map .scalar ∧
        spelled.values = item :: items ∧
          spelled.extent.opened = heightOfItems 0 (item :: items) ∧
            spelled.extent.decimals = [] := by
  induction items generalizing item with
  | nil =>
    obtain ⟨spelling, text, value, opened, no_numbers⟩ := each item List.mem_cons_self
    refine ⟨.last spelling (lineBlanks level), ?_, ?_, ?_, no_numbers⟩
    · rw [Items.text, text, blankText_lineBlanks, List.map_singleton, lines_singleton,
        List.map_append]
    · rw [Items.values, value]
    · rw [Items.extent, opened, heightOfItems, heightOfItems, Nat.max_zero]
  | cons next items ih =>
    obtain ⟨is_spelled, each_next⟩ := List.forall_mem_cons.mp each
    obtain ⟨spelling, text, value, opened, no_numbers⟩ := is_spelled
    obtain ⟨others, text_others, values, opened_others, no_more_numbers⟩ := ih each_next
    refine ⟨.more spelling [] (lineBlanks (level + 1)) others, ?_, ?_, ?_, ?_⟩
    · simp only [List.map_cons] at text_others ⊢
      rw [Items.text, text, text_others, blankText_lineBlanks, lines_cons_cons]
      simp [blankText]
    · rw [Items.values, value, values]
    · simp [Items.extent, Extent.beside, opened, opened_others, heightOfItems]
    · simp [Items.extent, Extent.beside, no_numbers, no_more_numbers]

/-- The key of a member, as it is printed. -/
theorem exists_key {t : Text} (joined : t.IsJoined) : ∃ key : Key, lettersOf key.glyphs = t ∧
    key.text = (writtenText t ++ [':', ' ']).map .scalar := by
  obtain ⟨glyphs, stands, text, -⟩ := exists_glyphs joined
  refine ⟨⟨glyphs, [], [.space]⟩, stands, ?_⟩
  simp [Key.text, glyphText, text, writtenText, blankText, Blank.letter]

theorem exists_members {level : Nat} {member : Text × Json} {members : List (Text × Json)}
    (joined : ∀ other ∈ member :: members, other.1.IsJoined)
    (each : ∀ other ∈ member :: members, IsSpelled (level + 1) other.2) : ∃ spelled : Members,
      spelled.text =
        (lines level ((member :: members).map (indentedMember (level + 1)))).map .scalar ∧
        spelled.entries = member :: members ∧
          spelled.extent.opened = heightOfMembers 0 (member :: members) ∧
            spelled.extent.decimals = [] := by
  induction members generalizing member with
  | nil =>
    obtain ⟨key, stands, text_key⟩ := exists_key (joined member List.mem_cons_self)
    obtain ⟨spelling, text, value, opened, no_numbers⟩ := each member List.mem_cons_self
    refine ⟨.last key spelling (lineBlanks level), ?_, ?_, ?_, ?_⟩
    · rw [Members.text, text_key, text, blankText_lineBlanks, List.map_singleton, lines_singleton,
        indentedMember]
      simp
    · rw [Members.entries, stands, value]
    · simp [Members.extent, Key.extent, Extent.beside, opened, heightOfMembers]
    · simp [Members.extent, Key.extent, Extent.beside, no_numbers]
  | cons next members ih =>
    obtain ⟨is_joined, joined_next⟩ := List.forall_mem_cons.mp joined
    obtain ⟨is_spelled, each_next⟩ := List.forall_mem_cons.mp each
    obtain ⟨key, stands, text_key⟩ := exists_key is_joined
    obtain ⟨spelling, text, value, opened, no_numbers⟩ := is_spelled
    obtain ⟨others, text_others, entries, opened_others, no_more_numbers⟩ :=
      ih joined_next each_next
    refine ⟨.more key spelling [] (lineBlanks (level + 1)) others, ?_, ?_, ?_, ?_⟩
    · simp only [List.map_cons] at text_others ⊢
      rw [Members.text, text_key, text, text_others, blankText_lineBlanks, lines_cons_cons]
      simp [indentedMember, blankText]
    · rw [Members.entries, stands, value, entries]
    · simp [Members.extent, Key.extent, Extent.beside, opened, opened_others, heightOfMembers]
    · simp [Members.extent, Key.extent, Extent.beside, no_numbers, no_more_numbers]

theorem put_of_not_mem {α : Type} {key : Text} {members : List (Text × α)} (value : α)
    (fresh : key ∉ members.map Prod.fst) : put key value members = members ++ [(key, value)] := by
  induction members with
  | nil => rfl
  | cons member members ih =>
    simp only [List.map_cons, List.mem_cons, not_or] at fresh
    rw [put, if_neg (Ne.symm fresh.1), ih fresh.2, List.cons_append]

/-- Members with distinct keys are an object as they are. -/
theorem putAll_of_nodup {α : Type} {members : List (Text × α)}
    (distinct : (members.map Prod.fst).Nodup) : putAll members = members := by
  induction members using List.reverseRecOn with
  | nil => rfl
  | append_singleton members member ih =>
    rw [List.map_append, List.nodup_append] at distinct
    obtain ⟨distinct_before, -, apart⟩ := distinct
    rw [putAll_concat, ih distinct_before, put_of_not_mem]
    exact fun before => apart _ before _ (List.mem_singleton_self _) rfl

/-- What is printed for a portable value is a way to write it. -/
theorem IsPortable.isSpelled {value : Json} (portable : value.IsPortable) (level : Nat) :
    IsSpelled level value := by
  induction portable generalizing level with
  | null => exact ⟨.null, rfl, rfl, rfl, rfl⟩
  | string joined =>
    obtain ⟨glyphs, stands, text, -⟩ := exists_glyphs joined
    refine ⟨.string glyphs, ?_, ?_, rfl, rfl⟩
    · simp [Spelling.text, glyphText, text, indentedChars, writtenText]
    · rw [Spelling.value, stands]
  | @array items each ih =>
    rw [IsSpelled, indentedChars, indentedItems_eq_map]
    cases items with
    | nil => exact ⟨.emptyArray [], rfl, rfl, rfl, rfl⟩
    | cons item items =>
      obtain ⟨spelled, text, values, opened, no_numbers⟩ :=
        exists_items fun other listed => ih other listed (level + 1)
      refine ⟨.array (lineBlanks (level + 1)) spelled, ?_, ?_, ?_, no_numbers⟩
      · rw [Spelling.text, text, blankText_lineBlanks, List.map_cons, block_cons]
        simp
      · rw [Spelling.value, values]
      · simp [Spelling.extent, Extent.inside, opened, height]
  | @object members distinct joined each ih =>
    rw [IsSpelled, indentedChars, indentedMembers_eq_map]
    cases members with
    | nil => exact ⟨.emptyObject [], rfl, rfl, rfl, rfl⟩
    | cons member members =>
      obtain ⟨spelled, text, entries, opened, no_numbers⟩ :=
        exists_members joined fun other listed => ih other listed (level + 1)
      refine ⟨.object (lineBlanks (level + 1)) spelled, ?_, ?_, ?_, no_numbers⟩
      · rw [Spelling.text, text, blankText_lineBlanks, List.map_cons, block_cons]
        simp
      · rw [Spelling.value, entries, putAll_of_nodup distinct]
      · simp [Spelling.extent, Extent.inside, opened, height]

/-! ### Files -/

theorem toList_printed (value : Json) :
    (value.indented ++ "\n").toList = value.indentedChars 0 ++ ['\n'] := by
  rw [String.toList_append, indented, String.toList_ofList]
  rfl

/-- A portable value is what a file holds that it was printed to, where there is room to read it. -/
theorem IsPortable.read_printed {value : Json} (portable : value.IsPortable) {room : Nat}
    (fits : value.depth ≤ room) :
    ∃ text, decode (Utf8.encode (value.indented ++ "\n")) = .ok text ∧
      readDecoded room text = .ok value := by
  obtain ⟨spelling, text, rfl, opened, no_numbers⟩ := portable.isSpelled 0
  let writing : Writing := ⟨[], spelling, [.lineFeed]⟩
  have printed : writing.text = Text.ofString (spelling.value.indented ++ "\n") := by
    rw [Text.ofString, toList_printed, List.map_append, ← text]
    rfl
  have legible : spelling.extent.Legible room := ⟨opened.trans_le fits, by simp [no_numbers]⟩
  refine ⟨writing.text, ?_, ?_⟩
  · rw [← Text.bytes_ofString, ← printed]
    exact writing.decode_text
  · exact (writing.decides_readDecoded room).eq_ok legible

end PageScheme.Json
