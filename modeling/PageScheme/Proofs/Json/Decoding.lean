import PageScheme.Proofs.Json.Escapes
import PageScheme.Proofs.Sequencing

/-!
# UTF-8 there and back

Every letter has a form in bytes, in which a lone surrogate is written as if it were a character
(`Letter.bytes`). What the bytes begin with tells which letter it is (`first_encodeCode`). So a
reader of strings gives back well-formed text and refuses lone surrogates (`Text.decides_decode?`),
while a document is read with every letter that it was written with (`Json.decode_bytes`): it is
taken for UTF-8, since it begins with an ASCII character and holds no zero byte.
-/
namespace PageScheme

def Letter.bytes (letter : Letter) : List UInt8 := Utf8.encodeCode letter.code

def Text.bytes (t : Text) : List UInt8 := t.flatMap Letter.bytes

namespace Utf8

/-! ### Bytes -/

theorem toNat_toUInt8 {n : Nat} (small : n < 0x100) : n.toUInt8.toNat = n := by
  simp only [Nat.toUInt8, UInt8.toNat_ofNat']
  omega

theorem isContinuation_iff {b : UInt8} :
    isContinuation b = true ↔ 0x80 ≤ b.toNat ∧ b.toNat < 0xC0 := by
  simp [isContinuation, UInt8.le_iff_toNat_le, UInt8.lt_iff_toNat_lt]

theorem isContinuation_toUInt8 (n : Nat) : isContinuation (0x80 + n % 0x40).toUInt8 = true := by
  rw [isContinuation_iff, toNat_toUInt8 (by omega)]
  omega

theorem payload_toUInt8 (n : Nat) : payload (0x80 + n % 0x40).toUInt8 = n % 0x40 := by
  rw [payload, toNat_toUInt8 (by omega)]
  omega

/-- A second byte is allowed where the code is neither that of a surrogate nor has a shorter
form. -/
theorem secondAllowed_iff {lead second : UInt8} :
    secondAllowed lead second = true ↔ isContinuation second = true ∧
      (lead.toNat = 0xE0 → 0xA0 ≤ second.toNat) ∧ (lead.toNat = 0xED → second.toNat < 0xA0) ∧
      (lead.toNat = 0xF0 → 0x90 ≤ second.toNat) ∧ (lead.toNat = 0xF4 → second.toNat < 0x90) := by
  have same : ∀ n : UInt8, lead = n ↔ lead.toNat = n.toNat := fun n => UInt8.toNat_inj.symm
  rw [secondAllowed, Bool.and_eq_true]
  apply and_congr_right'
  simp only [beq_iff_eq, same, UInt8.reduceToNat, UInt8.le_iff_toNat_le, UInt8.lt_iff_toNat_lt]
  split_ifs <;> simp <;> omega

/-- What the bytes of a code begin with. -/
def startOf (n length : Nat) : Start :=
  if 0xD800 ≤ n ∧ n < 0xE000 then .surrogate n else .char n length

section First
variable {n : Nat} {rest : List UInt8}

theorem first_one (small : n < 0x80) : first n.toUInt8 rest = startOf n 1 := by
  have lead : n.toUInt8.toNat = n := toNat_toUInt8 (by omega)
  rw [first, if_pos (by rw [UInt8.lt_iff_toNat_lt, lead]; exact small), lead, startOf,
    if_neg (by omega)]

theorem first_two (large : 0x80 ≤ n) (small : n < 0x800) :
    first (0xC0 + n / 0x40).toUInt8 ((0x80 + n % 0x40).toUInt8 :: rest) = startOf n 2 := by
  have lead : (0xC0 + n / 0x40).toUInt8.toNat = 0xC0 + n / 0x40 := toNat_toUInt8 (by omega)
  have begins : 0xC2 ≤ 0xC0 + n / 0x40 ∧ 0xC0 + n / 0x40 < 0xE0 := by omega
  simp only [first, UInt8.lt_iff_toNat_lt, lead, UInt8.reduceToNat]
  rw [if_neg (by omega), if_neg (by omega), if_pos begins.2, startOfTwo,
    if_pos (isContinuation_toUInt8 n), lead, payload_toUInt8, startOf, if_neg (by omega)]
  congr 1
  omega

theorem first_three (large : 0x800 ≤ n) (small : n < 0x10000) :
    first (0xE0 + n / 0x1000).toUInt8 ((0x80 + n / 0x40 % 0x40).toUInt8 ::
      (0x80 + n % 0x40).toUInt8 :: rest) = startOf n 3 := by
  have lead : (0xE0 + n / 0x1000).toUInt8.toNat = 0xE0 + n / 0x1000 := toNat_toUInt8 (by omega)
  have second : (0x80 + n / 0x40 % 0x40).toUInt8.toNat = 0x80 + n / 0x40 % 0x40 :=
    toNat_toUInt8 (by omega)
  have code :
    (0xE0 + n / 0x1000 - 0xE0) * 0x1000 + n / 0x40 % 0x40 * 0x40 + n % 0x40 = n := by omega
  simp only [first, UInt8.lt_iff_toNat_lt, lead, UInt8.reduceToNat]
  rw [if_neg (by omega), if_neg (by omega), if_neg (by omega), if_pos (by omega), startOfThree,
    lead, payload_toUInt8, payload_toUInt8, code, startOf]
  by_cases surrogate : 0xD800 ≤ n ∧ n < 0xE000
  · have refused :
        ¬ secondAllowed (0xE0 + n / 0x1000).toUInt8 (0x80 + n / 0x40 % 0x40).toUInt8 := by
      rw [secondAllowed_iff, lead, second]
      omega
    have is_lead : (0xE0 + n / 0x1000).toUInt8 = 0xED := by
      rw [← UInt8.toNat_inj, lead]
      show _ = 0xED
      omega
    rw [if_neg refused, is_lead, isContinuation_toUInt8, isContinuation_toUInt8, if_pos surrogate]
    rfl
  · have allowed : secondAllowed (0xE0 + n / 0x1000).toUInt8 (0x80 + n / 0x40 % 0x40).toUInt8 := by
      rw [secondAllowed_iff, lead, second]
      refine ⟨isContinuation_toUInt8 _, ?_⟩
      omega
    rw [if_pos allowed, if_pos (isContinuation_toUInt8 n), if_neg surrogate]

theorem first_four (large : 0x10000 ≤ n) (small : n < 0x110000) :
    first (0xF0 + n / 0x40000).toUInt8 ((0x80 + n / 0x1000 % 0x40).toUInt8 ::
      (0x80 + n / 0x40 % 0x40).toUInt8 :: (0x80 + n % 0x40).toUInt8 :: rest) = startOf n 4 := by
  have lead : (0xF0 + n / 0x40000).toUInt8.toNat = 0xF0 + n / 0x40000 := toNat_toUInt8 (by omega)
  have second : (0x80 + n / 0x1000 % 0x40).toUInt8.toNat = 0x80 + n / 0x1000 % 0x40 :=
    toNat_toUInt8 (by omega)
  have allowed : secondAllowed (0xF0 + n / 0x40000).toUInt8 (0x80 + n / 0x1000 % 0x40).toUInt8 := by
    rw [secondAllowed_iff, lead, second]
    refine ⟨isContinuation_toUInt8 _, ?_⟩
    omega
  simp only [first, UInt8.lt_iff_toNat_lt, lead, UInt8.reduceToNat]
  rw [if_neg (by omega), if_neg (by omega), if_neg (by omega), if_neg (by omega), if_pos (by omega),
    startOfFour, if_pos allowed]
  simp only [isContinuation_toUInt8, if_true, lead, payload_toUInt8]
  rw [startOf, if_neg (by omega)]
  congr 1
  omega

end First

/-- What the bytes of a code begin with is told from the first of them and those behind it. -/
theorem first_encodeCode {n : Nat} (bounded : n < 0x110000) :
    ∃ lead others, encodeCode n = lead :: others ∧
      (∀ rest, first lead (others ++ rest) = startOf n (others.length + 1)) ∧
      (0xD800 ≤ n → n < 0xE000 → others.length = 2) := by
  unfold encodeCode
  split
  next small => exact ⟨_, _, rfl, fun _ => first_one small, by omega⟩
  next large =>
    split
    next small => exact ⟨_, _, rfl, fun _ => first_two (by omega) small, by omega⟩
    next large =>
      split
      next small => exact ⟨_, _, rfl, fun _ => first_three (by omega) small, fun _ _ => rfl⟩
      next large => exact ⟨_, _, rfl, fun _ => first_four (by omega) bounded, by omega⟩

/-- The bytes of a character beyond ASCII are all beyond ASCII. -/
theorem le_of_mem_encodeCode {n : Nat} (large : 0x80 ≤ n) (bounded : n < 0x110000) :
    ∀ b ∈ encodeCode n, 0x80 ≤ b.toNat := by
  have beyond : ∀ m, 0x80 ≤ m → m < 0x100 → 0x80 ≤ m.toUInt8.toNat := by
    intro m large small
    rw [toNat_toUInt8 small]
    exact large
  unfold encodeCode
  rw [if_neg (by omega)]
  split_ifs
  all_goals
    simp only [List.forall_mem_cons, List.not_mem_nil, false_imp_iff, implies_true, and_true]
    and_intros
    all_goals exact beyond _ (by omega) (by omega)

/-! ### Texts -/

theorem decodeOnto_skip (done : List Char) (others rest : List UInt8) :
    decodeOnto done others.length (others ++ rest) = decodeOnto done 0 rest := by
  induction others with
  | nil => rfl
  | cons b others ih => exact ih

end Utf8

/-! ### Letters -/

namespace Letter
variable {letter : Letter}

theorem code_lt (letter : Letter) : letter.code < 0x110000 := by
  cases letter with
  | scalar c => have bounds := code_scalar_bounds c; omega
  | lone half => rw [code]; omega

theorem bytes_of_ascii (ascii : letter.code < 0x80) : letter.bytes = [letter.code.toUInt8] := by
  rw [bytes, Utf8.encodeCode, if_pos ascii]

theorem le_of_mem_bytes (large : 0x80 ≤ letter.code) : ∀ b ∈ letter.bytes, 0x80 ≤ b.toNat :=
  Utf8.le_of_mem_encodeCode large letter.code_lt

theorem ne_zero_of_mem_bytes (no_zero : letter.code ≠ 0) : ∀ b ∈ letter.bytes, b ≠ 0 := by
  rintro b member rfl
  by_cases ascii : letter.code < 0x80
  · rw [bytes_of_ascii ascii, List.mem_singleton] at member
    have code := Utf8.toNat_toUInt8 (n := letter.code) (by omega)
    rw [← member] at code
    exact no_zero code.symm
  · have large := le_of_mem_bytes (by omega) 0 member
    simp at large

theorem decodeOnto_scalar (done : List Char) (c : Char) (rest : List UInt8) :
    Utf8.decodeOnto done 0 ((scalar c).bytes ++ rest) = Utf8.decodeOnto (c :: done) 0 rest := by
  have bounds := code_scalar_bounds c
  obtain ⟨lead, others, same, begins, -⟩ := Utf8.first_encodeCode (scalar c).code_lt
  rw [bytes, same, List.cons_append, Utf8.decodeOnto, begins, Utf8.startOf, if_neg (by omega)]
  simp [Utf8.decodeOnto_skip, code]

theorem decodeOnto_lone (done : List Char) (half : Fin 0x800) (rest : List UInt8) :
    ∃ fault, Utf8.decodeOnto done 0 ((lone half).bytes ++ rest) = .error fault := by
  have surrogate : 0xD800 ≤ (lone half).code ∧ (lone half).code < 0xE000 := by
    rw [code]
    omega
  obtain ⟨lead, others, same, begins, -⟩ := Utf8.first_encodeCode (lone half).code_lt
  rw [bytes, same, List.cons_append, Utf8.decodeOnto, begins, Utf8.startOf, if_pos surrogate]
  exact ⟨_, rfl⟩

end Letter

/-! ### Texts -/

namespace Text

@[simp] theorem bytes_nil : bytes [] = [] := rfl

@[simp] theorem bytes_cons (letter : Letter) (t : Text) :
    bytes (letter :: t) = letter.bytes ++ bytes t := List.flatMap_cons

@[simp] theorem bytes_append (front back : Text) :
    bytes (front ++ back) = bytes front ++ bytes back :=
  List.flatMap_append

theorem bytes_ofString (s : String) : bytes (ofString s) = Utf8.encode s := by
  simp [bytes, ofString, Utf8.encode, List.flatMap_map, Letter.bytes, Letter.code]

/-- The text without its lone surrogates. -/
def withoutLone (t : Text) : String := String.ofList (t.filterMap Letter.char?)

theorem ofString_withoutLone {t : Text} (well_formed : t.isWellFormed = true) :
    ofString t.withoutLone = t := by
  rw [withoutLone, ofString, String.toList_ofList]
  induction t with
  | nil => rfl
  | cons letter t ih =>
    cases letter with
    | scalar c => simp_all [isWellFormed, Letter.char?]
    | lone half => simp [isWellFormed, Letter.char?] at well_formed

theorem decides_decodeOnto (done : List Char) (t : Text) :
    Decides (t.isWellFormed = true) ((t.filterMap Letter.char?).reverse ++ done)
      (Utf8.decodeOnto done 0 (bytes t)) := by
  induction t generalizing done with
  | nil => exact .ok rfl
  | cons letter t ih =>
    cases letter with
    | scalar c =>
      rw [bytes_cons, Letter.decodeOnto_scalar]
      simpa [isWellFormed, Letter.char?] using ih (c :: done)
    | lone half =>
      obtain ⟨fault, failed⟩ := Letter.decodeOnto_lone done half (bytes t)
      rw [bytes_cons, failed]
      simp [Decides, isWellFormed, Letter.char?]

/-- Bytes are refused as text if a lone surrogate is among what they were made of. -/
theorem decides_decode? (t : Text) :
    Decides (t.isWellFormed = true) t.withoutLone (Utf8.decode? (bytes t)) := by
  have decides := (decides_decodeOnto [] t).map fun cs => String.ofList cs.reverse
  simpa [withoutLone, Utf8.decode?] using decides

end Text

/-! ### Documents -/

namespace Json

theorem decodeUtf8_skip (done : Text) (position : Nat) (others rest : List UInt8) :
    decodeUtf8 done position others.length (others ++ rest) =
      decodeUtf8 done (position + others.length) 0 rest := by
  induction others generalizing position with
  | nil => rfl
  | cons b others ih =>
    rw [List.length_cons, List.cons_append, decodeUtf8, ih]
    congr 1
    omega

theorem decodeUtf8_letter (done : Text) (position : Nat) (letter : Letter) (rest : List UInt8) :
    decodeUtf8 done position 0 (letter.bytes ++ rest) =
      decodeUtf8 (letter :: done) (position + letter.bytes.length) 0 rest := by
  obtain ⟨lead, others, same, begins, width⟩ := Utf8.first_encodeCode letter.code_lt
  have back := letter.ofCode_code
  rw [Letter.bytes, same, List.cons_append, decodeUtf8, begins, Utf8.startOf]
  by_cases surrogate : 0xD800 ≤ letter.code ∧ letter.code < 0xE000
  · rw [if_pos surrogate]
    have skips := decodeUtf8_skip (letter :: done) (position + 1) others rest
    rw [width surrogate.1 surrogate.2] at skips
    simp [back, skips, width surrogate.1 surrogate.2]
  · cases letter with
    | lone half => exact absurd ⟨by simp [Letter.code], by simp [Letter.code]; omega⟩ surrogate
    | scalar c =>
      have further : position + 1 + others.length = position + (others.length + 1) := by omega
      rw [if_neg surrogate]
      simp [Letter.code, decodeUtf8_skip, further]

theorem decodeUtf8_bytes (done : Text) (position : Nat) (t : Text) :
    decodeUtf8 done position 0 (Text.bytes t) = .ok (t.reverse ++ done) := by
  induction t generalizing done position with
  | nil => rfl
  | cons letter t ih =>
    rw [Text.bytes_cons, decodeUtf8_letter, ih]
    simp

theorem guess_of_ne_zero {bytes : List UInt8} (no_zero : ∀ b ∈ bytes, b ≠ 0) :
    Encoding.guess bytes = .utf8 := by
  unfold Encoding.guess
  split
  all_goals first | rfl | simp at no_zero

theorem detect_of_ne_zero {lead : UInt8} {rest : List UInt8} (ascii : lead < 0x80)
    (no_zero : ∀ b ∈ lead :: rest, b ≠ 0) :
    Encoding.detect (lead :: rest) = (.utf8, lead :: rest) := by
  unfold Encoding.detect
  split
  all_goals first | rw [guess_of_ne_zero no_zero] | simp_all

/-- A document that begins with a character of ASCII and holds no zero character is read as it was
written. -/
theorem decode_bytes {first : Letter} {t : Text} (ascii : first.code < 0x80)
    (no_zero : ∀ letter ∈ first :: t, letter.code ≠ 0) :
    decode (Text.bytes (first :: t)) = .ok (first :: t) := by
  have lead : first.bytes = [first.code.toUInt8] := Letter.bytes_of_ascii ascii
  have detected : Encoding.detect (Text.bytes (first :: t)) = (.utf8, Text.bytes (first :: t)) := by
    rw [Text.bytes_cons, lead]
    apply detect_of_ne_zero
    · rw [UInt8.lt_iff_toNat_lt, Utf8.toNat_toUInt8 (by omega)]
      exact ascii
    · intro b member
      have listed : b ∈ Text.bytes (first :: t) := by rwa [Text.bytes_cons, lead]
      obtain ⟨letter, within, inside⟩ := List.mem_flatMap.mp listed
      exact Letter.ne_zero_of_mem_bytes (no_zero letter within) b inside
  rw [decode, detected]
  simp only [decodeUtf8_bytes]
  simp [Except.map]

end Json
end PageScheme
