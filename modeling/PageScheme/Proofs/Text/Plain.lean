import PageScheme.Text.Lowercase

/-!
# Plain names

A plain name is made of small letters, digits, `_` and `-`, and begins with a small letter. All of
its characters are ASCII, so a property of them can be checked one by one. A plain name is its own
lower-case form.
-/
namespace PageScheme.Text

/-- Taking stops at the first element that does not count. -/
theorem takeWhile_append_of_boundary {α : Type} {counts : α → Bool} {front back : List α}
    (inside : ∀ x ∈ front, counts x = true) (boundary : ∀ x ∈ back.head?, counts x = false) :
    (front ++ back).takeWhile counts = front := by
  rw [List.takeWhile_append_of_pos inside]
  cases back with
  | nil => simp
  | cons x back => simp [boundary x rfl]

def isPlain (c : Char) : Bool := c.isLower || c.isDigit || c == '_' || c == '-'

/-- A name of the form `[a-z][a-z0-9_-]*`. -/
def isPlainName (name : String) : Bool :=
  match name.toList with
  | [] => false
  | c :: rest => c.isLower && rest.all isPlain

theorem toNat_lt_of_isPlain {c : Char} (plain : isPlain c = true) : c.toNat < 128 := by
  have lower : c.isLower = (decide (c.val ≥ 'a'.val) && decide (c.val ≤ 'z'.val)) := rfl
  simp only [isPlain, lower, Char.isDigit, Bool.or_eq_true, Bool.and_eq_true,
    decide_eq_true_eq, beq_iff_eq, ge_iff_le, UInt32.le_iff_toNat_le, Char.toNat_val] at plain
  rcases plain with ((⟨-, small⟩ | ⟨-, digit⟩) | rfl) | rfl
  · exact Nat.lt_of_le_of_lt small (by decide)
  · exact Nat.lt_of_le_of_lt digit (by decide)
  · decide
  · decide

/-- What holds of the plain characters among the first 128, one by one, holds of all of them. -/
theorem of_isPlain {motive : Char → Prop} {c : Char} (plain : isPlain c = true)
    (each : ∀ n < 128, isPlain (.ofNat n) = true → motive (.ofNat n)) : motive c := by
  -- The character is the one of its code.
  have holds := each c.toNat (toNat_lt_of_isPlain plain)
  rw [Char.ofNat_toNat] at holds
  exact holds plain

theorem isPlain_of_isLower {c : Char} (small : c.isLower = true) : isPlain c = true := by
  simp [isPlain, small]

theorem isDigit_of_mem_numeral {n : Nat} {c : Char} (member : c ∈ Nat.toDigits 10 n) :
    c.isDigit = true :=
  Nat.isDigit_of_mem_toDigits (by decide) (by decide) member

theorem isPlain_of_isDigit {c : Char} (digit : c.isDigit = true) : isPlain c = true := by
  simp [isPlain, digit]

theorem isPlainName_iff {name : String} :
    isPlainName name = true ↔
      ∃ c rest, name.toList = c :: rest ∧ c.isLower = true ∧ ∀ d ∈ rest, isPlain d = true := by
  unfold isPlainName
  split
  next empty => simp [empty]
  next c rest split =>
    rw [split, Bool.and_eq_true, List.all_eq_true]
    constructor
    · rintro ⟨small, rest_plain⟩
      exact ⟨c, rest, rfl, small, rest_plain⟩
    · rintro ⟨_, _, same, small, rest_plain⟩
      obtain ⟨rfl, rfl⟩ := List.cons.inj same
      exact ⟨small, rest_plain⟩

theorem isPlain_of_mem {name : String} {c : Char} (plain : isPlainName name = true)
    (member : c ∈ name.toList) : isPlain c = true := by
  obtain ⟨first, rest, split, small, rest_plain⟩ := isPlainName_iff.mp plain
  rw [split] at member
  rcases List.mem_cons.mp member with rfl | member
  · exact isPlain_of_isLower small
  · exact rest_plain c member

/-! ### Lower case -/

theorem lowerFrom_eq_self {before cs : List Char} (plain : ∀ c ∈ cs, isPlain c = true) :
    lowerFrom before cs = cs := by
  induction cs generalizing before with
  | nil => rfl
  | cons c cs ih =>
    have head := plain c List.mem_cons_self
    -- The two characters with a rule of their own are not plain, and the others are in ASCII.
    have no_sigma : (c == 'Σ') = false :=
      of_isPlain (motive := fun c => (c == 'Σ') = false) head (by decide)
    have no_dotted : (c == 'İ') = false :=
      of_isPlain (motive := fun c => (c == 'İ') = false) head (by decide)
    have small : c.toLower = c := of_isPlain (motive := fun c => c.toLower = c) head (by decide)
    simp only [lowerFrom, no_sigma, no_dotted, lowerChar, toNat_lt_of_isPlain head, small, if_true,
      Bool.false_eq_true, if_false, List.cons_append, List.nil_append]
    rw [ih fun d member => plain d (List.mem_cons_of_mem _ member)]

theorem lower_eq_self {s : String} (plain : ∀ c ∈ s.toList, isPlain c = true) : lower s = s := by
  rw [lower, lowerFrom_eq_self plain, String.ofList_toList]

end PageScheme.Text
