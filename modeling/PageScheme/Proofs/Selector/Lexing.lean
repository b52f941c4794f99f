import PageScheme.Proofs.Path.Step
import PageScheme.Selector.Token

/-!
# Reading a path of steps as tokens

A structural path is run as a selector, so it is read again, token by token. Plain names, numerals
and the punctuation between them are one token each, whatever else follows, and so is a run of
blanks. `Spells` says which tokens the steps of a path are read as; their positions in the selector
do not matter, and neither do the blanks around its marks.
-/
namespace PageScheme.Selector.Lexer

open PageScheme.Path (Step)

/-- Blanks, as selectors know them. -/
def Blanks (cs : List Char) : Prop := ∀ c ∈ cs, isSpace c = true

/-! ### Tokens one by one -/

theorem lexemesFrom_append (front rest : List Char) (position : Nat) :
    lexemesFrom position front.length (front ++ rest) =
      lexemesFrom (position + front.length) 0 rest := by
  induction front generalizing position with
  | nil => rfl
  | cons c front ih =>
    rw [List.cons_append, List.length_cons, lexemesFrom, ih, Nat.add_right_comm, Nat.add_assoc]

/-- A token is followed by the lexemes of what is behind it. -/
theorem lexemesFrom_of_first {position : Nat} {c : Char} {front rest : List Char} {lexeme : Lexeme}
    (found : first position c (front ++ rest) = (some lexeme, some (front.length + 1))) :
    lexemesFrom position 0 (c :: (front ++ rest)) =
      lexeme :: lexemesFrom (position + 1 + front.length) 0 rest := by
  rw [lexemesFrom, found]
  exact congrArg (lexeme :: ·) (lexemesFrom_append front rest (position + 1))

/-- No character of a name goes on. -/
def EndsName (rest : List Char) : Prop := ∀ c ∈ rest.head?, isNameChar c = false ∧ c ≠ '\\'

theorem nameLength_append {name rest : List Char} (plain : ∀ c ∈ name, Text.isPlain c = true)
    (ends : EndsName rest) : nameLength 0 (name ++ rest) = name.length := by
  induction name with
  | nil =>
    cases rest with
    | nil => rfl
    | cons c rest =>
      obtain ⟨no_name, no_escape⟩ := ends c rfl
      rw [List.nil_append, nameLength.eq_4 c rest no_escape, no_name]
      rfl
  | cons c name ih =>
    have head := plain c List.mem_cons_self
    -- A plain character goes on with the name, and begins no escape.
    have no_escape : c ≠ '\\' := Text.of_isPlain (motive := fun c => c ≠ '\\') head (by decide)
    have name_char : isNameChar c = true :=
      Text.of_isPlain (motive := fun c => isNameChar c = true) head (by decide)
    rw [List.cons_append, nameLength.eq_4 c _ no_escape, name_char,
      ih fun d member => plain d (List.mem_cons_of_mem _ member)]
    rfl

theorem nameText_eq {name : List Char} (plain : ∀ c ∈ name, Text.isPlain c = true) :
    nameText name = String.ofList name := by
  have no_escape : ∀ c ∈ name, c ≠ '\\' := fun c member =>
    Text.of_isPlain (motive := fun c => c ≠ '\\') (plain c member) (by decide)
  -- Without a backslash there is nothing to replace.
  have no_codes : replaceCodes 0 name = name := by
    clear plain
    induction name with
    | nil => rfl
    | cons c name ih =>
      rw [replaceCodes.eq_4 c name (no_escape c List.mem_cons_self),
        ih fun d member => no_escape d (List.mem_cons_of_mem _ member)]
  have no_simple : replaceSimple name = name := by
    clear plain no_codes
    induction name with
    | nil => rfl
    | cons c name ih =>
      have head := no_escape c List.mem_cons_self
      rw [replaceSimple.eq_4 c name (fun _ escape _ => head escape)
          (fun _ _ escape _ => head escape),
        ih fun d member => no_escape d (List.mem_cons_of_mem _ member)]
  rw [nameText, no_codes, no_simple]

theorem isSpace_of_isPlain {c : Char} (plain : Text.isPlain c = true) : isSpace c = false :=
  Text.of_isPlain (motive := fun c => isSpace c = false) plain (by decide)

theorem startsName_of_isLower {c : Char} (small : c.isLower = true) : startsName c = true := by
  have plain := Text.isPlain_of_isLower small
  revert small
  exact Text.of_isPlain (motive := fun c => c.isLower = true → startsName c = true) plain
    (by decide)

theorem startsName_of_isDigit {c : Char} (digit : c.isDigit = true) : startsName c = false := by
  have plain := Text.isPlain_of_isDigit digit
  revert digit
  exact Text.of_isPlain (motive := fun c => c.isDigit = true → startsName c = false) plain
    (by decide)

/-- Only behind a hyphen or a backslash more than the first character has to be looked at. -/
theorem identLength_cons {c : Char} (rest : List Char) (no_hyphen : c ≠ '-')
    (no_escape : c ≠ '\\') :
    identLength (c :: rest) = if startsName c then nameLength 0 (c :: rest) else 0 :=
  identLength.eq_4 c rest (fun _ hyphen _ => no_hyphen hyphen)
    (fun _ _ hyphen _ => no_hyphen hyphen) no_escape

theorem identLength_append {name : String} {rest : List Char}
    (plain : Text.isPlainName name = true) (ends : EndsName rest) :
    identLength (name.toList ++ rest) = name.toList.length := by
  have length_eq := nameLength_append (fun _ => Text.isPlain_of_mem plain) ends
  obtain ⟨c, front, split, small, -⟩ := Text.isPlainName_iff.mp plain
  have other : ∀ d : Char, d.isLower = false → c ≠ d := by
    rintro d no_letter rfl
    rw [small] at no_letter
    contradiction
  rw [split, List.cons_append] at length_eq ⊢
  rw [identLength_cons _ (other '-' rfl) (other '\\' rfl), startsName_of_isLower small, if_pos rfl,
    length_eq]

theorem lexemesFrom_name {name : String} {rest : List Char} (position : Nat)
    (plain : Text.isPlainName name = true) (ends : EndsName rest) :
    lexemesFrom position 0 (name.toList ++ rest) =
      .token ⟨.ident, name, position⟩ :: lexemesFrom (position + name.toList.length) 0 rest := by
  have name_eq := nameText_eq fun _ => Text.isPlain_of_mem plain
  have ident_eq := identLength_append plain ends
  obtain ⟨c, front, split, small, -⟩ := Text.isPlainName_iff.mp plain
  have no_space := isSpace_of_isPlain (Text.isPlain_of_isLower small)
  rw [String.ofList_toList] at name_eq
  rw [split] at name_eq ident_eq ⊢
  rw [List.cons_append, List.length_cons] at ident_eq
  have found : first position c (front ++ rest) =
      (some (.token ⟨.ident, name, position⟩), some (front.length + 1)) := by
    simp [first, no_space, ident_eq, name_eq]
  rw [List.cons_append, lexemesFrom_of_first found, List.length_cons, Nat.add_assoc,
    Nat.add_comm 1]

section Numerals

variable {n : Nat} {rest : List Char}

theorem unsignedLength_append (ends : ∀ c ∈ rest.head?, c.isDigit = false ∧ c ≠ '.') :
    unsignedLength (Nat.toDigits 10 n ++ rest) = (Nat.toDigits 10 n).length := by
  have whole : (Nat.toDigits 10 n ++ rest).takeWhile Char.isDigit = Nat.toDigits 10 n := by
    apply Text.takeWhile_append_of_boundary
    · exact fun c => Text.isDigit_of_mem_numeral
    · exact fun c is_head => (ends c is_head).1
  simp only [unsignedLength, whole, List.drop_left]
  -- No point follows, so there is no fraction.
  split
  next fraction => exact absurd rfl (ends '.' rfl).2
  next => rfl

theorem lexemesFrom_numeral (position : Nat)
    (ends : ∀ c ∈ rest.head?, c.isDigit = false ∧ c ≠ '.') :
    lexemesFrom position 0 (Nat.toDigits 10 n ++ rest) =
      .token ⟨.number, n.repr, position⟩ ::
        lexemesFrom (position + (Nat.toDigits 10 n).length) 0 rest := by
  have unsigned := unsignedLength_append (n := n) ends
  have numeral_eq : String.ofList (Nat.toDigits 10 n) = n.repr := Nat.repr_eq_ofList_toDigits.symm
  obtain ⟨c, front, split⟩ := List.exists_cons_of_ne_nil (Nat.toDigits_ne_nil (n := n) (b := 10))
  have head : c.isDigit = true := Text.isDigit_of_mem_numeral (n := n) (by simp [split])
  rw [split] at unsigned numeral_eq ⊢
  -- A numeral is asked for late; before that, every other beginning of a token is ruled out.
  have other : ∀ d : Char, d.isDigit = false → c ≠ d := by
    rintro d no_digit rfl
    rw [head] at no_digit
    contradiction
  have no_space := isSpace_of_isPlain (Text.isPlain_of_isDigit head)
  have no_ident : identLength (c :: (front ++ rest)) = 0 := by
    rw [identLength_cons _ (other '-' rfl) (other '\\' rfl), startsName_of_isDigit head]
    rfl
  have number_eq : numberLength (c :: (front ++ rest)) = front.length + 1 := by
    rw [numberLength.eq_3 _ (fun _ plus => other '+' rfl (List.cons.inj plus).1)
      (fun _ hyphen => other '-' rfl (List.cons.inj hyphen).1)]
    exact unsigned
  have found : first position c (front ++ rest) =
      (some (.token ⟨.number, n.repr, position⟩), some (front.length + 1)) := by
    simp [first, no_space, no_ident, other '#' rfl, other '\'' rfl, other '"' rfl, number_eq,
      numeral_eq]
  rw [List.cons_append, lexemesFrom_of_first found, List.length_cons, Nat.add_assoc,
    Nat.add_comm 1]

end Numerals

theorem lexemesFrom_punctuation {c : Char} (position : Nat) (rest : List Char)
    (known : c ∈ [':', '(', ')', '>']) :
    lexemesFrom position 0 (c :: rest) =
      .token ⟨.delim, String.ofList [c], position⟩ :: lexemesFrom (position + 1) 0 rest := by
  simp only [List.mem_cons, List.not_mem_nil, or_false] at known
  rcases known with rfl | rfl | rfl | rfl <;> rfl

section Blanks
variable {blanks rest : List Char}

theorem lexemesFrom_blanks (position : Nat) (nonempty : blanks ≠ []) (blank : Blanks blanks)
    (all_taken : ∀ c ∈ rest.head?, isSpace c = false) :
    lexemesFrom position 0 (blanks ++ rest) =
      .token ⟨.space, " ", position⟩ :: lexemesFrom (position + blanks.length) 0 rest := by
  have taken : (blanks ++ rest).takeWhile isSpace = blanks :=
    Text.takeWhile_append_of_boundary blank all_taken
  cases blanks with
  | nil => exact absurd rfl nonempty
  | cons c front =>
    rw [List.cons_append] at taken
    have found : first position c (front ++ rest) =
        (some (.token ⟨.space, " ", position⟩), some (front.length + 1)) := by
      simp [first, taken]
    rw [List.cons_append, lexemesFrom_of_first found, List.length_cons, Nat.add_assoc,
      Nat.add_comm 1]

/-- Some lexemes, with a blank in front of them or without. -/
def BlankBefore (lexemes rest : List Lexeme) : Prop :=
  lexemes = rest ∨ ∃ a, lexemes = .token ⟨.space, " ", a⟩ :: rest

theorem blankBefore_lexemesFrom (position : Nat) (blank : Blanks blanks)
    (all_taken : ∀ c ∈ rest.head?, isSpace c = false) :
    ∃ behind,
      BlankBefore (lexemesFrom position 0 (blanks ++ rest)) (lexemesFrom behind 0 rest) := by
  by_cases empty : blanks = []
  · exact ⟨position, .inl (by rw [empty, List.nil_append])⟩
  · exact ⟨_, .inr ⟨_, lexemesFrom_blanks position empty blank all_taken⟩⟩

/-- A name ends before blanks, and before whatever ends names if there are none. -/
theorem endsName_append (blank : Blanks blanks) (ends : EndsName rest) :
    EndsName (blanks ++ rest) := by
  cases blanks with
  | nil => exact ends
  | cons c front =>
    rintro _ ⟨⟩
    have is_space := blank c List.mem_cons_self
    simp only [isSpace, Bool.or_eq_true, decide_eq_true_eq, or_assoc] at is_space
    rcases is_space with rfl | rfl | rfl | rfl | rfl <;> decide

end Blanks

/-! ### Steps -/

/-- The lexemes of a step, in front of others. -/
def SpellsStep (step : Step) (lexemes rest : List Lexeme) : Prop :=
  match step.position with
  | none => ∃ a, lexemes = .token ⟨.ident, step.tag, a⟩ :: rest
  | some n => ∃ a b c d e f,
      lexemes = .token ⟨.ident, step.tag, a⟩ :: .token ⟨.delim, ":", b⟩ ::
        .token ⟨.ident, "nth-of-type", c⟩ :: .token ⟨.delim, "(", d⟩ ::
          .token ⟨.number, n.repr, e⟩ :: .token ⟨.delim, ")", f⟩ :: rest

/-- The lexemes of a path of steps. -/
inductive Spells : List Step → List Lexeme → Prop
  | last {step lexemes behind a} : SpellsStep step lexemes behind →
      BlankBefore behind [.token ⟨.finish, "", a⟩] → Spells [step] lexemes
  | more {step next rest lexemes behind after front b} : SpellsStep step lexemes behind →
      BlankBefore behind (.token ⟨.delim, ">", b⟩ :: after) → BlankBefore after front →
      Spells (next :: rest) front → Spells (step :: next :: rest) lexemes

theorem spellsStep_lexemesFrom {step : Step} (plain : step.IsPlain) {rest : List Char}
    (ends : EndsName rest) (position : Nat) :
    ∃ behind, SpellsStep step (lexemesFrom position 0 (step.chars ++ rest))
      (lexemesFrom behind 0 rest) := by
  obtain ⟨tag, _ | n⟩ := step
  · exact ⟨_, _, lexemesFrom_name position plain ends⟩
  · -- Each piece is read up to the punctuation behind it, which ends names and numerals.
    have ends_tag : EndsName (':' :: ("nth-of-type".toList ++
        ('(' :: (Nat.toDigits 10 n ++ (')' :: rest))))) := by
      rintro c ⟨⟩
      decide
    have ends_function : EndsName ('(' :: (Nat.toDigits 10 n ++ (')' :: rest))) := by
      rintro c ⟨⟩
      decide
    have ends_numeral : ∀ c ∈ (')' :: rest).head?, c.isDigit = false ∧ c ≠ '.' := by
      rintro c ⟨⟩
      decide
    have split : Step.chars ⟨tag, some n⟩ ++ rest = tag.toList ++ (':' :: ("nth-of-type".toList ++
        ('(' :: (Nat.toDigits 10 n ++ (')' :: rest))))) := by
      simp [Step.chars]
    simp only [SpellsStep]
    rw [split, lexemesFrom_name position plain ends_tag,
      lexemesFrom_punctuation _ _ (by decide), lexemesFrom_name _ (by decide) ends_function,
      lexemesFrom_punctuation _ _ (by decide), lexemesFrom_numeral _ ends_numeral,
      lexemesFrom_punctuation _ _ (by decide)]
    exact ⟨_, _, _, _, _, _, _, rfl⟩

/-! ### Paths -/

/-- Steps in writing: a mark stands between two of them, with any blanks around it, and any blanks
may stand at the end. -/
inductive Writes : List Step → List Char → Prop
  | last {step blanks} : Blanks blanks → Writes [step] (step.chars ++ blanks)
  | more {step next rest before after chars} : Blanks before → Blanks after →
      Writes (next :: rest) chars →
      Writes (step :: next :: rest) (step.chars ++ (before ++ '>' :: (after ++ chars)))

theorem isSpace_head_of_writes {steps : List Step} {chars : List Char} (writes : Writes steps chars)
    (plain : ∀ step ∈ steps, step.IsPlain) : ∀ c ∈ chars.head?, isSpace c = false := by
  have of_step : ∀ step ∈ steps, ∀ rest, ∀ c ∈ (step.chars ++ rest).head?, isSpace c = false := by
    intro step member rest c is_head
    obtain ⟨first, front, split, small, -⟩ := Text.isPlainName_iff.mp (plain step member)
    have head : (step.chars ++ rest).head? = some first := by
      obtain ⟨tag, position⟩ := step
      cases position <;> simp_all [Step.chars]
    obtain rfl := Option.some_inj.mp (head.symm.trans is_head)
    exact isSpace_of_isPlain (Text.isPlain_of_isLower small)
  cases writes with
  | last => exact of_step _ List.mem_cons_self _
  | more => exact of_step _ List.mem_cons_self _

theorem spells_lexemesFrom {steps : List Step} {chars : List Char} (writes : Writes steps chars)
    (plain : ∀ step ∈ steps, step.IsPlain) (position : Nat) :
    Spells steps (lexemesFrom position 0 chars) := by
  -- On the writing: the position moves on by the length of what has been read.
  induction writes generalizing position with
  | @last step blanks blank =>
    have ends : EndsName (blanks ++ []) := endsName_append blank (by simp [EndsName])
    rw [List.append_nil] at ends
    obtain ⟨behind, spells⟩ := spellsStep_lexemesFrom (plain step List.mem_cons_self) ends position
    have none_left : ∀ c ∈ ([] : List Char).head?, isSpace c = false := nofun
    obtain ⟨finish, blank_before⟩ := blankBefore_lexemesFrom behind blank none_left
    rw [List.append_nil] at blank_before
    exact .last spells blank_before
  | @more step next rest before after chars before_blank after_blank writes ih =>
    have plain_rest : ∀ other ∈ next :: rest, other.IsPlain := fun other member =>
      plain other (List.mem_cons_of_mem _ member)
    have ends_mark : EndsName ('>' :: (after ++ chars)) := by
      rintro c ⟨⟩
      decide
    have ends := endsName_append before_blank ends_mark
    obtain ⟨behind, spells⟩ := spellsStep_lexemesFrom (plain step List.mem_cons_self) ends position
    have mark_no_space : ∀ c ∈ ('>' :: (after ++ chars)).head?, isSpace c = false := by
      rintro c ⟨⟩
      decide
    obtain ⟨mark, blank_before⟩ := blankBefore_lexemesFrom behind before_blank mark_no_space
    obtain ⟨_, blank_after⟩ := blankBefore_lexemesFrom (mark + 1) after_blank
      (isSpace_head_of_writes writes plain_rest)
    rw [lexemesFrom_punctuation _ _ (by decide)] at blank_before
    exact .more spells blank_before blank_after (ih plain_rest _)

/-- A path as it is written from steps has single blanks around its marks. -/
theorem writes_charsOf {steps : List Step} (nonempty : steps ≠ []) :
    Writes steps (Path.charsOf steps) := by
  have single : Blanks [' '] := by simp [Blanks, isSpace]
  induction steps with
  | nil => exact absurd rfl nonempty
  | cons step rest ih =>
    cases rest with
    | nil =>
      have writes : Writes [step] (step.chars ++ []) := .last nofun
      simpa [Path.charsOf] using writes
    | cons next rest =>
      have writes : Writes (step :: next :: rest)
          (step.chars ++ ([' '] ++ '>' :: ([' '] ++ Path.charsOf (next :: rest)))) :=
        .more single single (ih (List.cons_ne_nil next rest))
      rw [Path.charsOf_cons_cons]
      exact writes

theorem replaceNul_of_blanks {blanks : List Char} (blank : Blanks blanks) :
    ∀ c ∈ blanks, replaceNul c = c := by
  intro c member
  apply if_neg
  rintro rfl
  have is_space := blank _ member
  revert is_space
  decide

/-- No character of a path of steps is a NUL. -/
theorem replaceNul_of_writes {steps : List Step} {chars : List Char} (writes : Writes steps chars)
    (plain : ∀ step ∈ steps, step.IsPlain) : ∀ c ∈ chars, replaceNul c = c := by
  have of_step : ∀ step ∈ steps, ∀ c ∈ step.chars, replaceNul c = c := by
    intro step member c in_step
    apply if_neg
    rintro rfl
    have known := Step.isTagChar_or_of_mem_chars (plain step member) in_step
    revert known
    decide
  induction writes with
  | last blank =>
    simp only [List.forall_mem_append]
    exact ⟨of_step _ List.mem_cons_self, replaceNul_of_blanks blank⟩
  | more before_blank after_blank _ ih =>
    simp only [List.forall_mem_append, List.forall_mem_cons]
    have rest := ih (fun step member => plain step (List.mem_cons_of_mem _ member))
      fun step member => of_step step (List.mem_cons_of_mem _ member)
    exact ⟨of_step _ List.mem_cons_self, replaceNul_of_blanks before_blank, rfl,
      replaceNul_of_blanks after_blank, rest⟩

/-- As a selector, a path of steps is read step by step. -/
theorem spells_lexemes {steps : List Step} {blanks chars : List Char} (blank : Blanks blanks)
    (writes : Writes steps chars) (plain : ∀ step ∈ steps, step.IsPlain) :
    ∃ front, BlankBefore (lexemes (String.ofList (blanks ++ chars))) front ∧
      Spells steps front := by
  have no_nul : (blanks ++ chars).map replaceNul = blanks ++ chars := by
    have kept : ∀ c ∈ blanks ++ chars, replaceNul c = c :=
      List.forall_mem_append.mpr ⟨replaceNul_of_blanks blank, replaceNul_of_writes writes plain⟩
    rw [List.map_congr_left kept, List.map_id']
  obtain ⟨begin, blank_before⟩ :=
    blankBefore_lexemesFrom 0 blank (isSpace_head_of_writes writes plain)
  rw [lexemes, String.toList_ofList, no_nul]
  exact ⟨_, blank_before, spells_lexemesFrom writes plain begin⟩

end PageScheme.Selector.Lexer
