import PageScheme.Proofs.Selector.Lexing
import PageScheme.Selector.Parser

/-!
# Reading a path of steps as a chain

The reader goes through the tokens of a path of steps and finds one compound for each step, joined
by combinators that ask for children. It never looks at a token that is not there, and the number of
tokens leaves it enough steps to go on to the end; so `parse_of_spells` gives the chain that comes
out.
-/
namespace PageScheme.Selector.Reader

open PageScheme.Path (Step)
open Lexer (BlankBefore SpellsStep Spells)

variable {rest : List Lexeme} {t : Token}

/-! ### Single steps of the reading -/

theorem run_bind {α β : Type} (x : Reader α) (f : α → Reader β) (lexemes : List Lexeme) :
    (x >>= f) lexemes = (x lexemes).bind fun result => f result.1 result.2 := rfl

theorem run_pure {α : Type} (value : α) (lexemes : List Lexeme) :
    (pure value : Reader α) lexemes = .ok (value, lexemes) := rfl

theorem ok_bind {ε α β : Type} (value : α) (f : α → Except ε β) :
    (Except.ok value).bind f = f value := rfl

theorem run_get (lexemes : List Lexeme) : (get : Reader _) lexemes = .ok (lexemes, lexemes) := rfl

theorem run_peek (t : Token) (rest : List Lexeme) :
    peek (.token t :: rest) = .ok (t, .token t :: rest) := rfl

theorem run_discard_next (t : Token) (rest : List Lexeme) :
    (discard next : Reader Unit) (.token t :: rest) = .ok ((), rest) := rfl

theorem run_ident (name : String) (position : Nat) (rest : List Lexeme) :
    ident (.token ⟨.ident, name, position⟩ :: rest) = .ok (name, rest) := rfl

theorem run_accept_of_isDelim {value : String} (is_next : t.isDelim value = true) :
    accept value (.token t :: rest) = .ok (true, rest) := by
  rw [accept, run_bind, run_peek, ok_bind, if_pos is_next, run_bind, run_discard_next]
  rfl

theorem run_accept_of_not_isDelim {value : String} (other : t.isDelim value = false) :
    accept value (.token t :: rest) = .ok (false, .token t :: rest) := by
  simp only [accept, run_bind, run_peek, ok_bind, other, Bool.false_eq_true, if_false]
  rfl

theorem run_skipSpace (no_space : t.kind ≠ .space) :
    skipSpace (.token t :: rest) = .ok ((), .token t :: rest) := by
  have stays : (Lexeme.token t :: rest).dropWhile isBlank = .token t :: rest := by
    simp [isBlank, no_space]
  have modified : (modify fun lexemes => lexemes.dropWhile isBlank : Reader PUnit)
      (.token t :: rest) = .ok ((), (Lexeme.token t :: rest).dropWhile isBlank) := rfl
  rw [skipSpace, run_bind, modified, ok_bind, stays]
  rfl

theorem run_skipSpace_of_space {blank : Token} (is_space : blank.kind = .space)
    (no_space : t.kind ≠ .space) :
    skipSpace (.token blank :: .token t :: rest) = .ok ((), .token t :: rest) := by
  rw [← run_skipSpace no_space]
  have dropped : (Lexeme.token blank :: .token t :: rest).dropWhile isBlank =
      (Lexeme.token t :: rest).dropWhile isBlank := by
    simp [isBlank, is_space]
  have modified : ∀ lexemes, (modify fun lexemes => lexemes.dropWhile isBlank : Reader PUnit)
      lexemes = .ok ((), lexemes.dropWhile isBlank) := fun _ => rfl
  rw [skipSpace, run_bind, run_bind, modified, modified, dropped]

theorem run_skipSpace_of_blankBefore {lexemes : List Lexeme} (no_space : t.kind ≠ .space)
    (blank : BlankBefore lexemes (.token t :: rest)) :
    skipSpace lexemes = .ok ((), .token t :: rest) := by
  rcases blank with rfl | ⟨a, rfl⟩
  · exact run_skipSpace no_space
  · exact run_skipSpace_of_space rfl no_space

/-! ### Steps -/

/-- What ends a compound of a path of steps. -/
def EndsStep (lexemes : List Lexeme) : Prop :=
  ∃ t rest, lexemes = .token t :: rest ∧
    (t.kind = .space ∨ t.kind = .finish ∨ t.kind = .delim ∧ t.value = ">")

theorem run_conditions_of_endsStep (setting : Setting) (base : Compound) (fuel : Nat)
    {lexemes : List Lexeme} (ends : EndsStep lexemes) :
    conditions (fuel + 1) setting base none lexemes = .ok ((base, none), lexemes) := by
  obtain ⟨t, rest, rfl, kind⟩ := ends
  have ended : endsCompound setting t = true := by
    rcases kind with kind | kind | ⟨kind, mark⟩
    · simp [endsCompound, kind]
    · simp [endsCompound, kind]
    · simp [endsCompound, Token.isDelim, kind, mark]
  rw [conditions, run_bind, run_peek, ok_bind, if_pos ended]
  rfl

/-- The position among the siblings of the same tag is one condition. -/
theorem run_conditions_of_position (setting : Setting) (base : Compound) (fuel : Nat)
    (value : String) (b c d e f : Nat) (rest : List Lexeme) :
    conditions (fuel + 4) setting base none
      (.token ⟨.delim, ":", b⟩ :: .token ⟨.ident, "nth-of-type", c⟩ :: .token ⟨.delim, "(", d⟩ ::
        .token ⟨.number, value, e⟩ :: .token ⟨.delim, ")", f⟩ :: rest) =
      conditions (fuel + 3) setting (.function base "nth-of-type" [⟨.number, value, e⟩]) none
        rest := by
  -- The colon is no hash, no dot and no bracket, and there is only one: what follows is a function,
  -- and its argument goes up to the parenthesis.
  have going_on : endsCompound setting ⟨.delim, ":", b⟩ = false := by
    simp [endsCompound, Token.isDelim]
  have small : Text.lowerAscii "nth-of-type" = "nth-of-type" := rfl
  have new : oldPseudoElements.contains "nth-of-type" = false := rfl
  have function : functionPart (fuel + 3) setting base "nth-of-type"
      (.token ⟨.number, value, e⟩ :: .token ⟨.delim, ")", f⟩ :: rest) =
        .ok (.function base "nth-of-type" [⟨.number, value, e⟩], rest) := rfl
  have no_space : skipSpace (.token ⟨.number, value, e⟩ :: .token ⟨.delim, ")", f⟩ :: rest) =
      .ok ((), .token ⟨.number, value, e⟩ :: .token ⟨.delim, ")", f⟩ :: rest) :=
    run_skipSpace nofun
  rw [conditions]
  simp only [run_bind, run_peek, ok_bind, going_on, Bool.false_eq_true, if_false]
  rw [if_neg (by decide), run_bind, run_accept_of_not_isDelim (by rfl)]
  simp only [ok_bind, Bool.false_eq_true, if_false, run_bind]
  rw [run_accept_of_not_isDelim (by rfl)]
  simp only [ok_bind, Bool.false_eq_true, if_false, run_bind]
  rw [run_accept_of_isDelim (by rfl)]
  simp only [ok_bind, if_true, run_bind]
  rw [run_accept_of_not_isDelim (by rfl)]
  simp only [ok_bind, Bool.false_eq_true, if_false, run_bind, run_ident, small, new]
  rw [run_accept_of_isDelim (by rfl)]
  simp only [ok_bind, if_true, run_bind, no_space, function]

/-- The compound of a step. Its position is written as an argument, with the place of the numeral in
the selector. -/
def IsStep (step : Step) (found : Compound) : Prop :=
  match step.position with
  | none => found = .element .unsaid (some step.tag)
  | some n => ∃ position, found = .function (.element .unsaid (some step.tag)) "nth-of-type"
      [⟨.number, n.repr, position⟩]

/-- A name without a bar behind it is a tag. -/
theorem run_elementPart (tag : String) (position : Nat) (no_bar : t.isDelim "|" = false)
    (rest : List Lexeme) :
    elementPart (.token ⟨.ident, tag, position⟩ :: .token t :: rest) =
      .ok (.element .unsaid (some tag), .token t :: rest) := by
  have is_name : identOrStar (.token ⟨.ident, tag, position⟩ :: .token t :: rest) =
      .ok (some tag, .token t :: rest) := rfl
  rw [elementPart, run_bind, run_peek, ok_bind, if_pos (by rfl), run_bind, is_name, ok_bind,
    run_bind, run_accept_of_not_isDelim no_bar]
  rfl

/-- A compound is its element and the conditions behind it, if it takes up a token. -/
theorem run_compound {setting : Setting} {fuel : Nat} {lexemes after behind : List Lexeme}
    {base : Compound} {found : Compound × Option String} (no_space : t.kind ≠ .space)
    (blank : BlankBefore lexemes (.token t :: rest))
    (element : elementPart (.token t :: rest) = .ok (base, after))
    (conditions_read : conditions fuel setting base none after = .ok (found, behind))
    (shorter : behind.length ≠ (Lexeme.token t :: rest).length) :
    compound (fuel + 1) setting lexemes = .ok (found, behind) := by
  rw [compound, run_bind, run_skipSpace_of_blankBefore no_space blank]
  simp only [ok_bind, run_bind, run_get, element, conditions_read, if_neg shorter]
  rfl

theorem run_compound_of_step {step : Step} {lexemes front behind : List Lexeme}
    (blank : BlankBefore lexemes front) (spells : SpellsStep step front behind)
    (ends : EndsStep behind) (setting : Setting) (fuel : Nat) :
    ∃ found, IsStep step found ∧
      compound (fuel + 5) setting lexemes = .ok ((found, none), behind) := by
  obtain ⟨tag, _ | n⟩ := step
  · obtain ⟨a, rfl⟩ := spells
    refine ⟨_, rfl, ?_⟩
    have conditions_read := run_conditions_of_endsStep setting (.element .unsaid (some tag))
      (fuel + 3) ends
    -- What ends the step is no bar, which would make the tag a space.
    obtain ⟨t, rest, rfl, kind⟩ := ends
    have no_bar : t.isDelim "|" = false := by
      rcases kind with kind | kind | ⟨kind, mark⟩
      · simp [Token.isDelim, kind]
      · simp [Token.isDelim, kind]
      · simp [Token.isDelim, kind, mark]
    exact run_compound (by simp) blank (run_elementPart tag a no_bar rest) conditions_read (by simp)
  · obtain ⟨a, b, c, d, e, f, rfl⟩ := spells
    refine ⟨_, ⟨e, rfl⟩, ?_⟩
    have conditions_read := run_conditions_of_endsStep setting
      (.function (.element .unsaid (some tag)) "nth-of-type" [⟨.number, n.repr, e⟩]) (fuel + 2) ends
    -- The conditions go on behind the function with less fuel, and end there.
    rw [← run_conditions_of_position setting _ fuel n.repr b c d e f behind] at conditions_read
    refine run_compound (by simp) blank (run_elementPart tag a rfl _) conditions_read ?_
    simp only [List.length_cons]
    omega

/-! ### Chains -/

/-- Steps as a chain of children, front first. -/
inductive IsChain : Chain → List Step → Chain → Prop
  | done {front} : IsChain front [] front
  | child {front step found rest whole} : IsStep step found →
      IsChain (.join front .child found) rest whole → IsChain front (step :: rest) whole

theorem run_chainFrom_of_finish (setting : Setting) (front : Chain) (fuel position : Nat)
    {lexemes : List Lexeme} (blank : BlankBefore lexemes [.token ⟨.finish, "", position⟩]) :
    chainFrom (fuel + 1) setting front none lexemes =
      .ok ((front, none), [.token ⟨.finish, "", position⟩]) := by
  rw [chainFrom, run_bind, run_skipSpace_of_blankBefore (by simp) blank]
  rfl

/-- A child is read behind its combinator, and the chain goes on. -/
theorem run_chainFrom_of_child {setting : Setting} {front : Chain} {fuel b : Nat}
    {found : Compound} {lexemes after behind : List Lexeme} (no_space : t.kind ≠ .space)
    (blank : BlankBefore lexemes (.token ⟨.delim, ">", b⟩ :: after))
    (blank_behind : BlankBefore after (.token t :: rest))
    (compound_read : compound fuel setting (.token t :: rest) = .ok ((found, none), behind)) :
    chainFrom (fuel + 1) setting front none lexemes =
      chainFrom fuel setting (.join front .child found) none behind := by
  have going_on : endsChain setting ⟨.delim, ">", b⟩ = false := by
    simp [endsChain, Token.isDelim]
  have combinator_read : combinatorPart (.token ⟨.delim, ">", b⟩ :: after) =
      .ok (.child, .token t :: rest) := by
    have no_plus : Token.isDelim ⟨.delim, ">", b⟩ "+" = false := rfl
    have is_child : Token.isDelim ⟨.delim, ">", b⟩ ">" = true := rfl
    simp only [combinatorPart, run_bind, run_peek, ok_bind, no_plus, is_child, Bool.false_eq_true,
      if_false, if_true, run_discard_next, run_skipSpace_of_blankBefore no_space blank_behind,
      run_pure]
  rw [chainFrom, run_bind, run_skipSpace_of_blankBefore (by simp) blank, ok_bind, run_bind,
    run_peek]
  simp only [ok_bind, going_on, Bool.false_eq_true, if_false, run_bind, combinator_read,
    compound_read]

theorem exists_token_of_spellsStep {step : Step} {lexemes behind : List Lexeme}
    (spells : SpellsStep step lexemes behind) :
    ∃ t rest, lexemes = .token t :: rest ∧ t.kind ≠ .space := by
  obtain ⟨tag, _ | n⟩ := step
  · obtain ⟨a, rfl⟩ := spells
    exact ⟨_, _, rfl, nofun⟩
  · obtain ⟨a, b, c, d, e, f, rfl⟩ := spells
    exact ⟨_, _, rfl, nofun⟩

theorem endsStep_of_blankBefore {lexemes : List Lexeme}
    (blank : BlankBefore lexemes (.token t :: rest))
    (ends : t.kind = .finish ∨ t.kind = .delim ∧ t.value = ">") : EndsStep lexemes := by
  rcases blank with rfl | ⟨a, rfl⟩
  · exact ⟨t, rest, rfl, .inr ends⟩
  · exact ⟨_, _, rfl, .inl rfl⟩

/-- What is behind the first step of a path is read as the rest of the chain. -/
def ReadsOn (rest : List Step) (behind : List Lexeme) : Prop :=
  ∀ setting front fuel, rest.length + 6 ≤ fuel → ∃ whole position, IsChain front rest whole ∧
    chainFrom fuel setting front none behind =
      .ok ((whole, none), [.token ⟨.finish, "", position⟩])

/-- The first step of a path is read as a compound, and the other ones as the rest of the chain. -/
theorem reads_of_spells {steps : List Step} {lexemes : List Lexeme}
    (spells : Spells steps lexemes) :
    ∃ step rest behind, steps = step :: rest ∧ SpellsStep step lexemes behind ∧ EndsStep behind ∧
      ReadsOn rest behind := by
  -- On the spelling: the rest of a chain is read as a combinator, a first step, and its own rest.
  induction spells with
  | @last step lexemes behind position step_spells blank =>
    refine ⟨step, [], _, rfl, step_spells, endsStep_of_blankBefore blank (.inl rfl), ?_⟩
    intro setting front fuel enough
    cases fuel with
    | zero => simp at enough
    | succ fuel =>
      exact ⟨front, position, .done, run_chainFrom_of_finish setting front fuel position blank⟩
  | @more step next others lexemes behind after front mark step_spells blank blank_behind _ ih =>
    obtain ⟨_, rest, tail, same, next_spells, ends, reads_on⟩ := ih
    obtain ⟨rfl, rfl⟩ := List.cons.inj same
    refine ⟨step, next :: others, _, rfl, step_spells,
      endsStep_of_blankBefore blank (.inr ⟨rfl, rfl⟩), ?_⟩
    intro setting chain_front fuel enough
    rw [List.length_cons] at enough
    obtain ⟨fuel, rfl⟩ := Nat.exists_eq_add_of_le enough
    obtain ⟨found, is_step, compound_read⟩ := run_compound_of_step (.inl rfl) next_spells ends
      setting (others.length + 1 + fuel)
    obtain ⟨whole, position, is_chain, chain_read⟩ := reads_on setting
      (.join chain_front .child found) (others.length + 1 + fuel + 5) (by omega)
    refine ⟨whole, position, .child is_step is_chain, ?_⟩
    obtain ⟨t, tail, rfl, no_space⟩ := exists_token_of_spellsStep next_spells
    -- One call for this step, the others for what follows.
    have steps_left : others.length + 1 + 6 + fuel = others.length + 1 + fuel + 5 + 1 := by omega
    rw [steps_left, run_chainFrom_of_child no_space blank blank_behind compound_read, chain_read]

theorem length_lt_of_spells {steps : List Step} {lexemes : List Lexeme}
    (spells : Spells steps lexemes) : steps.length < lexemes.length := by
  have at_least_one : ∀ {step : Step} {lexemes behind : List Lexeme},
      SpellsStep step lexemes behind → behind.length < lexemes.length := by
    rintro ⟨tag, _ | n⟩ lexemes behind step_spells
    · obtain ⟨a, rfl⟩ := step_spells
      simp
    · obtain ⟨a, b, c, d, e, f, rfl⟩ := step_spells
      simp only [List.length_cons]
      omega
  have no_longer : ∀ {lexemes rest : List Lexeme}, BlankBefore lexemes rest →
      rest.length ≤ lexemes.length := by
    rintro lexemes rest (rfl | ⟨a, rfl⟩)
    · exact Nat.le_refl _
    · exact Nat.le_succ _
  induction spells with
  | last step_spells blank =>
    have longer := at_least_one step_spells
    have begins := no_longer blank
    simp only [List.length_cons, List.length_nil] at begins ⊢
    omega
  | more step_spells blank blank_behind _ ih =>
    have longer := at_least_one step_spells
    have begins := no_longer blank
    have begins_behind := no_longer blank_behind
    simp only [List.length_cons] at begins ih ⊢
    omega

/-- A selector that spells steps is one chain of children. -/
theorem parse_of_spells {steps : List Step} {source : String} {front : List Lexeme}
    (blank : BlankBefore (lexemes source) front) (spells : Spells steps front) :
    ∃ step rest first whole, steps = step :: rest ∧ IsStep step first ∧
      IsChain (.single first) rest whole ∧ parse source = .ok [⟨whole, none⟩] := by
  have shorter : steps.length < (lexemes source).length := by
    have front_shorter := length_lt_of_spells spells
    rcases blank with same | ⟨a, same⟩
    · rwa [same]
    · rw [same]
      exact Nat.lt_succ_of_lt front_shorter
  obtain ⟨step, rest, behind, rfl, step_spells, ends, reads_on⟩ := reads_of_spells spells
  obtain ⟨first, is_step, compound_read⟩ := run_compound_of_step blank step_spells ends .start
    (4 * (lexemes source).length - 2)
  rw [List.length_cons] at shorter
  obtain ⟨whole, position, is_chain, chain_read⟩ := reads_on Setting.start.next (.single first)
    (4 * (lexemes source).length + 3) (by omega)
  refine ⟨step, rest, first, whole, rfl, is_step, is_chain, ?_⟩
  -- There are more tokens than steps, so the fuel lasts.
  have fuel_left : 4 * (lexemes source).length - 2 + 5 = 4 * (lexemes source).length + 3 := by omega
  rw [fuel_left] at compound_read
  have group_read : group (4 * (lexemes source).length + 4) (4 * (lexemes source).length + 4)
      (lexemes source) = .ok ([⟨whole, none⟩], [.token ⟨.finish, "", position⟩]) := by
    simp only [group, chain, run_bind, compound_read, ok_bind, chain_read]
    rw [run_accept_of_not_isDelim (by rfl)]
    rfl
  rw [parse]
  change Prod.fst <$> group _ _ _ = _
  rw [group_read]
  rfl

end PageScheme.Selector.Reader
