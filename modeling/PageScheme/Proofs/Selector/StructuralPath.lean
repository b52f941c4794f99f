import Mathlib.Algebra.Group.Nat.Defs
import PageScheme.Proofs.Page.Ancestry
import PageScheme.Proofs.Selector.Reading
import PageScheme.Proofs.Sequencing
import PageScheme.Selector.Selection

/-!
# What a path of steps selects

As a selector, a path of steps asks for a tag in each step, and for a position among the siblings of
the tag where the step has one. It can always be run: it compares nothing with a text that XML has
no place for, and names no space. `select_of_descent` says what it finds: every place of the
document to which a way from child to child leads down, if the steps hold along the way and it
begins inside the context.
-/
namespace PageScheme.Selector

open PageScheme.Path (Step)
open Reader (IsStep IsChain)

/-! ### Positions -/

theorem decimal?_of_isDigit {c : Char} (digit : c.isDigit = true) :
    Text.decimal? c = some (c.toNat - 48) := by
  have plain := Text.isPlain_of_isDigit digit
  revert digit
  exact Text.of_isPlain
    (motive := fun c => c.isDigit = true → Text.decimal? c = some (c.toNat - 48)) plain (by decide)

theorem digitsOf_of_isDigit {digits : List Char} (all_digits : ∀ c ∈ digits, c.isDigit = true)
    (previous : Bool) (n : Nat) (some_digit : previous = true ∨ digits ≠ []) :
    digitsOf previous n digits = some (Nat.ofDigitChars 10 digits n) := by
  induction digits generalizing previous n with
  | nil =>
    obtain rfl : previous = true := by simpa using some_digit
    rfl
  | cons c digits ih =>
    have head := all_digits c List.mem_cons_self
    have no_line : c ≠ '_' := by
      rintro rfl
      revert head
      decide
    rw [digitsOf.eq_3 previous n c digits (fun _ _ line _ => no_line line),
      decimal?_of_isDigit head, Nat.ofDigitChars_cons, Nat.mul_comm 10 n]
    exact ih (fun d member => all_digits d (List.mem_cons_of_mem _ member)) true _ (.inl rfl)

section Numerals

variable (n : Nat)

theorem strip_numeral : Text.strip (Nat.toDigits 10 n) = Nat.toDigits 10 n :=
  Text.stripBy_eq_self fun c member =>
    Text.of_isPlain (motive := fun c => Text.isBlank c = false)
      (Text.isPlain_of_isDigit (Text.isDigit_of_mem_numeral member)) (by decide)

variable {n}

theorem unsignedNumber_eq :
    unsignedNumber (Nat.toDigits 10 n) =
      if digitLimit < (Nat.toDigits 10 n).countP (fun c => (Text.decimal? c).isSome) then none
      else some n := by
  rw [unsignedNumber, digitsOf_of_isDigit (fun _ => Text.isDigit_of_mem_numeral) false 0
    (.inr Nat.toDigits_ne_nil), Nat.ofDigitChars_ten_toDigits]

/-- The numeral of a number that has not too many digits is the number. -/
theorem unsignedNumber_numeral (readable : n < 10 ^ digitLimit) :
    unsignedNumber (Nat.toDigits 10 n) = some n := by
  -- The limit is on the digits, and a number below `10 ^ digitLimit` has no more of them.
  have short : (Nat.toDigits 10 n).countP (fun c => (Text.decimal? c).isSome) ≤ digitLimit :=
    List.countP_le_length.trans ((Nat.length_toDigits_le_iff (by decide) (by decide)).mpr readable)
  rw [unsignedNumber_eq, if_neg (Nat.not_lt.mpr short)]

theorem eq_of_unsignedNumber_numeral {m : Nat}
    (read : unsignedNumber (Nat.toDigits 10 n) = some m) : m = n := by
  rw [unsignedNumber_eq] at read
  split at read
  · cases read
  · exact (Option.some_inj.mp read).symm

theorem wholeNumber_numeral :
    wholeNumber (Nat.toDigits 10 n) =
      (unsignedNumber (Nat.toDigits 10 n)).map fun m => (m : Int) := by
  rw [wholeNumber, strip_numeral]
  split
  next rest split =>
    exact absurd (Text.isDigit_of_mem_numeral (by rw [split]; exact List.mem_cons_self)) (by decide)
  next rest split =>
    exact absurd (Text.isDigit_of_mem_numeral (by rw [split]; exact List.mem_cons_self)) (by decide)
  next => rfl

theorem series_numeral (position : Nat) :
    series [⟨.number, n.repr, position⟩] =
      (unsignedNumber (Nat.toDigits 10 n)).map fun m => (0, (m : Int)) := by
  -- A series is told by its letters, and a numeral has none.
  have no_letter : ∀ c : Char, c.isDigit = false → c ∉ Nat.toDigits 10 n := by
    intro c no_digit member
    rw [Text.isDigit_of_mem_numeral member] at no_digit
    exact Bool.noConfusion no_digit
  have written :
      Text.strip ([⟨.number, n.repr, position⟩].flatMap fun t : Token => t.value.toList) =
        Nat.toDigits 10 n := by
    rw [List.flatMap_singleton, Nat.toList_repr, strip_numeral]
  have small : Text.lower (String.ofList (Nat.toDigits 10 n)) =
      String.ofList (Nat.toDigits 10 n) :=
    Text.lower_eq_self fun c member =>
      Text.isPlain_of_isDigit (Text.isDigit_of_mem_numeral (by simpa using member))
  have not_odd : Nat.toDigits 10 n ≠ "odd".toList := fun same =>
    no_letter 'o' rfl (by rw [same]; decide)
  have not_even : Nat.toDigits 10 n ≠ "even".toList := fun same =>
    no_letter 'e' rfl (by rw [same]; decide)
  have single : (Nat.toDigits 10 n).contains 'n' = false := by
    rw [← Bool.not_eq_true, List.contains_iff_mem]
    exact no_letter 'n' rfl
  rw [series, if_neg (by simp), written]
  change seriesOf (Text.lower (String.ofList (Nat.toDigits 10 n))).toList = _
  rw [small, String.toList_ofList, seriesOf, if_neg not_odd, if_neg not_even, single,
    wholeNumber_numeral]
  simp

end Numerals

/-! ### What steps ask for -/

def stepDemand (step : Step) : Demand where
  element := .tag step.tag
  condition :=
    match step.position with
    | none => .always
    | some n => .position (some step.tag) false 0 n

/-- The tag of a step is plain, and its position has not too many digits to be read. -/
structure IsReadable (step : Step) : Prop where
  plain : step.IsPlain
  position : ∀ n ∈ step.position, n < 10 ^ digitLimit

theorem IsReadable.reduced {step : Step} (readable : IsReadable step) : IsReadable step.reduced :=
  ⟨readable.plain, nofun⟩

theorem elementDemand_plain {tag : String} (plain : Text.isPlainName tag = true) :
    elementDemand .unsaid (some tag) = { element := .tag tag } := by
  have small : Text.lower tag = tag :=
    Text.lower_eq_self fun _ member => Text.isPlain_of_mem plain member
  have direct : isPlainName tag = true := by
    obtain ⟨c, rest, split, is_lower, rest_plain⟩ := Text.isPlainName_iff.mp plain
    rw [isPlainName, split]
    simp only [Bool.and_eq_true, List.all_eq_true]
    constructor
    · have letter : c.isAlpha = (c.isUpper || c.isLower) := rfl
      simp [letter, is_lower]
    · intro d member
      exact Text.of_isPlain (motive := fun d => (d.isAlphanum || decide (d = '_') ||
        decide (d = '.') || decide (d = '-')) = true) (rest_plain d member) (by decide)
  simp only [elementDemand, Option.map_some, small]
  exact if_pos direct

/-- Siblings of the tag are counted, which is known from the element of the compound. -/
theorem askFunction_numeral (tag : String) (n position : Nat) :
    askFunction "nth-of-type" [⟨.number, n.repr, position⟩] { element := .tag tag } =
      match unsignedNumber (Nat.toDigits 10 n) with
      | none => .error (.invalidSeries [⟨.number, n.repr, position⟩])
      | some m => .ok (stepDemand ⟨tag, some m⟩) := by
  have name : canonical "nth-of-type" = "nth_of_type" := rfl
  simp only [askFunction, name, countedTag, ElementTest.name?, askSeries, series_numeral]
  cases unsignedNumber (Nat.toDigits 10 n) <;> rfl

theorem demand_function {tag : String} (plain : Text.isPlainName tag = true)
    (arguments : List Token) :
    demand (.function (.element .unsaid (some tag)) "nth-of-type" arguments) =
      askFunction "nth-of-type" arguments { element := .tag tag } := by
  have known : functions.contains (canonical "nth-of-type") = true := rfl
  rw [demand, if_pos known, demand, elementDemand_plain plain]
  rfl

theorem demand_of_isStep {step : Step} {found : Compound} (is_step : IsStep step found)
    (readable : IsReadable step) : demand found = .ok (stepDemand step) := by
  obtain ⟨tag, _ | n⟩ := step
  · obtain rfl := is_step
    rw [demand, elementDemand_plain readable.plain]
    rfl
  · obtain ⟨position, rfl⟩ := is_step
    rw [demand_function readable.plain, askFunction_numeral,
      unsignedNumber_numeral (readable.position n rfl)]

/-- A step asks for nothing but itself, if it can be read at all. -/
theorem eq_of_demand_of_isStep {step : Step} {found : Compound} {read : Demand}
    (is_step : IsStep step found) (plain : step.IsPlain) (asks : demand found = .ok read) :
    read = stepDemand step := by
  obtain ⟨tag, _ | n⟩ := step
  · obtain rfl := is_step
    rw [demand, elementDemand_plain plain] at asks
    exact (Except.ok.inj asks).symm
  · obtain ⟨position, rfl⟩ := is_step
    rw [demand_function plain, askFunction_numeral] at asks
    split at asks
    · cases asks
    next m is_number =>
      obtain rfl := eq_of_unsignedNumber_numeral is_number
      exact (Except.ok.inj asks).symm

def childDemands (steps : List Step) : List (Combinator × Demand) :=
  steps.map fun step => (.child, stepDemand step)

theorem route_of_isChain {front whole : Chain} {steps : List Step} {begun : Route}
    (is_chain : IsChain front steps whole) (readable : ∀ step ∈ steps, IsReadable step)
    (front_route : route front = .ok begun) :
    route whole = .ok { begun with rest := begun.rest ++ childDemands steps } := by
  -- On the chain: a joined compound adds its demand at the end of the route of the front.
  induction is_chain generalizing begun with
  | done => simp [front_route, childDemands]
  | @child front step found rest whole is_step _ ih =>
    have joined : route (.join front .child found) =
        .ok { begun with rest := begun.rest ++ [(.child, stepDemand step)] } := by
      rw [route, front_route, demand_of_isStep is_step (readable step List.mem_cons_self)]
      rfl
    rw [ih (fun other member => readable other (List.mem_cons_of_mem _ member)) joined]
    simp [childDemands]

/-- As far as its steps can be read, a chain asks for nothing but its steps. -/
theorem eq_of_route_of_isChain {front whole : Chain} {steps : List Step} {begun found : Route}
    (is_chain : IsChain front steps whole) (plain : ∀ step ∈ steps, step.IsPlain)
    (front_route : ∀ read, route front = .ok read → read = begun)
    (found_route : route whole = .ok found) :
    found = { begun with rest := begun.rest ++ childDemands steps } := by
  induction is_chain generalizing begun with
  | done =>
    rw [front_route found found_route]
    simp [childDemands]
  | @child front step compound rest whole is_step _ ih =>
    have joined : ∀ read, route (.join front .child compound) = .ok read →
        read = { begun with rest := begun.rest ++ [(.child, stepDemand step)] } := by
      intro read is_read
      rw [route] at is_read
      obtain ⟨front_read, is_front, behind⟩ := bind_eq_ok.mp is_read
      obtain ⟨asked, is_asked, same⟩ := bind_eq_ok.mp behind
      rw [← Except.ok.inj same, front_route front_read is_front,
        eq_of_demand_of_isStep is_step (plain step List.mem_cons_self) is_asked]
    rw [ih (fun other member => plain other (List.mem_cons_of_mem _ member)) joined found_route]
    simp [childDemands]

section Routes
variable {step : Step} {rest : List Step}

/-- A path of steps is read as a chain, whatever blanks it is written with. -/
theorem exists_chain_of_writes {blanks chars : List Char} (blank : Lexer.Blanks blanks)
    (writes : Lexer.Writes (step :: rest) chars) (plain : ∀ other ∈ step :: rest, other.IsPlain) :
    ∃ first whole, IsStep step first ∧ IsChain (.single first) rest whole ∧
      routes (String.ofList (blanks ++ chars)) = (route whole).map fun found => [found] := by
  obtain ⟨front, blank_before, spells⟩ := Lexer.spells_lexemes blank writes plain
  obtain ⟨_, _, first, whole, same, is_step, is_chain, parsed⟩ :=
    Reader.parse_of_spells blank_before spells
  obtain ⟨rfl, rfl⟩ := List.cons.inj same
  refine ⟨first, whole, is_step, is_chain, ?_⟩
  rw [routes, parsed]
  change ([⟨whole, none⟩] : List Entry).mapM routeOf = _
  rw [List.mapM_cons, routeOf]
  cases route whole <;> rfl

/-- The route of a path of steps: from child to child. -/
theorem routes_ofSteps (readable : ∀ other ∈ step :: rest, IsReadable other) :
    routes (Path.ofSteps (step :: rest)).markedBroken =
      .ok [⟨stepDemand step, childDemands rest⟩] := by
  have no_blanks : Lexer.Blanks [] := nofun
  obtain ⟨first, whole, is_step, is_chain, routes_eq⟩ := exists_chain_of_writes no_blanks
    (Lexer.writes_charsOf (List.cons_ne_nil step rest)) fun other member =>
      (readable other member).plain
  have first_route : route (.single first) = .ok ⟨stepDemand step, []⟩ := by
    rw [route, demand_of_isStep is_step (readable step List.mem_cons_self)]
    rfl
  have whole_route := route_of_isChain is_chain
    (fun other member => readable other (List.mem_cons_of_mem _ member)) first_route
  rw [List.nil_append] at routes_eq
  rw [Path.markedBroken_ofSteps, routes_eq, whole_route]
  rfl

/-- A path of plain steps has the route from child to child, if it can be read at all. -/
theorem eq_of_routes_of_writes {blanks chars : List Char} {found : List Route}
    (blank : Lexer.Blanks blanks) (writes : Lexer.Writes (step :: rest) chars)
    (plain : ∀ other ∈ step :: rest, other.IsPlain)
    (is_read : routes (String.ofList (blanks ++ chars)) = .ok found) :
    found = [⟨stepDemand step, childDemands rest⟩] := by
  obtain ⟨first, whole, is_step, is_chain, routes_eq⟩ := exists_chain_of_writes blank writes plain
  rw [routes_eq] at is_read
  obtain ⟨read, whole_route, rfl⟩ := map_eq_ok.mp is_read
  have first_route : ∀ read, route (.single first) = .ok read → read = ⟨stepDemand step, []⟩ := by
    intro read is_read
    rw [route] at is_read
    obtain ⟨asked, is_asked, same⟩ := bind_eq_ok.mp is_read
    rw [← Except.ok.inj same,
      eq_of_demand_of_isStep is_step (plain step List.mem_cons_self) is_asked]
  have same := eq_of_route_of_isChain is_chain
    (fun other member => plain other (List.mem_cons_of_mem _ member)) first_route whole_route
  rw [same]
  rfl

end Routes

/-! ### Following steps -/

/-- A trail that asks for steps and ends inside the context. -/
inductive AsksForSteps : Trail → Prop
  | start : AsksForSteps .inContext
  | step {combinator rest} {step : Step} : AsksForSteps rest →
      AsksForSteps (.step combinator (stepDemand step).element (stepDemand step).condition rest)

theorem looksUp_stepDemand (step : Step) (context p : Place) :
    (stepDemand step).condition.looksUp context p = false := by
  obtain ⟨tag, _ | n⟩ := step <;> rfl

theorem texts_stepDemand (step : Step) : (stepDemand step).condition.texts = [] := by
  obtain ⟨tag, _ | n⟩ := step <;> rfl

theorem looksUp_of_asksForSteps {trail : Trail} (asks : AsksForSteps trail) (context : Place) :
    (trail.namesSpace || trail.looksUp context) = false := by
  induction asks with
  | start => rfl
  | @step combinator rest step _ ih =>
    obtain ⟨no_space, no_look⟩ := Bool.or_eq_false_iff.mp ih
    have tag_alone : (stepDemand step).element.namesSpace = false := rfl
    simp [Trail.namesSpace, Trail.looksUp, tag_alone, looksUp_stepDemand, no_space, no_look]

theorem backwards_append (start : Trail) (first : Demand) (rest : List Step) (step : Step) :
    Route.backwards start ⟨first, childDemands (rest ++ [step])⟩ =
      (stepDemand step, .step .child (Route.backwards start ⟨first, childDemands rest⟩).1.element
        (Route.backwards start ⟨first, childDemands rest⟩).1.condition
        (Route.backwards start ⟨first, childDemands rest⟩).2) := by
  simp only [Route.backwards, childDemands, List.map_append, List.foldl_append]
  rfl

/-- The route of some steps ends in a demand of the last one, with a trail up through the others. -/
theorem backwards_childDemands (step : Step) (rest : List Step) :
    ∃ last trail, Route.backwards .inContext ⟨stepDemand step, childDemands rest⟩ =
      (stepDemand last, trail) ∧ AsksForSteps trail := by
  -- From the last step on, since the trail leads back from there.
  induction rest using List.reverseRecOn with
  | nil => exact ⟨step, .inContext, rfl, .start⟩
  | append_singleton rest next ih =>
    obtain ⟨last, trail, back, asks⟩ := ih
    refine ⟨next, _, backwards_append .inContext _ rest next, ?_⟩
    rw [back]
    exact .step asks

theorem isWritable_steps (step : Step) (rest : List Step) :
    Route.isWritable ⟨stepDemand step, childDemands rest⟩ = true := by
  simp [Route.isWritable, Route.texts, childDemands, texts_stepDemand, List.flatMap_map]

theorem looksUp_steps (step : Step) (rest : List Step) (context : Place) :
    Route.looksUp ⟨stepDemand step, childDemands rest⟩ context = false := by
  obtain ⟨last, trail, back, asks⟩ := backwards_childDemands step rest
  rw [Route.looksUp, back]
  exact looksUp_of_asksForSteps (.step asks) context

theorem select_of_routes {source : String} {step : Step} {rest : List Step}
    (is_read : routes source = .ok [⟨stepDemand step, childDemands rest⟩]) (context : Place) :
    select source context =
      .ok (context.document.filter fun p =>
        Route.endsAt ⟨stepDemand step, childDemands rest⟩ context p) := by
  rw [select, is_read]
  simp only [List.all_cons, List.all_nil, List.any_cons, List.any_nil, isWritable_steps,
    looksUp_steps, Bool.and_true, Bool.or_false, Bool.not_true, Bool.false_eq_true, if_false]

/-- A path of steps can be run, and finds the places of the document at which its route ends. -/
theorem select_ofSteps {step : Step} {rest : List Step}
    (readable : ∀ other ∈ step :: rest, IsReadable other) (context : Place) :
    select (Path.ofSteps (step :: rest)).markedBroken context =
      .ok (context.document.filter fun p =>
        Route.endsAt ⟨stepDemand step, childDemands rest⟩ context p) :=
  select_of_routes (routes_ofSteps readable) context

/-- The places on the way down from `top`, which the first step asks for, are what the steps behind
it ask for one by one; so the route ends there. -/
theorem endsAt_of_descent {context top p : Place} {trail : List Place} {first : Demand}
    {stepAt : Place → Step} (descent : Place.Descent top trail p)
    (within : top.isWithin context = true) (top_holds : first.holds context top = true)
    (each_holds : ∀ q ∈ trail, (stepDemand (stepAt q)).holds context q = true) :
    Route.endsAt ⟨first, childDemands (trail.reverse.map stepAt)⟩ context p = true := by
  -- On the descent: the trail goes one place up, to the parent, where the route so far ends.
  induction descent with
  | self =>
    change (first.holds context top && top.isWithin context) = true
    rw [top_holds, within]
    rfl
  | @child trail q child _ is_child ih =>
    have above := ih fun other member => each_holds other (List.mem_cons_of_mem _ member)
    have holds := each_holds child List.mem_cons_self
    rw [Route.endsAt] at above ⊢
    rw [List.reverse_cons, List.map_append, List.map_singleton, backwards_append]
    simp only [Demand.holds, Bool.and_eq_true] at above holds ⊢
    refine ⟨holds, ?_⟩
    simp only [Trail.leadsTo, Combinator.sources, Place.parent?_of_mem_children is_child,
      Option.toList_some, List.any_cons, List.any_nil, Bool.or_false, Bool.and_eq_true]
    exact above

/-- Steps that lead down to a place find it. -/
theorem select_of_descent {context top p : Place} {trail : List Place} {first : Step}
    {stepAt : Place → Step} (descent : Place.Descent top trail p)
    (readable : ∀ step ∈ first :: trail.reverse.map stepAt, IsReadable step)
    (within : top.isWithin context = true)
    (top_holds : (stepDemand first).holds context top = true)
    (each_holds : ∀ q ∈ trail, (stepDemand (stepAt q)).holds context q = true)
    (in_document : p ∈ context.document) :
    ∃ found, select (Path.ofSteps (first :: trail.reverse.map stepAt)).markedBroken context =
      .ok found ∧ p ∈ found := by
  have ends := endsAt_of_descent descent within top_holds each_holds
  exact ⟨_, select_ofSteps readable context, List.mem_filter.mpr ⟨in_document, ends⟩⟩

end PageScheme.Selector
