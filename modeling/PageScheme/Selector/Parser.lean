import PageScheme.Selector.Syntax
import PageScheme.Text.Ascii

/-!
# Reading a selector

Selectors are read token by token from the left, with one token of lookahead. Every part takes up
tokens, so their number bounds the steps of the reading.

Inside parentheses a compound also ends at the closing one. A negation cannot stand in a negation or
in a list of alternatives, and the start of the selection can only be asked for at the start of a
chain of the group.
-/
namespace PageScheme.Selector

/-- A step of the reading: it goes on from the lexemes that are still to come. -/
abbrev Reader := StateT (List Lexeme) (Except Fault)

structure Setting where
  enclosed : Bool
  allowsNegation : Bool
  allowsScope : Bool

namespace Setting

/-- The first compound of a chain of the group. -/
def start : Setting := ⟨false, true, true⟩

/-- The first compound of a chain in a relation. -/
def inRelation : Setting := ⟨true, true, false⟩

/-- A compound in a list of alternatives, or in a negation. -/
def inArguments : Setting := ⟨true, false, false⟩

/-- A compound further on in the same chain. -/
def next (s : Setting) : Setting := { s with allowsScope := false }

end Setting

namespace Reader

/-- The next token, which stays. -/
def peek : Reader Token := do
  match ← get with
  | [] => throw .tokensExhausted
  | .token t :: _ => return t
  | .unclosedString position :: _ => throw (.unclosedString position)
  | .invalidString position :: _ => throw (.invalidString position)

def next : Reader Token := do
  let t ← peek
  modify List.tail
  return t

def isBlank : Lexeme → Bool
  | .token t => t.kind = .space
  | _ => false

/-- Takes the blanks that are next, and looks at what is behind them. -/
def skipSpace : Reader Unit := do
  modify fun lexemes => lexemes.dropWhile isBlank
  discard peek

def accept (value : String) : Reader Bool := do
  if (← peek).isDelim value then
    discard next
    return true
  else return false

def ident : Reader String := do
  let t ← next
  if t.kind = .ident then return t.value else throw (.expectedIdent t)

def identOrStar : Reader (Option String) := do
  let t ← next
  if t.kind = .ident then return some t.value
  else if t.isDelim "*" then return none
  else throw (.expectedIdentOrStar t)

def isWord (t : Token) : Bool := t.kind = .ident || t.kind = .string || t.kind = .number

def arguments : Nat → Reader (List Token)
  | 0 => throw .tokensExhausted
  | fuel + 1 => do
    skipSpace
    let t ← next
    if isWord t || t.isDelim "+" || t.isDelim "-" then return t :: (← arguments fuel)
    else if t.isDelim ")" then return []
    else throw (.expectedArgument t)

def comparison : Reader (Option Comparison) := do
  skipSpace
  let t ← next
  if t.isDelim "]" then return none
  else if t.isDelim "=" then return some .equals
  else
    let found : Option Comparison :=
      if t.isDelim "^" then some .startsWith
      else if t.isDelim "$" then some .endsWith
      else if t.isDelim "*" then some .contains
      else if t.isDelim "~" then some .includes
      else if t.isDelim "|" then some .dashMatch
      else if t.isDelim "!" then some .differs
      else none
    match found with
    | none => throw (.expectedOperator t)
    | some comparison =>
      if ← accept "=" then return some comparison else throw (.expectedOperator t)

/-- Whether a token says how letters are compared, and if it does, whether capitals count as small
letters. -/
def ignoresCase? (t : Token) : Option Bool :=
  if t.kind ≠ .ident then none
  else if t.value = "i" || t.value = "I" then some true
  else if t.value = "s" || t.value = "S" then some false
  else none

def attributeValue : Reader (String × Bool) := do
  skipSpace
  let value ← next
  if value.kind = .ident || value.kind = .string then
    skipSpace
    let t ← next
    match ignoresCase? t with
    | none => if t.isDelim "]" then return (value.value, false) else throw (.expectedBracket t)
    | some ignoreCase =>
      skipSpace
      let t ← next
      if t.isDelim "]" then return (value.value, ignoreCase) else throw (.expectedBracket t)
  else throw (.expectedValue value)

def comparedTest (space : Option String) (name : String) (comparison : Comparison) :
    Reader AttributeTest := do
  let (value, ignoreCase) ← attributeValue
  return { space, name, comparison, value, ignoreCase }

def namedTest (space : Option String) (name : String) : Reader AttributeTest := do
  match ← comparison with
  | none => return { space, name }
  | some comparison => comparedTest space name comparison

/-- An attribute condition behind its opening bracket. A bar with nothing before it says that the
attribute is in no space, and a star before it that it may be in any. -/
def attributeTest : Reader AttributeTest := do
  skipSpace
  if ← accept "|" then namedTest none (← ident)
  else
    let name ← identOrStar
    let t ← peek
    -- A star alone is no name of an attribute.
    if name.isNone && !t.isDelim "|" then throw (.expectedBar t)
    else if ← accept "|" then
      -- The bar belongs to an operator, not to a space.
      if ← accept "=" then comparedTest none (name.getD "") .dashMatch
      else namedTest name (← ident)
    else namedTest none (name.getD "")

def elementPart : Reader Compound := do
  let t ← peek
  if t.kind = .ident || t.isDelim "*" then
    let name ← identOrStar
    if ← accept "|" then
      let space := name.elim Space.any Space.named
      return .element space (← identOrStar)
    else return .element .unsaid name
  else if ← accept "|" then return .element .unsaid (some (← ident))
  else return .element .unsaid none

def oldPseudoElements : List String := ["first-line", "first-letter", "before", "after"]

def functionalName (name : String) (tokens : List Token) : String :=
  let quoted := tokens.map fun t => "'" ++ t.value ++ "'"
  "FunctionalPseudoElement[::" ++ name ++ "([" ++ ", ".intercalate quoted ++ "])]"

def pseudoElementName (fuel : Nat) : Reader String := do
  let name ← ident
  if ← accept "(" then return functionalName name (← arguments fuel) else return name

def endsCompound (setting : Setting) (t : Token) : Bool :=
  t.kind = .space || t.kind = .finish || t.isDelim "," || t.isDelim "+" || t.isDelim ">" ||
    t.isDelim "~" || (setting.enclosed && t.isDelim ")")

def endsChain (setting : Setting) (t : Token) : Bool :=
  t.kind = .finish || t.isDelim "," || (setting.enclosed && t.isDelim ")")

/-- The combinator that comes next: a blank if there is nothing else. -/
def combinatorPart : Reader Combinator := do
  let t ← peek
  let known : Option Combinator :=
    if t.isDelim "+" then some .adjacent
    else if t.isDelim ">" then some .child
    else if t.isDelim "~" then some .sibling
    else none
  match known with
  | none => return .descendant
  | some combinator =>
    discard next
    skipSpace
    return combinator

mutual

/-- The conditions of a compound behind its element, and the pseudo-element at its end. -/
def conditions : Nat → Setting → Compound → Option String → Reader (Compound × Option String)
  | 0, _, _, _ => throw .tokensExhausted
  | fuel + 1, setting, base, pseudoElement => do
    let t ← peek
    if endsCompound setting t then return (base, pseudoElement)
    else
      match pseudoElement with
      | some name => throw (.pseudoElementNotLast name)
      | none =>
        if t.kind = .hash then
          discard next
          conditions fuel setting (.hash base t.value) none
        else if ← accept "." then
          conditions fuel setting (.ofClass base (← ident)) none
        else if ← accept "[" then
          conditions fuel setting (.attribute base (← attributeTest)) none
        else if ← accept ":" then
          if ← accept ":" then
            conditions fuel setting base (some (← pseudoElementName fuel))
          else
            let name ← ident
            let lower := Text.lowerAscii name
            -- These are written with one colon, but end a compound like those with two.
            if oldPseudoElements.contains lower then
              conditions fuel setting base (some name)
            else if ← accept "(" then
              skipSpace
              conditions fuel setting (← functionPart fuel setting base lower) none
            else if lower = "scope" && !setting.allowsScope then throw .scopeNotFirst
            else conditions fuel setting (.pseudoClass base lower) none
        else throw (.expectedSelector t)
termination_by structural fuel => fuel

def functionPart : Nat → Setting → Compound → String → Reader Compound
  | 0, _, _, _ => throw .tokensExhausted
  | fuel + 1, setting, base, name => do
    if name = "not" then
      if !setting.allowsNegation then throw .nestedNegation
      else
        let (argument, pseudoElement) ← chain fuel .inArguments
        let t ← next
        match pseudoElement with
        | some inner => throw (.pseudoElementInNegation inner t.position)
        | none =>
          if t.isDelim ")" then return .negation base argument else throw (.expectedClosing t)
    else if name = "has" then return .relation base (← relatives fuel)
    else if name = "is" || name = "matches" || name = "where" then
      return .anyOf base (← compounds fuel)
    else return .function base name (← arguments fuel)
termination_by structural fuel => fuel

def relatives : Nat → Reader (List Relative)
  | 0 => throw .tokensExhausted
  | fuel + 1 => do
    let combinator ← combinatorPart
    let (argument, pseudoElement) ← chain fuel .inRelation
    match pseudoElement with
    | some inner => throw (.pseudoElementInFunction inner)
    | none =>
      let t ← next
      if t.isDelim ")" then return [.mk combinator argument]
      else if t.isDelim "," then
        skipSpace
        return .mk combinator argument :: (← relatives fuel)
      else throw (.expectedClosing t)
termination_by structural fuel => fuel

def compounds : Nat → Reader (List Compound)
  | 0 => throw .tokensExhausted
  | fuel + 1 => do
    let (argument, pseudoElement) ← compound fuel .inArguments
    match pseudoElement with
    | some inner => throw (.pseudoElementInFunction inner)
    | none =>
      skipSpace
      let t ← next
      if t.isDelim ")" then return [argument]
      else if t.isDelim "," then return argument :: (← compounds fuel)
      else throw (.expectedArgument t)
termination_by structural fuel => fuel

/-- A compound and the pseudo-element at its end; it has at least one token. -/
def compound : Nat → Setting → Reader (Compound × Option String)
  | 0, _ => throw .tokensExhausted
  | fuel + 1, setting => do
    skipSpace
    let ahead := (← get).length
    let element ← elementPart
    let result ← conditions fuel setting element none
    -- Nothing has been taken: neither an element nor a condition stands here.
    if (← get).length = ahead then throw (.expectedSelector (← peek)) else return result
termination_by structural fuel => fuel

def chain : Nat → Setting → Reader (Chain × Option String)
  | 0, _ => throw .tokensExhausted
  | fuel + 1, setting => do
    let (first, pseudoElement) ← compound fuel setting
    chainFrom fuel setting.next (.single first) pseudoElement
termination_by structural fuel => fuel

def chainFrom : Nat → Setting → Chain → Option String → Reader (Chain × Option String)
  | 0, _, _, _ => throw .tokensExhausted
  | fuel + 1, setting, front, pseudoElement => do
    skipSpace
    if endsChain setting (← peek) then return (front, pseudoElement)
    else
      match pseudoElement with
      | some name => throw (.pseudoElementNotLast name)
      | none =>
        -- The blank in front has been taken: where nothing else stands, it was the combinator.
        let combinator ← combinatorPart
        let (last, pseudoElement) ← compound fuel setting
        chainFrom fuel setting (.join front combinator last) pseudoElement
termination_by structural fuel => fuel

end

def group (bound : Nat) : Nat → Reader (List Entry)
  | 0 => throw .tokensExhausted
  | fuel + 1 => do
    let (chain, pseudoElement) ← chain bound .start
    if ← accept "," then
      skipSpace
      return ⟨chain, pseudoElement⟩ :: (← group bound fuel)
    else return [⟨chain, pseudoElement⟩]

end Reader

def parse (source : String) : Except Fault (List Entry) :=
  let tokens := lexemes source
  -- A few calls for each token are enough to get to the end.
  let bound := 4 * tokens.length + 4
  (Reader.group bound bound).run' tokens

end PageScheme.Selector
