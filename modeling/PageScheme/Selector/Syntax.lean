import PageScheme.Selector.Token

/-!
# The parts of a selector

A selector is a group of chains. A chain is a sequence of compounds joined by combinators, and may
end in a pseudo-element. A compound starts with an element, named or not, and adds one condition
after the other. The argument of a negation is a chain in turn, and those of a relation are chains
that start from the compound: each begins with a combinator.
-/
namespace PageScheme.Selector

inductive Combinator
  | descendant
  | child
  | adjacent
  | sibling
  deriving DecidableEq, Repr

inductive Comparison
  | exists
  | equals
  | differs
  | includes
  | dashMatch
  | startsWith
  | endsWith
  | contains
  deriving DecidableEq, Repr

structure AttributeTest where
  space : Option String := none
  name : String
  comparison : Comparison := .exists
  value : String := ""
  ignoreCase : Bool := false
  deriving DecidableEq, Repr, Inhabited

inductive Space
  | unsaid
  | any
  | named (name : String)
  deriving DecidableEq, Repr

mutual

/-- A compound: an element and the conditions on it, the last one outermost. -/
inductive Compound
  | element (space : Space) (name : Option String)
  | hash (base : Compound) (id : String)
  | ofClass (base : Compound) (name : String)
  | attribute (base : Compound) (test : AttributeTest)
  | pseudoClass (base : Compound) (name : String)
  | function (base : Compound) (name : String) (arguments : List Token)
  | negation (base : Compound) (argument : Chain)
  | relation (base : Compound) (arguments : List Relative)
  | anyOf (base : Compound) (arguments : List Compound)

inductive Chain
  | single (compound : Compound)
  | join (front : Chain) (combinator : Combinator) (last : Compound)

/-- A chain that starts from somewhere else. -/
inductive Relative
  | mk (combinator : Combinator) (chain : Chain)

end

instance : Inhabited Compound := ⟨.element .unsaid none⟩

structure Entry where
  chain : Chain
  pseudoElement : Option String

inductive Fault
  | expectedSelector (found : Token)
  | expectedIdent (found : Token)
  | expectedIdentOrStar (found : Token)
  | expectedArgument (found : Token)
  | expectedClosing (found : Token)
  | expectedBar (found : Token)
  | expectedOperator (found : Token)
  | expectedValue (found : Token)
  | expectedBracket (found : Token)
  | pseudoElementNotLast (name : String)
  | pseudoElementInNegation (name : String) (position : Nat)
  | pseudoElementInFunction (name : String)
  | nestedNegation
  | scopeNotFirst
  | unclosedString (position : Nat)
  | invalidString (position : Nat)
  | tokensExhausted
  | unknownPseudoClass (name : String)
  | unknownFunction (name : String)
  | pseudoElement
  | invalidSeries (arguments : List Token)
  | unnamedElement (condition : String)
  | singleArgument (function : String) (arguments : List Token)
  deriving DecidableEq, Repr

def tokensText (tokens : List Token) : String :=
  "[" ++ ", ".intercalate (tokens.map Token.text) ++ "]"

def Fault.text : Fault → String
  | expectedSelector found => "Expected selector, got " ++ found.text
  | expectedIdent found => "Expected ident, got " ++ found.text
  | expectedIdentOrStar found => "Expected ident or '*', got " ++ found.text
  | expectedArgument found => "Expected an argument, got " ++ found.text
  | expectedClosing found => "Expected ')', got " ++ found.text
  | expectedBar found => "Expected '|', got " ++ found.text
  | expectedOperator found => "Operator expected, got " ++ found.text
  | expectedValue found => "Expected string or ident, got " ++ found.text
  | expectedBracket found => "Expected ']', got " ++ found.text
  | pseudoElementNotLast name =>
    "Got pseudo-element ::" ++ name ++ " not at the end of a selector"
  | pseudoElementInNegation name position =>
    "Got pseudo-element ::" ++ name ++ " inside :not() at " ++ position.repr
  | pseudoElementInFunction name => "Got pseudo-element ::" ++ name ++ " inside function"
  | nestedNegation => "Got nested :not()"
  | scopeNotFirst => "Got pseudo-class \":scope\" not at the start of a selector"
  | unclosedString position => "Unclosed string at " ++ position.repr
  | invalidString position => "Invalid string at " ++ position.repr
  | tokensExhausted => "Expected ')', got nothing"
  | unknownPseudoClass name => "The pseudo-class :" ++ name ++ " is unknown"
  | unknownFunction name => "The pseudo-class :" ++ name ++ "() is unknown"
  | pseudoElement => "Pseudo-elements are not supported."
  | invalidSeries arguments => "Invalid series: '" ++ tokensText arguments ++ "'"
  | unnamedElement condition => "*:" ++ condition ++ " is not implemented"
  | singleArgument function arguments =>
    "Expected a single string or ident for :" ++ function ++ "(), got " ++ tokensText arguments

end PageScheme.Selector
