import PageScheme.Selector.Condition
import PageScheme.Selector.Parser
import PageScheme.Selector.Series

/-!
# What the parts of a selector ask for

Tags and attribute names are compared in lower case. Conditions add up, one after the other.

Some compounds ask for an element by a condition instead of its tag: one of any space, one with an
unusual name, and one that is the start of the selection. Siblings of a tag are only counted where
the tag is asked for as such.
-/
namespace PageScheme.Selector

def isPlainName (name : String) : Bool :=
  match name.toList with
  | [] => false
  | c :: rest =>
    (c.isAlpha || c = '_') && rest.all fun c => c.isAlphanum || c = '_' || c = '.' || c = '-'

def tagDemand (name : String) : Demand :=
  if isPlainName name then { element := .tag name }
  else { element := .any, condition := .name name }

def elementDemand (space : Space) (name : Option String) : Demand :=
  let lower := name.map Text.lower
  match space, lower with
  | .named space, name =>
    if isPlainName space && name.all isPlainName then
      { element := .inSpace space (name.getD "*") }
    else { element := .any, condition := .name (space ++ ":" ++ name.getD "*") }
  | _, none => { element := .any }
  | .unsaid, some name => tagDemand name
  | .any, some name => { element := .any, condition := .name name }

def isWordValue (s : String) : Bool := s ≠ "" && !s.toList.any Lexer.isSpace

def Comparison.accepts (comparison : Comparison) (value : String) : Bool :=
  match comparison with
  | .includes => isWordValue value
  | .startsWith | .endsWith | .contains => value ≠ ""
  | _ => true

/-- The demand for an attribute. A name that cannot be asked for directly has no space of its
own. -/
def attributeDemand (test : AttributeTest) : Condition :=
  let lower := Text.lower test.name
  if test.comparison.accepts test.value then
    match test.space with
    | none => .attribute { test with name := lower }
    | some space =>
      if isPlainName space && isPlainName lower then .attribute { test with name := lower }
      else .attribute { test with space := none, name := space ++ ":" ++ lower }
  else .never

def countedTag (what : String) (d : Demand) : Except Fault String :=
  match d.element.name? with
  | some name => .ok name
  | none => .error (.unnamedElement what)

/-- A name as its conditions are looked up by. -/
def canonical (name : String) : String :=
  String.ofList (name.toList.map fun c => if c = '-' then '_' else c)

def askPseudoClass (name : String) (d : Demand) : Except Fault Demand :=
  match canonical name with
  | "root" => .ok (d.ask .root)
  | "scope" => .ok (d.named.ask .scope)
  | "first_child" => .ok (d.ask (.position none false 0 1))
  | "last_child" => .ok (d.ask (.position none true 0 1))
  | "only_child" => .ok (d.ask (.only none))
  | "first_of_type" => do
    return d.ask (.position (some (← countedTag "first-of-type" d)) false 0 1)
  | "last_of_type" => do
    return d.ask (.position (some (← countedTag "last-of-type" d)) true 0 1)
  | "only_of_type" => do return d.ask (.only (some (← countedTag "only-of-type" d)))
  | "empty" => .ok (d.ask .empty)
  | "link" => .ok (d.ask .link)
  | "checked" => .ok (d.ask .checked)
  | "enabled" => .ok (d.ask .enabled)
  | "disabled" => .ok (d.ask .disabled)
  -- The others depend on what a page is used for, and never hold.
  | _ => .ok (d.ask .never)

def pseudoClasses : List String :=
  ["root", "scope", "first_child", "last_child", "only_child", "first_of_type", "last_of_type",
    "only_of_type", "empty", "link", "checked", "enabled", "disabled", "visited", "hover", "active",
    "focus", "target"]

def functions : List String :=
  ["nth_child", "nth_last_child", "nth_of_type", "nth_last_of_type", "contains", "lang"]

/-- Asks for a position in a series. Where every position is in it, nothing is asked. -/
def askSeries (tag : Option String) (fromEnd : Bool) (arguments : List Token) (d : Demand) :
    Except Fault Demand :=
  match series arguments with
  | none => .error (.invalidSeries arguments)
  | some (a, b) => .ok (if a = 1 && b ≤ 1 then d else d.ask (.position tag fromEnd a b))

def singleArgument (function : String) (arguments : List Token) : Except Fault String :=
  match arguments with
  | [t] =>
    if t.kind = .string || t.kind = .ident then .ok t.value
    else .error (.singleArgument function arguments)
  | _ => .error (.singleArgument function arguments)

def askFunction (name : String) (arguments : List Token) (d : Demand) : Except Fault Demand :=
  match canonical name with
  | "nth_child" => askSeries none false arguments d
  | "nth_last_child" => askSeries none true arguments d
  | "nth_of_type" => do
    askSeries (some (← countedTag "nth-of-type()" d)) false arguments d
  | "nth_last_of_type" => do
    askSeries (some (← countedTag "nth-last-of-type()" d)) true arguments d
  | "contains" => do return d.ask (.contains (Text.lower (← singleArgument "contains" arguments)))
  | _ => do return d.ask (.language (Text.lower (← singleArgument "lang" arguments)))

def anyCondition : List Condition → Condition
  | [] => .never
  | [condition] => condition
  | condition :: rest => .either condition (anyCondition rest)

mutual

def demand : Compound → Except Fault Demand
  | .element space name => .ok (elementDemand space name)
  | .hash base id => do
    return (← demand base).ask (.attribute { name := "id", comparison := .equals, value := id })
  | .ofClass base name => do
    return (← demand base).ask
      (attributeDemand { name := "class", comparison := .includes, value := name })
  | .attribute base test => do return (← demand base).ask (attributeDemand test)
  | .pseudoClass base name =>
    if pseudoClasses.contains (canonical name) then do askPseudoClass name (← demand base)
    else .error (.unknownPseudoClass name)
  | .function base name arguments =>
    if functions.contains (canonical name) then do askFunction name arguments (← demand base)
    else .error (.unknownFunction name)
  | .negation base argument => do
    let d ← demand base
    return d.ask (.not (← route argument).condition)
  -- Each argument is a way that has to lead on from the element.
  | .relation base arguments => do
    let d ← demand base
    return d.ask (anyCondition ((← trails arguments).map .ahead))
  | .anyOf base arguments => do
    let d ← demand base
    return d.ask (anyCondition ((← demands arguments).map fun argument => argument.named.condition))
termination_by structural compound => compound

def route : Chain → Except Fault Route
  | .single compound => do return ⟨← demand compound, []⟩
  | .join front combinator last => do
    let front ← route front
    return { front with rest := front.rest ++ [(combinator, ← demand last)] }
termination_by structural chain => chain

def trail : Relative → Except Fault Trail
  | .mk combinator chain => do return (← route chain).forwards combinator
termination_by structural relative => relative

def trails : List Relative → Except Fault (List Trail)
  | [] => .ok []
  | relative :: rest => do
    let first ← trail relative
    return first :: (← trails rest)
termination_by structural relatives => relatives

def demands : List Compound → Except Fault (List Demand)
  | [] => .ok []
  | compound :: rest => do
    let first ← demand compound
    return first :: (← demands rest)
termination_by structural compounds => compounds

end

def routeOf (entry : Entry) : Except Fault Route := do
  let route ← route entry.chain
  if entry.pseudoElement.isSome then throw .pseudoElement else return route

def routes (source : String) : Except Fault (List Route) := do
  (← parse source).mapM routeOf

end PageScheme.Selector
