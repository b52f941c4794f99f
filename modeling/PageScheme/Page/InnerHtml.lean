import PageScheme.Page.Place
import PageScheme.Text.Utf8

/-!
# Inner HTML

The inner HTML of an element is the text up to its first child as it is, and then its children in
written form, each with the text behind it.

In written form text is escaped, except in scripts and style sheets. Void elements have no end tag,
and neither has an empty list item. An attribute without a value is a bare name, and so is one whose
presence alone counts. Values stand in double quotes, or in single quotes if they hold a double
quote and no single one. Addresses are percent-encoded.
-/
namespace PageScheme.Node

def voidTags : List String :=
  ["area", "base", "basefont", "br", "col", "frame", "hr", "img", "input", "isindex", "link",
    "meta", "param"]

/-- Attributes of which the presence alone counts. -/
def booleanAttributes : List String :=
  ["checked", "compact", "declare", "defer", "disabled", "ismap", "multiple", "nohref", "noresize",
    "noshade", "nowrap", "readonly", "selected"]

/-- Elements whose text is not escaped. -/
def codeTags : List String := ["script", "style"]

def escapeChar (c : Char) : List Char :=
  if c = '<' then "&lt;".toList
  else if c = '>' then "&gt;".toList
  else if c = '&' then "&amp;".toList
  else [c]

def escapeText (cs : List Char) : List Char := cs.flatMap escapeChar

def splitBehind (pattern : List Char) : List Char → Option (List Char × List Char)
  | [] => none
  | c :: rest =>
    match pattern.isPrefixOf? (c :: rest) with
    | some behind => some (pattern, behind)
    | none => (splitBehind pattern rest).map fun (front, behind) => (c :: front, behind)

/-- What is copied as it is at the front of an attribute value: a server-side include or a script
macro. -/
def verbatimFront (cs : List Char) : Option (List Char × List Char) :=
  if "<!--".toList.isPrefixOf cs then splitBehind "-->".toList cs
  else if ['&', '\x7b'].isPrefixOf cs then splitBehind ['\x7d'] cs
  else none

/-- An attribute value in written form, before quoting; `skip` characters have been copied. -/
def escapeValueFrom : Nat → List Char → List Char
  | _, [] => []
  | skip + 1, c :: rest => c :: escapeValueFrom skip rest
  | 0, c :: rest =>
    match verbatimFront (c :: rest) with
    -- This character is copied here, and as many as are left of the front after it.
    | some (front, _) => c :: escapeValueFrom (front.length - 1) rest
    | none => escapeChar c ++ escapeValueFrom 0 rest

def escapeValue (cs : List Char) : List Char := escapeValueFrom 0 cs

def isAddressChar (c : Char) : Bool := 0x21 ≤ c.toNat && c.toNat ≤ 0x7E

def upperHexDigit (n : Nat) : Char := Char.ofNat (if n < 10 then 0x30 + n else 0x37 + n)

def percentByte (b : UInt8) : List Char :=
  ['%', upperHexDigit (b.toNat / 16), upperHexDigit (b.toNat % 16)]

/-- An address without leading blanks and with all that is not visible ASCII in percent form. -/
def encodeAddress (cs : List Char) : List Char :=
  let address := cs.dropWhile fun c => c = ' ' || c = '\t' || c = '\n' || c = '\r'
  address.flatMap fun c =>
    if isAddressChar c then [c] else (Utf8.encodeCode c.toNat).flatMap percentByte

def isAddress (tag name : String) : Bool :=
  ["href", "action", "src"].contains name || (name = "name" && tag = "a")

def quoteValue (cs : List Char) : List Char :=
  if !cs.contains '"' then '"' :: cs ++ ['"']
  else if !cs.contains '\'' then '\'' :: cs ++ ['\'']
  else '"' :: (cs.flatMap fun c => if c = '"' then "&quot;".toList else [c]) ++ ['"']

def attributeHtml (tag : String) (a : Attribute) : List Char :=
  let name := ' ' :: a.name.toList
  match a.value with
  | none => name
  | some value =>
    -- Whatever the value is, the presence alone counts.
    if booleanAttributes.contains a.name then name
    else
      let escaped := escapeValue value.toList
      name ++ '=' :: quoteValue (if isAddress tag a.name then encodeAddress escaped else escaped)

def elementHtml (tag : String) (attributes : List Attribute) (empty : Bool) (inner : List Char) :
    List Char :=
  let start := '<' :: tag.toList ++ attributes.flatMap (attributeHtml tag) ++ ['>']
  if voidTags.contains tag || (empty && tag = "li") then start
  else start ++ inner ++ '<' :: '/' :: tag.toList ++ ['>']

mutual

def html (inside : String) : Node → List Char
  | element tag attributes children =>
    elementHtml tag attributes children.isEmpty (htmlOf tag children)
  | text content =>
    if codeTags.contains inside then content.toList else escapeText content.toList
  | verbatim content => content.toList
  | comment content => "<!--".toList ++ content.toList ++ "-->".toList
  | instruction content => '<' :: '?' :: content.toList ++ ['>']
  | entity name => '&' :: name.toList ++ [';']
termination_by structural node => node

def htmlOf (inside : String) : List Node → List Char
  | [] => []
  | node :: rest => node.html inside ++ htmlOf inside rest
termination_by structural nodes => nodes

end

def encodingDeclaration : List Char := "<meta http-equiv=\"Content-Type\"".toList

/-- Leaves out the elements that declare the encoding of the page; while `dropping`, everything up
to the end of a tag. -/
def dropDeclarations (dropping : Bool) : List Char → List Char
  | [] => []
  | c :: rest =>
    if dropping then dropDeclarations (c ≠ '>') rest
    -- A declaration that never ends is left alone.
    else if encodingDeclaration.isPrefixOf (c :: rest) && rest.contains '>' then
      dropDeclarations true rest
    else c :: dropDeclarations false rest

/-- A node and the text behind it in written form. The node is an element, a comment, an instruction
or an entity; the list starts behind it. -/
def htmlWithTail (inside : String) (node : Node) (rest : List Node) : List Char :=
  dropDeclarations false (htmlOf inside (node :: rest.takeWhile isText))

/-- The children behind the leading text in written form, each with the text behind it. -/
def childrenHtml (inside : String) : List Node → List Char
  | [] => []
  | node :: rest =>
    (if node.isText then [] else htmlWithTail inside node rest) ++ childrenHtml inside rest

def innerHtml : Node → String
  | element tag _ children =>
    String.ofList <|
      (children.takeWhile isText).flatMap (fun node => (node.text?.getD "").toList) ++
        childrenHtml tag children
  | _ => ""

end PageScheme.Node
