import PageScheme.Markup.Reference
import PageScheme.Page.Node
import PageScheme.Text.Ascii

/-!
# Markup tokens

A page is read as a sequence of start tags, end tags, comments and text. A tag begins where a letter
follows its opening mark; any other opening mark is text, or begins a comment that ends with the
next closing mark. Document type declarations leave nothing behind.

Text inside a title or a text area holds references and no tags; scripts, style sheets and a few
others hold neither. Such text goes on up to the end tag of its element. In a script, a comment may
hide an end tag. What stands in a script or a style sheet is verbatim.

Of the name of a tag or an attribute only so many characters count.

A start tag in which the page ends opens nothing, but it is noted, since it may close something.
-/
namespace PageScheme.Markup

inductive Token
  | start (tag : String) (attributes : List Attribute) (closed : Bool)
  | cut (tag : String)
  | finish (tag : String)
  | text (content : List Char)
  | verbatim (content : List Char)
  | comment (content : List Char)

def isSpace (c : Char) : Bool := c = ' ' || c = '\t' || c = '\n' || c = '\x0c' || c = '\r'

def lowerName (cs : List Char) : String := String.ofList (cs.map Text.smallAscii)

def nameLimit : Nat := 100

def takeBytes : Nat → List Char → List Char
  | _, [] => []
  | room, c :: rest => if c.utf8Size ≤ room then c :: takeBytes (room - c.utf8Size) rest else []

/-- The name of a tag or an attribute: in lower case, and without what is too much. -/
def nameOf (cs : List Char) : String := lowerName (takeBytes nameLimit cs)

def endsTagName (c : Char) : Bool := isSpace c || c = '/' || c = '>'

def endsAttributeName (c : Char) : Bool := endsTagName c || c = '='

/-- Whether a text begins with a pattern, capitals aside; the pattern is in lower case. -/
def startsWith : List Char → List Char → Bool
  | [], _ => true
  | _ :: _, [] => false
  | p :: pattern, c :: cs => p = Text.smallAscii c && startsWith pattern cs

def cutAt (sought : Char) (done : List Char) : List Char → Option (List Char × List Char)
  | [] => none
  | c :: rest => if c = sought then some (done.reverse, rest) else cutAt sought (c :: done) rest

/-- An attribute value behind its equals sign, and the rest; none if the page ends in it. -/
def takeValue (cs : List Char) : Option (List Char × List Char) :=
  match cs.dropWhile isSpace with
  | '"' :: rest => cutAt '"' [] rest
  | '\'' :: rest => cutAt '\'' [] rest
  | rest => some (rest.span fun c => !(isSpace c || c = '>'))

/-- An attribute and the rest; its name has at least one character. -/
def takeAttribute (first : Char) (cs : List Char) : Option (Attribute × List Char) :=
  let (name, rest) := cs.span fun c => !endsAttributeName c
  let name := nameOf (first :: name)
  match rest.dropWhile isSpace with
  | '=' :: rest =>
    (takeValue rest).map fun (value, rest) =>
      (⟨name, some (String.ofList (replaceReferences true value))⟩, rest)
  | rest => some (⟨name, none⟩, rest)

def addAttribute (attributes : List Attribute) (a : Attribute) : List Attribute :=
  if attributes.any (fun b => b.name = a.name) then attributes else attributes ++ [a]

/-- The attributes of a tag, whether it closes itself, and the rest; none if the page ends in it. -/
def takeAttributes : Nat → List Attribute → List Char → Option (List Attribute × Bool × List Char)
  -- Each round takes at least one character, so the length of the text is enough fuel.
  | 0, _, _ => none
  | fuel + 1, done, cs =>
    match cs.dropWhile isSpace with
    | [] => none
    | '>' :: rest => some (done, false, rest)
    | '/' :: '>' :: rest => some (done, true, rest)
    | '/' :: rest => takeAttributes fuel done rest
    | c :: rest =>
      match takeAttribute c rest with
      | none => none
      | some (a, rest) => takeAttributes fuel (addAttribute done a) rest

/-- Drops the start of an end that the page does not get to; the content is given in reverse. -/
def dropOpenEnd : List Char → List Char
  | '!' :: '-' :: '-' :: content => content
  | '-' :: '-' :: content => content
  | '-' :: content => content
  | content => content

def takeComment (done : List Char) : List Char → List Char × List Char
  | [] => ((dropOpenEnd done).reverse, [])
  | '-' :: '-' :: '>' :: rest => (done.reverse, rest)
  -- This ending is a mistake, but counts.
  | '-' :: '-' :: '!' :: '>' :: rest => (done.reverse, rest)
  | c :: rest => takeComment (c :: done) rest

/-- A comment behind its opening, which may also close it at once. -/
def comment : List Char → List Char × List Char
  | '>' :: rest => ([], rest)
  | '-' :: '>' :: rest => ([], rest)
  | cs => takeComment [] cs

def bogus (cs : List Char) : List Char × List Char := (cutAt '>' [] cs).getD (cs, [])

def opensMarkup : List Char → Bool
  | c :: _ => c.isAlpha || c = '/' || c = '!' || c = '?'
  | [] => false

def takeText (done : List Char) : List Char → List Char × List Char
  | [] => (done.reverse, [])
  | '<' :: rest =>
    if opensMarkup rest then (done.reverse, '<' :: rest) else takeText ('<' :: done) rest
  | c :: rest => takeText (c :: done) rest

/-- Whether a text begins with a tag of a name, behind its opening mark. -/
def namesTag (name : List Char) (cs : List Char) : Bool :=
  startsWith name cs &&
    match cs.drop name.length with
    | c :: _ => endsTagName c
    | [] => false

def takeRaw (name : List Char) (done : List Char) : List Char → List Char × List Char
  | [] => (done.reverse, [])
  | '<' :: '/' :: rest =>
    if namesTag name rest then (done.reverse, '<' :: '/' :: rest)
    else takeRaw name ('/' :: '<' :: done) rest
  | c :: rest => takeRaw name (c :: done) rest

/-- How much of a script is hidden: nothing, what stands in a comment, or a script inside it. -/
inductive Hiding
  | none
  | comment
  | script

def takeScript (name : List Char) (done : List Char) : Hiding → List Char → List Char × List Char
  | _, [] => (done.reverse, [])
  | .none, '<' :: '!' :: '-' :: '-' :: rest =>
    takeScript name ('-' :: '-' :: '!' :: '<' :: done)
      -- A comment that closes at once hides nothing.
      (if rest.head? = some '>' || ['-', '>'].isPrefixOf rest then .none else .comment) rest
  | .comment, '-' :: '-' :: '>' :: rest => takeScript name ('>' :: '-' :: '-' :: done) .none rest
  | .script, '-' :: '-' :: '>' :: rest => takeScript name ('>' :: '-' :: '-' :: done) .none rest
  -- Inside a hidden script the end tag only ends that script.
  | .script, '<' :: '/' :: rest =>
    takeScript name ('/' :: '<' :: done) (if namesTag name rest then .comment else .script) rest
  | depth, '<' :: '/' :: rest =>
    if namesTag name rest then (done.reverse, '<' :: '/' :: rest)
    else takeScript name ('/' :: '<' :: done) depth rest
  | .comment, '<' :: rest =>
    takeScript name ('<' :: done) (if namesTag name rest then .script else .comment) rest
  | depth, c :: rest => takeScript name (c :: done) depth rest

inductive Content
  | markup
  | references
  | raw
  | style
  | script
  | everything

def contentOf (tag : String) : Content :=
  if tag = "title" || tag = "textarea" then .references
  else if ["iframe", "noembed", "noframes", "xmp"].contains tag then .raw
  else if tag = "style" then .style
  else if tag = "script" then .script
  else if tag = "plaintext" then .everything
  else .markup

def takeContent (tag : String) (cs : List Char) : List Token × List Char :=
  let whole (piece : List Char × List Char) (token : List Char → Token) :=
    (if piece.1.isEmpty then [] else [token piece.1], piece.2)
  match contentOf tag with
  | .markup => ([], cs)
  | .references =>
    whole (takeRaw tag.toList [] cs) fun content => .text (replaceReferences false content)
  | .raw => whole (takeRaw tag.toList [] cs) .text
  | .style => whole (takeRaw tag.toList [] cs) .verbatim
  | .script => whole (takeScript tag.toList [] .none cs) .verbatim
  | .everything => whole (cs, []) .text

def takeStart (cs : List Char) : List Token × List Char :=
  let (name, rest) := cs.span fun c => !endsTagName c
  let tag := nameOf name
  match takeAttributes (rest.length + 1) [] rest with
  -- The page ends inside the tag; only the room for it is made.
  | none => ([.cut tag], [])
  | some (attributes, true, rest) => ([.start tag attributes true], rest)
  | some (attributes, false, rest) =>
    let (content, rest) := takeContent tag rest
    (.start tag attributes false :: content, rest)

def takeFinish (cs : List Char) : List Token × List Char :=
  let (name, rest) := cs.span fun c => !endsTagName c
  match takeAttributes (rest.length + 1) [] rest with
  | none => ([], [])
  | some (_, _, rest) => ([.finish (nameOf name)], rest)

def takeClosing : List Char → List Token × List Char
  | [] => ([.text ['<', '/']], [])
  | '>' :: rest => ([], rest)
  | c :: rest =>
    if c.isAlpha then takeFinish (c :: rest)
    else
      let (content, rest) := bogus (c :: rest)
      ([.comment content], rest)

def takeDeclaration (cs : List Char) : List Token × List Char :=
  match cs with
  | '-' :: '-' :: rest =>
    let (content, rest) := comment rest
    ([.comment content], rest)
  | cs =>
    let (content, rest) := bogus cs
    (if startsWith "doctype".toList cs then [] else [.comment content], rest)

def take (cs : List Char) : List Token × List Char :=
  match cs with
  | '<' :: '/' :: rest => takeClosing rest
  | '<' :: '!' :: rest => takeDeclaration rest
  | '<' :: '?' :: rest =>
    let (content, rest) := bogus ('?' :: rest)
    ([.comment content], rest)
  | '<' :: c :: rest =>
    if c.isAlpha then takeStart (c :: rest)
    else
      let (content, rest) := takeText [] cs
      ([.text (replaceReferences false content)], rest)
  | cs =>
    let (content, rest) := takeText [] cs
    ([.text (replaceReferences false content)], rest)

/-- The tokens of a text, in reverse onto `done`. Every step takes at least one character. -/
def scanOnto (done : List Token) : Nat → List Char → List Token
  | _, [] => done
  | 0, _ => done
  | fuel + 1, cs =>
    let (tokens, rest) := take cs
    scanOnto (tokens.reverse ++ done) fuel rest

def scan (cs : List Char) : List Token := (scanOnto [] (cs.length + 1) cs).reverse

/-- One line feed for every kind of line end, and a replacement character for every NUL. -/
def normalize : List Char → List Char
  | [] => []
  | '\r' :: '\n' :: rest => '\n' :: normalize rest
  | '\r' :: rest => '\n' :: normalize rest
  | '\x00' :: rest => '\uFFFD' :: normalize rest
  | c :: rest => c :: normalize rest

end PageScheme.Markup
