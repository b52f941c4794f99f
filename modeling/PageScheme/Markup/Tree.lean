import PageScheme.Markup.Token
import PageScheme.Page.InnerHtml
import PageScheme.Page.Place

/-!
# Building the tree of a page

The elements that are open form a stack, innermost first. A start tag may first close some of them:
`closedBy` says which elements end where which others begin. It may then open what has to be around
it: the root, and a head or a body, each unless the page has had one already. A second root, head or
body in the wrong place is passed over, and so is one end tag for each of them; if it closes itself,
it closes the innermost open element instead.

An end tag closes its element and whatever is open inside it, unless something of a higher rank is
in between; a tag that closes nothing is passed over.

Elements nest at most `depthLimit` deep. One that would lie deeper ends the page.

White space directly in the root or the head stays there. Other text ends the head and opens the
body. No element is opened around text.
-/
namespace PageScheme.Markup

/-- Elements that end where certain others begin. -/
def closures : List (List String × List String) := [
  (["a"], ["a", "fieldset", "table", "td", "th"]),
  (["address"], ["dd", "dl", "dt", "form", "li", "ul"]),
  (["b"], ["center", "p", "td", "th"]),
  (["big", "s", "small", "strike", "tt"], ["p"]),
  (["caption"], ["col", "colgroup", "tbody", "tfoot", "thead", "tr"]),
  (["col"], ["col", "colgroup", "tbody", "tfoot", "thead", "tr"]),
  (["colgroup"], ["colgroup", "tbody", "tfoot", "thead", "tr"]),
  (["dd"], ["dt"]),
  (["dir", "menu"], ["dd", "dl", "dt", "form", "ul"]),
  (["dl"], ["form", "li"]),
  (["dt"], ["dd", "dl"]),
  (["font"], ["center", "td", "th"]),
  (["form"], ["form"]),
  (["h1", "h2", "h3", "h4", "h5", "h6"], ["fieldset", "form", "li", "p", "table"]),
  (["head"],
    ["a", "abbr", "acronym", "address", "b", "bdo", "big", "blockquote", "body", "br", "center",
      "cite", "code", "dd", "dfn", "dir", "div", "dl", "dt", "em", "fieldset", "font", "form",
      "frameset", "h1", "h2", "h3", "h4", "h5", "h6", "hr", "i", "iframe", "img", "kbd", "li",
      "listing", "map", "menu", "ol", "p", "pre", "q", "s", "samp", "small", "span", "strike",
      "strong", "sub", "sup", "table", "tt", "u", "ul", "var", "xmp"]),
  (["hr"], ["form"]),
  (["i"], ["center", "p", "td", "th"]),
  (["legend"], ["fieldset"]),
  (["li"], ["li"]),
  (["link", "style", "title"], ["body", "frameset"]),
  (["listing", "pre", "xmp"], ["dd", "dl", "dt", "fieldset", "form", "li", "table", "ul"]),
  (["ol"], ["form"]),
  (["option"], ["optgroup", "option"]),
  (["p"],
    ["address", "blockquote", "body", "caption", "center", "col", "colgroup", "dd", "dir", "div",
      "dl", "dt", "fieldset", "form", "frameset", "h1", "h2", "h3", "h4", "h5", "h6", "head", "hr",
      "li", "listing", "menu", "ol", "p", "pre", "table", "tbody", "td", "tfoot", "th", "title",
      "tr", "ul", "xmp"]),
  (["script"], ["noscript"]),
  (["span"], ["td", "th"]),
  (["tbody"], ["tbody", "tfoot"]),
  (["td", "th"], ["tbody", "td", "tfoot", "th", "tr"]),
  (["tfoot"], ["tbody"]),
  (["thead"], ["tbody", "tfoot"]),
  (["tr"], ["tbody", "tfoot", "tr"]),
  (["u"], ["p", "td", "th"]),
  (["ul"], ["address", "form", "menu", "pre"])]

def closedBy (opened next : String) : Bool :=
  closures.any fun (openTags, nextTags) => openTags.contains opened && nextTags.contains next

/-- The rank of an element against end tags: what is open inside a higher one stays open. -/
def endRank (tag : String) : Nat :=
  if tag = "div" then 150
  else if tag = "td" || tag = "th" then 160
  else if tag = "tr" then 170
  else if tag = "thead" || tag = "tbody" || tag = "tfoot" then 180
  else if tag = "table" then 190
  else if tag = "head" || tag = "body" then 200
  else if tag = "html" then 220
  else 100

structure OpenElement where
  tag : String
  attributes : List Attribute
  children : List Node

/-- A tree under construction: the open elements, innermost first; the nodes of the document that
are complete, in reverse; whether there has been a head or a body; how many end tags are to be
passed over; and whether the page has ended early. -/
structure Builder where
  opened : List OpenElement := []
  done : List Node := []
  hadHead : Bool := false
  hadBody : Bool := false
  passOver : Nat := 0
  ended : Bool := false

def depthLimit : Nat := 256

/-- Appends a node to others in reverse; text joins the text before it. -/
def appendNode : Node → List Node → List Node
  | .text content, .text before :: rest => .text (before ++ content) :: rest
  | .verbatim content, .verbatim before :: rest => .verbatim (before ++ content) :: rest
  | node, nodes => node :: nodes

namespace Builder

def hasOpen (b : Builder) (tag : String) : Bool := b.opened.any fun e => e.tag = tag

def add (node : Node) (b : Builder) : Builder :=
  match b.opened with
  | [] => { b with done := node :: b.done }
  | e :: outer => { b with opened := { e with children := appendNode node e.children } :: outer }

/-- Adds a node that only counts inside an element. -/
def addInside (node : Node) (b : Builder) : Builder := if b.opened.isEmpty then b else b.add node

def close (b : Builder) : Builder :=
  match b.opened with
  | [] => b
  | e :: outer => add (.element e.tag e.attributes e.children.reverse) { b with opened := outer }

def closeMany : Nat → Builder → Builder
  | 0, b => b
  | n + 1, b => closeMany n b.close

/-- Opens an element, unless too many are open. -/
def openTag (tag : String) (attributes : List Attribute) (b : Builder) : Builder :=
  if depthLimit ≤ b.opened.length then { b with ended := true }
  else
    { b with
      opened := ⟨tag, attributes, []⟩ :: b.opened
      hadHead := b.hadHead || tag = "head" || tag = "body"
      hadBody := b.hadBody || tag = "body" }

def closeBefore (next : String) (b : Builder) : Builder :=
  closeMany (b.opened.takeWhile fun e => closedBy e.tag next).length b

def openRoot (b : Builder) : Builder := if b.opened.isEmpty then b.openTag "html" [] else b

def headTags : List String := ["script", "style", "meta", "link", "title", "base"]

/-- Elements that do not need a body. -/
def frameTags : List String := ["noframes", "frame", "frameset"]

def openSection (tag : String) (b : Builder) : Builder :=
  -- Right below the root these belong into a head; further in they stay where they are.
  if b.opened.length ≤ 1 && headTags.contains tag then
    if b.hadHead then b else b.openTag "head" []
  else if frameTags.contains tag then b
  else if b.hadBody || b.hasOpen "body" || b.hasOpen "head" then b
  else b.openTag "body" []

def openAround (tag : String) (b : Builder) : Builder :=
  if tag = "html" then b
  else if tag = "head" || tag = "body" then b.openRoot
  else openSection tag b.openRoot

def prepare (tag : String) (b : Builder) : Builder := openAround tag (closeBefore tag b)

/-- Whether a root, a head or a body cannot stand here. -/
def isMisplaced (tag : String) (b : Builder) : Bool :=
  if tag = "html" then !b.opened.isEmpty
  else if tag = "head" then b.opened.length ≠ 1
  else if tag = "body" then b.hasOpen "body"
  else false

def start (tag : String) (attributes : List Attribute) (closed : Bool) (b : Builder) : Builder :=
  let b := b.prepare tag
  if b.isMisplaced tag then
    -- The tag is not opened, so the end tag that belongs to it must not close anything either.
    let b := if closed then b.close else b
    { b with passOver := b.passOver + 1 }
  else
    let b := b.openTag tag attributes
    if !b.ended && (closed || Node.voidTags.contains tag) then b.close else b

/-- How many elements an end tag closes: none if it closes nothing. -/
def closeCount (tag : String) : List OpenElement → Option Nat
  | [] => none
  | e :: outer =>
    if e.tag = tag then some 1
    -- Something of a higher rank is in between.
    else if endRank tag < endRank e.tag then none
    else (closeCount tag outer).map (· + 1)

def finish (tag : String) (b : Builder) : Builder :=
  if b.passOver ≠ 0 && ["html", "head", "body"].contains tag then
    { b with passOver := b.passOver - 1 }
  else closeMany ((closeCount tag b.opened).getD 0) b

def holdsText (b : Builder) : Bool :=
  match b.opened with
  | [] => false
  | e :: _ => e.tag ≠ "html" && e.tag ≠ "head"

def addText (content : List Char) (b : Builder) : Builder :=
  if content.isEmpty then b else b.addInside (.text (String.ofList content))

/-- Makes room for text: it ends the head, and needs a body. -/
def prepareText (b : Builder) : Builder :=
  -- Text needs what a paragraph needs around it, but no paragraph.
  openAround "p" <|
    match b.opened with
    | ⟨"head", _, _⟩ :: _ => closeBefore "p" b
    | _ => b

def text (content : List Char) (b : Builder) : Builder :=
  if b.holdsText then b.addText content
  else
    -- White space in front stays where it is; only what follows needs a body.
    let (white, rest) := content.span isSpace
    let b := b.addText white
    if rest.isEmpty then b else b.prepareText.addText rest

def takeNext (b : Builder) : Token → Builder
  | .start tag attributes closed => b.start tag attributes closed
  | .cut tag => b.prepare tag
  | .finish tag => b.finish tag
  | .text content => b.text content
  | .verbatim content => b.addInside (.verbatim (String.ofList content))
  | .comment content => b.add (.comment (String.ofList content))

def take (b : Builder) (token : Token) : Builder := if b.ended then b else b.takeNext token

def nodes (b : Builder) : List Node := (closeMany b.opened.length b).done.reverse

end Builder

def build (tokens : List Token) : List Node := (tokens.foldl Builder.take {}).nodes

/-- The page of a document: its first element is the root. -/
def pageOf (nodes : List Node) : Option Page :=
  let (before, rest) := nodes.span fun node => !node.isElement
  match rest with
  | [] => none
  | root :: after => some ⟨before, root, after⟩

def page? (markup : List Char) : Option Page := pageOf (build (scan (normalize markup)))

end PageScheme.Markup
