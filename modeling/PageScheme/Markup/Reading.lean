import PageScheme.Fault
import PageScheme.Markup.Charset
import PageScheme.Markup.Tree
import PageScheme.Text.Blank

/-!
# Reading a page

A page comes as text or as bytes. Text must not declare an encoding, since it no longer has one, and
a page of text ends before its first lone surrogate. A page without any element is no page.
-/
namespace PageScheme

inductive Source
  | text (content : Text)
  | bytes (content : List UInt8)

namespace Markup

def namesEncoding (cs : List Char) : Bool :=
  if "encoding".toList.isPrefixOf cs then
    match (cs.drop 8).dropWhile Text.isBlank with
    | '=' :: rest =>
      match rest.dropWhile Text.isBlank with
      | quote :: rest => (quote = '"' || quote = '\'') && rest.any fun c => c = '"' || c = '\''
      | [] => false
    | _ => false
  else false

/-- Whether an XML declaration goes on with an encoding, some way behind its start; `blank` says
whether the character before was a blank. -/
def declaresEncodingFrom (blank : Bool) : List Char → Bool
  | [] => false
  | c :: rest =>
    (blank && namesEncoding (c :: rest)) ||
      (c ≠ '>' && declaresEncodingFrom (Text.isBlank c) rest)

def declaresEncoding (cs : List Char) : Bool :=
  "<?xml".toList.isPrefixOf cs &&
    match cs.drop 5 with
    | c :: rest => c ≠ '>' && declaresEncodingFrom false rest
    | [] => false

/-- Drops a byte order mark. A mark with nothing behind it is the text of the page. -/
def dropMark : Text → Text
  | .scalar '\uFEFF' :: letter :: rest => letter :: rest
  | letters => letters

end Markup

open Markup in
def Page.read (source : Source) : Except Fault Page :=
  let page (markup : List Char) : Except Fault Page :=
    match page? markup with
    | some page => .ok page
    | none => .error .emptyPage
  match source with
  | .text content =>
    if declaresEncoding content.lossy.toList then .error .declaredEncoding
    else page (charsUpTo (dropMark content))
  | .bytes content => page (decodePage content)

end PageScheme
