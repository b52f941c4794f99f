import PageScheme.Json.Encoding
import PageScheme.Json.TextReader

/-!
# Faults

What can go wrong is a cause, kept apart from its wording. A report is the wording: a message, and
details that are listed beneath it. The reports of a run against a page close with the address of
the page where it is known.

Some causes lie in the tools below rather than in a scheme: an empty page, a selector with a
namespace, bytes that are no text, a document that goes too deep for them. `concernsScheme` tells
the two apart, and only the first kind is explained to the user of the command line.
-/
namespace PageScheme

inductive Step
  | key (name : String)
  | index (position : Nat)
  deriving DecidableEq, Repr

def Step.text : Step → String
  | key name => name
  | index position => position.repr

/-- One thing that is wrong with a document: where, of what sort, and in words. -/
structure FormatError where
  place : List Step
  sort : Option String
  message : String
  deriving DecidableEq, Repr

/-- An error in a summary: the place, with a name for the document as a whole, and the words. -/
def FormatError.summary (e : FormatError) : String :=
  let place := ".".intercalate (e.place.map Step.text)
  (if place = "" then "<root>" else place) ++ ": " ++ e.message

structure Report where
  message : String
  details : List (Text × Json) := []

def Report.text (r : Report) : String :=
  let lines := r.details.map fun (key, value) => "  " ++ key.escaped ++ ": " ++ value.shown
  "\n".intercalate (r.message :: if lines.isEmpty then [] else "Context:" :: lines)

def Report.onPage (r : Report) (url : Text) : Report :=
  if url = [] then r else { r with details := Json.put "url" (.string url) r.details }

inductive Fault
  | general (report : Report)
  | extraction (report : Report) (url : Text)
  /-- A node of a tree is none of the three kinds. -/
  | schemeKind (kind : Json)
  | format (model : String) (errors : List FormatError)
  | invalidPath (path url : Text)
  | noElement (path url : Text)
  /-- The fields of a listed object match different counts. -/
  | mismatchedCount (field : Text) (expected found : Int) (url : Text)
  | emptyPage
  /-- A page given as text declares an encoding. -/
  | declaredEncoding
  | forbiddenCharacter
  | undefinedPrefix
  | undecodable (bytes : Json.Undecodable)
  | unwritableKey (key : Text)
  | tooManyDigits (count : Nat)
  /-- A container lies deeper in a text than there is room for. -/
  | tooDeepToRead (container : Json.Container)
  /-- A part of a document lies deeper than there is room for. -/
  | tooDeepToWrite

namespace Fault

def report : Fault → Report
  | general report => report
  | extraction report url => report.onPage url
  | schemeKind kind =>
    { message := "Unrecognized scheme kind: " ++ kind.quoted
      details := [("expected", .ofString "STRING, LIST or OBJECT")] }
  | format model errors =>
    { message := "Invalid " ++ model ++ ": " ++ ", ".intercalate (errors.map FormatError.summary)
      details := [("model", .ofString model), ("error_count", .int errors.length)] }
  | invalidPath path url =>
    Report.onPage
      { message := "'" ++ path.escaped ++ "' is not a valid path."
        details := [("path", .string path)] } url
  | noElement path url =>
    Report.onPage
      { message := "No element found using the '" ++ path.escaped ++ "' path."
        details := [("path", .string path)] } url
  | mismatchedCount field expected found url =>
    Report.onPage
      { message :=
          "Field '" ++ field.escaped ++ "' expected " ++ expected.repr ++ " values, but found " ++
            found.repr ++ "."
        details := [("field", .string field), ("expected", .int expected), ("found", .int found)] }
      url
  | emptyPage => { message := "Document is empty" }
  | declaredEncoding =>
    { message :=
        "Unicode strings with encoding declaration are not supported. Please use bytes input or " ++
          "XML fragments without declaration." }
  | forbiddenCharacter =>
    { message :=
        "All strings must be XML compatible: Unicode or ASCII, no NULL bytes or control " ++
          "characters" }
  | undefinedPrefix => { message := "Undefined namespace prefix" }
  | undecodable bytes => { message := bytes.message }
  | unwritableKey key => { message := key.unwritable }
  | tooManyDigits count => { message := (Json.Misread.Cause.tooManyDigits count).text }
  | tooDeepToRead container => { message := (Json.Misread.Cause.tooDeep container).text }
  | tooDeepToWrite => { message := "Circular reference detected (depth exceeded)" }

def text (fault : Fault) : String := fault.report.text

def concernsScheme : Fault → Bool
  | general _ | extraction .. | schemeKind _ | format .. | invalidPath .. | noElement ..
  | mismatchedCount .. => true
  | emptyPage | declaredEncoding | forbiddenCharacter | undefinedPrefix | undecodable _
  | unwritableKey _ | tooManyDigits _ | tooDeepToRead _ | tooDeepToWrite => false

/-- The address of the page, for the faults of a run against one. -/
def url? : Fault → Option Text
  | extraction _ url | invalidPath _ url | noElement _ url | mismatchedCount _ _ _ url => some url
  | _ => none

end Fault
end PageScheme
