import PageScheme.Json.ByteReader
import PageScheme.Limits
import PageScheme.Scheme.Checking

/-!
# Loading documents

A document is given as a JSON value, or as JSON text in letters or bytes; a value that is itself a
string is text. What is wrong with it becomes one fault that lists every error.

Schemes and instructions are read from the bytes of their text. A file that may hold either is read
letter by letter first, and then its value decides: instructions are what has a scheme inside.
-/
namespace PageScheme

inductive Written
  | value (value : Json)
  | text (text : Text)
  | bytes (bytes : List UInt8)

/-- What a document is given as, with a string taken for text. -/
def Written.ofJson : Json → Written
  | .string t => .text t
  | v => .value v

def Checked.orFault {α : Type} (model : String) (origin : Origin) (part : Checked α) :
    Except Fault α :=
  part.mapError fun problems => .format model (problems.map (Problem.report origin))

def Fault.atRoot (model : String) (sort : Option String) (message : String) : Fault :=
  .format model [⟨[], sort, message⟩]

def loadBytes {α : Type} (model : String) (check : Json → Checked α) (bytes : List UInt8) :
    Except Fault α :=
  match Json.readBytes bytes with
  | .ok value => (check value).orFault model .text
  | .error fault =>
    .error (.atRoot model (some "json_invalid") ("Invalid JSON: " ++ fault.message bytes))

def load {α : Type} (model : String) (check : Json → Checked α) : Written → Except Fault α
  | .value value => (check value).orFault model .data
  | .bytes bytes => loadBytes model check bytes
  | .text text =>
    match text.toString? with
    | some s => loadBytes model check (Utf8.encode s)
    | none =>
      .error (.atRoot model (some (Problem.Cause.brokenText.sort .text))
        (Problem.Cause.brokenText.text .text))

def Scheme.load (limits : Limits) : Written → Except Fault Scheme :=
  PageScheme.load "Scheme" (Scheme.check limits.nodes)

def Instructions.load (limits : Limits) : Written → Except Fault Instructions :=
  PageScheme.load "Instructions" (Instructions.check limits.nodes)

namespace Document

def hasScheme : Json → Bool
  | .object members => (Scheme.valueOf "scheme" members).isSome
  | _ => false

def loadValue (limits : Limits) (value : Json) : Except Fault Document :=
  if hasScheme value then (Instructions.load limits (.ofJson value)).map instructions
  else (Scheme.load limits (.ofJson value)).map bare

def faultOf (document : Text) (fault : Json.Misread) : Fault :=
  match fault.cause with
  | .tooManyDigits count => .tooManyDigits count
  | .tooDeep container => .tooDeepToRead container
  | _ => .atRoot "document" none (fault.message document)

def loadReading (limits : Limits) (text : Text) : Except Json.Misread Json → Except Fault Document
  | .ok value => loadValue limits value
  | .error fault => .error (faultOf text fault)

def load (limits : Limits) : Written → Except Fault Document
  | .value value => loadValue limits value
  | .text text => loadReading limits text (Json.readText limits.document text)
  | .bytes bytes =>
    match Json.decode bytes with
    | .ok text => loadReading limits text (Json.readDecoded limits.document text)
    | .error fault => .error (.undecodable fault)

end Document
end PageScheme
