/-!
# Files and their names

The program reads the files that its command line names. A name is a walk through folders; empty
steps and steps that stay where they are do not count, and the rest is how the program refers to the
file. A name that only stays or climbs is that of a folder.
-/
namespace PageScheme.Command

structure NamedFile where
  name : String
  bytes : List UInt8

inductive Entry
  | file (bytes : List UInt8)
  | folder
  | locked

/-- What is known of the files around, by name. -/
structure Folder where
  entries : List (String × Entry)

def stepsOf (name : String) : List (List Char) :=
  (name.toList.splitOnP (· == '/')).filter fun step => step ≠ [] && step ≠ ['.']

/-- How the walk of a name begins: at the root of all folders or where one is. Two strokes, but not
more, are a beginning of their own. -/
def beginningOf : List Char → List Char
  | '/' :: '/' :: '/' :: _ => ['/']
  | '/' :: '/' :: _ => ['/', '/']
  | '/' :: _ => ['/']
  | _ => []

def plainName (name : String) : String :=
  match beginningOf name.toList ++ ['/'].intercalate (stepsOf name) with
  | [] => "."
  | plain => String.ofList plain

def endsInFolder (name : String) : Bool :=
  match name.toList.reverse with
  | '/' :: _ | '.' :: '/' :: _ => true
  | _ => false

def Folder.entry? (folder : Folder) (name : String) : Option Entry :=
  if name = "" then none
  -- A name that only stays or climbs leads to a folder, whatever is known of the files.
  else if (stepsOf name).all (· = ['.', '.']) then some .folder
  else
    match folder.entries.lookup (plainName name) with
    | some .folder => some .folder
    | found => if endsInFolder name then none else found

end PageScheme.Command
