/-!
# Limits of depth

How deep a document may go is not for a document to say: the tools that read, check and write it
have only so much room. How much depends on the machine and on the program that calls them, so that
all of this library is about any limits. What lies directly in a document is one level deep.
-/
namespace PageScheme

structure Limits where
  /-- How many arrays and objects may be open at once in a document that is read by letters. -/
  document : Nat
  /-- How many may be open at once in a file of content. -/
  content : Nat
  /-- How many nodes of a scheme may lie in each other when it is checked. -/
  nodes : Nat
  /-- How many nodes and values may lie in each other when a document is written. -/
  values : Nat
  /-- What the nodes of a scheme read can be read from a file again. -/
  nodes_le_content : nodes ≤ content := by decide

/-- The limits that a command line usually finds. -/
def Limits.usual : Limits where
  document := 985
  content := 986
  nodes := 254
  values := 254

end PageScheme
