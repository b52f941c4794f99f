import PageScheme.Command.Mistake
import PageScheme.Fault

/-!
# What comes of a command

A command ends with output, with a complaint, or with a fault that is not explained to the user. On
the way it makes notes, which are kept for the log. The log is written before any complaint, and
nothing is output unless all goes well.
-/
namespace PageScheme.Command

inductive Level
  | debug
  | warning
  deriving DecidableEq, Repr

def Level.name : Level → String
  | debug => "DEBUG"
  | warning => "WARNING"

structure Note where
  level : Level
  origin : String
  message : String

def Note.line (time : String) (note : Note) : String :=
  time ++ " " ++ note.level.name ++ " " ++ note.origin ++ ": " ++ note.message

inductive Ending
  | done (output : String)
  | stopped (message : String)
  | misused (form : Form) (mistake : Mistake)
  | idle
  /-- A fault that is left unexplained. -/
  | broken (fault : Fault)

structure Outcome where
  notes : List Note := []
  ending : Ending

namespace Outcome

/-- The exit status: 1 when a file is at fault, 2 when the command line is. -/
def status (outcome : Outcome) : Nat :=
  match outcome.ending with
  | .done _ => 0
  | .stopped _ | .broken _ => 1
  | .misused .. | .idle => 2

def output (outcome : Outcome) : String :=
  match outcome.ending with
  | .done output => output
  | _ => ""

def complaint? (outcome : Outcome) : Option String :=
  match outcome.ending with
  | .done _ | .broken _ => none
  | .stopped message => some ("Error: " ++ message)
  | .misused form mistake => some (mistake.complaint form)
  | .idle => some Form.program.help

def diagnostics (time : String) (outcome : Outcome) : String :=
  let lines := outcome.notes.map (Note.line time) ++ outcome.complaint?.toList
  String.join (lines.map (· ++ "\n"))

def fault? (outcome : Outcome) : Option Fault :=
  match outcome.ending with
  | .broken fault => some fault
  | _ => none

end Outcome
end PageScheme.Command
