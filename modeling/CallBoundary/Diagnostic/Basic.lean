import CallBoundary.Failure

/-! Messages to the author of a declaration file. -/
namespace CallBoundary

inductive Severity where
  | error
  | warning
  | note
  deriving DecidableEq, Repr

def Severity.label : Severity → String
  | error => "error"
  | warning => "warning"
  | note => "note"

structure Diagnostic where
  severity : Severity
  message : String
  origin : Option Origin
  notes : List String
  deriving DecidableEq, Repr

namespace Diagnostic

/-- A diagnostic without notes. -/
def plain (severity : Severity) (message : String) (origin : Option Origin) : Diagnostic :=
  ⟨severity, message, origin, []⟩

def withNote (d : Diagnostic) (note : String) : Diagnostic := { d with notes := d.notes ++ [note] }

def ofFailure (failure : Failure) : Diagnostic := plain .error failure.message failure.origin?

/-- The message, and each note on a line of its own. -/
def text (d : Diagnostic) : String :=
  d.severity.label ++ ": " ++ d.message ++ String.join (d.notes.map ("\n  note: " ++ ·))

end Diagnostic

end CallBoundary
