/-! The ways in which generating bindings fails, and where. Declarations have no text positions, so
a failure names the declared element and, once known, the function around it. -/
namespace CallBoundary

inductive Subject where
  | parameter (name : String)
  | returnValue
  deriving DecidableEq, Repr

def Subject.text : Subject → String
  | .parameter name => "parameter `" ++ name ++ "`"
  | .returnValue => "return value"

structure Origin where
  function : Option String
  subject : Subject
  deriving DecidableEq, Repr

namespace Origin

def parameter (name : String) : Origin := ⟨none, .parameter name⟩

def returnValue : Origin := ⟨none, .returnValue⟩

def inFunction (origin : Origin) (function : String) : Origin :=
  { origin with function := some function }

def text (origin : Origin) : String :=
  match origin.function with
  | some function => origin.subject.text ++ " of `" ++ function ++ "`"
  | none => origin.subject.text

end Origin

inductive Failure where
  /-- The declarations contradict themselves. -/
  | declaration (origin : Origin) (reason : String)
  /-- The declarations are sound, but their calls cannot be written. -/
  | lowering (origin : Origin) (reason : String)
  | configuration (reason : String)
  | io (reason : String)
  | internal (reason : String)
  deriving DecidableEq, Repr

namespace Failure

def message : Failure → String
  | declaration origin reason => "Declaration error in " ++ origin.text ++ ": " ++ reason
  | lowering origin reason => "Lowering error in " ++ origin.text ++ ": " ++ reason
  | configuration reason => "Configuration error: " ++ reason
  | io reason => "IO error: " ++ reason
  | internal reason => "Internal generator error: " ++ reason

def origin? : Failure → Option Origin
  | declaration origin _ => some origin
  | lowering origin _ => some origin
  | _ => none

end Failure

end CallBoundary
