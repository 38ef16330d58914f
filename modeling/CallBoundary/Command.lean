import CallBoundary.Declaration.Build
import CallBoundary.Declaration.Format
import CallBoundary.Listing

/-! The two commands. Checking goes through the declared functions without generating anything. A
command prints, writes and exits with what the content of the declaration file decides. -/
namespace CallBoundary

namespace Check

/-- The refusal of a call in the first mode in which it is refused. -/
def refusedCall (f : BoundFunction) (binding : Option Binding) : Option Refusal :=
  [Mode.normal, Mode.alternative].findSome? fun mode =>
    match f.call binding mode with
    | .ok _ => none
    | .error refusal => some refusal

/-- Without a binding nothing can load the raw variant. -/
def unboundVariant (f : BoundFunction) : Diagnostic :=
  .plain .warning
    ("`" ++ f.name ++ "` declares an unsafe variant but the file has no binding") none

def builtFunction (f : BoundFunction) (binding : Option Binding) : List Diagnostic :=
  (refusedCall f binding).toList.map (fun refusal => .ofFailure refusal.failure) ++
    if f.hasRawVariant && binding.isNone then [unboundVariant f] else []

def function (types : Table NativeType) (binding : Option Binding) (f : Declaration.Function) :
    List Diagnostic :=
  match f.build types with
  | .ok built => builtFunction built binding
  | .error failure => [.ofFailure failure]

def file (types : Table NativeType) (file : Declaration.File) : Report :=
  (file.functions.flatMap (function types file.binding)).foldl Report.add .empty

end Check

namespace Command

structure Outcome where
  exit : Nat
  stdout : String
  stderr : String
  output : Option String
  deriving DecidableEq, Repr

def Outcome.success (stdout : String) (output : Option String) : Outcome := ⟨0, stdout, "", output⟩

/-- Nothing but diagnostics and the final error comes out of a failure. -/
def Outcome.failed (report : Report) (error : String) : Outcome where
  exit := 1
  stdout := ""
  stderr := String.join (report.diagnostics.map (·.text ++ "\n")) ++ "Error: " ++ error ++ "\n"
  output := none

def ofResult : Except Failure Outcome → Outcome
  | .ok outcome => outcome
  | .error failure => .failed .empty failure.message

structure LowerOptions extends Listing.Options where
  /-- The declared binding is left aside. -/
  noBinding : Bool
  toFile : Bool
  deriving DecidableEq, Repr

def lowerFile (options : LowerOptions) (file : Declaration.File)
    (functions : List BoundFunction) : Outcome :=
  let binding := if options.noBinding then none else file.binding
  let (text, report) := Listing.all options.toOptions binding functions .empty
  if report.hasErrors then .failed report ("lowering failed: " ++ report.summary)
  else if options.toFile then .success "" (some text)
  else .success text none

def lower (options : LowerOptions) (content : Declaration.Content) : Outcome :=
  ofResult do
    let file ← Declaration.File.load content
    return lowerFile options file (← file.build)

def checkFile (path : String) (types : Table NativeType) (file : Declaration.File) : Outcome :=
  let report := Check.file types file
  if report.hasErrors then .failed report report.summary
  else
    { Outcome.success (path ++ ": " ++ report.summary ++ "\n") none with
      stderr := String.join (report.diagnostics.map (·.text ++ "\n")) }

def check (path : String) (content : Declaration.Content) : Outcome :=
  ofResult do
    let file ← Declaration.File.load content
    return checkFile path (← file.resolveTypes) file

end Command

end CallBoundary
