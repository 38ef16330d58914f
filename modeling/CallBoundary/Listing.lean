import CallBoundary.BoundFunction
import CallBoundary.Diagnostic.Report

/-! The listing of a list of functions: a block of text for each that can be called, a diagnostic
for each that cannot. -/
namespace CallBoundary

namespace BoundFunction

def routing (f : BoundFunction) : String := if f.isSpecial then "special" else "passthrough"

/-- The four texts of a function under a heading, or the refusal of its call. -/
def block (f : BoundFunction) (binding : Option Binding) (mode : Mode) (label : String) :
    Except Refusal String :=
  (f.call binding mode).map fun call =>
    "// " ++ f.name ++ label ++ " [" ++ f.routing ++ "]\n" ++
    "managed: " ++ f.managedDeclaration ++ "\n" ++
    f.nativeDeclaration ++ "\n" ++
    f.pointerTypedef binding ++ "\n" ++
    "call: " ++ call ++ "\n"

end BoundFunction

namespace Listing

structure Options where
  mode : Mode
  baseOverloads : Bool
  deriving DecidableEq, Repr

def baseLabel : String := " (base overload)"

def baseBlock (options : Options) (binding : Option Binding) (f : BoundFunction) :
    Except Refusal String :=
  if options.baseOverloads && f.hasArrayOverloads then
    f.baseOverload.block binding options.mode baseLabel
  else .ok ""

/-- Adds the entry of one function: its blocks and an empty line. -/
def addFunction (options : Options) (binding : Option Binding) (listing : String × Report)
    (f : BoundFunction) : String × Report :=
  let (text, report) := listing
  match f.block binding options.mode "" with
  | .error refusal => (text, report.addFailure refusal.failure)
  | .ok block =>
    match baseBlock options binding f with
    | .ok base => (text ++ block ++ base ++ "\n", report)
    | .error refusal => (text ++ block ++ "\n", report.addFailure refusal.failure)

def all (options : Options) (binding : Option Binding) (functions : List BoundFunction)
    (report : Report) : String × Report :=
  functions.foldl (addFunction options binding) ("", report)

end Listing

end CallBoundary
