import CallBoundary.Parameter.Argument

/-! Bound functions: a name, a return value and the parameters in order. Four texts are generated
for one: its managed and its native declaration, the type of the pointer it is called through, and
the call. -/
namespace CallBoundary

structure BoundFunction where
  name : String
  /-- A variant that takes raw handles is generated as well. -/
  hasRawVariant : Bool
  returned : ReturnValue
  parameters : List Parameter
  deriving DecidableEq, Repr

/-- Goes through the parameters in order: each needs a consistent type and a name that is not
among the names seen before. -/
def checkParameters (function : String) (seen : List String) : List Parameter →
    Except Refusal Unit
  | [] => .ok ()
  | p :: ps =>
    match p.nativeType.inconsistency with
    | some reason => .error (.inconsistentType (p.origin.inFunction function) reason)
    | none =>
      if p.name ∈ seen then .error (.duplicateParameter p.name function)
      else checkParameters function (p.name :: seen) ps

namespace BoundFunction

/-- The return value is checked before the parameters. -/
def declare (name : String) (returned : ReturnValue) (parameters : List Parameter) :
    Except Refusal BoundFunction :=
  match returned.nativeType.inconsistency with
  | some reason => .error (.inconsistentType (Origin.returnValue.inFunction name) reason)
  | none =>
    (checkParameters name [] parameters).map fun _ => ⟨name, false, returned, parameters⟩

def withRawVariant (f : BoundFunction) : BoundFunction := { f with hasRawVariant := true }

def parameter? (f : BoundFunction) (name : String) : Option Parameter :=
  f.parameters.find? fun p => p.name == name

def isSpecial (f : BoundFunction) : Bool :=
  f.returned.isSpecial || f.parameters.any Parameter.isSpecial

def hasArrayOverloads (f : BoundFunction) : Bool := f.parameters.any Parameter.hasArrayFamily

def baseOverload (f : BoundFunction) : BoundFunction :=
  { f with parameters := f.parameters.map Parameter.withoutArrayFamily }

def passed (f : BoundFunction) : List Parameter := f.parameters.filter fun p => !p.isCallContext

def callSite (f : BoundFunction) (binding : Option Binding) : CallSite :=
  ⟨f.name, f.hasRawVariant, binding⟩

def joined (pieces : List String) : String := ", ".intercalate pieces

def managedDeclaration (f : BoundFunction) : String :=
  f.returned.nativeType.managedName ++ " " ++ f.name ++
    "(" ++ joined (f.passed.map Parameter.managedDeclaration) ++ ")"

def nativeDeclaration (f : BoundFunction) : String :=
  f.returned.nativeType.prototypeName ++ " n" ++ f.name ++
    "(" ++ joined (f.passed.map Parameter.prototypeDeclaration) ++ ")"

/-- The types between the parentheses of the pointer type; the call context is among them. -/
def pointerTypes (f : BoundFunction) (binding : Option Binding) : String :=
  if f.parameters.isEmpty then "void"
  else joined (f.parameters.map fun p => p.nativeText binding false)

def pointerTypedef (f : BoundFunction) (binding : Option Binding) : String :=
  "typedef " ++ f.returned.nativeText binding false ++ " (APIENTRY *" ++ f.name ++ "PROC) (" ++
    f.pointerTypes binding ++ ");"

/-- The arguments in order, or the refusal of the first parameter that cannot be passed. -/
def arguments (f : BoundFunction) (binding : Option Binding) (mode : Mode) :
    Except Refusal (List String) :=
  f.passed.mapM fun p => p.argumentText (f.callSite binding) mode

def call (f : BoundFunction) (binding : Option Binding) (mode : Mode) : Except Refusal String :=
  (f.arguments binding mode).map fun arguments => "n" ++ f.name ++ "(" ++ joined arguments ++ ")"

end BoundFunction

end CallBoundary
