import CallBoundary.BoundFunction
import CallBoundary.Declaration.Basic

/-! From declarations to bound functions: keys are resolved, modifiers attached, and the function
is declared with what results. -/
namespace CallBoundary

/-- Types come from files, so an inconsistent one is a fault of the configuration. -/
def NativeType.validate (t : NativeType) : Except Failure Unit :=
  match t.inconsistency with
  | some reason => .error (.configuration reason)
  | none => .ok ()

namespace Declaration

def addTypes (table : Table NativeType) : List (String × NativeType) →
    Except Failure (Table NativeType)
  | [] => .ok table
  | (key, t) :: entries => do
    t.validate
    addTypes (table.insert key t) entries

/-- The declared types besides the void type, which a declaration of its key replaces. -/
def File.resolveTypes (file : File) : Except Failure (Table NativeType) :=
  addTypes (Table.empty.insert voidKey .void) file.types.entries

namespace Function

def lookup (f : Function) (types : Table NativeType) (key : String) (origin : Origin) :
    Except Failure NativeType :=
  match types.find? key with
  | some t => .ok t
  | none =>
    .error (.declaration (origin.inFunction f.name) ("unknown native type `" ++ key ++ "`"))

def locate (f : Function) (r : Refusal) : Failure :=
  match r.failure with
  | .declaration origin reason => .declaration (origin.inFunction f.name) reason
  | failure => failure

def buildReturned (f : Function) (types : Table NativeType) : Except Failure ReturnValue := do
  let t ← f.lookup types f.returned.typeKey .returnValue
  ((ReturnValue.ofType t).withModifiers f.returned.modifiers).mapError f.locate

/-- A call context has its name and documentation already. -/
def buildParameter (f : Function) (types : Table NativeType) (p : Parameter) :
    Except Failure CallBoundary.Parameter := do
  let t ← f.lookup types p.typeKey (.parameter p.name)
  let plain :=
    if p.isCallContext then .callContext t
    else (CallBoundary.Parameter.ofType t p.name p.direction p.documentation).withLinks
      p.links p.linkMode
  (plain.withModifiers p.modifiers).mapError f.locate

def build (f : Function) (types : Table NativeType) : Except Failure BoundFunction := do
  let returned ← f.buildReturned types
  let parameters ← f.parameters.mapM (f.buildParameter types)
  let built ← (BoundFunction.declare f.name returned parameters).mapError Refusal.failure
  return if f.hasRawVariant then built.withRawVariant else built

end Function

def File.build (file : File) : Except Failure (List BoundFunction) := do
  let types ← file.resolveTypes
  file.functions.mapM fun f => f.build types

end Declaration

end CallBoundary
