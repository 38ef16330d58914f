import CallBoundary.Element
import CallBoundary.Links

/-! Parameters and return values of bound functions. -/
namespace CallBoundary

inductive Direction where
  | input
  | output
  | both
  deriving DecidableEq, Repr

structure Parameter extends Element where
  name : String
  direction : Direction
  documentation : String
  /-- The implicit parameter that carries the context of the call. It is declared, but no
  argument is passed for it. -/
  isCallContext : Bool
  deriving DecidableEq, Repr

namespace Parameter

def ofType (t : NativeType) (name : String) (direction : Direction) (documentation : String) :
    Parameter :=
  ⟨.ofType t, name, direction, documentation, false⟩

def callContextName : String := "__env"

def callContext (t : NativeType) : Parameter :=
  ⟨.ofType t, callContextName, .input, "the call context", true⟩

def origin (p : Parameter) : Origin := .parameter p.name

def withLinks (p : Parameter) (links : String) (mode : LinkMode) : Parameter :=
  if Text.isAllBlank links then p
  else { p with documentation := mode.append p.documentation links }

def withModifiers (p : Parameter) (ms : List Modifier) : Except Refusal Parameter :=
  (p.attach .parameter p.origin ms).map fun e => { p with toElement := e }

def withoutArrayFamily (p : Parameter) : Parameter :=
  { p with modifiers := p.modifiers.withoutArrayFamily }

/-- The generated code computes the size of the buffer behind the parameter. -/
def isAutoSizeOutput (p : Parameter) : Bool :=
  p.direction == .output && p.has .autoSizeResult

def hasArrayFamily (p : Parameter) : Bool := p.modifiers.hasArrayFamily

/-- Addresses that are never looked at need care too, unless null is a value like any other, and
booleans of four bytes are converted. -/
def isSpecial (p : Parameter) : Bool :=
  p.toElement.isSpecial ||
    match p.nativeType.mapping with
    | .pointer .sealed =>
      (p.nativeType.kind == .object || !p.has .nullable) && !p.isCallContext
    | .scalar .boolean4 => true
    | _ => false

def nativeText (p : Parameter) (binding : Option Binding) (pointerMode : Bool) : String :=
  p.toElement.nativeText binding pointerMode p.isCallContext

def managedDeclaration (p : Parameter) : String := p.nativeType.managedName ++ " " ++ p.name

def prototypeDeclaration (p : Parameter) : String := p.nativeType.prototypeName ++ " " ++ p.name

/-- Names are unique within a signature, so the name alone tells parameters apart. -/
def same (p q : Parameter) : Bool := p.name == q.name

end Parameter

structure ReturnValue extends Element
  deriving DecidableEq, Repr

namespace ReturnValue

def ofType (t : NativeType) : ReturnValue := ⟨.ofType t⟩

def withModifiers (r : ReturnValue) (ms : List Modifier) : Except Refusal ReturnValue :=
  (r.attach .returnValue .returnValue ms).map fun e => ⟨e⟩

/-- A return value with its modifiers at once. -/
def ofModifiers (ms : List Modifier) (t : NativeType) : Except Refusal ReturnValue :=
  (ofType t).withModifiers ms

/-- There is no result to keep. -/
def isVoid (r : ReturnValue) : Bool := r.nativeType.mapping == .void

def isSpecial (r : ReturnValue) : Bool := r.toElement.isSpecial

def nativeText (r : ReturnValue) (binding : Option Binding) (pointerMode : Bool) : String :=
  r.toElement.nativeText binding pointerMode false

/-- A function has one return value, so the type alone tells return values apart. -/
def same (r s : ReturnValue) : Bool := r.nativeType == s.nativeType

end ReturnValue

end CallBoundary
