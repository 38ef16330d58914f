import CallBoundary.Modifier.Set
import CallBoundary.Refusal

/-! Elements of a signature: a native type with the modifiers of one parameter or return value, and
the binding and the mode that decide how it is written. -/
namespace CallBoundary

/-- A family of functions that are loaded at run time through function pointers. -/
structure Binding where
  name : String
  hasParameterCapabilities : Bool
  deriving DecidableEq, Repr

/-- In the alternative mode optional arguments are always there. -/
inductive Mode where
  | normal
  | alternative
  deriving DecidableEq, Repr

structure Element where
  nativeType : NativeType
  modifiers : ModifierSet
  deriving DecidableEq, Repr

/-- Adds modifiers one after the other and stops at the first that does not fit. -/
def attachEach (t : NativeType) (role : Role) (origin : Origin) (s : ModifierSet) :
    List Modifier → Except Refusal ModifierSet
  | [] => .ok s
  | m :: ms =>
    match m.objection t role with
    | some reason => .error (.invalidModifier m.kind origin reason)
    | none =>
      match s.insert? m with
      | some s => attachEach t role origin s ms
      | none => .error (.duplicateModifier m.kind origin)

namespace Element

def ofType (t : NativeType) : Element := ⟨t, .empty⟩

def has (e : Element) (kind : Modifier.Kind) : Bool := e.modifiers.has kind

def attach (e : Element) (role : Role) (origin : Origin) (ms : List Modifier) :
    Except Refusal Element :=
  if !e.modifiers.isEmpty && !ms.isEmpty then .error (.modifiersAlreadySet origin)
  else (attachEach e.nativeType role origin e.modifiers ms).map fun s => { e with modifiers := s }

def isSpecial (e : Element) : Bool := e.nativeType.isData || e.modifiers.isSpecial

def handleType : String := "intptr_t"

/-- The declared name, with a star for the pointer that it does not include itself. A struct is
passed by value unless pointers are asked for. -/
def declaredType (t : NativeType) (pointerMode : Bool) : String :=
  if t.kind.isAddress && !t.includesPointer && (pointerMode || t.kind != .struct) then
    t.name ++ if t.name.toList.getLast? == some '*' then "*" else " *"
  else t.name

/-- The type in a native declaration. Under a binding only types that are safe at the boundary
appear, save for the call context and for structs that are no pointers. -/
def nativeText (e : Element) (binding : Option Binding) (pointerMode isCallContext : Bool) :
    String :=
  let t := e.nativeType
  let type :=
    if binding.isNone || isCallContext || (t.kind == .struct && !t.includesPointer) then
      declaredType t pointerMode
    else if t.isAddressWide then handleType
    else t.boundaryName
  (if e.has .const then "const " else "") ++ type

end Element

end CallBoundary
