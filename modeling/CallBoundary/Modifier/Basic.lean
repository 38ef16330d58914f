import CallBoundary.NativeType.Basic

/-! Modifiers qualify a parameter or a return value. -/
namespace CallBoundary

inductive Modifier.Kind where
  | const
  | nullable
  | optional
  | autoSizeResult
  | pointerArray
  | returned
  | singleValue
  | multiType
  deriving DecidableEq, Repr

namespace Modifier.Kind

def label : Modifier.Kind → String
  | const => "const"
  | nullable => "nullable"
  | optional => "optional"
  | autoSizeResult => "AutoSizeResult"
  | pointerArray => "PointerArray"
  | returned => "Return"
  | singleValue => "SingleValue"
  | multiType => "MultiType"

/-- The place in the order in which an element lists its modifiers. -/
def rank : Modifier.Kind → Nat
  | const => 0
  | nullable => 1
  | optional => 2
  | autoSizeResult => 3
  | pointerArray => 4
  | returned => 5
  | singleValue => 6
  | multiType => 7

/-- The kinds that are there only to derive overloads with arrays or many arguments. -/
def arrayFamily : List Modifier.Kind := [pointerArray, returned, singleValue, multiType]

end Modifier.Kind

/-- A nullable argument may be null, and an optional one left out in the normal mode. The last four
are there for overloads: an array in place of a pointer to pointers, an output parameter as the
result, one value in place of a buffer, and a buffer of each of the element types. -/
inductive Modifier where
  | const
  | nullable
  | optional
  | autoSizeResult
  | pointerArray (elementType : String) (lengthParam : Option String)
  | returned (lengthParam : String) (maxLength : Option String)
  | singleValue (name : String)
  | multiType (types : List Pointee)
  deriving DecidableEq, Repr

namespace Modifier

def kind : Modifier → Modifier.Kind
  | const => .const
  | nullable => .nullable
  | optional => .optional
  | autoSizeResult => .autoSizeResult
  | pointerArray _ _ => .pointerArray
  | returned _ _ => .returned
  | singleValue _ => .singleValue
  | multiType _ => .multiType

def isSpecial : Modifier → Bool
  | const => false
  | nullable => false
  | optional => false
  | _ => true

end Modifier

inductive Role where
  | parameter
  | returnValue
  deriving DecidableEq, Repr

namespace Modifier

def suitsReturnValue : Modifier → Bool
  | const => true
  | nullable => true
  | _ => false

/-- The reason why the modifier cannot qualify an element of the type, if there is one. -/
def objection (m : Modifier) (t : NativeType) (role : Role) : Option String :=
  if role = .returnValue ∧ !m.suitsReturnValue then some "only parameters accept this modifier"
  else
    match m with
    | const => none
    | autoSizeResult =>
      if t.mapping.isInteger || t.isData then none
      else some ("`" ++ t.name ++ "` is neither an integer nor a data pointer")
    | multiType types =>
      if !t.isData then some ("`" ++ t.name ++ "` is not a data pointer")
      else if types.isEmpty then some "at least one element type is required"
      else none
    | _ => if t.kind.isAddress then none else some ("`" ++ t.name ++ "` is not a pointer type")

end Modifier

end CallBoundary
