import CallBoundary.Json.Format
import CallBoundary.NativeType.Basic

/-! Native types as JSON. -/
namespace CallBoundary

open Json

def Scalar.names : List (String × Scalar) :=
  [("boolean", boolean), ("boolean4", boolean4), ("byte", byte), ("short", short), ("int", int),
   ("long", long), ("float", float), ("double", double), ("pointer", pointer)]

def Scalar.format : Format Scalar := .oneOf (.ofNames names)

def Pointee.names : List (String × Pointee) :=
  [("opaque_pointer", sealed), ("struct", struct), ("data", data), ("data_byte", bytes),
   ("data_short", shorts), ("data_int", ints), ("data_long", longs), ("data_float", floats),
   ("data_double", doubles), ("data_pointer", pointers)]

def Pointee.format : Format Pointee := .oneOf (.ofNames names)

def Mapping.scalarArm : Arm Scalar Mapping where
  build := .scalar
  content?
    | .scalar s => some s
    | _ => none

def Mapping.pointerArm : Arm Pointee Mapping where
  build := .pointer
  content?
    | .pointer p => some p
    | _ => none

def Mapping.format : Format Mapping :=
  .oneOf <| .plain "void" .void <| .holding "primitive" Scalar.format scalarArm <|
    .holding "pointer" Pointee.format pointerArm .nil

def NativeType.Kind.arrayArm : Arm UInt32 NativeType.Kind where
  build := .array
  content?
    | .array length => some length
    | _ => none

def NativeType.Kind.format : Format NativeType.Kind :=
  .oneOf <| .plain "void" .void <| .plain "primitive" .primitive <| .plain "pointer" .pointer <|
    .plain "struct" .struct <| .plain "object" .object <|
    .holding "array" (.record (.variant "NativeKind" "Array")
      (.cons "length" .required .word .nil) .single) arrayArm <|
    .plain "char_sequence" .charSequence .nil

def NativeType.view : View [String, Kind, Mapping, Bool] NativeType where
  build := fun (name, kind, mapping, includesPointer, ()) => ⟨name, kind, mapping, includesPointer⟩
  row t := (t.name, t.kind, t.mapping, t.includesPointer, ())

def NativeType.format : Format NativeType :=
  .record (.record "NativeType")
    (.cons "name" .required .text <| .cons "kind" .required Kind.format <|
      .cons "mapping" .required Mapping.format <|
      .cons "includes_pointer" (.defaulted false) .flag .nil) view

end CallBoundary
