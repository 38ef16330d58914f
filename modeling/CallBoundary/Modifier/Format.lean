import CallBoundary.Modifier.Basic
import CallBoundary.NativeType.Format

/-! Modifiers as JSON. -/
namespace CallBoundary

open Json

namespace Modifier

def Kind.format : Format Modifier.Kind :=
  .oneOf <| .ofNames
    [("const", .const), ("nullable", .nullable), ("optional", .optional),
     ("auto_size_result", .autoSizeResult), ("pointer_array", .pointerArray),
     ("return", .returned), ("single_value", .singleValue), ("multi_type", .multiType)]

def pointerArrayFormat : Format (String × Option String) :=
  .record (.variant "Modifier" "PointerArray")
    (.cons "element_type" .required .text <|
      .cons "length_param" (.defaulted none) (.optional .text) .nil) .pair

def pointerArrayArm : Arm (String × Option String) Modifier where
  build content := .pointerArray content.1 content.2
  content?
    | .pointerArray elementType lengthParam => some (elementType, lengthParam)
    | _ => none

def returnedFormat : Format (String × Option String) :=
  .record (.variant "Modifier" "Return")
    (.cons "length_param" .required .text <|
      .cons "max_length" (.defaulted none) (.optional .text) .nil) .pair

def returnedArm : Arm (String × Option String) Modifier where
  build content := .returned content.1 content.2
  content?
    | .returned lengthParam maxLength => some (lengthParam, maxLength)
    | _ => none

def singleValueFormat : Format String :=
  .record (.variant "Modifier" "SingleValue") (.cons "name" .required .text .nil) .single

def singleValueArm : Arm String Modifier where
  build := .singleValue
  content?
    | .singleValue name => some name
    | _ => none

def multiTypeFormat : Format (List Pointee) :=
  .record (.variant "Modifier" "MultiType")
    (.cons "types" .required (.list Pointee.format) .nil) .single

def multiTypeArm : Arm (List Pointee) Modifier where
  build := .multiType
  content?
    | .multiType types => some types
    | _ => none

def format : Format Modifier :=
  .oneOf <| .plain "const" .const <| .plain "nullable" .nullable <|
    .plain "optional" .optional <| .plain "auto_size_result" .autoSizeResult <|
    .holding "pointer_array" pointerArrayFormat pointerArrayArm <|
    .holding "return" returnedFormat returnedArm <|
    .holding "single_value" singleValueFormat singleValueArm <|
    .holding "multi_type" multiTypeFormat multiTypeArm .nil

end Modifier

end CallBoundary
