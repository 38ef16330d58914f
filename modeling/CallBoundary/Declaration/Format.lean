import CallBoundary.Declaration.Basic
import CallBoundary.Failure
import CallBoundary.Json.Decode
import CallBoundary.Modifier.Format

/-! Declaration files as JSON, and how they are got from a text or from the bytes of a stored
file. -/
namespace CallBoundary

open Json

def Direction.format : Format Direction :=
  .oneOf (.ofNames [("in", .input), ("out", .output), ("inout", .both)])

def LinkMode.format : Format LinkMode :=
  .oneOf (.ofNames
    [("single", .single), ("single_cnt", .singleContinued), ("bitfield", .bitfield),
     ("bitfield_cnt", .bitfieldContinued)])

def Mode.format : Format Mode :=
  .oneOf (.ofNames [("normal", .normal), ("alternative", .alternative)])

def Binding.view : View [String, Bool] Binding where
  build := fun (name, hasParameterCapabilities, ()) => ⟨name, hasParameterCapabilities⟩
  row b := (b.name, b.hasParameterCapabilities, ())

def Binding.format : Format Binding :=
  .record (.record "ApiBinding")
    (.cons "name" .required .text <|
      .cons "has_parameter_capabilities" (.defaulted false) .flag .nil) view

namespace Declaration

def Returned.view : View [String, List Modifier] Returned where
  build := fun (typeKey, modifiers, ()) => ⟨typeKey, modifiers⟩
  row r := (r.typeKey, r.modifiers, ())

def Returned.format : Format Returned :=
  .record (.record "ReturnDecl")
    (.cons "type" .required .text <|
      .cons "modifiers" (.defaulted []) (.list Modifier.format) .nil) view

def Parameter.view :
    View [String, String, Direction, String, String, LinkMode, List Modifier, Bool]
      Parameter where
  build := fun (typeKey, name, direction, documentation, links, linkMode, modifiers,
      isCallContext, ()) =>
    ⟨typeKey, name, direction, documentation, links, linkMode, modifiers, isCallContext⟩
  row p := (p.typeKey, p.name, p.direction, p.documentation, p.links, p.linkMode, p.modifiers,
    p.isCallContext, ())

def Parameter.format : Format Parameter :=
  .record (.record "ParameterDecl")
    (.cons "type" .required .text <| .cons "name" .required .text <|
      .cons "direction" (.defaulted .input) Direction.format <|
      .cons "documentation" (.defaulted "") .text <| .cons "links" (.defaulted "") .text <|
      .cons "link_mode" (.defaulted .single) LinkMode.format <|
      .cons "modifiers" (.defaulted []) (.list Modifier.format) <|
      .cons "call_context" (.defaulted false) .flag .nil) view

def Function.view : View [String, Bool, Returned, List Parameter] Function where
  build := fun (name, hasRawVariant, returned, parameters, ()) =>
    ⟨name, hasRawVariant, returned, parameters⟩
  row f := (f.name, f.hasRawVariant, f.returned, f.parameters, ())

def Function.format : Format Function :=
  .record (.record "FunctionDecl")
    (.cons "name" .required .text <| .cons "has_unsafe_method" (.defaulted false) .flag <|
      .cons "returns" (.defaulted .void) Returned.format <|
      .cons "parameters" (.defaulted []) (.list Parameter.format) .nil) view

def File.view : View [Option Binding, Table NativeType, List Function] File where
  build := fun (binding, types, functions, ()) => ⟨binding, types, functions⟩
  row file := (file.binding, file.types, file.functions, ())

def File.format : Format File :=
  .record (.record "DeclarationFile")
    (.cons "binding" (.defaulted none) (.optional Binding.format) <|
      .cons "types" (.defaulted .empty) (.table NativeType.format) <|
      .cons "functions" .required (.list Function.format) .nil) view

/-- What is wrong is told without its place in the text; see `Json.Fault.message`. -/
def File.parse (text : String) : Except Failure File :=
  match File.format.read text with
  | .ok file => .ok file
  | .error fault => .error (.configuration ("invalid declaration file: " ++ fault.message))

/-- What comes of reading a stored file. -/
inductive Content where
  | missing
  | unreadable (reason : String)
  | stored (bytes : ByteArray)

/-- Files hold their text as UTF-8. -/
def Content.text : Content → Except Failure String
  | missing => .error (.io "No such file or directory (os error 2)")
  | unreadable reason => .error (.io reason)
  | stored bytes =>
    match String.fromUTF8? bytes with
    | some text => .ok text
    | none => .error (.io "stream did not contain valid UTF-8")

def File.load (content : Content) : Except Failure File :=
  content.text.bind File.parse

end Declaration

end CallBoundary
