import CallBoundary.NativeType.Mapping

/-! Declared native types. Kind and mapping are declared apart from each other and may disagree;
see `NativeType.inconsistency`. -/
namespace CallBoundary

/-- Structs, arrays and character sequences are passed by their address, and so are objects, which
are handles. -/
inductive NativeType.Kind where
  | void
  | primitive
  | pointer
  | struct
  | object
  | array (length : UInt32)
  | charSequence
  deriving DecidableEq, Repr

def NativeType.Kind.label : Kind → String
  | void => "Void"
  | primitive => "Primitive"
  | pointer => "Pointer"
  | struct => "Struct"
  | object => "Object"
  | array length => r"Array { length: " ++ toString length.toNat ++ r" }"
  | charSequence => "CharSequence"

def NativeType.Kind.isArray : Kind → Bool
  | array _ => true
  | _ => false

def NativeType.Kind.isAddress : Kind → Bool
  | void => false
  | primitive => false
  | _ => true

structure NativeType where
  name : String
  kind : NativeType.Kind
  mapping : Mapping
  /-- The name denotes a pointer already. -/
  includesPointer : Bool
  deriving DecidableEq, Repr

namespace NativeType

def void : NativeType := ⟨"void", .void, .void, false⟩

def primitive (name : String) (scalar : Scalar) : NativeType :=
  ⟨name, .primitive, .scalar scalar, false⟩

def pointer (name : String) (pointee : Pointee) : NativeType :=
  ⟨name, .pointer, .pointer pointee, false⟩

def struct (name : String) (includesPointer : Bool) : NativeType :=
  ⟨name, .struct, .pointer .struct, includesPointer⟩

def object (name : String) : NativeType := ⟨name, .object, .pointer .sealed, true⟩

def array (name : String) (pointee : Pointee) (length : UInt32) : NativeType :=
  ⟨name, .array length, .pointer pointee, false⟩

def charSequence (name : String) : NativeType := ⟨name, .charSequence, .pointer .bytes, false⟩

def boundaryName (t : NativeType) : String := t.mapping.boundaryName

def prototypeName (t : NativeType) : String := t.mapping.prototypeName

/-- Structs and objects have a wrapper of their own name. -/
def managedName (t : NativeType) : String :=
  match t.kind with
  | .struct => t.name
  | .object => t.name
  | _ => t.mapping.managedName

/-- Passed by address, with raw element data behind the address. -/
def isData (t : NativeType) : Bool := t.kind.isAddress && t.mapping.isData

def isAddressWide (t : NativeType) : Bool :=
  t.mapping == .scalar .pointer || t.kind.isAddress

end NativeType

def NativeType.Kind.admits : Kind → Mapping → Bool
  | .void, .void => true
  | .primitive, .scalar _ => true
  | .pointer, .pointer pointee => pointee != .struct
  | .struct, .pointer pointee => pointee == .struct
  | .object, .pointer pointee => pointee == .sealed
  | .array _, .pointer pointee => pointee.isData
  | .charSequence, .pointer pointee => pointee == .bytes
  | _, _ => false

/-- The reason why a type cannot be used, if there is one. -/
def NativeType.inconsistency (t : NativeType) : Option String :=
  if t.kind.admits t.mapping then
    if t.kind = .array 0 then
      some ("native array type `" ++ t.name ++ "` must have a non-zero length")
    else none
  else
    some ("native type `" ++ t.name ++ "` has kind " ++ t.kind.label ++
      " incompatible with mapping " ++ t.mapping.label)

end CallBoundary
