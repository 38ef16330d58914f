/-! How values cross the call boundary, and the three vocabularies that name them: the primitives
that are safe at the boundary, the types of native prototypes, and the managed types. -/
namespace CallBoundary

/-- Mappings of values that are passed themselves. -/
inductive Scalar where
  | boolean
  /-- A boolean of four bytes, converted at the boundary. -/
  | boolean4
  | byte
  | short
  | int
  | long
  | float
  | double
  | pointer
  deriving DecidableEq, Repr

namespace Scalar

def boundaryName : Scalar → String
  | boolean => "jboolean"
  | boolean4 => "jint"
  | byte => "jbyte"
  | short => "jshort"
  | int => "jint"
  | long => "jlong"
  | float => "jfloat"
  | double => "jdouble"
  | pointer => "jlong"

def prototypeName : Scalar → String
  | boolean => "boolean"
  | boolean4 => "int"
  | byte => "byte"
  | short => "short"
  | int => "int"
  | long => "long"
  | float => "float"
  | double => "double"
  | pointer => "long"

def managedName : Scalar → String
  | boolean => "boolean"
  | boolean4 => "boolean"
  | byte => "byte"
  | short => "short"
  | int => "int"
  | long => "long"
  | float => "float"
  | double => "double"
  | pointer => "long"

def isInteger : Scalar → Bool
  | byte => true
  | short => true
  | int => true
  | long => true
  | pointer => true
  | _ => false

def label : Scalar → String
  | boolean => "Boolean"
  | boolean4 => "Boolean4"
  | byte => "Byte"
  | short => "Short"
  | int => "Int"
  | long => "Long"
  | float => "Float"
  | double => "Double"
  | pointer => "Pointer"

end Scalar

/-- Mappings of values that are passed by their address, by what stands there. -/
inductive Pointee where
  /-- Nothing that is ever looked at. -/
  | sealed
  | struct
  | data
  | bytes
  | shorts
  | ints
  | longs
  | floats
  | doubles
  | pointers
  deriving DecidableEq, Repr

namespace Pointee

def isData : Pointee → Bool
  | sealed => false
  | struct => false
  | _ => true

/-- Data has a buffer type, the rest stays an address. -/
def managedName : Pointee → String
  | sealed => "long"
  | struct => "long"
  | data => "ByteBuffer"
  | bytes => "ByteBuffer"
  | shorts => "ShortBuffer"
  | ints => "IntBuffer"
  | longs => "LongBuffer"
  | floats => "FloatBuffer"
  | doubles => "DoubleBuffer"
  | pointers => "PointerBuffer"

def label : Pointee → String
  | sealed => "OpaquePointer"
  | struct => "Struct"
  | data => "Data"
  | bytes => "DataByte"
  | shorts => "DataShort"
  | ints => "DataInt"
  | longs => "DataLong"
  | floats => "DataFloat"
  | doubles => "DataDouble"
  | pointers => "DataPointer"

end Pointee

inductive Mapping where
  | void
  | scalar (scalar : Scalar)
  | pointer (pointee : Pointee)
  deriving DecidableEq, Repr

namespace Mapping

def boundaryName : Mapping → String
  | void => "void"
  | scalar s => s.boundaryName
  | pointer _ => "jlong"

def prototypeName : Mapping → String
  | void => "void"
  | scalar s => s.prototypeName
  | pointer _ => "long"

def managedName : Mapping → String
  | void => "void"
  | scalar s => s.managedName
  | pointer p => p.managedName

def isData : Mapping → Bool
  | pointer p => p.isData
  | _ => false

def isInteger : Mapping → Bool
  | scalar s => s.isInteger
  | _ => false

def label : Mapping → String
  | void => "Void"
  | scalar s => "Primitive(" ++ s.label ++ ")"
  | pointer p => "Pointer(" ++ p.label ++ ")"

end Mapping

end CallBoundary
