import CallBoundary.Links
import CallBoundary.Parameter.Basic
import CallBoundary.Table

/-! Declaration files: the native types and functions of one binding, as their author wrote
them. Functions name their types by key. -/
namespace CallBoundary.Declaration

/-- The key that is there without being declared. -/
def voidKey : String := "void"

structure Returned where
  typeKey : String
  modifiers : List Modifier
  deriving DecidableEq, Repr

/-- What a function returns if nothing is declared. -/
def Returned.void : Returned := ⟨voidKey, []⟩

structure Parameter where
  typeKey : String
  name : String
  direction : Direction
  documentation : String
  links : String
  linkMode : LinkMode
  modifiers : List Modifier
  isCallContext : Bool
  deriving DecidableEq, Repr

structure Function where
  name : String
  hasRawVariant : Bool
  returned : Returned
  parameters : List Parameter
  deriving DecidableEq, Repr

structure File where
  binding : Option Binding
  types : Table NativeType
  functions : List Function
  deriving DecidableEq

end CallBoundary.Declaration
