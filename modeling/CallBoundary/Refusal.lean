import CallBoundary.Failure
import CallBoundary.Modifier.Basic

/-! Why a declared element or function is refused. -/
namespace CallBoundary

inductive Refusal where
  | duplicateModifier (kind : Modifier.Kind) (origin : Origin)
  | invalidModifier (kind : Modifier.Kind) (origin : Origin) (reason : String)
  | modifiersAlreadySet (origin : Origin)
  | duplicateParameter (name function : String)
  | missingBinding (origin : Origin)
  | inconsistentType (origin : Origin) (reason : String)
  deriving DecidableEq, Repr

namespace Refusal

def message : Refusal → String
  | duplicateModifier kind origin =>
    "duplicate modifier `" ++ kind.label ++ "` on " ++ origin.text
  | invalidModifier kind origin reason =>
    "modifier `" ++ kind.label ++ "` is not valid on " ++ origin.text ++ ": " ++ reason
  | modifiersAlreadySet origin => "modifiers of " ++ origin.text ++ " are already set"
  | duplicateParameter name function =>
    "duplicate parameter `" ++ name ++ "` in `" ++ function ++ "`"
  | missingBinding origin =>
    origin.text ++ " needs an API binding, " ++
      "the function declares an unsafe variant but has no binding"
  | inconsistentType origin reason => origin.text ++ " cannot be lowered: " ++ reason

def origin : Refusal → Origin
  | duplicateModifier _ origin => origin
  | invalidModifier _ origin _ => origin
  | modifiersAlreadySet origin => origin
  | duplicateParameter name function => (Origin.parameter name).inFunction function
  | missingBinding origin => origin
  | inconsistentType origin _ => origin

/-- All but a missing binding is the fault of the declarations. -/
def failure (r : Refusal) : Failure :=
  match r with
  | missingBinding _ => .lowering r.origin r.message
  | _ => .declaration r.origin r.message

end Refusal

end CallBoundary
