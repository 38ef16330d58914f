import CallBoundary.Listing
import CallBoundary.Proofs.CallRefusal

/-! Direct passthrough. Where no element needs generated code, every parameter is passed as it
is, save that a struct is passed by its address; no binding and no mode changes that. -/
namespace CallBoundary

namespace Parameter

variable {p : Parameter}

def directText (p : Parameter) : String :=
  if p.nativeType.kind = .struct then
    if p.has .nullable then p.name ++ " == null ? NULL : " ++ p.name ++ ".address()"
    else p.name ++ ".address()"
  else p.name

theorem isSpecial_eq_false (direct : p.isSpecial = false) :
    p.nativeType.isData = false ∧ p.nativeType.mapping ≠ .scalar .boolean4 ∧
      (p.nativeType.mapping = .pointer .sealed → p.isCallContext = false →
        p.nativeType.kind ≠ .object) := by
  simp only [isSpecial, Element.isSpecial, Bool.or_eq_false_iff] at direct
  obtain ⟨⟨data, -⟩, rest⟩ := direct
  refine ⟨data, fun boolean4 => by simp [boolean4] at rest, fun handle passed object => ?_⟩
  simp [handle, passed, object] at rest

theorem argumentText_of_direct (passes : p.nativeType.Passes way)
    (passed : p.isCallContext = false) (direct : p.isSpecial = false) (site : CallSite)
    (mode : Mode) : p.argumentText site mode = .ok p.directText := by
  obtain ⟨data, boolean4, object⟩ := isSpecial_eq_false direct
  have plain : way ≠ .data ∧ way ≠ .fixedArray := by
    simpa [data, not_or] using passes.isData_iff
  simp only [argumentText, argument, passes.found, directText]
  cases passes with
  | struct kind =>
    cases p.has .nullable <;> simp [takesHandle, kind, Except.map]
  | object kind handle => exact absurd kind (object handle passed)
  | array | characters | data => simp at plain
  | boolean4 _ converted => exact absurd converted boolean4
  | handle kind | scalar kind | void kind => simp [kind, Except.map]

end Parameter

namespace BoundFunction

variable {f : BoundFunction}

/-- A function without special elements is called alike in all circumstances. -/
theorem passthrough_call (reachable : f.Reachable) (direct : f.isSpecial = false) :
    f.routing = "passthrough" ∧ ∀ binding mode,
      f.arguments binding mode = .ok (f.passed.map Parameter.directText) ∧
      f.call binding mode =
        .ok ("n" ++ f.name ++ "(" ++ joined (f.passed.map Parameter.directText) ++ ")") := by
  have plain : ∀ p ∈ f.parameters, p.isSpecial = false := by
    simp only [isSpecial, Bool.or_eq_false_iff, List.any_eq_false] at direct
    simpa using direct.2
  refine ⟨by simp [routing, direct], fun binding mode => ?_⟩
  have arguments : f.arguments binding mode = .ok (f.passed.map Parameter.directText) := by
    rw [BoundFunction.arguments, mapM_eq_ok, List.forall₂_map_right_iff, List.forall₂_same]
    intro p member
    obtain ⟨passed, way, passes⟩ := passed_passes reachable.sound member
    have direct := plain p (List.mem_filter.mp member).1
    exact Parameter.argumentText_of_direct passes passed direct _ _
  exact ⟨arguments, by rw [call, arguments]; rfl⟩

/-- Both kinds of structs, a handle that may be null, and a context that is never passed. -/
def present : BoundFunction where
  name := "vkPresent"
  hasRawVariant := true
  returned := .ofType (.primitive "VkResult" .int)
  parameters := [
    .callContext (.object "VkQueue"),
    .ofType (.struct "VkPresentInfo" false) "info" .input "",
    { Parameter.ofType (.struct "VkRect" false) "area" .input "" with modifiers := ⟨[.nullable]⟩ },
    { Parameter.ofType (.pointer "void" .sealed) "next" .input "" with modifiers := ⟨[.nullable]⟩ }]

theorem present_reachable : present.Reachable := by
  have declared : declare "vkPresent" present.returned present.parameters =
      .ok ⟨"vkPresent", false, present.returned, present.parameters⟩ := rfl
  refine .withRawVariant (.declare (.ofType _) ?_ declared)
  simp only [present, List.forall_mem_cons]
  refine ⟨.callContext _, .ofType .., ?_, ?_, by simp⟩
  · exact Parameter.Reachable.modified (.ofType (.struct "VkRect" false) "area" .input "")
      [.nullable] rfl
  · exact Parameter.Reachable.modified (.ofType (.pointer "void" .sealed) "next" .input "")
      [.nullable] rfl

theorem present_call : present.Reachable ∧ present.isSpecial = false ∧
    present.call none .alternative =
      .ok "nvkPresent(info.address(), area == null ? NULL : area.address(), next)" :=
  have direct : present.isSpecial = false := by decide
  ⟨present_reachable, direct, ((passthrough_call present_reachable direct).2 none .alternative).2⟩

end BoundFunction

end CallBoundary
