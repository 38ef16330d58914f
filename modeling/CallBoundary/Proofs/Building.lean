import CallBoundary.Declaration.Build
import CallBoundary.Proofs.Reachable

/-! What a declaration is built into. A built function can be made by the operations of the
library, and each of its parameters has the type, the modifiers and the role that were declared. -/
namespace CallBoundary

@[simp] theorem Parameter.withLinks_isCallContext (p : Parameter) :
    (p.withLinks links mode).isCallContext = p.isCallContext := by
  simp only [withLinks]
  split <;> rfl

namespace Declaration

variable {types : Table NativeType}

namespace Parameter

/-- What is built from a declaration before its modifiers are attached. -/
def plain (p : Parameter) (t : NativeType) : CallBoundary.Parameter :=
  if p.isCallContext then .callContext t
  else (CallBoundary.Parameter.ofType t p.name p.direction p.documentation).withLinks
    p.links p.linkMode

/-- The documentation of a parameter with its links. -/
def linkedDocumentation (p : Parameter) : String :=
  if Text.isAllBlank p.links then p.documentation
  else p.linkMode.append p.documentation p.links

/-- A call context has the one name of all call contexts, whatever is declared. -/
def effectiveName (p : Parameter) : String :=
  if p.isCallContext then CallBoundary.Parameter.callContextName else p.name

variable (p : Parameter) (t : NativeType)

theorem effectiveName_context (context : p.isCallContext = true) : p.effectiveName = "__env" := by
  rw [effectiveName, if_pos context]
  rfl

theorem effectiveName_ordinary (ordinary : p.isCallContext = false) :
    p.effectiveName = p.name := by
  simp [effectiveName, ordinary]

theorem plain_context (context : p.isCallContext = true) : p.plain t = .callContext t := by
  rw [plain, if_pos context]

theorem plain_ordinary (ordinary : p.isCallContext = false) :
    p.plain t = ⟨.ofType t, p.name, p.direction, p.linkedDocumentation, false⟩ := by
  rw [plain, ordinary, linkedDocumentation, CallBoundary.Parameter.withLinks]
  cases Text.isAllBlank p.links <;> rfl

theorem plain_reachable : (p.plain t).Reachable := by
  rw [plain]
  split
  · exact .callContext t
  · exact .withLinks (.ofType ..)

@[simp] theorem plain_isCallContext : (p.plain t).isCallContext = p.isCallContext := by
  cases context : p.isCallContext with
  | true => rw [plain_context p t context]; rfl
  | false => rw [plain_ordinary p t context]

@[simp] theorem plain_toElement : (p.plain t).toElement = .ofType t := by
  cases context : p.isCallContext with
  | true => rw [plain_context p t context]; rfl
  | false => rw [plain_ordinary p t context]

@[simp] theorem plain_name : (p.plain t).name = p.effectiveName := by
  cases context : p.isCallContext with
  | true => rw [plain_context p t context, p.effectiveName_context context]; rfl
  | false => rw [plain_ordinary p t context, p.effectiveName_ordinary context]

end Parameter

namespace Function

variable {d : Function} {f : BoundFunction}

theorem lookup_eq_ok : d.lookup types key origin = .ok t ↔ types.find? key = some t := by
  simp only [lookup]
  cases types.find? key <;> simp

theorem build_eq_ok : d.build types = .ok f ↔ ∃ result parameters built,
    d.buildReturned types = .ok result ∧
    List.Forall₂ (fun p q => d.buildParameter types p = .ok q) d.parameters parameters ∧
    BoundFunction.declare d.name result parameters = .ok built ∧
    f = if d.hasRawVariant then built.withRawVariant else built := by
  simp only [build, bind_eq_ok, mapM_eq_ok, mapError_eq_ok]
  constructor
  · intro made
    obtain ⟨result, returned, parameters, each, built, declared, same⟩ := made
    exact ⟨result, parameters, built, returned, each, declared, (Except.ok.inj same).symm⟩
  · intro parts
    obtain ⟨result, parameters, built, returned, each, declared, rfl⟩ := parts
    exact ⟨result, returned, parameters, each, built, declared, rfl⟩

theorem buildReturned_made {result : ReturnValue} :
    d.buildReturned types = .ok result ↔ ∃ t, types.find? d.returned.typeKey = some t ∧
      (ReturnValue.ofType t).withModifiers d.returned.modifiers = .ok result := by
  simp only [buildReturned, bind_eq_ok, lookup_eq_ok, mapError_eq_ok]

theorem buildReturned_reachable {result : ReturnValue}
    (built : d.buildReturned types = .ok result) : result.Reachable := by
  obtain ⟨t, -, attached⟩ := buildReturned_made.mp built
  exact .withModifiers (.ofType t) attached

theorem buildParameter_made {p : Parameter} {q : CallBoundary.Parameter} :
    d.buildParameter types p = .ok q ↔ ∃ t, types.find? p.typeKey = some t ∧
      (p.plain t).withModifiers p.modifiers = .ok q := by
  simp only [buildParameter, bind_eq_ok, lookup_eq_ok, mapError_eq_ok, Parameter.plain]

/-- A built parameter is what its declaration says, whether or not it is the call context. -/
theorem buildParameter_eq_ok {p : Parameter} {q : CallBoundary.Parameter}
    (built : d.buildParameter types p = .ok q) : q.Reachable ∧
      q.isCallContext = p.isCallContext ∧ types.find? p.typeKey = some q.nativeType ∧
      ∀ m, m ∈ q.modifiers.entries ↔ m ∈ p.modifiers := by
  obtain ⟨t, found, attached⟩ := buildParameter_made.mp built
  obtain ⟨each, same⟩ := CallBoundary.Parameter.withModifiers_eq_ok attached
  refine ⟨.withModifiers (p.plain_reachable t) attached, ?_, ?_, fun m => ?_⟩
  · rw [same]
    exact p.plain_isCallContext t
  · rw [same, found, p.plain_toElement t]
    rfl
  · rw [mem_attachEach each, p.plain_toElement t]
    simp [Element.ofType, ModifierSet.empty]

theorem build_reachable (built : d.build types = .ok f) : f.Reachable := by
  obtain ⟨result, parameters, base, returned, each, declared, rfl⟩ := build_eq_ok.mp built
  have reachable : base.Reachable := by
    refine .declare (buildReturned_reachable returned) (fun q member => ?_) declared
    obtain ⟨p, -, built⟩ := partner_of_mem each.flip member
    exact (buildParameter_eq_ok built).1
  split
  · exact .withRawVariant reachable
  · exact reachable

theorem build_fields (built : d.build types = .ok f) : f.name = d.name ∧
    f.hasRawVariant = d.hasRawVariant ∧
    List.Forall₂ (fun p q => d.buildParameter types p = .ok q) d.parameters f.parameters := by
  obtain ⟨result, parameters, base, -, each, declared, rfl⟩ := build_eq_ok.mp built
  obtain ⟨-, -, rfl⟩ := BoundFunction.declare_eq_ok.mp declared
  cases d.hasRawVariant <;> exact ⟨rfl, rfl, each⟩

end Function

theorem File.build_eq_ok {file : File} {functions : List BoundFunction} :
    file.build = .ok functions ↔ ∃ types, file.resolveTypes = .ok types ∧
      List.Forall₂ (fun d f => d.build types = .ok f) file.functions functions := by
  simp only [build, bind_eq_ok, mapM_eq_ok]

theorem Function.built_sound {declared : List Function} {functions : List BoundFunction}
    (built : List.Forall₂ (fun d f => d.build types = .ok f) declared functions) :
    ∀ f ∈ functions, f.Sound := by
  intro f member
  obtain ⟨d, -, built⟩ := partner_of_mem built.flip member
  exact (build_reachable built).sound

end Declaration

end CallBoundary
