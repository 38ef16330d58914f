import CallBoundary.BoundFunction
import CallBoundary.Proofs.ArgumentRefusal
import CallBoundary.Proofs.Reachable

/-! Which calls can be written. A raw variant takes an object as its handle or by its address, and
the binding alone can tell; without one the call is refused at the first object that cannot be
null. Nothing else refuses the call of a function that can be made. -/
namespace CallBoundary

variable {site : CallSite} {mode : Mode} {refusal : Refusal}

namespace Parameter

variable {p : Parameter}

/-- An object that is passed and cannot be null. -/
def needsBinding (p : Parameter) : Bool :=
  !p.isCallContext && p.nativeType.kind == .object && !p.has .nullable

theorem needsBinding_iff (passed : p.isCallContext = false) : p.needsBinding = true ↔
    p.nativeType.kind = .object ∧ p.has .nullable = false := by
  simp [needsBinding, passed]

theorem argumentText_eq_error (passes : p.nativeType.Passes way)
    (passed : p.isCallContext = false) :
    p.argumentText site mode = .error refusal ↔ site.hasRawVariant = true ∧ site.binding = none ∧
      p.needsBinding = true ∧ refusal = .missingBinding (p.origin.inFunction site.function) := by
  rw [argumentText_unbound_iff passes, needsBinding_iff passed]
  tauto

end Parameter

namespace BoundFunction

variable {f : BoundFunction} {binding : Option Binding}

theorem passed_find? : f.passed.find? Parameter.needsBinding =
    f.parameters.find? Parameter.needsBinding := by
  rw [passed, List.find?_filter]
  congr 1
  funext p
  by_cases context : p.isCallContext = true <;>
    simp [Parameter.needsBinding, Bool.beq_eq_decide_eq, context]

theorem passed_passes (sound : f.Sound) (member : p ∈ f.passed) :
    p.isCallContext = false ∧ ∃ way, p.nativeType.Passes way := by
  obtain ⟨member, passed⟩ := List.mem_filter.mp member
  exact ⟨by simpa using passed, sound.passable p member⟩

/-- The one way for a call to be refused. -/
theorem arguments_eq_error (sound : f.Sound) : f.arguments binding mode = .error refusal ↔
    f.hasRawVariant = true ∧ binding = none ∧
      ∃ p, f.parameters.find? Parameter.needsBinding = some p ∧
        refusal = .missingBinding (p.origin.inFunction f.name) := by
  rw [← passed_find?]
  by_cases unbound : f.hasRawVariant = true ∧ binding = none
  · have spec : ∀ p ∈ f.passed, ∀ refusal,
        p.argumentText (f.callSite binding) mode = .error refusal ↔
          p.needsBinding = true ∧ refusal = .missingBinding (p.origin.inFunction f.name) := by
      intro p member refusal
      obtain ⟨passed, way, passes⟩ := passed_passes sound member
      simp [Parameter.argumentText_eq_error passes passed, callSite, unbound]
    simpa [arguments, unbound] using mapM_eq_error_of_test spec
  · constructor
    · intro refused
      obtain ⟨_, p, _, split, -, failed⟩ := mapM_eq_error.mp refused
      have member : p ∈ f.passed := by simp [split]
      obtain ⟨passed, way, passes⟩ := passed_passes sound member
      obtain ⟨raw, absent, -⟩ := (Parameter.argumentText_eq_error passes passed).mp failed
      exact absurd ⟨raw, absent⟩ unbound
    · intro missing
      obtain ⟨raw, absent, -⟩ := missing
      exact absurd ⟨raw, absent⟩ unbound

theorem call_eq_error (sound : f.Sound) : f.call binding mode = .error refusal ↔
    f.hasRawVariant = true ∧ binding = none ∧
      ∃ p, f.parameters.find? Parameter.needsBinding = some p ∧
        refusal = .missingBinding (p.origin.inFunction f.name) :=
  map_eq_error.trans (arguments_eq_error sound)

theorem refused_iff (sound : f.Sound) : (∃ refusal, f.call binding mode = .error refusal) ↔
    f.hasRawVariant = true ∧ binding = none ∧ ∃ p ∈ f.parameters, p.needsBinding = true := by
  simp only [call_eq_error sound, ← List.find?_isSome, Option.isSome_iff_exists]
  constructor
  · intro refused
    obtain ⟨refusal, raw, absent, p, first, -⟩ := refused
    exact ⟨raw, absent, p, first⟩
  · intro missing
    obtain ⟨raw, absent, p, first⟩ := missing
    exact ⟨_, raw, absent, p, first, rfl⟩

theorem refused_in_other_mode (sound : f.Sound) (mode other : Mode) :
    f.call binding mode = .error refusal ↔ f.call binding other = .error refusal :=
  (call_eq_error sound).trans (call_eq_error sound).symm

theorem callable_in_other_mode (sound : f.Sound) (mode other : Mode) :
    (∃ text, f.call binding mode = .ok text) ↔ ∃ text, f.call binding other = .ok text := by
  rw [← not_iff_not, not_ok_iff_error, not_ok_iff_error]
  simp only [refused_in_other_mode sound mode other]

/-- A call is refused exactly for want of a binding, at the first parameter that needs one. -/
theorem call_refused_iff (reachable : f.Reachable) (binding : Option Binding) (mode : Mode) :
    ((∃ refusal, f.call binding mode = .error refusal) ↔
      f.hasRawVariant = true ∧ binding = none ∧
        ∃ p ∈ f.parameters, p.isCallContext = false ∧ p.nativeType.kind = .object ∧
          p.has .nullable = false) ∧
    (∀ refusal, f.call binding mode = .error refusal →
      ∃ p, f.parameters.find? Parameter.needsBinding = some p ∧
        refusal = .missingBinding ⟨some f.name, .parameter p.name⟩) ∧
    (∀ origin reason, f.call binding mode ≠ .error (.inconsistentType origin reason)) ∧
    (f.hasRawVariant = false → ∃ text, f.call binding mode = .ok text) := by
  refine ⟨?_, ?_, ?_, ?_⟩
  · rw [refused_iff reachable.sound]
    simp [Parameter.needsBinding, and_assoc]
  · intro refusal failed
    obtain ⟨-, -, p, first, rfl⟩ := (call_eq_error reachable.sound).mp failed
    exact ⟨p, first, rfl⟩
  · intro origin reason failed
    obtain ⟨-, -, p, -, missing⟩ := (call_eq_error reachable.sound).mp failed
    contradiction
  · intro checked
    by_contra stuck
    obtain ⟨raw, -⟩ := (refused_iff reachable.sound).mp (not_ok_iff_error.mp stuck)
    simp [checked] at raw

/-- Releases four objects. The first is the context of the call, and the second may be null. -/
def release : BoundFunction where
  name := "clRelease"
  hasRawVariant := true
  returned := .ofType .void
  parameters := [
    .callContext (.object "cl_context"),
    { Parameter.ofType (.object "cl_queue") "queue" .input "" with modifiers := ⟨[.nullable]⟩ },
    .ofType (.object "cl_event") "event" .input "",
    .ofType (.object "cl_mem") "memory" .input ""]

theorem release_reachable : release.Reachable := by
  have declared : declare "clRelease" (.ofType .void) release.parameters =
      .ok ⟨"clRelease", false, .ofType .void, release.parameters⟩ := rfl
  refine .withRawVariant (.declare (.ofType _) ?_ declared)
  simp only [release, List.forall_mem_cons]
  refine ⟨.callContext _, ?_, .ofType .., .ofType .., by simp⟩
  exact Parameter.Reachable.modified (.ofType (.object "cl_queue") "queue" .input "")
    [.nullable] rfl

theorem release_refused : release.Reachable ∧
    (∃ refusal, release.call none .normal = .error refusal) ∧
    ∀ refusal, release.call none .normal = .error refusal →
      refusal = .missingBinding ⟨some "clRelease", .parameter "event"⟩ := by
  have spec := call_refused_iff release_reachable none .normal
  refine ⟨release_reachable, spec.1.mpr ⟨rfl, rfl, ?_⟩, ?_⟩
  · exact ⟨.ofType (.object "cl_event") "event" .input "", by simp [release], rfl, rfl, rfl⟩
  · intro refusal failed
    obtain ⟨p, first, rfl⟩ := spec.2.1 refusal failed
    cases first
    rfl

end BoundFunction

end CallBoundary
