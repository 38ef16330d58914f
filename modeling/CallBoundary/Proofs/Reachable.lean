import CallBoundary.Proofs.Modifiers
import CallBoundary.Proofs.Passage
import CallBoundary.Proofs.Signature

/-! The return values, parameters and functions that can be made: all that come out of the
constructors and of the operations on what they made. Their invariants hold whatever the order
and the number of the operations. -/
namespace CallBoundary

/-- Attaching changes the modifiers and nothing else. -/
theorem Parameter.withModifiers_eq_ok {p out : Parameter}
    (attached : p.withModifiers ms = .ok out) :
    attachEach p.nativeType .parameter p.origin p.modifiers ms = .ok out.modifiers ∧
      out = { p with modifiers := out.modifiers } := by
  obtain ⟨e, element, rfl⟩ := map_eq_ok.mp attached
  obtain ⟨same, each⟩ := Element.attach_eq_ok element
  exact ⟨each, by rw [← same]⟩

theorem ReturnValue.withModifiers_eq_ok {r out : ReturnValue}
    (attached : r.withModifiers ms = .ok out) :
    attachEach r.nativeType .returnValue .returnValue r.modifiers ms = .ok out.modifiers ∧
      out.nativeType = r.nativeType := by
  obtain ⟨e, element, rfl⟩ := map_eq_ok.mp attached
  obtain ⟨same, each⟩ := Element.attach_eq_ok element
  exact ⟨each, same⟩

inductive ReturnValue.Reachable : ReturnValue → Prop where
  | ofType (t : NativeType) : Reachable (.ofType t)
  | withModifiers : Reachable r → r.withModifiers ms = .ok out → Reachable out

inductive Parameter.Reachable : Parameter → Prop where
  | ofType (t : NativeType) (name : String) (direction : Direction) (documentation : String) :
      Reachable (.ofType t name direction documentation)
  | callContext (t : NativeType) : Reachable (.callContext t)
  | withLinks : Reachable p → Reachable (p.withLinks links mode)
  | withModifiers : Reachable p → p.withModifiers ms = .ok out → Reachable out
  | withoutArrayFamily : Reachable p → Reachable p.withoutArrayFamily

theorem Parameter.Reachable.modified {p out : Parameter} (reachable : p.Reachable)
    (ms : List Modifier) (attached : p.withModifiers ms = .ok out) : out.Reachable :=
  .withModifiers reachable attached

inductive BoundFunction.Reachable : BoundFunction → Prop where
  | declare {name : String} {returned : ReturnValue} {parameters : List Parameter} :
      returned.Reachable → (∀ p ∈ parameters, p.Reachable) →
      declare name returned parameters = .ok f → Reachable f
  | withRawVariant : Reachable f → Reachable f.withRawVariant
  | baseOverload : Reachable f → Reachable f.baseOverload

theorem ReturnValue.Reachable.valid {r : ReturnValue} (reachable : r.Reachable) :
    r.toElement.Valid .returnValue := by
  induction reachable with
  | ofType => exact Element.ofType_valid
  | withModifiers _ attached ih =>
    obtain ⟨_, element, rfl⟩ := map_eq_ok.mp attached
    exact Element.attach_valid ih element

@[simp] theorem Parameter.withLinks_toElement (p : Parameter) :
    (p.withLinks links mode).toElement = p.toElement := by
  simp only [withLinks]
  split <;> rfl

theorem Parameter.Reachable.valid {p : Parameter} (reachable : p.Reachable) :
    p.toElement.Valid .parameter := by
  induction reachable with
  | ofType | callContext => exact Element.ofType_valid
  | withLinks _ ih => simpa using ih
  | withModifiers _ attached ih =>
    obtain ⟨_, element, rfl⟩ := map_eq_ok.mp attached
    exact Element.attach_valid ih element
  | withoutArrayFamily _ ih => exact Element.withoutArrayFamily_valid ih

namespace BoundFunction

/-- What is checked when a function is declared, and what its elements bring along. -/
structure Sound (f : BoundFunction) : Prop where
  returned : f.returned.toElement.Valid .returnValue
  result : ∃ way, f.returned.nativeType.Passes way
  parameters : ∀ p ∈ f.parameters, p.toElement.Valid .parameter
  passable : ∀ p ∈ f.parameters, ∃ way, p.nativeType.Passes way
  distinct : (f.parameters.map (·.name)).Nodup

variable {f : BoundFunction} {name : String} {returned : ReturnValue} {parameters : List Parameter}

theorem declare_sound (returned_valid : returned.toElement.Valid .returnValue)
    (parameters_valid : ∀ p ∈ parameters, p.toElement.Valid .parameter)
    (declared : declare name returned parameters = .ok f) : f.Sound := by
  obtain ⟨consistent, checked, rfl⟩ := declare_eq_ok.mp declared
  obtain ⟨consistent_all, distinct⟩ := checkParameters_eq_ok.mp checked
  exact {
    returned := returned_valid
    result := NativeType.passes_of_consistent consistent
    parameters := parameters_valid
    passable := fun p member => NativeType.passes_of_consistent (consistent_all p member).1
    distinct := distinct }

theorem baseOverload_sound (sound : f.Sound) : f.baseOverload.Sound where
  returned := sound.returned
  result := sound.result
  parameters := by
    intro q member
    obtain ⟨p, origin, rfl⟩ := List.mem_map.mp member
    exact Element.withoutArrayFamily_valid (sound.parameters p origin)
  passable := by
    intro q member
    obtain ⟨p, origin, rfl⟩ := List.mem_map.mp member
    exact sound.passable p origin
  distinct := by
    rw [baseOverload, List.map_map]
    exact sound.distinct

theorem Reachable.sound (reachable : f.Reachable) : f.Sound := by
  induction reachable with
  | declare returned parameters declared =>
    exact declare_sound returned.valid (fun p member => (parameters p member).valid) declared
  | withRawVariant _ ih => exact ⟨ih.returned, ih.result, ih.parameters, ih.passable, ih.distinct⟩
  | baseOverload _ ih => exact baseOverload_sound ih

end BoundFunction

end CallBoundary
