import CallBoundary.Proofs.Passage
import CallBoundary.Proofs.Traversal

/-! Arguments that cannot be written. There are two causes: the type of the parameter is
inconsistent, or a binding is missing that has to say how an object is passed. The type comes
first, and the reason that is given is its own: a type without a passage always has one to give. -/
namespace CallBoundary

theorem getLast?_toList_append {text suffix : String} (last : suffix.toList.getLast? = some c) :
    (text ++ suffix).toList.getLast? = some c := by
  rw [String.toList_append, List.getLast?_append, last]
  rfl

/-- Mappings are shown as a word or as a word in front of parentheses. -/
theorem Mapping.label_last (mapping : Mapping) :
    ∃ c, mapping.label.toList.getLast? = some c ∧ c ≠ 'y' := by
  cases mapping with
  | void => exact ⟨'d', by decide, by decide⟩
  | scalar s => exact ⟨')', getLast?_toList_append (by decide), by decide⟩
  | pointer p => exact ⟨')', getLast?_toList_append (by decide), by decide⟩

namespace NativeType

variable {t : NativeType} {reason : String}

theorem reason_last (wrong : t.inconsistency = some reason) :
    ∃ c, reason.toList.getLast? = some c ∧ c ≠ 'y' := by
  simp only [inconsistency] at wrong
  split at wrong
  next =>
    split at wrong
    next => cases wrong; exact ⟨'h', getLast?_toList_append (by decide), by decide⟩
    next => contradiction
  next =>
    obtain ⟨c, last, other⟩ := t.mapping.label_last
    cases wrong
    exact ⟨c, getLast?_toList_append last, other⟩

/-- No type gives the reason that stands in for a missing one. The last letters tell the two apart,
so that no choice of names makes them alike. -/
theorem reason_ne_uncategorised (wrong : t.inconsistency = some reason) (name : String) :
    reason ≠ "native type `" ++ name ++ "` has no call category" := by
  rintro rfl
  obtain ⟨c, last, other⟩ := reason_last wrong
  rw [getLast?_toList_append (by decide : _ = some 'y')] at last
  exact other (Option.some.inj last).symm

end NativeType

namespace Parameter

variable {p : Parameter} {site : CallSite} {mode : Mode} {refusal : Refusal} {origin : Origin}

inductive RefusedFor (p : Parameter) (site : CallSite) : Refusal → Prop where
  | type (wrong : p.nativeType.inconsistency = some reason) :
      RefusedFor p site (.inconsistentType (p.origin.inFunction site.function) reason)
  | binding (consistent : p.nativeType.inconsistency = none)
      (object : p.nativeType.kind = .object) (required : p.has .nullable = false)
      (raw : site.hasRawVariant = true) (unbound : site.binding = none) :
      RefusedFor p site (.missingBinding (p.origin.inFunction site.function))

theorem refusedFor_inconsistentType_iff : p.RefusedFor site (.inconsistentType origin reason) ↔
    p.nativeType.inconsistency = some reason ∧ origin = p.origin.inFunction site.function := by
  constructor
  · rintro ⟨wrong⟩
    exact ⟨wrong, rfl⟩
  · rintro ⟨wrong, rfl⟩
    exact .type wrong

theorem refusedFor_missingBinding_iff : p.RefusedFor site (.missingBinding origin) ↔
    p.nativeType.inconsistency = none ∧ p.nativeType.kind = .object ∧ p.has .nullable = false ∧
      site.hasRawVariant = true ∧ site.binding = none ∧
      origin = p.origin.inFunction site.function := by
  constructor
  · intro refused
    cases refused with
    | binding consistent object required raw unbound =>
      exact ⟨consistent, object, required, raw, unbound, rfl⟩
  · rintro ⟨consistent, object, required, raw, unbound, rfl⟩
    exact .binding consistent object required raw unbound

theorem argumentText_of_inconsistent (wrong : p.nativeType.inconsistency = some reason) :
    p.argumentText site mode =
      .error (.inconsistentType (p.origin.inFunction site.function) reason) := by
  have stuck : p.nativeType.passage? = none := NativeType.passage?_eq_none_iff.mpr ⟨reason, wrong⟩
  rw [argumentText, argument, stuck, wrong]
  rfl

theorem takesHandle_eq_error : p.takesHandle site = .error refusal ↔
    p.nativeType.kind = .object ∧ site.hasRawVariant = true ∧ site.binding = none ∧
      refusal = .missingBinding (p.origin.inFunction site.function) := by
  simp only [takesHandle]
  by_cases handle : p.nativeType.kind = .object ∧ site.hasRawVariant = true
  · cases site.binding <;> simp [handle, eq_comm]
  · rw [if_neg handle]
    constructor
    · rintro ⟨⟩
    · intro missing
      obtain ⟨object, raw, -⟩ := missing
      exact absurd ⟨object, raw⟩ handle

theorem argumentText_unbound_iff (passes : p.nativeType.Passes way) :
    p.argumentText site mode = .error refusal ↔
      p.nativeType.kind = .object ∧ p.has .nullable = false ∧ site.hasRawVariant = true ∧
        site.binding = none ∧ refusal = .missingBinding (p.origin.inFunction site.function) := by
  simp only [argumentText, map_eq_error, argument, passes.found]
  -- Only wrappers are ever refused, and a null check comes before the question for the handle.
  cases passes with
  | struct kind | object kind =>
    cases p.has .nullable <;> simp [map_eq_error, takesHandle_eq_error, kind]
  | _ => simp [*]

/-- There is no third cause, and the mode is none. -/
theorem argumentText_refused_iff :
    p.argumentText site mode = .error refusal ↔ p.RefusedFor site refusal := by
  cases status : p.nativeType.inconsistency with
  | some reason =>
    rw [argumentText_of_inconsistent status]
    constructor
    · rintro ⟨⟩
      exact .type status
    · intro refused
      cases refused with
      | type wrong => rw [Option.some.inj (status.symm.trans wrong)]
      | binding consistent => simp [status] at consistent
  | none =>
    obtain ⟨way, passes⟩ := NativeType.passes_of_consistent status
    rw [argumentText_unbound_iff passes]
    constructor
    · rintro ⟨object, required, raw, unbound, rfl⟩
      exact .binding status object required raw unbound
    · intro refused
      cases refused with
      | type wrong => simp [status] at wrong
      | binding _ object required raw unbound => exact ⟨object, required, raw, unbound, rfl⟩

/-- A type can be passed exactly if it is consistent. An argument of any other type is refused for
its type, with the reason that the type gives. A missing binding comes after that, and no type is
refused for having no passage alone. -/
theorem refused_for_type :
    (∀ t : NativeType, (∃ way, t.passage? = some way) ↔ t.inconsistency = none) ∧
    ∀ (p : Parameter) (site : CallSite) (mode : Mode),
      (∀ origin reason, p.argumentText site mode = .error (.inconsistentType origin reason) ↔
        p.nativeType.inconsistency = some reason ∧
          origin = ⟨some site.function, .parameter p.name⟩) ∧
      (∀ origin, p.argumentText site mode = .error (.missingBinding origin) ↔
        p.nativeType.inconsistency = none ∧ p.nativeType.kind = .object ∧
          p.has .nullable = false ∧ site.hasRawVariant = true ∧ site.binding = none ∧
          origin = ⟨some site.function, .parameter p.name⟩) ∧
      ∀ origin name, p.argumentText site mode ≠
        .error (.inconsistentType origin ("native type `" ++ name ++ "` has no call category")) := by
  refine ⟨fun t => NativeType.exists_passage?_iff, fun p site mode => ⟨?_, ?_, ?_⟩⟩
  · intro origin reason
    rw [argumentText_refused_iff]
    exact refusedFor_inconsistentType_iff
  · intro origin
    rw [argumentText_refused_iff]
    exact refusedFor_missingBinding_iff
  · intro origin name refused
    rw [argumentText_refused_iff] at refused
    obtain ⟨wrong, -⟩ := refusedFor_inconsistentType_iff.mp refused
    exact NativeType.reason_ne_uncategorised wrong name rfl

def misfitHandle : Parameter :=
  .ofType ⟨"cl_mem", .object, .pointer .struct, true⟩ "memory" .input ""

/-- Both causes are there, and the type is the one that is given. With a type that is consistent
the binding is missing. -/
theorem misfitHandle_refused :
    misfitHandle.argumentText ⟨"clRelease", true, none⟩ .normal =
      .error (.inconsistentType ⟨some "clRelease", .parameter "memory"⟩
        "native type `cl_mem` has kind Object incompatible with mapping Pointer(Struct)") ∧
    { misfitHandle with nativeType := .object "cl_mem" }.argumentText
      ⟨"clRelease", true, none⟩ .normal =
      .error (.missingBinding ⟨some "clRelease", .parameter "memory"⟩) :=
  ⟨((refused_for_type.2 misfitHandle _ _).1 _ _).mpr ⟨by decide, rfl⟩,
    ((refused_for_type.2 _ _ _).2.1 _).mpr ⟨rfl, rfl, rfl, rfl, rfl, rfl⟩⟩

end Parameter

end CallBoundary
