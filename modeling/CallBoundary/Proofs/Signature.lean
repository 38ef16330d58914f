import CallBoundary.BoundFunction
import CallBoundary.Proofs.FirstFault

/-! What is checked when a function is declared: every type is consistent, and no parameter has the
name of an earlier one. The first fault is reported. -/
namespace CallBoundary

variable {function : String} {parameters : List Parameter}

/-- What is wrong with a parameter behind others: its type contradicts itself, or its name is
taken. -/
def Parameter.refusals (q : Parameter) (function : String) (earlier : List String) :
    List Refusal :=
  q.nativeType.inconsistency.toList.map (.inconsistentType (q.origin.inFunction function)) ++
    if q.name ∈ earlier then [.duplicateParameter q.name function] else []

/-- A parameter is at fault behind others if its type contradicts itself, or if its name is
taken. -/
def Parameter.AtFault (earlier : List Parameter) (q : Parameter) : Prop :=
  q.nativeType.inconsistency ≠ none ∨ q.name ∈ earlier.map (·.name)

instance (earlier : List Parameter) (q : Parameter) : Decidable (q.AtFault earlier) :=
  inferInstanceAs (Decidable (_ ∨ _))

/-- What is said of a parameter at fault. That its type contradicts itself comes before its
name. -/
def Parameter.fault (q : Parameter) (function : String) : Refusal :=
  match q.nativeType.inconsistency with
  | some reason => .inconsistentType (q.origin.inFunction function) reason
  | none => .duplicateParameter q.name function

theorem Parameter.fault_origin (q : Parameter) (function : String) :
    (q.fault function).origin = ⟨some function, .parameter q.name⟩ := by
  rw [fault]
  split <;> rfl

theorem Parameter.head?_refusals {q : Parameter} {earlier : List Parameter} :
    (q.refusals function (earlier.map (·.name))).head? = some refusal ↔
      q.AtFault earlier ∧ refusal = q.fault function := by
  rw [refusals, AtFault, fault]
  cases q.nativeType.inconsistency with
  | some reason => simp [eq_comm]
  | none => by_cases taken : q.name ∈ earlier.map (·.name) <;> simp [taken, eq_comm]

theorem failureOf_checkParameters {seen : List String} :
    failureOf (checkParameters function seen parameters) =
      (inTurn (fun earlier q => q.refusals function (seen ++ earlier.map (·.name)))
        parameters).head? := by
  induction parameters generalizing seen with
  | nil => rfl
  | cons q parameters ih =>
    rw [inTurn_cons, List.head?_append, Parameter.refusals, checkParameters]
    cases consistent : q.nativeType.inconsistency with
    | some reason => simp
    | none =>
      by_cases repeated : q.name ∈ seen
      · simp [repeated]
      · have shifted (earlier : List Parameter) (p : Parameter) :
            p.refusals function (q.name :: seen ++ earlier.map (·.name)) =
              p.refusals function (seen ++ (q :: earlier).map (·.name)) := by
          simp only [Parameter.refusals, List.mem_append, List.mem_cons, List.map_cons,
            or_left_comm, or_assoc]
        simp only [repeated, if_false, ih, shifted]
        simp [repeated]

theorem checkParameters_eq_ok {seen : List String} :
    checkParameters function seen parameters = .ok () ↔
      (∀ q ∈ parameters, q.nativeType.inconsistency = none ∧ q.name ∉ seen) ∧
        (parameters.map (·.name)).Nodup := by
  rw [← failureOf_eq_none_unit, failureOf_checkParameters, List.head?_eq_none_iff]
  apply inTurn_clean
  intro earlier q
  simp [Parameter.refusals, and_assoc]

/-- What is wrong with a signature: the type of the result, and then the parameters in turn. -/
def signatureRefusals (function : String) (returned : NativeType) (parameters : List Parameter) :
    List Refusal :=
  returned.inconsistency.toList.map (.inconsistentType (Origin.returnValue.inFunction function)) ++
    inTurn (fun earlier q => q.refusals function (earlier.map (·.name))) parameters

namespace BoundFunction

variable {f : BoundFunction} {name : String} {returned : ReturnValue}

theorem failureOf_declare : failureOf (declare name returned parameters) =
    (signatureRefusals name returned.nativeType parameters).head? := by
  rw [declare, signatureRefusals]
  cases returned.nativeType.inconsistency with
  | some reason => simp
  | none => simp [failureOf_checkParameters]

/-- The result is reported before any parameter, and of the parameters the first at fault. -/
theorem declare_eq_error : declare name returned parameters = .error refusal ↔
    (∃ reason, returned.nativeType.inconsistency = some reason ∧
      refusal = .inconsistentType ⟨some name, .returnValue⟩ reason) ∨
    returned.nativeType.inconsistency = none ∧
      ∃ place q, FirstAt Parameter.AtFault parameters place q ∧ refusal = q.fault name := by
  have located : (inTurn (fun earlier q => q.refusals name (earlier.map (·.name)))
      parameters).head? = some refusal ↔
        ∃ place q, FirstAt Parameter.AtFault parameters place q ∧ refusal = q.fault name :=
    inTurn_head?_iff_firstAt fun _ _ _ => Parameter.head?_refusals
  rw [← failureOf_eq_some, failureOf_declare, signatureRefusals, List.head?_append]
  cases returned.nativeType.inconsistency with
  | some reason => simp [eq_comm, Origin.inFunction, Origin.returnValue]
  | none => simp [located]

theorem declare_eq_ok : declare name returned parameters = .ok f ↔
    returned.nativeType.inconsistency = none ∧ checkParameters name [] parameters = .ok () ∧
      f = ⟨name, false, returned, parameters⟩ := by
  simp only [declare]
  cases returned.nativeType.inconsistency with
  | some reason => simp
  | none =>
    simp only [map_eq_ok, true_and]
    constructor
    · intro declared
      obtain ⟨_, checked, rfl⟩ := declared
      exact ⟨checked, rfl⟩
    · intro declared
      obtain ⟨checked, rfl⟩ := declared
      exact ⟨_, checked, rfl⟩

end BoundFunction

end CallBoundary
