import CallBoundary.Proofs.Findings

/-! The elements that failures point at. What is wrong with a declaration is found on an element of
it, and the failure names that element as it is declared, save for a call context: once its type is
known, it goes by the one name of all call contexts, whether or not any parameter is declared with
it. -/
namespace CallBoundary

theorem Modifier.refusals_origin {m : Modifier} {earlier : List Modifier}
    (member : refusal ∈ m.refusals t role origin earlier) : refusal.origin = origin := by
  rw [refusals, List.mem_append] at member
  rcases member with unsuitable | repeated
  · obtain ⟨_, -, rfl⟩ := List.mem_map.mp unsuitable
    rfl
  · split at repeated
    · rw [List.mem_singleton.mp repeated]
      rfl
    · contradiction

theorem modifierRefusals_origin (member : refusal ∈ modifierRefusals t role origin ms) :
    refusal.origin = origin := by
  obtain ⟨_, _, -, found⟩ := mem_inTurn member
  exact Modifier.refusals_origin found

namespace Declaration

variable {types : Table NativeType}

def Finding.subject : Finding → Subject
  | unknownType subject _ => subject
  | refused refusal => refusal.origin.subject

/-- A key is found under the declared name, and all else under the name that the element goes by. -/
theorem elementFindings_subject
    (member : finding ∈ elementFindings types key role declared shown ms) :
    finding.subject = declared ∧ types.find? key = none ∨
      finding.subject = shown ∧ types.find? key ≠ none := by
  rw [elementFindings] at member
  cases found : types.find? key with
  | none =>
    simp only [found, List.mem_singleton] at member
    exact .inl ⟨by rw [member, Finding.subject], rfl⟩
  | some t =>
    simp only [found] at member
    obtain ⟨refusal, refused, rfl⟩ := List.mem_map.mp member
    refine .inr ⟨?_, by simp⟩
    rw [Finding.subject, modifierRefusals_origin refused]

namespace Function

variable {d : Function}

def Declares (d : Function) : Subject → Prop
  | .returnValue => True
  | .parameter name => ∃ p ∈ d.parameters, p.name = name

instance (d : Function) (subject : Subject) : Decidable (d.Declares subject) :=
  match subject with
  | .returnValue => inferInstanceAs (Decidable True)
  | .parameter name => inferInstanceAs (Decidable (∃ p ∈ d.parameters, p.name = name))

theorem typeFindings_subject (member : finding ∈ d.typeFindings types subject key) :
    finding.subject = subject := by
  obtain ⟨_, -, rfl⟩ := List.mem_map.mp member
  rfl

theorem signatureFindings_subject (member : finding ∈ d.signatureFindings types) :
    finding.subject = .returnValue ∨
      ∃ p ∈ d.parameters, finding.subject = .parameter p.effectiveName := by
  rw [signatureFindings, List.mem_append] at member
  rcases member with result | parameter
  · exact .inl (typeFindings_subject result)
  · obtain ⟨_, p, declared, found⟩ := mem_inTurn parameter
    refine .inr ⟨p, declared, ?_⟩
    rcases List.mem_append.mp found with type | name
    · exact typeFindings_subject type
    · split at name
      · rw [List.mem_singleton.mp name]
        rfl
      · contradiction

/-- The signature is looked at only once the types of all elements are known. -/
theorem head?_findings_subject (first : (d.findings types).head? = some finding) :
    finding.subject = .returnValue ∨ ∃ p ∈ d.parameters,
      finding.subject = .parameter p.name ∧ types.find? p.typeKey = none ∨
        finding.subject = .parameter p.effectiveName ∧ types.find? p.typeKey ≠ none := by
  rw [findings, List.head?_append, Option.or_eq_some_iff, List.head?_eq_none_iff,
    List.append_eq_nil_iff, List.flatMap_eq_nil_iff] at first
  rcases first with element | ⟨⟨-, clean⟩, signature⟩
  · rcases List.mem_append.mp (List.mem_of_head? element) with result | parameter
    · rcases elementFindings_subject result with ⟨same, -⟩ | ⟨same, -⟩ <;> exact .inl same
    · obtain ⟨p, declared, found⟩ := List.mem_flatMap.mp parameter
      exact .inr ⟨p, declared, elementFindings_subject found⟩
  · rcases signatureFindings_subject (List.mem_of_head? signature) with result | parameter
    · exact .inl result
    · obtain ⟨p, declared, same⟩ := parameter
      refine .inr ⟨p, declared, .inr ⟨same, fun unknown => ?_⟩⟩
      simpa [elementFindings, unknown] using clean p declared

/-- A failure points at an element of the declaration, under the name that it is declared with. The
one exception is a call context of a known type: it goes by the name of all call contexts, and if
no parameter is declared with that, the failure names none that is there. -/
theorem build_points_at_declared {failure : Failure} (failed : d.build types = .error failure) :
    ∃ subject reason, failure = .declaration ⟨some d.name, subject⟩ reason ∧
      (d.Declares subject ∨ subject = .parameter "__env" ∧
        ∃ p ∈ d.parameters, p.isCallContext = true ∧ types.find? p.typeKey ≠ none) ∧
      (¬ d.Declares subject ↔
        subject = .parameter "__env" ∧ ∀ p ∈ d.parameters, p.name ≠ "__env") := by
  obtain ⟨finding, first, rfl⟩ := build_eq_error.mp failed
  have located : d.Declares finding.subject ∨ finding.subject = .parameter "__env" ∧
      ∃ p ∈ d.parameters, p.isCallContext = true ∧ types.find? p.typeKey ≠ none := by
    rcases head?_findings_subject first with result | ⟨p, declared, ⟨same, -⟩ | ⟨same, known⟩⟩
    · exact .inl (result ▸ trivial)
    · exact .inl (same ▸ ⟨p, declared, rfl⟩)
    · cases context : p.isCallContext with
      | true =>
        have context_name := p.effectiveName_context context
        exact .inr ⟨by rw [same, context_name], p, declared, context, known⟩
      | false => exact .inl (same ▸ ⟨p, declared, (p.effectiveName_ordinary context).symm⟩)
  have said : ∃ reason, finding.failure d.name =
      .declaration ⟨some d.name, finding.subject⟩ reason := by
    cases finding <;> exact ⟨_, rfl⟩
  obtain ⟨reason, same⟩ := said
  refine ⟨finding.subject, reason, same, located, fun undeclared => ?_, ?_⟩
  · obtain ⟨env, -⟩ := located.resolve_left undeclared
    refine ⟨env, fun p declared name => undeclared ?_⟩
    rw [env]
    exact ⟨p, declared, name⟩
  · rintro ⟨env, absent⟩ declares
    rw [env] at declares
    obtain ⟨p, declared, name⟩ := declares
    exact absent p declared name

/-- Draws in a context that may be null, though its type is no pointer. -/
def drawNullable : Function := ⟨"glDraw", false, .void,
  [⟨"mode", "context", .input, "", "", .single, [.nullable], true⟩]⟩

theorem drawNullable_declared :
    drawNullable.build (.ofList [(voidKey, .void)]) = .error
      (.declaration ⟨some "glDraw", .parameter "context"⟩ "unknown native type `mode`") ∧
    drawNullable.Declares (.parameter "context") := by
  have failed : drawNullable.build (.ofList [(voidKey, .void)]) = .error
      (.declaration ⟨some "glDraw", .parameter "context"⟩ "unknown native type `mode`") := by
    decide +kernel
  obtain ⟨subject, reason, same, declared | ⟨env, -⟩, -⟩ := build_points_at_declared failed
  · cases same
    exact ⟨failed, declared⟩
  · cases same
    contradiction

/-- Once it is known, the failure names a parameter that nobody has declared. -/
theorem drawNullable_undeclared :
    drawNullable.build drawTypes = .error (.declaration ⟨some "glDraw", .parameter "__env"⟩
      "modifier `nullable` is not valid on parameter `__env`: `GLenum` is not a pointer type") ∧
    ¬ drawNullable.Declares (.parameter "__env") := by
  decide +kernel

end Function

end Declaration

end CallBoundary
