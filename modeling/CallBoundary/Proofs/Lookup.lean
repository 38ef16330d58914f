import CallBoundary.Newcomers
import CallBoundary.Proofs.Workshop

/-! The parameters of a function under their names. A signature is declared only if no name is
there twice, so a name stands for one parameter at most, and it stands for the same one in the
plain overload. -/
namespace CallBoundary.BoundFunction

variable {f : BoundFunction} {name : String} {returned : ReturnValue} {parameters : List Parameter}

theorem declare_accepts : (∃ f, declare name returned parameters = .ok f) ↔
    returned.nativeType.inconsistency = none ∧
      (∀ p ∈ parameters, p.nativeType.inconsistency = none) ∧
      (parameters.map (·.name)).Nodup := by
  simp [declare_eq_ok, checkParameters_eq_ok]

/-- The parameters of a signature are all new, each among those before it. -/
theorem declare_accepts_newcomers : (∃ f, declare name returned parameters = .ok f) ↔
    returned.nativeType.inconsistency = none ∧
      (∀ p ∈ parameters, p.nativeType.inconsistency = none) ∧
      (newcomers Parameter.same parameters).all id = true := by
  have names : (newcomers Parameter.same parameters).all id = true ↔
      (parameters.map (·.name)).Nodup := by
    rw [newcomers_all, List.Nodup, List.pairwise_map]
    simp only [Parameter.same, beq_eq_false_iff_ne, ne_comm]
  rw [names, declare_accepts]

theorem parameter?_exists :
    (∃ p, f.parameter? name = some p) ↔ ∃ p ∈ f.parameters, p.name = name := by
  simp [parameter?, ← Option.isSome_iff_exists, List.find?_isSome]

theorem parameter?_eq_some (distinct : (f.parameters.map (·.name)).Nodup) :
    f.parameter? name = some p ↔ f.parameters.filter (·.name == name) = [p] := by
  have single : (f.parameters.filter (·.name == name)).length ≤ 1 :=
    length_filter_le_one distinct fun p _ => beq_iff_eq.mp
  rw [parameter?, ← List.head?_filter]
  cases found : f.parameters.filter (·.name == name) with
  | nil => simp
  | cons q others =>
    have alone : others = [] := by simpa [found] using single
    simp [alone]

theorem baseOverload_parameter? : f.baseOverload.parameter? name =
    (f.parameter? name).map Parameter.withoutArrayFamily :=
  List.find?_map ..

/-- A function is declared exactly if all its types are consistent and no name is there twice, and
what is at fault first is reported otherwise. Under a name of a declared function stands the one
parameter that has it, and in the plain overload that parameter without the array family. -/
theorem declare_decided (name : String) (returned : ReturnValue) (parameters : List Parameter) :
    ((∃ f, declare name returned parameters = .ok f) ↔ returned.nativeType.inconsistency = none ∧
      (∀ p ∈ parameters, p.nativeType.inconsistency = none) ∧
      (parameters.map (·.name)).Nodup) ∧
    (∀ refusal, declare name returned parameters = .error refusal ↔
      (∃ reason, returned.nativeType.inconsistency = some reason ∧
        refusal = .inconsistentType ⟨some name, .returnValue⟩ reason) ∨
      returned.nativeType.inconsistency = none ∧
        ∃ place p, FirstAt Parameter.AtFault parameters place p ∧ refusal = p.fault name ∧
          refusal.origin = ⟨some name, .parameter p.name⟩) ∧
    ∀ f, declare name returned parameters = .ok f → f.parameters = parameters ∧ ∀ wanted,
      ((∃ p, f.parameter? wanted = some p) ↔ ∃ p ∈ parameters, p.name = wanted) ∧
      (∀ p, f.parameter? wanted = some p ↔ parameters.filter (·.name == wanted) = [p]) ∧
      f.baseOverload.parameter? wanted =
        (f.parameter? wanted).map Parameter.withoutArrayFamily := by
  refine ⟨declare_accepts, fun refusal => ?_, fun f declared => ?_⟩
  · rw [declare_eq_error]
    refine or_congr_right (and_congr_right fun _ => ?_)
    constructor
    · intro refused
      obtain ⟨place, p, first, rfl⟩ := refused
      exact ⟨place, p, first, rfl, p.fault_origin name⟩
    · intro refused
      obtain ⟨place, p, first, same, -⟩ := refused
      exact ⟨place, p, first, same⟩
  · obtain ⟨-, -, distinct⟩ := declare_accepts.mp ⟨f, declared⟩
    obtain ⟨-, -, rfl⟩ := declare_eq_ok.mp declared
    exact ⟨rfl, fun wanted =>
      ⟨parameter?_exists, fun p => parameter?_eq_some distinct, baseOverload_parameter?⟩⟩

def texels : Parameter :=
  { Parameter.ofType (.pointer "void" .data) "data" .input "" with
    modifiers := ⟨[.optional, .multiType [.bytes, .floats]]⟩ }

def oddTexels : Parameter :=
  .ofType ⟨"GLodd", .void, .scalar .int, false⟩ "data" .input ""

def oneLevel : Parameter := .ofType (.primitive "GLint" .int) "level" .input ""

/-- The type of the third parameter is reported, neither its name nor that of the fourth. -/
theorem texels_declared :
    (∃ f, declare "glTexImage" (.ofType .void) [oneLevel, texels] = .ok f ∧
      f.parameter? "data" = some texels ∧
      f.baseOverload.parameter? "data" = some texels.withoutArrayFamily) ∧
    declare "glTexImage" (.ofType .void) [oneLevel, texels, oddTexels, oneLevel] =
      .error (.inconsistentType ⟨some "glTexImage", .parameter "data"⟩
        "native type `GLodd` has kind Void incompatible with mapping Primitive(Int)") := by
  constructor
  · have spec := declare_decided "glTexImage" (.ofType .void) [oneLevel, texels]
    obtain ⟨f, declared⟩ := spec.1.mpr (by decide)
    obtain ⟨-, named⟩ := spec.2.2 f declared
    obtain ⟨-, found, base⟩ := named "data"
    have data : f.parameter? "data" = some texels := (found texels).mpr (by decide)
    exact ⟨f, declared, data, by rw [base, data]; rfl⟩
  · have spec := declare_decided "glTexImage" (.ofType .void)
      [oneLevel, texels, oddTexels, oneLevel]
    refine (spec.2.1 _).mpr (.inr ⟨rfl, 2, oddTexels, ⟨rfl, .inl (by decide), ?_⟩, ?_, rfl⟩)
    · intro place low other found
      match place, low with
      | 0, _ => cases found; decide
      | 1, _ => cases found; decide
    · decide

end CallBoundary.BoundFunction
