import CallBoundary.Listing
import CallBoundary.Proofs.CallRefusal

/-! The plain overload keeps the signature of its function and is refused where the function is.
Its call differs in one respect: for optional data of several types the null check goes, which
shows where optional arguments are always there. -/
namespace CallBoundary

/-- Several types are accepted for data alone, so nothing else ever loses its null check. -/
theorem Element.Valid.isData_of_multiType {e : Element} (valid : e.Valid .parameter)
    (several : e.has .multiType = true) : e.nativeType.isData = true := by
  obtain ⟨m, member, kind⟩ := ModifierSet.has_iff.mp several
  have fits := valid.fits m member
  cases m with
  | multiType types =>
    by_contra other
    simp [Modifier.objection, Bool.eq_false_iff.mpr other] at fits
  | _ => contradiction

namespace Parameter

variable {p : Parameter}

theorem withoutArrayFamily_has : p.withoutArrayFamily.has kind =
    (p.has kind && p.modifiers.keeps kind) := ModifierSet.has_withoutArrayFamily

theorem withoutArrayFamily_nullable : p.withoutArrayFamily.has .nullable =
    (p.has .nullable && !(p.has .optional && p.has .multiType)) := by
  rw [withoutArrayFamily_has]
  simp [ModifierSet.keeps, Modifier.Kind.arrayFamily, Element.has]

theorem withoutArrayFamily_has_other (outside : kind ∉ Modifier.Kind.arrayFamily)
    (other : kind ≠ .nullable) : p.withoutArrayFamily.has kind = p.has kind := by
  simp [withoutArrayFamily_has, ModifierSet.keeps, outside, other]

theorem withoutArrayFamily_isAutoSizeOutput :
    p.withoutArrayFamily.isAutoSizeOutput = p.isAutoSizeOutput := by
  rw [isAutoSizeOutput, withoutArrayFamily_has_other (by decide) (by decide)]
  rfl

/-- Data whose null check rests on a modifier that the plain overload does without. -/
def losesNullCheck (p : Parameter) : Bool :=
  p.nativeType.isData && !p.nativeType.kind.isArray && p.has .nullable && p.has .optional &&
    p.has .multiType && !p.isAutoSizeOutput

theorem withoutArrayFamily_checked (data : p.nativeType.isData = true)
    (array : p.nativeType.kind.isArray = false)
    (keeps : mode = .alternative → p.losesNullCheck = false) :
    (!p.withoutArrayFamily.isAutoSizeOutput && p.withoutArrayFamily.mayBeAbsent mode) =
      (!p.isAutoSizeOutput && p.mayBeAbsent mode) := by
  have optional : p.withoutArrayFamily.has .optional = p.has .optional :=
    withoutArrayFamily_has_other (by decide) (by decide)
  simp only [mayBeAbsent, withoutArrayFamily_isAutoSizeOutput, withoutArrayFamily_nullable,
    optional]
  cases mode with
  | normal => cases p.has .optional <;> simp
  | alternative =>
    have kept : p.has .nullable = true → p.has .optional = true → p.has .multiType = true →
        p.isAutoSizeOutput = true := by
      simpa [losesNullCheck, data, array] using keeps rfl
    by_cases exception : p.has .nullable = true ∧ p.has .optional = true ∧ p.has .multiType = true
    · simp [kept exception.1 exception.2.1 exception.2.2]
    · grind

theorem withoutArrayFamily_argumentText (valid : p.toElement.Valid .parameter)
    (passes : p.nativeType.Passes way) (site : CallSite) (mode : Mode)
    (keeps : mode = .alternative → p.losesNullCheck = false) :
    p.withoutArrayFamily.argumentText site mode = p.argumentText site mode := by
  have found : p.withoutArrayFamily.nativeType.passage? = some way := passes.found
  have isData := passes.isData_iff
  simp only [argumentText, argument, passes.found, found]
  cases way with
  | wrapped =>
    have single : p.has .multiType = false := by
      by_contra several
      simpa using isData.mp (valid.isData_of_multiType (by simpa using several))
    simp only [withoutArrayFamily_nullable, single, Bool.and_false, Bool.not_false, Bool.and_true]
    rfl
  | data =>
    have array : p.nativeType.kind.isArray = false := by simpa using passes.isArray_iff
    simp only [withoutArrayFamily_checked (isData.mpr (.inl rfl)) array keeps]
    rfl
  | _ => rfl

end Parameter

namespace BoundFunction

variable {f : BoundFunction} {binding : Option Binding}

theorem baseOverload_passed :
    f.baseOverload.passed = f.passed.map Parameter.withoutArrayFamily := List.filter_map

theorem baseOverload_arguments : f.baseOverload.arguments binding mode =
    f.passed.mapM fun p => p.withoutArrayFamily.argumentText (f.callSite binding) mode := by
  rw [arguments, baseOverload_passed, List.mapM_map]
  rfl

theorem baseOverload_call_normal (sound : f.Sound) :
    f.baseOverload.call binding .normal = f.call binding .normal := by
  have same : f.baseOverload.arguments binding .normal = f.arguments binding .normal := by
    rw [baseOverload_arguments]
    refine mapM_congr fun p member => ?_
    obtain ⟨-, way, passes⟩ := passed_passes sound member
    have valid := sound.parameters p (List.mem_filter.mp member).1
    exact Parameter.withoutArrayFamily_argumentText valid passes _ _ (by simp)
  rw [call, same]
  rfl

theorem baseOverload_refused_iff (sound : f.Sound) :
    f.baseOverload.call binding mode = .error refusal ↔ f.call binding mode = .error refusal := by
  rw [refused_in_other_mode (baseOverload_sound sound) mode .normal,
    refused_in_other_mode sound mode .normal, baseOverload_call_normal sound]

theorem baseBlock_eq_ok (sound : f.Sound) {options : Listing.Options} {label block : String}
    (listed : f.block binding options.mode label = .ok block) :
    ∃ base, Listing.baseBlock options binding f = .ok base := by
  simp only [Listing.baseBlock]
  split
  · by_contra stuck
    obtain ⟨refusal, failed⟩ := not_ok_iff_error.mp stuck
    have refused := (baseOverload_refused_iff sound).mp (map_eq_error.mp failed)
    obtain ⟨call, called, -⟩ := map_eq_ok.mp listed
    simp [called] at refused
  · exact ⟨_, rfl⟩

/-- What a reader of the declaration sees of the parameters. -/
def signature (f : BoundFunction) : List (String × Direction × String × NativeType × Bool) :=
  f.parameters.map fun p => (p.name, p.direction, p.documentation, p.nativeType, p.isCallContext)

/-- Pixels of several types that may be null or left out. -/
def pixels : Parameter :=
  { Parameter.ofType (.pointer "void" .data) "pixels" .input "" with
    modifiers := ⟨[.nullable, .optional, .multiType [.bytes, .floats]]⟩ }

def upload : BoundFunction where
  name := "glUpload"
  hasRawVariant := false
  returned := .ofType .void
  parameters := [.ofType (.primitive "GLenum" .int) "target" .input "", pixels]

theorem upload_reachable : upload.Reachable := by
  have declared : declare "glUpload" (.ofType .void) upload.parameters = .ok upload := rfl
  refine .declare (.ofType _) ?_ declared
  simp only [upload, List.forall_mem_cons]
  refine ⟨.ofType .., ?_, by simp⟩
  exact Parameter.Reachable.modified (.ofType (.pointer "void" .data) "pixels" .input "")
    [.optional, .multiType [.bytes, .floats], .nullable] rfl

end BoundFunction

end CallBoundary
