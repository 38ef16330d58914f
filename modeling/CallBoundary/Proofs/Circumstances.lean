import CallBoundary.Proofs.CallRefusal

/-! What a call depends on besides its function. The mode shows in buffers that are absent in one
mode only, and the binding in objects of which a raw variant takes the handles, where its
capabilities alone count. Every other argument is the same in all circumstances. -/
namespace CallBoundary

namespace Parameter

variable {p : Parameter} {site other : CallSite} {mode otherMode : Mode}

/-- A buffer that may be left out, but never null, and whose size is not computed. -/
def followsMode (p : Parameter) : Bool :=
  p.nativeType.isData && !p.nativeType.kind.isArray && p.has .optional && !p.has .nullable &&
    !p.isAutoSizeOutput

def bufferText (p : Parameter) (mode : Mode) : String :=
  match mode with
  | .normal => "memAddressSafe(" ++ p.name ++ ")"
  | .alternative => "memAddress(" ++ p.name ++ ")"

def handleText (p : Parameter) (binding : Binding) : String :=
  if binding.hasParameterCapabilities then p.name else p.name ++ ".address()"

theorem bufferText_inj : p.bufferText mode = p.bufferText otherMode ↔ mode = otherMode := by
  have different : p.bufferText .normal ≠ p.bufferText .alternative := by
    intro same
    have shapes : Argument.bufferOrNull = .buffer := Argument.text_injective same
    contradiction
  cases mode <;> cases otherMode <;> simp [different, different.symm]

theorem handleText_inj {binding another : Binding} :
    p.handleText binding = p.handleText another ↔
      binding.hasParameterCapabilities = another.hasParameterCapabilities := by
  have different : p.name ≠ p.name ++ ".address()" := by
    intro same
    have shapes : Argument.plain = .address := Argument.text_injective same
    contradiction
  simp only [handleText]
  cases binding.hasParameterCapabilities <;> cases another.hasParameterCapabilities <;>
    simp [different, different.symm]

theorem argumentText_of_followsMode (passes : p.nativeType.Passes way)
    (follows : p.followsMode = true) (site : CallSite) (mode : Mode) :
    p.argumentText site mode = .ok (p.bufferText mode) := by
  simp only [followsMode, Bool.and_eq_true, Bool.not_eq_true'] at follows
  obtain ⟨⟨⟨⟨data, array⟩, optional⟩, nullable⟩, sized⟩ := follows
  obtain rfl := passes.eq_data data array
  simp only [argumentText, argument, passes.found, mayBeAbsent, sized, nullable, optional]
  cases mode <;> rfl

theorem argumentText_of_needsBinding (passes : p.nativeType.Passes way)
    (passed : p.isCallContext = false) (needs : p.needsBinding = true)
    (raw : site.hasRawVariant = true) (bound : site.binding = some binding) (mode : Mode) :
    p.argumentText site mode = .ok (p.handleText binding) := by
  obtain ⟨object, nullable⟩ := (needsBinding_iff passed).mp needs
  obtain rfl : way = .wrapped := by
    cases passes <;> simp_all
  simp only [argumentText, argument, passes.found, nullable, takesHandle, object, raw, bound,
    handleText]
  cases binding.hasParameterCapabilities <;> rfl

/-- Computing the size beats the null check, and so does a null value the mode. -/
theorem checked_steady (data : p.nativeType.isData = true)
    (array : p.nativeType.kind.isArray = false) (modeless : p.followsMode = false) :
    (!p.isAutoSizeOutput && p.mayBeAbsent mode) =
      (!p.isAutoSizeOutput && p.mayBeAbsent otherMode) := by
  by_cases sized : p.isAutoSizeOutput = true
  · simp [sized]
  by_cases nullable : p.has .nullable = true
  · simp [mayBeAbsent, nullable]
  · have required : p.has .optional = false := by
      simpa [followsMode, data, array, sized, nullable] using modeless
    simp [mayBeAbsent, nullable, required]

/-- Where neither the mode nor the binding counts, nothing does. -/
theorem argumentText_steady (passes : p.nativeType.Passes way) (passed : p.isCallContext = false)
    (modeless : p.followsMode = false)
    (unbound : site.hasRawVariant = true → p.needsBinding = false)
    (raw : other.hasRawVariant = site.hasRawVariant) :
    p.argumentText site mode = p.argumentText other otherMode := by
  have isData := passes.isData_iff
  simp only [argumentText, argument, passes.found]
  cases way with
  | wrapped =>
    by_cases nullable : p.has .nullable = true
    · simp [nullable]
    · have handle : ¬ (p.nativeType.kind = .object ∧ site.hasRawVariant = true) := by
        rintro ⟨object, variant⟩
        have needs := (needsBinding_iff passed).mpr ⟨object, by simpa using nullable⟩
        simp [unbound variant] at needs
      simp [nullable, takesHandle, raw, handle]
  | data =>
    have array : p.nativeType.kind.isArray = false := by simpa using passes.isArray_iff
    rw [checked_steady (isData.mpr (.inl rfl)) array modeless]
  | fixedArray | boolean4 | plain => rfl

theorem argumentText_binding {binding another : Binding} (function : String) (raw : Bool)
    (same : binding.hasParameterCapabilities = another.hasParameterCapabilities) :
    p.argumentText ⟨function, raw, some binding⟩ mode =
      p.argumentText ⟨function, raw, some another⟩ mode := by
  simp only [argumentText, argument, takesHandle, same]

end Parameter

namespace BoundFunction

variable {f : BoundFunction} {p : Parameter} {first second : Option Binding} {m n : Mode}

theorem call_eq_ok : f.call first m = .ok text ↔ ∃ arguments,
    f.arguments first m = .ok arguments ∧ "n" ++ f.name ++ "(" ++ joined arguments ++ ")" = text :=
  map_eq_ok

/-- An object that needs a binding has found one, where the call of a raw variant can be written. -/
theorem bound_of_argumentText (passes : p.nativeType.Passes way) (passed : p.isCallContext = false)
    (raw : f.hasRawVariant = true) (needs : p.needsBinding = true)
    (written : p.argumentText (f.callSite first) m = .ok a) :
    ∃ binding, first = some binding ∧ a = p.handleText binding := by
  cases first with
  | none =>
    have refused : p.argumentText (f.callSite none) m =
        .error (.missingBinding (p.origin.inFunction f.name)) :=
      (Parameter.argumentText_eq_error passes passed).mpr ⟨raw, rfl, needs, rfl⟩
    simp [written] at refused
  | some binding =>
    have handle : p.argumentText (f.callSite (some binding)) m = .ok (p.handleText binding) :=
      Parameter.argumentText_of_needsBinding passes passed needs raw rfl m
    exact ⟨binding, rfl, Except.ok.inj (written.symm.trans handle)⟩

/-- The arguments of one parameter in two circumstances: when they differ, and what they are. -/
structure Variation (f : BoundFunction) (p : Parameter) (first : Option Binding) (m : Mode)
    (second : Option Binding) (n : Mode) (a b : String) : Prop where
  differs : a ≠ b ↔ (m ≠ n ∧ p.followsMode = true) ∨
    (first.map (·.hasParameterCapabilities) ≠ second.map (·.hasParameterCapabilities) ∧
      f.hasRawVariant = true ∧ p.needsBinding = true)
  buffer : p.followsMode = true → a = p.bufferText m ∧ b = p.bufferText n
  handle : f.hasRawVariant = true → p.needsBinding = true → ∃ one two,
    first = some one ∧ second = some two ∧ a = p.handleText one ∧ b = p.handleText two

theorem variation (passes : p.nativeType.Passes way) (passed : p.isCallContext = false)
    (one : p.argumentText (f.callSite first) m = .ok a)
    (two : p.argumentText (f.callSite second) n = .ok b) : f.Variation p first m second n a b := by
  by_cases follows : p.followsMode = true
  · -- Data stands behind the buffer, and behind no object.
    have other : p.needsBinding = false := by
      have data : p.nativeType.isData = true := by simp_all [Parameter.followsMode]
      have buffer := passes.isData_iff.mp data
      cases passes <;> simp_all [Parameter.needsBinding]
    obtain rfl := Except.ok.inj
      (one.symm.trans (Parameter.argumentText_of_followsMode passes follows _ _))
    obtain rfl := Except.ok.inj
      (two.symm.trans (Parameter.argumentText_of_followsMode passes follows _ _))
    exact {
      differs := by simp [Parameter.bufferText_inj, follows, other]
      buffer := fun _ => ⟨rfl, rfl⟩
      handle := fun _ needs => by simp [other] at needs }
  by_cases handle : f.hasRawVariant = true ∧ p.needsBinding = true
  · obtain ⟨raw, needs⟩ := handle
    obtain ⟨binding, rfl, rfl⟩ := bound_of_argumentText passes passed raw needs one
    obtain ⟨another, rfl, rfl⟩ := bound_of_argumentText passes passed raw needs two
    exact {
      differs := by simp [Parameter.handleText_inj, follows, raw, needs]
      buffer := fun follows' => absurd follows' follows
      handle := fun _ _ => ⟨_, _, rfl, rfl, rfl, rfl⟩ }
  · have unbound : f.hasRawVariant = true → p.needsBinding = false := by
      intro raw
      simpa [raw] using handle
    have steady : p.argumentText (f.callSite first) m = p.argumentText (f.callSite second) n :=
      Parameter.argumentText_steady passes passed (by simpa using follows) unbound rfl
    obtain rfl := Except.ok.inj (one.symm.trans (steady.trans two))
    exact {
      differs := by simp [follows, handle]
      buffer := fun follows' => absurd follows' follows
      handle := fun raw needs => absurd ⟨raw, needs⟩ handle }

/-- Two calls of one function differ in no argument but for the mode of an optional buffer and for
the capabilities of the binding of an object. The name of the binding never counts, and neither
mode refuses what the other allows. -/
theorem call_variation (reachable : f.Reachable) :
    (∀ first m second n one two,
      f.call first m = .ok one → f.call second n = .ok two → ∃ as bs : List String,
        (f.arguments first m = .ok as ∧ one = "n" ++ f.name ++ "(" ++ joined as ++ ")") ∧
        (f.arguments second n = .ok bs ∧ two = "n" ++ f.name ++ "(" ++ joined bs ++ ")") ∧
        as.length = f.passed.length ∧ bs.length = f.passed.length ∧
        ∀ (i : Nat) (p : Parameter) (a b : String), f.passed[i]? = some p →
          as[i]? = some a → bs[i]? = some b → f.Variation p first m second n a b) ∧
    (∀ (one two : Binding) m, one.hasParameterCapabilities = two.hasParameterCapabilities →
      f.arguments (some one) m = f.arguments (some two) m) ∧
    ∀ binding m n,
      ((∃ text, f.call binding m = .ok text) ↔ ∃ text, f.call binding n = .ok text) ∧
      ∀ refusal, f.call binding m = .error refusal ↔ f.call binding n = .error refusal := by
  refine ⟨?_, ?_, ?_⟩
  · intro first m second n one two called again
    obtain ⟨as, arguments, rfl⟩ := call_eq_ok.mp called
    obtain ⟨bs, others, rfl⟩ := call_eq_ok.mp again
    refine ⟨as, bs, ⟨arguments, rfl⟩, ⟨others, rfl⟩, mapM_length arguments, mapM_length others, ?_⟩
    intro i p a b parameter argument other
    obtain ⟨passed, way, passes⟩ := passed_passes reachable.sound (List.mem_of_getElem? parameter)
    have written := mapM_getElem? arguments parameter argument
    have rewritten := mapM_getElem? others parameter other
    exact variation passes passed written rewritten
  · intro one two m same
    exact mapM_congr fun p _ => Parameter.argumentText_binding f.name f.hasRawVariant same
  · intro binding m n
    exact ⟨callable_in_other_mode reachable.sound m n, fun _ =>
      refused_in_other_mode reachable.sound m n⟩

def queue : Parameter := .ofType (.object "cl_queue") "queue" .input ""

def source : Parameter :=
  { Parameter.ofType (.pointer "void" .data) "data" .input "" with modifiers := ⟨[.optional]⟩ }

def enqueue : BoundFunction where
  name := "clEnqueue"
  hasRawVariant := true
  returned := .ofType (.primitive "cl_int" .int)
  parameters := [queue, source, .ofType (.primitive "size_t" .pointer) "size" .input ""]

theorem enqueue_reachable : enqueue.Reachable := by
  have declared : declare "clEnqueue" enqueue.returned enqueue.parameters =
      .ok ⟨"clEnqueue", false, enqueue.returned, enqueue.parameters⟩ := rfl
  refine .withRawVariant (.declare (.ofType _) ?_ declared)
  simp only [enqueue, List.forall_mem_cons]
  refine ⟨.ofType .., ?_, .ofType .., by simp⟩
  exact Parameter.Reachable.modified (.ofType (.pointer "void" .data) "data" .input "")
    [.optional] rfl

theorem enqueue_variation : enqueue.Reachable ∧
    enqueue.call (some ⟨"CL", true⟩) .normal = .ok "nclEnqueue(queue, memAddressSafe(data), size)" ∧
    enqueue.call (some ⟨"AL", false⟩) .alternative =
      .ok "nclEnqueue(queue.address(), memAddress(data), size)" ∧
    enqueue.Variation queue (some ⟨"CL", true⟩) .normal (some ⟨"AL", false⟩) .alternative
      "queue" "queue.address()" ∧
    enqueue.Variation source (some ⟨"CL", true⟩) .normal (some ⟨"AL", false⟩) .alternative
      "memAddressSafe(data)" "memAddress(data)" := by
  have called : enqueue.call (some ⟨"CL", true⟩) .normal =
      .ok "nclEnqueue(queue, memAddressSafe(data), size)" := rfl
  have again : enqueue.call (some ⟨"AL", false⟩) .alternative =
      .ok "nclEnqueue(queue.address(), memAddress(data), size)" := rfl
  obtain ⟨as, bs, ⟨first, -⟩, ⟨second, -⟩, -, -, each⟩ :=
    (call_variation enqueue_reachable).1 _ _ _ _ _ _ called again
  cases first
  cases second
  exact ⟨enqueue_reachable, called, again, each 0 _ _ _ rfl rfl rfl, each 1 _ _ _ rfl rfl rfl⟩

end BoundFunction

end CallBoundary
