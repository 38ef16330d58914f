import CallBoundary.Proofs.CallRefusal

/-! Arguments that may be absent: null in every mode, or left out in the normal one. A parameter of
either kind is passed by an address, and what is written for it stands for null as well, with one
exception: a wrapper is checked where it may be null, but not where it may be left out. -/
namespace CallBoundary

/-- What is written asks nothing of a value that is absent. -/
def Argument.acceptsNull : Argument → Bool
  | plain => true
  | addressOrNull => true
  | bufferOrNull => true
  | address => false
  | buffer => false
  | boolean4 => false

def CallSite.takesHandles (site : CallSite) : Bool :=
  site.hasRawVariant && site.binding.any (·.hasParameterCapabilities)

/-- Only addresses may be null or left out. -/
theorem Element.Valid.isAddress_of_absent {e : Element} (valid : e.Valid .parameter)
    (absent : e.has .nullable = true ∨ e.has .optional = true) :
    e.nativeType.kind.isAddress = true := by
  by_contra other
  rcases absent with present | present
  all_goals
    obtain ⟨m, member, kind⟩ := ModifierSet.has_iff.mp present
    have fits := valid.fits m member
    cases m <;> simp [Modifier.kind, Modifier.objection, other] at kind fits

namespace Parameter

variable {p : Parameter} {site : CallSite} {mode : Mode} {shape : Argument}

theorem mayBeAbsent_iff : p.mayBeAbsent mode = true ↔
    p.has .nullable = true ∨ p.has .optional = true ∧ mode = .normal := by
  simp [mayBeAbsent]

theorem takesHandle_eq_ok (taken : p.takesHandle site = .ok handle) :
    handle = (p.nativeType.kind == .object && site.takesHandles) := by
  simp only [takesHandle] at taken
  split at taken
  next object =>
    cases bound : site.binding with
    | none => simp [bound] at taken
    | some binding => simp_all [CallSite.takesHandles]
  next other =>
    cases taken
    simp_all [CallSite.takesHandles]

theorem argument_of_wrapped (found : p.nativeType.passage? = some .wrapped)
    (argument : p.argument site mode = .ok shape) : shape =
      if p.has .nullable then .addressOrNull
      else if p.nativeType.kind == .object && site.takesHandles then .plain else .address := by
  simp only [Parameter.argument, found] at argument
  split at argument
  next nullable =>
    rw [if_pos nullable]
    exact (Except.ok.inj argument).symm
  next required =>
    obtain ⟨handle, taken, rfl⟩ := map_eq_ok.mp argument
    rw [if_neg required, takesHandle_eq_ok taken]

/-- A wrapper is asked for its address with no look at whether it is there, unless it may be null.
That it may be left out does not count. -/
theorem argument_eq_address (passes : p.nativeType.Passes way)
    (argument : p.argument site mode = .ok shape) : shape = .address ↔
      (p.nativeType.kind = .struct ∨ p.nativeType.kind = .object ∧ site.takesHandles = false) ∧
        p.has .nullable = false := by
  have found := passes.found
  cases passes with
  | struct kind | object kind =>
    rw [argument_of_wrapped found argument]
    by_cases nullable : p.has .nullable = true <;> simp [nullable, kind]
  | data kind | characters kind =>
    simp only [Parameter.argument, found] at argument
    cases argument
    simp only [kind, reduceCtorEq, false_and, or_self, iff_false]
    split <;> simp
  | _ =>
    simp only [Parameter.argument, found] at argument
    cases argument
    simp [*]

theorem acceptsNull_of_absent (valid : p.toElement.Valid .parameter)
    (passes : p.nativeType.Passes way) (argument : p.argument site mode = .ok shape)
    (absent : p.mayBeAbsent mode = true) (unsized : p.isAutoSizeOutput = false)
    (other : shape ≠ .address) : shape.acceptsNull = true := by
  have found := passes.found
  cases way with
  | wrapped =>
    have wrapper := argument_of_wrapped found argument
    split at wrapper
    · rw [wrapper]; rfl
    · split at wrapper
      · rw [wrapper]; rfl
      · exact absurd wrapper other
  | data =>
    simp only [Parameter.argument, found, absent, unsized] at argument
    cases argument
    rfl
  | boolean4 =>
    have present := (mayBeAbsent_iff.mp absent).imp_right And.left
    have address := valid.isAddress_of_absent present
    cases passes with
    | boolean4 kind => simp [kind, NativeType.Kind.isAddress] at address
  | fixedArray | plain =>
    simp only [Parameter.argument, found] at argument
    cases argument
    rfl

/-- What is written for an argument that may be absent stands for null as well, but for a wrapper
that may be left out and is not checked. -/
theorem absent_tolerated (reachable : p.Reachable)
    (consistent : p.nativeType.inconsistency = none)
    (written : p.argumentText site mode = .ok text)
    (absent : p.has .nullable = true ∨ p.has .optional = true ∧ mode = .normal)
    (unsized : p.isAutoSizeOutput = false) :
    text ≠ "memAddress(" ++ p.name ++ ")" ∧
    (text = p.name ++ ".address()" ↔
      (p.nativeType.kind = .struct ∨ p.nativeType.kind = .object ∧ site.takesHandles = false) ∧
        p.has .nullable = false) ∧
    (text ≠ p.name ++ ".address()" →
      text = p.name ∨ text = "memAddressSafe(" ++ p.name ++ ")" ∨
        text = p.name ++ " == null ? NULL : " ++ p.name ++ ".address()") := by
  obtain ⟨way, passes⟩ := NativeType.passes_of_consistent consistent
  obtain ⟨shape, argument, rfl⟩ := map_eq_ok.mp written
  have address : shape.text p.name = p.name ++ ".address()" ↔ shape = .address := by
    rw [← Argument.text_address, Argument.text_inj]
  have accepts : shape ≠ .address → shape.acceptsNull = true :=
    acceptsNull_of_absent reachable.valid passes argument (mayBeAbsent_iff.mpr absent) unsized
  refine ⟨fun same => ?_, address.trans (argument_eq_address passes argument), fun other => ?_⟩
  · rw [← Argument.text_buffer, Argument.text_inj] at same
    subst same
    have unchecked := accepts (by simp)
    contradiction
  · have accepted := accepts (mt address.mpr other)
    cases shape with
    | plain => exact .inl rfl
    | bufferOrNull => exact .inr (.inl rfl)
    | addressOrNull => exact .inr (.inr rfl)
    | address | buffer | boolean4 => contradiction

def payload : Parameter :=
  { Parameter.ofType (.pointer "void" .data) "payload" .input "" with modifiers := ⟨[.optional]⟩ }

theorem payload_reachable : payload.Reachable :=
  .modified (.ofType (.pointer "void" .data) "payload" .input "") [.optional] rfl

theorem payload_tolerated : payload.Reachable ∧
    payload.argumentText ⟨"glBufferData", true, some ⟨"GL", false⟩⟩ .normal =
      .ok "memAddressSafe(payload)" ∧
    "memAddressSafe(payload)" ≠ "memAddress(" ++ payload.name ++ ")" ∧
    "memAddressSafe(payload)" ≠ payload.name ++ ".address()" := by
  have written : payload.argumentText ⟨"glBufferData", true, some ⟨"GL", false⟩⟩ .normal =
      .ok "memAddressSafe(payload)" := rfl
  have consistent : payload.nativeType.inconsistency = none := rfl
  have optional : payload.has .optional = true := rfl
  have spec := absent_tolerated payload_reachable consistent written (.inr ⟨optional, rfl⟩) rfl
  refine ⟨payload_reachable, written, spec.1, fun bare => ?_⟩
  obtain ⟨struct | ⟨object, -⟩, -⟩ := spec.2.1.mp bare <;> contradiction

def createInfo : Parameter :=
  { Parameter.ofType (.struct "VkBufferCreateInfo" false) "info" .input "" with
    modifiers := ⟨[.optional]⟩ }

/-- The struct is asked for its address where it is left out. -/
theorem createInfo_unchecked : createInfo.Reachable ∧
    createInfo.nativeType.inconsistency = none ∧ createInfo.has .optional = true ∧
    createInfo.isAutoSizeOutput = false ∧
    createInfo.argumentText ⟨"vkCreateBuffer", false, none⟩ .normal =
      .ok (createInfo.name ++ ".address()") := by
  have reachable : createInfo.Reachable :=
    .modified (.ofType (.struct "VkBufferCreateInfo" false) "info" .input "") [.optional] rfl
  exact ⟨reachable, rfl, rfl, rfl, rfl⟩

end Parameter

end CallBoundary
