import CallBoundary.Parameter.Basic

/-! The expression that is passed for a parameter where the native function is called. -/
namespace CallBoundary

structure CallSite where
  function : String
  hasRawVariant : Bool
  binding : Option Binding
  deriving DecidableEq, Repr

/-- How the values of a type get past the call boundary. -/
inductive Passage where
  | wrapped
  | fixedArray
  | data
  | boolean4
  | plain
  deriving DecidableEq, Repr

/-- A type whose kind and mapping disagree has no passage. -/
def NativeType.passage? (t : NativeType) : Option Passage :=
  match t.kind, t.mapping with
  | .struct, .pointer .struct => some .wrapped
  | .object, .pointer .sealed => some .wrapped
  | .array length, .pointer pointee =>
    if 0 < length ∧ pointee.isData then some .fixedArray else none
  | .charSequence, .pointer .bytes => some .data
  | .pointer, .pointer .sealed => some .plain
  | .pointer, .pointer pointee => if pointee.isData then some .data else none
  | .primitive, .scalar .boolean4 => some .boolean4
  | .primitive, .scalar _ => some .plain
  | .void, .void => some .plain
  | _, _ => none

inductive Argument where
  | plain
  | address
  | addressOrNull
  | buffer
  | bufferOrNull
  | boolean4
  deriving DecidableEq, Repr

def Argument.text (argument : Argument) (name : String) : String :=
  match argument with
  | plain => name
  | address => name ++ ".address()"
  | addressOrNull => name ++ " == null ? NULL : " ++ name ++ ".address()"
  | buffer => "memAddress(" ++ name ++ ")"
  | bufferOrNull => "memAddressSafe(" ++ name ++ ")"
  | boolean4 => name ++ " ? 1 : 0"

namespace Argument

@[simp] theorem text_plain : plain.text name = name := rfl

@[simp] theorem text_address : address.text name = name ++ ".address()" := rfl

@[simp] theorem text_addressOrNull :
    addressOrNull.text name = name ++ " == null ? NULL : " ++ name ++ ".address()" := rfl

@[simp] theorem text_buffer : buffer.text name = "memAddress(" ++ name ++ ")" := rfl

@[simp] theorem text_bufferOrNull : bufferOrNull.text name = "memAddressSafe(" ++ name ++ ")" := rfl

@[simp] theorem text_boolean4 : boolean4.text name = name ++ " ? 1 : 0" := rfl

def width : Argument → Nat → Nat
  | plain, n => n
  | address, n => n + 10
  | addressOrNull, n => n + n + 28
  | buffer, n => n + 12
  | bufferOrNull, n => n + 16
  | boolean4, n => n + 8

theorem text_length (argument : Argument) (name : String) :
    (argument.text name).length = argument.width name.length := by
  have accessor : ".address()".length = 10 := by decide
  have close : ")".length = 1 := by decide
  cases argument with
  | plain => rfl
  | address => rw [text_address, String.length_append, accessor, width]
  | addressOrNull =>
    have check : " == null ? NULL : ".length = 18 := by decide
    simp only [text_addressOrNull, String.length_append, check, accessor, width]
    omega
  | buffer =>
    have opening : "memAddress(".length = 11 := by decide
    simp only [text_buffer, String.length_append, opening, close, width]
    omega
  | bufferOrNull =>
    have opening : "memAddressSafe(".length = 15 := by decide
    simp only [text_bufferOrNull, String.length_append, opening, close, width]
    omega
  | boolean4 =>
    have choice : " ? 1 : 0".length = 8 := by decide
    rw [text_boolean4, String.length_append, choice, width]

/-- The shapes of an argument differ in their lengths already. -/
theorem text_injective {a b : Argument} (same : a.text name = b.text name) : a = b := by
  have widths : a.width name.length = b.width name.length := by
    rw [← text_length, ← text_length, same]
  cases a <;> cases b <;> simp only [width] at widths <;> first | rfl | omega

theorem text_inj {a b : Argument} : a.text name = b.text name ↔ a = b :=
  ⟨text_injective, congrArg (text · name)⟩

end Argument

namespace Parameter

/-- A raw variant takes the handles of objects themselves if the binding has capabilities. -/
def takesHandle (p : Parameter) (site : CallSite) : Except Refusal Bool :=
  if p.nativeType.kind = .object ∧ site.hasRawVariant then
    match site.binding with
    | some binding => .ok binding.hasParameterCapabilities
    | none => .error (.missingBinding (p.origin.inFunction site.function))
  else .ok false

def mayBeAbsent (p : Parameter) (mode : Mode) : Bool :=
  p.has .nullable || p.has .optional && mode == .normal

def argument (p : Parameter) (site : CallSite) (mode : Mode) : Except Refusal Argument :=
  match p.nativeType.passage? with
  | some .wrapped =>
    if p.has .nullable then .ok .addressOrNull
    else (p.takesHandle site).map fun takesHandle => if takesHandle then .plain else .address
  | some .data =>
    .ok (if !p.isAutoSizeOutput && p.mayBeAbsent mode then .bufferOrNull else .buffer)
  | some .boolean4 => .ok .boolean4
  | some .fixedArray => .ok .plain
  | some .plain => .ok .plain
  | none =>
    let reason := p.nativeType.inconsistency.getD
      ("native type `" ++ p.nativeType.name ++ "` has no call category")
    .error (.inconsistentType (p.origin.inFunction site.function) reason)

def argumentText (p : Parameter) (site : CallSite) (mode : Mode) : Except Refusal String :=
  (p.argument site mode).map fun argument => argument.text p.name

end Parameter

end CallBoundary
