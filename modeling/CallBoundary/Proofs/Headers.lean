import CallBoundary.BoundFunction
import Mathlib.Data.List.Forall2

/-! Pointer types without native headers. Under a binding a native name shows for the call context
and for a struct passed by value alone; all other types are words of the boundary. What is not
seen there cannot change the type of a function pointer. -/
namespace CallBoundary

namespace Element

variable {e d : Element} {isCallContext : Bool}

/-- The native name shows under a binding too. -/
def ShowsName (e : Element) (isCallContext : Bool) : Prop :=
  isCallContext = true ∨ e.nativeType.kind = .struct ∧ e.nativeType.includesPointer = false

instance (e : Element) (isCallContext : Bool) : Decidable (e.ShowsName isCallContext) :=
  inferInstanceAs (Decidable (_ ∨ _))

/-- What is seen of two elements under a binding is the same. -/
structure LooksAlike (isCallContext : Bool) (e d : Element) : Prop where
  kind : e.nativeType.kind = d.nativeType.kind
  mapping : e.nativeType.mapping = d.nativeType.mapping
  includesPointer : e.nativeType.includesPointer = d.nativeType.includesPointer
  const : e.has .const = d.has .const
  name : e.ShowsName isCallContext → e.nativeType.name = d.nativeType.name

def constText (e : Element) : String := if e.has .const then "const " else ""

theorem nativeText_shown (shows : e.ShowsName isCallContext) (binding : Binding)
    (pointerMode : Bool) : e.nativeText (some binding) pointerMode isCallContext =
      e.constText ++ declaredType e.nativeType pointerMode := by
  rcases shows with context | ⟨struct, plain⟩
  · simp [nativeText, constText, context]
  · simp [nativeText, constText, struct, plain]

theorem nativeText_hidden (hidden : ¬ e.ShowsName isCallContext) (binding : Binding)
    (pointerMode : Bool) : e.nativeText (some binding) pointerMode isCallContext =
      e.constText ++
        if e.nativeType.isAddressWide then handleType else e.nativeType.boundaryName := by
  obtain ⟨passed, pointer⟩ := not_or.mp hidden
  have collapsed : (isCallContext || e.nativeType.kind == .struct &&
      !e.nativeType.includesPointer) = false := by
    simpa [passed] using pointer
  simp [nativeText, constText, collapsed]

theorem LooksAlike.nativeText (alike : LooksAlike isCallContext e d) (one two : Binding)
    (pointerMode : Bool) : e.nativeText (some one) pointerMode isCallContext =
      d.nativeText (some two) pointerMode isCallContext := by
  have const : e.constText = d.constText := by rw [constText, constText, alike.const]
  have shown : e.ShowsName isCallContext ↔ d.ShowsName isCallContext := by
    rw [ShowsName, ShowsName, alike.kind, alike.includesPointer]
  by_cases shows : e.ShowsName isCallContext
  · rw [nativeText_shown shows, nativeText_shown (shown.mp shows), const, declaredType,
      declaredType, alike.kind, alike.includesPointer, alike.name shows]
  · rw [nativeText_hidden shows, nativeText_hidden (mt shown.mpr shows), const,
      NativeType.isAddressWide, NativeType.isAddressWide, NativeType.boundaryName,
      NativeType.boundaryName, alike.kind, alike.mapping]

end Element

structure Parameter.LooksAlike (p q : Parameter) : Prop where
  isCallContext : p.isCallContext = q.isCallContext
  element : p.toElement.LooksAlike p.isCallContext q.toElement

/-- What is seen of two functions under a binding is the same. -/
structure BoundFunction.LooksAlike (f g : BoundFunction) : Prop where
  name : f.name = g.name
  returned : f.returned.toElement.LooksAlike false g.returned.toElement
  parameters : List.Forall₂ Parameter.LooksAlike f.parameters g.parameters

theorem Parameter.LooksAlike.nativeText {p q : Parameter} (alike : p.LooksAlike q)
    (one two : Binding) (pointerMode : Bool) :
    p.nativeText (some one) pointerMode = q.nativeText (some two) pointerMode := by
  rw [Parameter.nativeText, Parameter.nativeText, ← alike.isCallContext]
  exact alike.element.nativeText one two pointerMode

namespace BoundFunction

theorem LooksAlike.pointerTypes {f g : BoundFunction} (alike : f.LooksAlike g)
    (one two : Binding) : f.pointerTypes (some one) = g.pointerTypes (some two) := by
  have texts : f.parameters.map (·.nativeText (some one) false) =
      g.parameters.map (·.nativeText (some two) false) := by
    rw [← List.forall₂_eq_eq_eq, List.forall₂_map_left_iff, List.forall₂_map_right_iff]
    exact alike.parameters.imp fun p q same => same.nativeText one two false
  have empty : f.parameters.isEmpty = g.parameters.isEmpty := by
    rw [← List.isEmpty_map, texts, List.isEmpty_map]
  rw [BoundFunction.pointerTypes, BoundFunction.pointerTypes, texts, empty]

/-- Under whatever bindings, functions that look alike there have one pointer type. Where no native
name shows, the text of a type is a word of the boundary behind an optional `const`. -/
theorem pointerTypedef_headerless :
    (∀ f g : BoundFunction, f.LooksAlike g → ∀ one two : Binding,
      f.pointerTypedef (some one) = g.pointerTypedef (some two)) ∧
    ∀ (e : Element) (isCallContext pointerMode : Bool) (binding : Binding),
      ¬ e.ShowsName isCallContext →
        (e.nativeType.kind.isAddress = true ∨ e.nativeType.mapping = .scalar .pointer →
          e.nativeText (some binding) pointerMode isCallContext = e.constText ++ "intptr_t") ∧
        (e.nativeType.kind.isAddress = false → e.nativeType.mapping ≠ .scalar .pointer →
          e.nativeText (some binding) pointerMode isCallContext =
            e.constText ++ e.nativeType.mapping.boundaryName) := by
  refine ⟨fun f g alike one two => ?_, fun e isCallContext pointerMode binding hidden => ?_⟩
  · have returned : f.returned.nativeText (some one) false =
        g.returned.nativeText (some two) false := alike.returned.nativeText one two false
    rw [pointerTypedef, pointerTypedef, returned, alike.name, alike.pointerTypes one two]
  · rw [Element.nativeText_hidden hidden]
    refine ⟨fun wide => ?_, fun kind mapping => ?_⟩
    · have wide : e.nativeType.isAddressWide = true := by
        simpa [NativeType.isAddressWide, or_comm] using wide
      rw [if_pos wide]
      rfl
    · have narrow : e.nativeType.isAddressWide = false := by
        simp [NativeType.isAddressWide, kind, mapping]
      simp [narrow, NativeType.boundaryName]

/-- A rectangle is passed by value, behind the context of the call and in front of a handle. -/
def clear : BoundFunction where
  name := "vkClear"
  hasRawVariant := false
  returned := .ofType (.primitive "VkResult" .int)
  parameters := [
    .callContext (.pointer "VkQueue" .sealed),
    .ofType (.struct "VkRect" false) "area" .input "the area",
    { Parameter.ofType (.pointer "void" .data) "data" .input "" with modifiers := ⟨[.const]⟩ },
    .ofType (.primitive "size_t" .pointer) "size" .input ""]

/-- The same function, declared with other headers. -/
def clearElsewhere : BoundFunction where
  name := "vkClear"
  hasRawVariant := true
  returned := .ofType (.primitive "int32_t" .int)
  parameters := [
    .callContext (.pointer "VkQueue" .sealed),
    { Parameter.ofType (.struct "VkRect" false) "rect" .output "" with modifiers := ⟨[.nullable]⟩ },
    { Parameter.ofType (.pointer "char" .data) "chars" .input "" with
      modifiers := ⟨[.const, .optional, .multiType [.bytes]]⟩ },
    .ofType (.primitive "uintptr_t" .pointer) "count" .both "the size"]

theorem clear_looksAlike : clear.LooksAlike clearElsewhere where
  name := rfl
  returned := ⟨rfl, rfl, rfl, rfl, by decide⟩
  parameters :=
    .cons ⟨rfl, rfl, rfl, rfl, rfl, fun _ => rfl⟩ <|
      .cons ⟨rfl, rfl, rfl, rfl, rfl, fun _ => rfl⟩ <|
      .cons ⟨rfl, rfl, rfl, rfl, rfl, by decide⟩ <|
      .cons ⟨rfl, rfl, rfl, rfl, rfl, by decide⟩ .nil

theorem clear_pointerTypedef : clear.LooksAlike clearElsewhere ∧
    clearElsewhere.pointerTypedef (some ⟨"XR", true⟩) =
      "typedef jint (APIENTRY *vkClearPROC) (VkQueue *, VkRect, const intptr_t, intptr_t);" := by
  have same := pointerTypedef_headerless.1 clear clearElsewhere clear_looksAlike ⟨"VK", false⟩
    ⟨"XR", true⟩
  refine ⟨clear_looksAlike, same.symm.trans ?_⟩
  decide +kernel

end BoundFunction

end CallBoundary
