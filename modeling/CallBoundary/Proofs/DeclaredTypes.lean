import CallBoundary.Proofs.Headers

/-! How types are spelled in native declarations. A declared type is its name between an optional
`const` and an optional star, and no two names come out alike. Of the modifiers only `const` shows,
and pointers can be asked for only where a struct is passed by value. -/
namespace CallBoundary

namespace NativeType

variable {t u : NativeType} {pointerMode : Bool} {star other : String}

/-- The type is passed by an address that its name does not include. A struct is passed by value
unless pointers are asked for. -/
def TakesStar (t : NativeType) (pointerMode : Bool) : Prop :=
  t.kind.isAddress = true ∧ t.includesPointer = false ∧ (t.kind ≠ .struct ∨ pointerMode = true)

instance (t : NativeType) (pointerMode : Bool) : Decidable (t.TakesStar pointerMode) :=
  inferInstanceAs (Decidable (_ ∧ _ ∧ _))

/-- What stands behind the name of a declared type. A star joins the star that the name ends in. -/
inductive Star (t : NativeType) (pointerMode : Bool) : String → Prop where
  | absent (plain : ¬ t.TakesStar pointerMode) : Star t pointerMode ""
  | joined (taken : t.TakesStar pointerMode) (starred : t.name.toList.getLast? = some '*') :
      Star t pointerMode "*"
  | apart (taken : t.TakesStar pointerMode) (unstarred : t.name.toList.getLast? ≠ some '*') :
      Star t pointerMode " *"

theorem declaredType_eq (t : NativeType) (pointerMode : Bool) :
    Element.declaredType t pointerMode = t.name ++
      if t.TakesStar pointerMode then
        if t.name.toList.getLast? = some '*' then "*" else " *"
      else "" := by
  have same : t.TakesStar pointerMode ↔
      (t.kind.isAddress && !t.includesPointer && (pointerMode || t.kind != .struct)) = true := by
    simp [TakesStar, and_assoc, or_comm]
  simp only [Element.declaredType, same, beq_iff_eq]
  split <;> simp

theorem declaredType_star (t : NativeType) (pointerMode : Bool) :
    ∃ star, Star t pointerMode star ∧ Element.declaredType t pointerMode = t.name ++ star := by
  refine ⟨_, ?_, declaredType_eq t pointerMode⟩
  split
  next taken =>
    split
    next starred => exact .joined taken starred
    next unstarred => exact .apart taken unstarred
  next plain => exact .absent plain

theorem append_star_ne {name text : String} (starred : name.toList.getLast? = some '*') :
    name ++ "*" ≠ text ++ " *" := by
  intro same
  have letters : name.toList ++ ['*'] = (text.toList ++ [' ']) ++ ['*'] := by
    simpa [← String.toList_inj] using same
  rw [List.append_cancel_right letters, List.getLast?_concat] at starred
  contradiction

theorem Star.name_inj (first : Star t pointerMode star) (second : Star u pointerMode other)
    (alike : t.TakesStar pointerMode ↔ u.TakesStar pointerMode)
    (same : t.name ++ star = u.name ++ other) : t.name = u.name := by
  cases first with
  | absent plain =>
    cases second with
    | absent => simpa using same
    | joined taken | apart taken => exact absurd (alike.mpr taken) plain
  | joined taken starred =>
    cases second with
    | absent plain => exact absurd (alike.mp taken) plain
    | joined => simpa using same
    | apart => exact absurd same (append_star_ne starred)
  | apart taken =>
    cases second with
    | absent plain => exact absurd (alike.mp taken) plain
    | joined _ starred => exact absurd same.symm (append_star_ne starred)
    | apart => simpa using same

/-- Only a struct that is passed by value becomes another type when pointers are asked for. -/
theorem declaredType_pointerMode (t : NativeType) :
    Element.declaredType t true ≠ Element.declaredType t false ↔
      t.kind = .struct ∧ t.includesPointer = false := by
  rw [declaredType_eq, declaredType_eq]
  constructor
  · intro differ
    by_contra other
    have alike : t.TakesStar true ↔ t.TakesStar false := by
      simp only [TakesStar]
      tauto
    simp only [alike, ne_eq, not_true] at differ
  · rintro ⟨struct, plain⟩
    have taken : t.TakesStar true := by simp [TakesStar, struct, plain, Kind.isAddress]
    have spared : ¬ t.TakesStar false := by simp [TakesStar, struct]
    rw [if_pos taken, if_neg spared]
    split <;> simp

end NativeType

namespace Element

variable {e : Element} {binding : Option Binding} {isCallContext : Bool}

def renamed (e : Element) (name : String) : Element :=
  { e with nativeType := { e.nativeType with name := name } }

/-- The declared type is what shows, under the binding or without one. -/
def Declares (e : Element) (binding : Option Binding) (isCallContext : Bool) : Prop :=
  binding = none ∨ e.ShowsName isCallContext

theorem nativeText_declares (declares : e.Declares binding isCallContext) (pointerMode : Bool) :
    e.nativeText binding pointerMode isCallContext =
      e.constText ++ declaredType e.nativeType pointerMode := by
  cases binding with
  | none => rfl
  | some binding => exact nativeText_shown (declares.resolve_left nofun) binding pointerMode

structure TypeTexts (e : Element) (isCallContext : Bool) (text : Option Binding → Bool → String) :
    Prop where
  declared : ∀ binding pointerMode, e.Declares binding isCallContext →
    ∃ star, e.nativeType.Star pointerMode star ∧ text binding pointerMode =
      (if e.has .const then "const " else "") ++ e.nativeType.name ++ star
  pointerMode : ∀ binding, text binding true ≠ text binding false ↔
    e.nativeType.kind = .struct ∧ e.nativeType.includesPointer = false
  modifiers : ∀ s : ModifierSet, s.has .const = e.has .const → ∀ binding pointerMode,
    Element.nativeText { e with modifiers := s } binding pointerMode isCallContext =
      text binding pointerMode
  names : ∀ name binding other pointerMode,
    e.Declares binding isCallContext → e.Declares other isCallContext →
      (e.renamed name).nativeText other pointerMode isCallContext = text binding pointerMode →
        name = e.nativeType.name
  hidden : ∀ name one two pointerMode otherMode, ¬ e.ShowsName isCallContext →
    (e.renamed name).nativeText (some two) otherMode isCallContext = text (some one) pointerMode

theorem nativeText_pointerMode (e : Element) (binding : Option Binding) (isCallContext : Bool) :
    e.nativeText binding true isCallContext ≠ e.nativeText binding false isCallContext ↔
      e.nativeType.kind = .struct ∧ e.nativeType.includesPointer = false := by
  by_cases declares : e.Declares binding isCallContext
  · rw [nativeText_declares declares, nativeText_declares declares, ne_eq,
      String.append_right_inj]
    exact e.nativeType.declaredType_pointerMode
  · obtain ⟨bound, hidden⟩ := not_or.mp declares
    obtain ⟨binding, rfl⟩ := Option.ne_none_iff_exists'.mp bound
    rw [nativeText_hidden hidden, nativeText_hidden hidden]
    simpa using mt Or.inr hidden

theorem typeTexts (e : Element) (isCallContext : Bool) :
    e.TypeTexts isCallContext fun binding pointerMode =>
      e.nativeText binding pointerMode isCallContext where
  declared binding pointerMode declares := by
    obtain ⟨star, stands, same⟩ := e.nativeType.declaredType_star pointerMode
    exact ⟨star, stands, by rw [nativeText_declares declares, same, String.append_assoc]; rfl⟩
  pointerMode binding := e.nativeText_pointerMode binding isCallContext
  modifiers s same binding pointerMode := by
    have const : Element.has { e with modifiers := s } .const = e.has .const := same
    simp only [nativeText, const]
  names name binding other pointerMode declares others same := by
    have renamed : (e.renamed name).Declares other isCallContext := others
    rw [nativeText_declares declares, nativeText_declares renamed] at same
    obtain ⟨star, stands, text⟩ := e.nativeType.declaredType_star pointerMode
    obtain ⟨last, behind, retext⟩ := (e.renamed name).nativeType.declaredType_star pointerMode
    have texts := (String.append_right_inj _).mp same
    rw [text, retext] at texts
    exact behind.name_inj stands Iff.rfl texts
  hidden name one two pointerMode otherMode hidden := by
    have renamed : ¬ (e.renamed name).ShowsName isCallContext := hidden
    rw [nativeText_hidden hidden, nativeText_hidden renamed]
    rfl

end Element

/-- Parameters and return values spell their types by the same rules. A return value is never the
context of a call. -/
theorem type_texts :
    (∀ p : Parameter, p.toElement.TypeTexts p.isCallContext p.nativeText) ∧
      ∀ r : ReturnValue, r.toElement.TypeTexts false r.nativeText :=
  ⟨fun p => p.typeTexts p.isCallContext, fun r => r.typeTexts false⟩

def sourceNames : Parameter :=
  { Parameter.ofType (.pointer "char*" .pointers) "names" .input "" with
    modifiers := ⟨[.const, .nullable]⟩ }

/-- The star joins that of the name, and under a binding neither shows. -/
theorem names_type : sourceNames.nativeText none false = "const char**" ∧
    sourceNames.nativeText none true = sourceNames.nativeText none false ∧
    (sourceNames.toElement.renamed "char *").nativeText none false false ≠
      sourceNames.nativeText none false ∧
    (sourceNames.toElement.renamed "char").nativeText (some ⟨"GL", true⟩) true false =
      sourceNames.nativeText (some ⟨"GLES", false⟩) false := by
  have texts := type_texts.1 sourceNames
  obtain ⟨star, stands, spelled⟩ := texts.declared none false (.inl rfl)
  refine ⟨?_, ?_, fun same => ?_, ?_⟩
  · cases stands with
    | absent plain => exact absurd (by decide) plain
    | joined => rw [spelled]; decide
    | apart _ unstarred => exact absurd rfl unstarred
  · by_contra differ
    exact absurd ((texts.pointerMode none).mp differ) (by decide)
  · exact absurd (texts.names "char *" none none false (.inl rfl) (.inl rfl) same) (by decide)
  · exact texts.hidden "char" ⟨"GLES", false⟩ ⟨"GL", true⟩ false true (by decide)

end CallBoundary
