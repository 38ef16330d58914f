import CallBoundary.Parameter.Basic
import CallBoundary.Proofs.FirstFault
import CallBoundary.Proofs.Modifiers

/-! Attaching a list of modifiers to an element that has none. Each has to suit the element and to
differ in kind from those before it; what is attached is the list in another order, and what is
refused is its first fault. The order of the list shows in that fault alone. An element with
modifiers takes the empty list and no other. -/
namespace CallBoundary

/-- What is wrong with a modifier behind others: it does not suit the element, or its kind is
there already. -/
def Modifier.refusals (m : Modifier) (t : NativeType) (role : Role) (origin : Origin)
    (earlier : List Modifier) : List Refusal :=
  (m.objection t role).toList.map (.invalidModifier m.kind origin) ++
    if m.kind ∈ earlier.map (·.kind) then [.duplicateModifier m.kind origin] else []

def modifierRefusals (t : NativeType) (role : Role) (origin : Origin) (ms : List Modifier) :
    List Refusal :=
  inTurn (fun earlier m => m.refusals t role origin earlier) ms

theorem modifierRefusals_eq_nil : modifierRefusals t role origin ms = [] ↔
    (∀ m ∈ ms, m.objection t role = none) ∧ (ms.map (·.kind)).Nodup := by
  apply inTurn_clean
  intro earlier m
  simp [Modifier.refusals]

section attachEach

variable {s out : ModifierSet} {ms : List Modifier}

theorem Modifier.refusals_perm {earlier others : List Modifier} (same : earlier.Perm others) :
    Modifier.refusals m t role origin earlier = m.refusals t role origin others := by
  simp only [refusals, (same.map (·.kind)).mem_iff]

/-- The set is searched for the kinds that came before, so it reports what its entries would. -/
theorem failureOf_attachEach : failureOf (attachEach t role origin s ms) =
    (inTurn (fun earlier m => m.refusals t role origin (s.entries ++ earlier)) ms).head? := by
  induction ms generalizing s with
  | nil => rfl
  | cons m ms ih =>
    have present : m.kind ∈ s.entries.map (·.kind) ↔ s.has m.kind = true := by
      rw [List.mem_map, ModifierSet.has_iff]
    rw [inTurn_cons, List.head?_append, List.append_nil, Modifier.refusals, attachEach]
    cases objection : m.objection t role with
    | some reason => simp
    | none =>
      cases repeated : s.has m.kind with
      | true => simp [ModifierSet.insert?, repeated, present]
      | false =>
        have inserted : s.insert? m = some ⟨ModifierSet.place m s.entries⟩ :=
          ModifierSet.insert?_eq_some.mpr ⟨repeated, rfl⟩
        have fresh : m.kind ∉ s.entries.map (·.kind) := by simp [present, repeated]
        have placed (earlier : List Modifier) :
            (ModifierSet.place m s.entries ++ earlier).Perm (s.entries ++ m :: earlier) :=
          ((ModifierSet.place_perm m s.entries).append_right earlier).trans List.perm_middle.symm
        simp only [inserted, ih, if_neg fresh, Modifier.refusals_perm (placed _)]
        rfl

end attachEach

theorem Element.failureOf_attach {e : Element} (plain : e.modifiers = .empty) :
    failureOf (e.attach role origin ms) =
      (modifierRefusals e.nativeType role origin ms).head? := by
  simp only [attach, plain]
  exact failureOf_map.trans failureOf_attachEach

/-- A modifier misfits behind others if it does not suit the element, or if its kind is there
already. -/
def Modifier.Misfits (m : Modifier) (t : NativeType) (role : Role) (earlier : List Modifier) :
    Prop :=
  m.objection t role ≠ none ∨ m.kind ∈ earlier.map (·.kind)

instance (m : Modifier) (t : NativeType) (role : Role) (earlier : List Modifier) :
    Decidable (m.Misfits t role earlier) :=
  inferInstanceAs (Decidable (_ ∨ _))

/-- What is said of a modifier that misfits. That it does not suit comes before its kind. -/
def Modifier.misfit (m : Modifier) (t : NativeType) (role : Role) (origin : Origin) : Refusal :=
  match m.objection t role with
  | some reason => .invalidModifier m.kind origin reason
  | none => .duplicateModifier m.kind origin

theorem Modifier.head?_refusals {m : Modifier} {earlier : List Modifier} :
    (m.refusals t role origin earlier).head? = some refusal ↔
      m.Misfits t role earlier ∧ refusal = m.misfit t role origin := by
  rw [refusals, Misfits, misfit]
  cases m.objection t role with
  | some reason => simp [eq_comm]
  | none => by_cases repeated : m.kind ∈ earlier.map (·.kind) <;> simp [repeated, eq_comm]

/-- The first modifier of a list that misfits behind those before it stands at the place. -/
structure FirstMisfit (t : NativeType) (role : Role) (ms : List Modifier) (place : Nat)
    (m : Modifier) : Prop where
  here : ms[place]? = some m
  misfits : m.Misfits t role (ms.take place)
  before : ∀ i < place, ∀ other, ms[i]? = some other → ¬ other.Misfits t role (ms.take i)

theorem head?_modifierRefusals : (modifierRefusals t role origin ms).head? = some refusal ↔
    ∃ place m, FirstMisfit t role ms place m ∧ refusal = m.misfit t role origin := by
  have located : (modifierRefusals t role origin ms).head? = some refusal ↔
      ∃ place m, FirstAt (fun earlier m => m.Misfits t role earlier) ms place m ∧
        refusal = m.misfit t role origin :=
    inTurn_head?_iff_firstAt fun _ _ _ => Modifier.head?_refusals
  rw [located]
  constructor
  · intro found
    obtain ⟨place, m, first, said⟩ := found
    exact ⟨place, m, ⟨first.here, first.fault, first.before⟩, said⟩
  · intro found
    obtain ⟨place, m, first, said⟩ := found
    exact ⟨place, m, ⟨first.here, first.misfits, first.before⟩, said⟩

/-- How lists of modifiers are attached to something of the type in the role. The modifiers that
are there are `current`, and `put` puts others in their place. -/
structure AttachmentRules (t : NativeType) (role : Role) (origin : Origin) (current : ModifierSet)
    (put : ModifierSet → α) (attach : List Modifier → Except Refusal α) : Prop where
  nothing : attach [] = .ok (put current)
  again : ∀ ms, current ≠ .empty → ms ≠ [] → attach ms = .error (.modifiersAlreadySet origin)
  accepts : ∀ ms, current = .empty → ((∃ out, attach ms = .ok out) ↔
    (∀ m ∈ ms, m.objection t role = none) ∧ (ms.map (·.kind)).Nodup)
  holds : ∀ ms out, current = .empty → attach ms = .ok out →
    ∃ s : ModifierSet, out = put s ∧ s.Ordered ∧ s.entries.Perm ms
  refuses : ∀ ms refusal, current = .empty → (attach ms = .error refusal ↔
    ∃ place m, FirstMisfit t role ms place m ∧ refusal = m.misfit t role origin)
  reordered : ∀ ms others, ms.Perm others →
    (∀ out, attach ms = .ok out → attach others = .ok out) ∧
    ((∃ refusal, attach ms = .error refusal) → ∃ refusal, attach others = .error refusal)

/-- What is made of the element afterwards changes none of the rules. -/
theorem AttachmentRules.map {put : ModifierSet → α} {attach : List Modifier → Except Refusal α}
    (rules : AttachmentRules t role origin current put attach) (f : α → β) :
    AttachmentRules t role origin current (fun s => f (put s)) fun ms => (attach ms).map f where
  nothing := map_eq_ok.mpr ⟨_, rules.nothing, rfl⟩
  again ms present some := map_eq_error.mpr (rules.again ms present some)
  accepts ms plain := by
    rw [← rules.accepts ms plain, ← failureOf_eq_none, ← failureOf_eq_none, failureOf_map]
  holds ms out plain attached := by
    obtain ⟨made, each, rfl⟩ := map_eq_ok.mp attached
    obtain ⟨s, rfl, ordered, perm⟩ := rules.holds ms made plain each
    exact ⟨s, rfl, ordered, perm⟩
  refuses ms refusal plain := map_eq_error.trans (rules.refuses ms refusal plain)
  reordered ms others perm := by
    obtain ⟨accepted, rejected⟩ := rules.reordered ms others perm
    simp only [map_eq_ok, map_eq_error]
    exact ⟨fun out made => made.imp fun _ parts => ⟨accepted _ parts.1, parts.2⟩, rejected⟩

namespace Element

variable {e : Element}

theorem attach_again (present : e.modifiers ≠ .empty) (some : ms ≠ []) :
    e.attach role origin ms = .error (.modifiersAlreadySet origin) := by
  have occupied : e.modifiers.isEmpty = false := by
    rw [ModifierSet.isEmpty, List.isEmpty_eq_false_iff]
    exact fun none => present (congrArg ModifierSet.mk none)
  have nonempty : ms.isEmpty = false := List.isEmpty_eq_false_iff.mpr some
  rw [attach, occupied, nonempty]
  rfl

theorem attach_nil : e.attach role origin [] = .ok e := by
  simp [attach, attachEach, Except.map]

theorem attach_accepts (plain : e.modifiers = .empty) :
    (∃ out, e.attach role origin ms = .ok out) ↔
      (∀ m ∈ ms, m.objection e.nativeType role = none) ∧ (ms.map (·.kind)).Nodup := by
  rw [← failureOf_eq_none, failureOf_attach plain, List.head?_eq_none_iff,
    modifierRefusals_eq_nil]

theorem attach_holds {out : Element} (plain : e.modifiers = .empty)
    (attached : e.attach role origin ms = .ok out) :
    out = { e with modifiers := out.modifiers } ∧ out.modifiers.Ordered ∧
      out.modifiers.entries.Perm ms := by
  obtain ⟨same, each⟩ := attach_eq_ok attached
  rw [plain] at each
  refine ⟨?_, attachEach_ordered .nil each, attachEach_perm each⟩
  cases out
  rw [← same]

/-- The order of the list shows neither in what is attached nor in whether it is. -/
theorem attach_perm (perm : ms.Perm others) :
    (∀ out, e.attach role origin ms = .ok out → e.attach role origin others = .ok out) ∧
      ((∃ refusal, e.attach role origin ms = .error refusal) →
        ∃ refusal, e.attach role origin others = .error refusal) := by
  by_cases plain : e.modifiers = .empty
  · have alike : (∃ out, e.attach role origin ms = .ok out) ↔
        ∃ out, e.attach role origin others = .ok out := by
      rw [attach_accepts plain, attach_accepts plain, (perm.map _).nodup_iff]
      simp only [perm.mem_iff]
    constructor
    · intro out attached
      obtain ⟨other, again⟩ := alike.mp ⟨out, attached⟩
      obtain ⟨made, ordered, held⟩ := attach_holds plain attached
      obtain ⟨remade, reordered, reheld⟩ := attach_holds plain again
      have same := ModifierSet.eq_of_perm ordered reordered (held.trans (perm.trans reheld.symm))
      rw [again, made, remade, same]
    · rw [← not_ok_iff_error, ← not_ok_iff_error, alike]
      exact id
  · by_cases none : ms = []
    · subst none
      rw [List.nil_perm.mp perm]
      exact ⟨fun _ => id, id⟩
    · have some : others ≠ [] := fun gone => none (List.perm_nil.mp (gone ▸ perm))
      rw [attach_again plain none, attach_again plain some]
      exact ⟨fun _ => id, id⟩

theorem attach_rules (e : Element) (role : Role) (origin : Origin) :
    AttachmentRules e.nativeType role origin e.modifiers (fun s => { e with modifiers := s })
      (e.attach role origin) where
  nothing := attach_nil
  again _ := attach_again
  accepts _ := attach_accepts
  holds _ out plain attached := ⟨out.modifiers, attach_holds plain attached⟩
  refuses ms refusal plain := by
    rw [← failureOf_eq_some, failureOf_attach plain, head?_modifierRefusals]
  reordered _ _ := attach_perm

end Element

theorem Parameter.withModifiers_rules (p : Parameter) :
    AttachmentRules p.nativeType .parameter p.origin p.modifiers
      (fun s => { p with modifiers := s }) p.withModifiers :=
  (p.attach_rules .parameter p.origin).map fun e => { p with toElement := e }

theorem ReturnValue.withModifiers_rules (r : ReturnValue) :
    AttachmentRules r.nativeType .returnValue .returnValue r.modifiers
      (fun s => ⟨{ r.toElement with modifiers := s }⟩) r.withModifiers :=
  (r.attach_rules .returnValue .returnValue).map ReturnValue.mk

/-- Parameters and return values take lists of modifiers by the same rules. -/
theorem attachment_rules :
    (∀ p : Parameter, AttachmentRules p.nativeType .parameter p.origin p.modifiers
      (fun s => { p with modifiers := s }) p.withModifiers) ∧
    ∀ r : ReturnValue, AttachmentRules r.nativeType .returnValue .returnValue r.modifiers
      (fun s => ⟨{ r.toElement with modifiers := s }⟩) r.withModifiers :=
  ⟨Parameter.withModifiers_rules, ReturnValue.withModifiers_rules⟩

/-- Data of no particular type. -/
def vertices : Parameter := .ofType (.pointer "void" .data) "vertices" .input ""

/-- Reordered, the list is attached alike. In the other list the third modifier neither suits nor
has a kind of its own, and the fourth is never looked at. -/
theorem vertices_attached :
    (∃ out, vertices.withModifiers [.multiType [.bytes], .nullable] = .ok out ∧
      vertices.withModifiers [.nullable, .multiType [.bytes]] = .ok out) ∧
    vertices.withModifiers [.nullable, .multiType [.bytes], .multiType [], .nullable] =
      .error (.invalidModifier .multiType (.parameter "vertices")
        "at least one element type is required") := by
  have rules := attachment_rules.1 vertices
  obtain ⟨out, attached⟩ :=
    (rules.accepts [.multiType [.bytes], .nullable] rfl).mpr (by decide)
  refine ⟨⟨out, attached, (rules.reordered _ _ (.swap ..)).1 out attached⟩, ?_⟩
  refine (rules.refuses _ _ rfl).mpr ⟨2, .multiType [], ⟨rfl, .inl (by decide), ?_⟩, rfl⟩
  intro i low other found
  match i, low with
  | 0, _ => cases found; decide
  | 1, _ => cases found; decide

end CallBoundary
