import CallBoundary.Proofs.Attachment
import CallBoundary.Proofs.Reachable

/-! Stripping a parameter for the plain overload. What is left is told by the modifiers that were
there, whatever their order; stripped once, a parameter stays as it is. -/
namespace CallBoundary

namespace ModifierSet

variable {s t : ModifierSet}

theorem eq_of_mem_iff (ordered : s.Ordered) (others : t.Ordered)
    (same : ∀ m, m ∈ s.entries ↔ m ∈ t.entries) : s = t :=
  have perm := List.perm_ext_iff_of_nodup ordered.distinct.of_map others.distinct.of_map
  eq_of_perm ordered others (perm.mpr same)

theorem hasArrayFamily_eq_false : s.hasArrayFamily = false ↔
    ∀ m ∈ s.entries, m.kind ∉ Modifier.Kind.arrayFamily := by
  rw [hasArrayFamily, List.any_eq_false]
  constructor
  · intro none m member inside
    exact none m.kind inside (has_iff.mpr ⟨m, member, rfl⟩)
  · intro outside kind inside present
    obtain ⟨m, member, rfl⟩ := has_iff.mp present
    exact outside m member inside

/-- A null check is dropped for an optional argument of several types; all else that is dropped is
of the array family. -/
theorem keeps_iff {m : Modifier} : s.keeps m.kind = true ↔
    m.kind ∉ Modifier.Kind.arrayFamily ∧
      ¬ (m = .nullable ∧ s.has .optional = true ∧ s.has .multiType = true) := by
  have nullable : m.kind = .nullable ↔ m = .nullable := by cases m <;> simp [Modifier.kind]
  rw [keeps]
  cases s.has .optional <;> cases s.has .multiType <;> simp [nullable]

end ModifierSet

namespace Parameter

variable {p : Parameter}

/-- Stripping takes away the array family, and with it the null check of an optional argument of
several types. Nothing else changes, nothing is left to be taken away later, and the order in
which the modifiers were listed does not count. -/
theorem withoutArrayFamily_exactly (reachable : p.Reachable) :
    (∀ m, m ∈ p.withoutArrayFamily.modifiers.entries ↔ m ∈ p.modifiers.entries ∧
      m.kind ∉ [.pointerArray, .returned, .singleValue, .multiType] ∧
      ¬ (m = .nullable ∧ p.has .optional = true ∧ p.has .multiType = true)) ∧
    (p.withoutArrayFamily.modifiers.entries.map Modifier.kind).Nodup ∧
    p.withoutArrayFamily = { p with modifiers := p.withoutArrayFamily.modifiers } ∧
    p.withoutArrayFamily.withoutArrayFamily = p.withoutArrayFamily ∧
    ((∀ m ∈ p.modifiers.entries,
      m.kind ∉ [.pointerArray, .returned, .singleValue, .multiType]) → p.withoutArrayFamily = p) ∧
    (∀ q : Parameter, q.Reachable → (∀ m, m ∈ q.modifiers.entries ↔ m ∈ p.modifiers.entries) →
      q.withoutArrayFamily.modifiers = p.withoutArrayFamily.modifiers) ∧
    ∀ ms others out, ms.Perm others → p.withModifiers ms = .ok out →
      ∃ again, p.withModifiers others = .ok again ∧
        again.withoutArrayFamily = out.withoutArrayFamily := by
  have ordered := reachable.valid.ordered
  refine ⟨fun m => ?_, ?_, rfl, ?_, fun plain => ?_, fun q made same => ?_, ?_⟩
  · exact ModifierSet.mem_withoutArrayFamily.trans (and_congr_right fun _ => ModifierSet.keeps_iff)
  · exact (ModifierSet.withoutArrayFamily_ordered ordered).distinct
  · exact congrArg (fun s => { p with modifiers := s }) ModifierSet.withoutArrayFamily_idempotent
  · have absent := ModifierSet.hasArrayFamily_eq_false.mpr plain
    have kept := ModifierSet.withoutArrayFamily_eq_self absent
    exact congrArg (fun s => { p with modifiers := s }) kept
  · have sets : q.modifiers = p.modifiers :=
      ModifierSet.eq_of_mem_iff made.valid.ordered ordered same
    exact congrArg ModifierSet.withoutArrayFamily sets
  · intro ms others out perm attached
    exact ⟨out, (p.withModifiers_rules.reordered ms others perm).1 out attached, rfl⟩

def image : Parameter :=
  { Parameter.ofType (.pointer "void" .data) "image" .output "" with
    modifiers := ⟨[.const, .nullable, .optional, .autoSizeResult, .singleValue "pixel",
      .multiType [.bytes, .floats]]⟩ }

def imageModifiers : List Modifier :=
  [.multiType [.bytes, .floats], .nullable, .singleValue "pixel", .autoSizeResult, .optional,
    .const]

theorem image_reachable : image.Reachable :=
  .modified (.ofType (.pointer "void" .data) "image" .output "") imageModifiers rfl

/-- The null check goes and the size stays, and attached in any other order it is the same. -/
theorem image_stripped : image.Reachable ∧
    Modifier.nullable ∉ image.withoutArrayFamily.modifiers.entries ∧
    Modifier.autoSizeResult ∈ image.withoutArrayFamily.modifiers.entries ∧
    ∃ again, (Parameter.ofType (.pointer "void" .data) "image" .output "").withModifiers
        imageModifiers.reverse = .ok again ∧
      again.withoutArrayFamily = image.withoutArrayFamily := by
  obtain ⟨left, -⟩ := withoutArrayFamily_exactly image_reachable
  refine ⟨image_reachable, fun kept => ?_, (left .autoSizeResult).mpr (by decide), ?_⟩
  · exact ((left .nullable).mp kept).2.2 (by decide)
  · have fresh : (Parameter.ofType (.pointer "void" .data) "image" .output "").Reachable :=
      .ofType ..
    obtain ⟨-, -, -, -, -, -, reordered⟩ := withoutArrayFamily_exactly fresh
    exact reordered imageModifiers _ image (List.reverse_perm _).symm rfl

end Parameter

end CallBoundary
