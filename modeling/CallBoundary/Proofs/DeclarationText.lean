import CallBoundary.Declaration.Format
import CallBoundary.Proofs.RoundTrip

/-! The text of a declaration file. The formats of the declarations are lawful, so what is written
for a file is parsed as that file, whatever names, types and modifiers it declares. -/
namespace CallBoundary

open Json

namespace Json.Variants

variable {α : Type} {names : List (String × α)}

theorem names_ofNames : (ofNames names).names = names.map (·.1) := by
  induction names with
  | nil => rfl
  | cons entry names ih => exact congrArg (entry.1 :: ·) ih

theorem lawful_ofNames (distinct : DistinctNames names) : (ofNames names).Lawful := by
  induction names with
  | nil => trivial
  | cons entry names ih =>
    obtain ⟨fresh, distinct⟩ := List.nodup_cons.mp distinct
    exact ⟨names_ofNames ▸ fresh, ih distinct⟩

theorem covers_ofNames : (ofNames names).Covers a ↔ a ∈ names.map (·.2) := by
  induction names with
  | nil => simp [ofNames, Covers]
  | cons entry names ih =>
    rw [List.map_cons, List.mem_cons, ← ih]
    rfl

end Json.Variants

/-- A choice among names is lawful if no name is there twice and each value has one. -/
theorem lawful_oneOf_names [DecidableEq α] {names : List (String × α)}
    (distinct : DistinctNames names) (complete : ∀ a, a ∈ names.map (·.2)) :
    (Format.oneOf (.ofNames names)).Lawful :=
  ⟨Variants.lawful_ofNames distinct, fun a => Variants.covers_ofNames.mpr (complete a)⟩

theorem Scalar.format_lawful : Scalar.format.Lawful :=
  lawful_oneOf_names (by simp [DistinctNames, names]) fun s => by cases s <;> simp [names]

theorem Pointee.format_lawful : Pointee.format.Lawful :=
  lawful_oneOf_names (by simp [DistinctNames, names]) fun p => by cases p <;> simp [names]

theorem Direction.format_lawful : Direction.format.Lawful :=
  lawful_oneOf_names (by simp [DistinctNames]) fun d => by cases d <;> simp

theorem LinkMode.format_lawful : LinkMode.format.Lawful :=
  lawful_oneOf_names (by simp [DistinctNames]) fun m => by cases m <;> simp

theorem Mapping.format_lawful : Mapping.format.Lawful := by
  refine ⟨?_, fun mapping => by cases mapping <;> simp [Variants.Covers, scalarArm, pointerArm]⟩
  simp [Variants.Lawful, Variants.names, Scalar.format_lawful, Pointee.format_lawful]

theorem NativeType.Kind.format_lawful : Kind.format.Lawful := by
  refine ⟨?_, fun kind => by cases kind <;> simp [Variants.Covers, arrayArm]⟩
  simp [Variants.Lawful, Variants.names, Format.Lawful, Fields.Lawful, Fields.names]

theorem NativeType.format_lawful : NativeType.format.Lawful := by
  simp [format, Format.Lawful, Fields.Lawful, Fields.names, Kind.format_lawful,
    Mapping.format_lawful]

theorem Modifier.format_lawful : Modifier.format.Lawful := by
  refine ⟨?_, fun m => by
    cases m <;>
      simp [Variants.Covers, pointerArrayArm, returnedArm, singleValueArm, multiTypeArm]⟩
  simp [Variants.Lawful, Variants.names, Format.Lawful, Fields.Lawful, Fields.names,
    pointerArrayFormat, returnedFormat, singleValueFormat, multiTypeFormat, Format.encode,
    Value.text, Pointee.format_lawful]

theorem Binding.format_lawful : Binding.format.Lawful := by
  simp [format, Format.Lawful, Fields.Lawful, Fields.names]

namespace Declaration

theorem Returned.format_lawful : Returned.format.Lawful := by
  simp [format, Format.Lawful, Fields.Lawful, Fields.names, Modifier.format_lawful]

theorem Parameter.format_lawful : Parameter.format.Lawful := by
  simp [format, Format.Lawful, Fields.Lawful, Fields.names, Modifier.format_lawful,
    Direction.format_lawful, LinkMode.format_lawful]

theorem Function.format_lawful : Function.format.Lawful := by
  simp [format, Format.Lawful, Fields.Lawful, Fields.names, Returned.format_lawful,
    Parameter.format_lawful]

theorem File.format_lawful : File.format.Lawful := by
  have written (b : Binding) : Binding.format.encode b ≠ .null := by
    simp [Binding.format, Format.encode]
  simp [format, Format.Lawful, Fields.Lawful, Fields.names, Binding.format_lawful,
    NativeType.format_lawful, Function.format_lawful, written]

/-- What is written for a declaration file is parsed as that file. -/
theorem File.parse_write (file : File) : File.parse (File.format.write file) = .ok file := by
  rw [parse, Format.read_write format_lawful]

end Declaration

end CallBoundary
