import CallBoundary.BoundFunction
import CallBoundary.Proofs.Building
import CallBoundary.Proofs.Tables

/-! What the keys of a declaration file stand for. Each declared key stands for its own type, the
key of the void type included: a file that declares it replaces the void type, and with it the
result of every function that declares none. -/
namespace CallBoundary

theorem NativeType.validate_eq_ok {t : NativeType} :
    t.validate = .ok () ↔ t.inconsistency = none := by
  rw [validate]
  cases t.inconsistency <;> simp

theorem NativeType.texts_of_void {t : NativeType} (consistent : t.inconsistency = none)
    (void : t.mapping = .void) : t.managedName = "void" ∧ t.prototypeName = "void" := by
  obtain ⟨way, passes⟩ := passes_of_consistent consistent
  cases passes <;> simp_all [managedName, prototypeName, Mapping.managedName, Mapping.prototypeName]

theorem BoundFunction.declarations_of_void {f : BoundFunction}
    (consistent : f.returned.nativeType.inconsistency = none) (void : f.returned.isVoid = true) :
    (∃ rest, f.managedDeclaration = "void " ++ rest) ∧
      ∃ rest, f.nativeDeclaration = "void " ++ rest := by
  obtain ⟨managed, prototype⟩ := NativeType.texts_of_void consistent (beq_iff_eq.mp void)
  have blank : "void" ++ " " = "void " := by decide
  have prefixed : "void" ++ " n" = "void " ++ "n" := by decide
  constructor
  · rw [managedDeclaration, managed, blank]
    exact ⟨_, by simp only [String.append_assoc]; rfl⟩
  · rw [nativeDeclaration, prototype, prefixed]
    exact ⟨_, by simp only [String.append_assoc]; rfl⟩

namespace Declaration

variable {file : File} {types table : Table NativeType}

theorem addTypes_eq_ok {entries : List (String × NativeType)} :
    addTypes table entries = .ok types ↔ (∀ entry ∈ entries, entry.2.inconsistency = none) ∧
      entries.foldl (fun table entry => table.insert entry.1 entry.2) table = types := by
  induction entries generalizing table with
  | nil => simp [addTypes]
  | cons entry entries ih =>
    obtain ⟨key, t⟩ := entry
    rw [addTypes, List.forall_mem_cons, List.foldl_cons, and_assoc, ← ih,
      ← NativeType.validate_eq_ok]
    refine bind_eq_ok.trans ⟨?_, fun parts => ⟨(), parts⟩⟩
    rintro ⟨⟨⟩, valid, rest⟩
    exact ⟨valid, rest⟩

/-- A declared type comes before the built-in one of the same key. -/
theorem File.resolved_find? (resolved : file.resolveTypes = .ok types) (key : String) :
    types.find? key = (file.types.find? key).or (if key = voidKey then some .void else none) := by
  obtain ⟨-, rfl⟩ := addTypes_eq_ok.mp resolved
  rw [Table.find?_foldl_insert file.types.ordered.distinctNames, Table.find?_insert,
    Table.find?_empty, Table.find?_eq_lookup]

/-- The type that the key of the void type stands for. -/
def File.voidType (file : File) : NativeType := (file.types.find? voidKey).getD .void

theorem File.resolved_void (resolved : file.resolveTypes = .ok types) :
    types.find? voidKey = some file.voidType := by
  rw [resolved_find? resolved, voidType]
  cases file.types.find? voidKey <;> simp

theorem File.voidType_mapping : file.voidType.mapping = .void ↔
    ∀ t, file.types.find? voidKey = some t → t.mapping = .void := by
  rw [voidType]
  cases file.types.find? voidKey <;> simp [NativeType.void]

/-- A result that is not declared has the type of the key and no modifiers. -/
theorem Function.build_leftOut {d : Function} {f : BoundFunction} (leftOut : d.returned = .void)
    (built : d.build types = .ok f) : ∃ t, types.find? voidKey = some t ∧
      f.returned = .ofType t ∧ t.inconsistency = none := by
  obtain ⟨result, parameters, base, returned, -, declared, rfl⟩ := build_eq_ok.mp built
  obtain ⟨consistent, -, rfl⟩ := BoundFunction.declare_eq_ok.mp declared
  obtain ⟨t, found, attached⟩ := bind_eq_ok.mp returned
  rw [leftOut] at found attached
  obtain rfl : .ofType t = result := Except.ok.inj (mapError_eq_ok.mp attached)
  refine ⟨t, lookup_eq_ok.mp found, ?_, consistent⟩
  cases d.hasRawVariant <;> rfl

/-- The key stands for the void type, and a function that declares no result has none, unless the
file declares another type under the key. -/
theorem File.void_of_leftOut (resolved : file.resolveTypes = .ok types) :
    types.find? voidKey = some ((file.types.find? voidKey).getD .void) ∧
      ∀ (d : Function) (f : BoundFunction), d.returned = .void → d.build types = .ok f →
        (f.returned.isVoid = true ↔
          ∀ t, file.types.find? voidKey = some t → t.mapping = .void) ∧
        (f.returned.isVoid = true → (∃ rest, f.managedDeclaration = "void " ++ rest) ∧
          ∃ rest, f.nativeDeclaration = "void " ++ rest) := by
  refine ⟨resolved_void resolved, fun d f leftOut built => ?_⟩
  obtain ⟨t, found, returned, consistent⟩ := Function.build_leftOut leftOut built
  cases found.symm.trans (resolved_void resolved)
  have type : f.returned.nativeType = file.voidType := by
    rw [returned]
    rfl
  have isVoid : f.returned.isVoid = true ↔ file.voidType.mapping = .void := by
    rw [ReturnValue.isVoid, beq_iff_eq, type]
  refine ⟨isVoid.trans voidType_mapping, fun void => ?_⟩
  exact BoundFunction.declarations_of_void (type ▸ consistent) void

/-- A function without a declared result. -/
def flush : Function := ⟨"glFlush", false, .void, []⟩

/-- A file with the function that declares a type under the key of the void type. -/
def redeclaring (t : NativeType) : File := ⟨none, .ofList [(voidKey, t)], [flush]⟩

def renamedVoid : NativeType := ⟨"GLvoid", .void, .void, false⟩

theorem renamedVoid_leftOut : ∃ f, flush.build (.ofList [(voidKey, renamedVoid)]) = .ok f ∧
    f.returned.isVoid = true ∧ (∃ rest, f.managedDeclaration = "void " ++ rest) ∧
    ∃ rest, f.nativeDeclaration = "void " ++ rest := by
  have resolved : (redeclaring renamedVoid).resolveTypes =
      .ok (.ofList [(voidKey, renamedVoid)]) := by decide +kernel
  have built : flush.build (.ofList [(voidKey, renamedVoid)]) =
      .ok ⟨"glFlush", false, .ofType renamedVoid, []⟩ := by decide +kernel
  have found : (redeclaring renamedVoid).types.find? voidKey = some renamedVoid := by
    decide +kernel
  obtain ⟨-, each⟩ := File.void_of_leftOut resolved
  obtain ⟨isVoid, texts⟩ := each flush _ rfl built
  have void := isVoid.mpr fun t other => by
    cases found.symm.trans other
    rfl
  exact ⟨_, built, void, texts void⟩

theorem redeclared_leftOut : ∃ types f,
    (redeclaring (.primitive "GLint" .int)).resolveTypes = .ok types ∧
    types.find? voidKey ≠ some .void ∧ flush.build types = .ok f ∧
    f.returned.isVoid = false ∧ f.managedDeclaration = "int glFlush()" ∧
    f.nativeDeclaration = "int nglFlush()" := by
  refine ⟨.ofList [(voidKey, .primitive "GLint" .int)],
    ⟨"glFlush", false, .ofType (.primitive "GLint" .int), []⟩, ?_⟩
  decide +kernel

end Declaration

end CallBoundary
