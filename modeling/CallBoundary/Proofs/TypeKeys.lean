import CallBoundary.Proofs.FirstFault
import CallBoundary.Proofs.Resolution
import CallBoundary.Proofs.Rewriting

/-! Types and the keys they are declared under. The table stands in the order of the keys, so of
several inconsistent types the one under the least key is reported, wherever a file lists it. A key
stands for its own type alone, so a type matters to the functions that name its key. -/
namespace CallBoundary

section Ordered

variable {entries : List (String × α)} {find : String × α → Option β}

theorem Ordered.least_of_findSome? (ordered : Ordered entries)
    (hit : entries.findSome? find = some b) : ∃ entry ∈ entries, find entry = some b ∧
      ∀ other ∈ entries, find other ≠ none → entry.1 ≤ other.1 := by
  obtain ⟨before, entry, after, rfl, found, missed⟩ := List.findSome?_eq_some_iff.mp hit
  refine ⟨entry, by simp, found, fun other member hits => ?_⟩
  rcases List.mem_append.mp member with earlier | later
  · exact absurd (missed other earlier) hits
  · rcases List.mem_cons.mp later with rfl | later
    · exact String.le_refl _
    · have lower := List.rel_of_pairwise_cons (List.pairwise_append.mp ordered).2.1 later
      exact String.not_lt.mp (String.lt_asymm lower)

/-- The first hit in the order of the names is the one under the least name. -/
theorem Ordered.findSome?_eq_some (ordered : Ordered entries) :
    entries.findSome? find = some b ↔ ∃ entry ∈ entries, find entry = some b ∧
      ∀ other ∈ entries, find other ≠ none → entry.1 ≤ other.1 := by
  refine ⟨ordered.least_of_findSome?, fun hit => ?_⟩
  obtain ⟨entry, member, found, low⟩ := hit
  cases first : entries.findSome? find with
  | none =>
    rw [List.findSome?_eq_none_iff.mp first entry member] at found
    contradiction
  | some c =>
    -- both are least, and no name is there twice
    obtain ⟨other, present, hits, lower⟩ := ordered.least_of_findSome? first
    have same := String.le_antisymm (low other present (by simp [hits]))
      (lower entry member (by simp [found]))
    rwa [List.inj_on_of_nodup_map ordered.distinctNames member present same, hits] at found

end Ordered

namespace Declaration

open Json

variable {file : File} {types more table : Table NativeType} {key : String} {t : NativeType}
  {failure : Failure}

theorem failureOf_addTypes {entries : List (String × NativeType)} :
    failureOf (addTypes table entries) =
      (entries.findSome? (·.2.inconsistency)).map .configuration := by
  induction entries generalizing table with
  | nil => rfl
  | cons entry entries ih =>
    obtain ⟨key, t⟩ := entry
    rw [addTypes, NativeType.validate, List.findSome?_cons]
    cases t.inconsistency with
    | none => exact ih
    | some reason => rfl

/-- Of the inconsistent types that the file declares, the one under the least key is so for the
reason. -/
structure File.LeastInconsistent (file : File) (key reason : String) : Prop where
  inconsistent : ∃ t, file.types.find? key = some t ∧ t.inconsistency = some reason
  least : ∀ other t, file.types.find? other = some t → t.inconsistency ≠ none → key ≤ other

theorem File.resolveTypes_eq_error : file.resolveTypes = .error failure ↔
    ∃ key reason, file.LeastInconsistent key reason ∧ failure = .configuration reason := by
  rw [← failureOf_eq_some, resolveTypes, failureOf_addTypes, Option.map_eq_some_iff]
  simp only [file.types.ordered.findSome?_eq_some, Prod.exists, Prod.forall, ← Table.find?_eq_some]
  constructor
  · rintro ⟨reason, ⟨key, t, declared, found, least⟩, rfl⟩
    exact ⟨key, reason, ⟨⟨t, declared, found⟩, least⟩, rfl⟩
  · rintro ⟨key, reason, ⟨⟨t, declared, found⟩, least⟩, rfl⟩
    exact ⟨reason, ⟨key, t, declared, found, least⟩, rfl⟩

theorem File.resolves_iff : (∃ types, file.resolveTypes = .ok types) ↔
    ∀ key t, file.types.find? key = some t → t.inconsistency = none := by
  simp only [resolveTypes, addTypes_eq_ok, exists_and_left, exists_eq', and_true, Prod.forall,
    Table.find?_eq_some]

/-- The keys under which a function looks for types. -/
def Function.typeKeys (d : Function) : List String :=
  d.returned.typeKey :: d.parameters.map (·.typeKey)

/-- What is built of a function is decided by what stands under the keys that it names. -/
theorem Function.build_congr {d : Function}
    (same : ∀ key ∈ d.typeKeys, more.find? key = types.find? key) :
    d.build more = d.build types := by
  obtain ⟨returned, parameters⟩ := List.forall_mem_cons.mp same
  have result : d.buildReturned more = d.buildReturned types := by
    rw [buildReturned, buildReturned, lookup, lookup, returned]
  have each : ∀ p ∈ d.parameters, d.buildParameter more p = d.buildParameter types p := by
    intro p member
    have found := parameters _ (List.mem_map_of_mem member)
    rw [buildParameter, buildParameter, lookup, lookup, found]
  rw [build, build, result, mapM_congr each]

def File.declaring (file : File) (key : String) (t : NativeType) : File :=
  { file with types := file.types.insert key t }

theorem File.declaring_find? (file : File) (key : String) (t : NativeType) (name : String) :
    (file.declaring key t).types.find? name =
      if name = key then some t else file.types.find? name :=
  Table.find?_insert

theorem File.declaring_resolves (resolved : file.resolveTypes = .ok types)
    (consistent : t.inconsistency = none) :
    ∃ more, (file.declaring key t).resolveTypes = .ok more := by
  have every := resolves_iff.mp ⟨types, resolved⟩
  refine resolves_iff.mpr fun name u declared => ?_
  rw [declaring_find?] at declared
  split at declared
  · cases declared
    exact consistent
  · exact every name u declared

theorem File.declaring_fails (fails : file.resolveTypes = .error failure)
    (undeclared : file.types.find? key = none) (consistent : t.inconsistency = none) :
    (file.declaring key t).resolveTypes = .error failure := by
  obtain ⟨least, reason, ⟨⟨u, declared, found⟩, lower⟩, rfl⟩ := resolveTypes_eq_error.mp fails
  refine resolveTypes_eq_error.mpr ⟨least, reason, ⟨⟨u, ?_, found⟩, ?_⟩, rfl⟩
  · have other : least ≠ key := by
      rintro rfl
      cases undeclared.symm.trans declared
    rw [declaring_find?, if_neg other, declared]
  · intro name v declared hits
    rw [declaring_find?] at declared
    split at declared
    · cases declared
      contradiction
    · exact lower name v declared hits

/-- Each key but the one of the void type stands for what the file declares under it. -/
theorem File.resolved_declared (resolved : file.resolveTypes = .ok types) (other : key ≠ voidKey) :
    types.find? key = file.types.find? key := by
  rw [resolved_find? resolved, if_neg other, Option.or_none]

/-- A further type changes nothing for the functions that do not name its key. -/
theorem File.declaring_builds (resolved : file.resolveTypes = .ok types)
    (again : (file.declaring key t).resolveTypes = .ok more) {d : Function}
    (unnamed : key ∉ d.typeKeys) : d.build more = d.build types := by
  refine Function.build_congr fun name named => ?_
  have other : name ≠ key := ne_of_mem_of_not_mem named unnamed
  rw [resolved_find? again, resolved_find? resolved, declaring_find?, if_neg other]

theorem File.build_of_resolved (resolved : file.resolveTypes = .ok types) :
    file.build = file.functions.mapM fun d => d.build types := by
  rw [build, resolved]
  rfl

theorem File.declaring_build (unnamed : ∀ d ∈ file.functions, key ∉ d.typeKeys)
    (consistent : t.inconsistency = none)
    (fits : (∃ types, file.resolveTypes = .ok types) ∨ file.types.find? key = none) :
    (file.declaring key t).build = file.build := by
  cases resolved : file.resolveTypes with
  | ok types =>
    obtain ⟨more, again⟩ := declaring_resolves resolved consistent
    rw [build_of_resolved again, build_of_resolved resolved]
    exact mapM_congr fun d member => declaring_builds resolved again (unnamed d member)
  | error failure =>
    have undeclared := fits.resolve_left (by simp [resolved])
    rw [build, build, declaring_fails resolved undeclared consistent, resolved]
    rfl

/-- Types are resolved unless one is inconsistent, and of these the one under the least key is
reported: in whatever order the file lists its keys, and whatever else stands in it. Resolved keys
stand for what is declared, and a type that is added matters to the functions alone that name its
key. -/
theorem File.types_resolved (file : File) :
    ((∃ types, file.resolveTypes = .ok types) ↔
      ∀ key t, file.types.find? key = some t → t.inconsistency = none) ∧
    (∀ failure, file.resolveTypes = .error failure ↔
      ∃ key reason, file.LeastInconsistent key reason ∧ failure = .configuration reason) ∧
    (∀ members others, (Format.table NativeType.format).decode (.object members) = .ok file.types →
      Rearranged members others →
      ∃ table, (Format.table NativeType.format).decode (.object others) = .ok table ∧
        ∀ binding functions, (File.mk binding table functions).resolveTypes = file.resolveTypes) ∧
    (∀ types, file.resolveTypes = .ok types →
      (∀ key t, key ≠ voidKey → (types.find? key = some t ↔ file.types.find? key = some t)) ∧
      ∀ key t, t.inconsistency = none → ∃ more, (file.declaring key t).resolveTypes = .ok more ∧
        more.find? key = some t ∧
          ∀ d : Function, key ∉ d.typeKeys → d.build more = d.build types) ∧
    ∀ key t, t.inconsistency = none → (∀ d ∈ file.functions, key ∉ d.typeKeys) →
      (∃ types, file.resolveTypes = .ok types) ∨ file.types.find? key = none →
      (file.declaring key t).build = file.build := by
  refine ⟨resolves_iff, fun _ => resolveTypes_eq_error, fun members others read moved => ?_,
    fun types resolved => ⟨fun key t other => ?_, fun key t consistent => ?_⟩,
    fun key t consistent unnamed fits => declaring_build unnamed consistent fits⟩
  · exact ⟨file.types, Format.decode_table_rearranged moved read, fun _ _ => rfl⟩
  · rw [resolved_declared resolved other]
  · obtain ⟨more, again⟩ := declaring_resolves resolved consistent
    refine ⟨more, again, ?_, fun d unnamed => declaring_builds resolved again unnamed⟩
    rw [resolved_find? again, declaring_find?, if_pos rfl, Option.some_or]

def misfit : NativeType := ⟨"GLenum", .pointer, .scalar .int, false⟩

def lengthless : NativeType := .array "GLfloat" .floats 0

def faulty : File := ⟨none, .ofList [("vec", lengthless), ("enum", misfit)], []⟩

/-- The types of the file in a document, the greater key in front. -/
def faultyMembers : List Member :=
  [member "vec" (NativeType.format.encode lengthless),
    member "enum" (NativeType.format.encode misfit)]

def clearMask : Function :=
  ⟨"glClear", false, .void, [⟨"mask", "mask", .input, "", "", .single, [], false⟩]⟩

def clearing : File := ⟨none, .ofList [("mask", .primitive "GLbitfield" .int)], [clearMask]⟩

theorem misfit_least : faulty.LeastInconsistent "enum"
    "native type `GLenum` has kind Pointer incompatible with mapping Primitive(Int)" := by
  refine ⟨⟨misfit, by decide +kernel, by decide +kernel⟩, fun other t declared _ => ?_⟩
  have entries : faulty.types.entries = [("enum", misfit), ("vec", lengthless)] := by
    decide +kernel
  rw [Table.find?_eq_some, entries, List.mem_pair, Prod.mk.injEq, Prod.mk.injEq] at declared
  rcases declared with ⟨rfl, -⟩ | ⟨rfl, -⟩ <;> decide

theorem misfit_reported : ∃ failure, failure = .configuration
      "native type `GLenum` has kind Pointer incompatible with mapping Primitive(Int)" ∧
    faulty.resolveTypes = .error failure ∧
    (∃ table, (Format.table NativeType.format).decode (.object faultyMembers.reverse) = .ok table ∧
      (File.mk none table [clearMask]).resolveTypes = .error failure) ∧
    (clearing.declaring "window" (.object "Window")).build = clearing.build := by
  obtain ⟨-, reported, order, -⟩ := faulty.types_resolved
  obtain ⟨-, -, -, -, added⟩ := clearing.types_resolved
  have first := (reported _).mpr ⟨"enum", _, misfit_least, rfl⟩
  have item (t : NativeType) := Format.decode_encode _ NativeType.format_lawful t
  have read : (Format.table NativeType.format).decode (.object faultyMembers) = .ok faulty.types :=
    Format.decode_table.mpr ⟨[("vec", lengthless), ("enum", misfit)],
      .cons ⟨rfl, item lengthless⟩ (.cons ⟨rfl, item misfit⟩ .nil), rfl⟩
  obtain ⟨table, rearranged, alike⟩ := order faultyMembers faultyMembers.reverse read
    (rearranged_of_perm (by decide) faultyMembers.reverse_perm.symm)
  exact ⟨_, rfl, first, ⟨table, rearranged, (alike none [clearMask]).trans first⟩,
    added "window" (.object "Window") rfl (by decide) (.inr (by decide +kernel))⟩

end Declaration

end CallBoundary
