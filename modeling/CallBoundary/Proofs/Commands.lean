import CallBoundary.Command
import CallBoundary.Proofs.Building
import CallBoundary.Proofs.Listing

/-! The two commands side by side. Listing goes through one mode and the plain overloads, checking
through both modes and no overload; they accept the same files, because neither a mode nor a plain
overload refuses what the function itself allows. -/
namespace CallBoundary

namespace Declaration

variable {types : Table NativeType}

def Parameter.NeedsBinding (types : Table NativeType) (p : Parameter) : Prop :=
  p.isCallContext = false ∧ (∃ t, types.find? p.typeKey = some t ∧ t.kind = .object) ∧
    .nullable ∉ p.modifiers

/-- The raw variant takes an object of which the binding alone tells how it is passed. -/
def Function.NeedsBinding (types : Table NativeType) (d : Function) : Prop :=
  d.hasRawVariant = true ∧ ∃ p ∈ d.parameters, p.NeedsBinding types

theorem Parameter.needsBinding_iff {d : Function} {p : Parameter} {q : CallBoundary.Parameter}
    (built : d.buildParameter types p = .ok q) : q.needsBinding = true ↔ p.NeedsBinding types := by
  obtain ⟨-, context, found, members⟩ := Function.buildParameter_eq_ok built
  have nullable : q.has .nullable = true ↔ .nullable ∈ p.modifiers := by
    rw [← members, Element.has, ModifierSet.has_iff]
    constructor
    · intro has
      obtain ⟨m, member, kind⟩ := has
      cases m <;> first | exact member | contradiction
    · exact fun member => ⟨_, member, rfl⟩
  simp [CallBoundary.Parameter.needsBinding, NeedsBinding, context, found, ← nullable, and_assoc]

/-- The file that stands in the content, and the types that it resolves to. -/
structure Content.Holds (content : Content) (file : File) (types : Table NativeType) : Prop where
  loaded : File.load content = .ok file
  resolved : file.resolveTypes = .ok types

theorem Content.Holds.unique {content : Content} {file other : File}
    {types others : Table NativeType} (held : content.Holds file types)
    (found : content.Holds other others) : file = other ∧ types = others := by
  cases held.loaded.symm.trans found.loaded
  cases held.resolved.symm.trans found.resolved
  exact ⟨rfl, rfl⟩

theorem Function.callable_unbound_iff {d : Function} (built : d.build types = .ok f) (mode : Mode) :
    (∃ call, f.call none mode = .ok call) ↔ ¬ d.NeedsBinding types := by
  obtain ⟨-, raw, parameters⟩ := build_fields built
  rw [← not_iff_not, not_ok_iff_error, BoundFunction.refused_iff (build_reachable built).sound, raw,
    not_not, NeedsBinding]
  refine and_congr_right fun _ => ?_
  constructor
  · intro refused
    obtain ⟨-, q, member, needing⟩ := refused
    obtain ⟨p, declared, built⟩ := partner_of_mem parameters.flip member
    exact ⟨p, declared, (Parameter.needsBinding_iff built).mp needing⟩
  · intro needing
    obtain ⟨p, member, needing⟩ := needing
    obtain ⟨q, found, built⟩ := partner_of_mem parameters member
    exact ⟨rfl, q, found, (Parameter.needsBinding_iff built).mpr needing⟩

theorem Function.callable_in_every_mode {d : Function} (mode : Mode) :
    (∃ f, d.build types = .ok f ∧ ∃ call, f.call binding mode = .ok call) ↔
      ∃ f, d.build types = .ok f ∧ ∀ other, ∃ call, f.call binding other = .ok call := by
  constructor
  · intro callable
    obtain ⟨f, built, callable⟩ := callable
    have sound := (build_reachable built).sound
    exact ⟨f, built, fun other =>
      (BoundFunction.callable_in_other_mode sound mode other).mp callable⟩
  · intro callable
    obtain ⟨f, built, callable⟩ := callable
    exact ⟨f, built, callable mode⟩

end Declaration

theorem Check.refusedCall_eq_none {f : BoundFunction} : Check.refusedCall f binding = none ↔
    ∀ mode, ∃ call, f.call binding mode = .ok call := by
  rw [refusedCall, List.findSome?_eq_none_iff]
  constructor
  · intro none mode
    have tried := none mode (by cases mode <;> simp)
    cases called : f.call binding mode with
    | ok call => exact ⟨call, rfl⟩
    | error refusal => simp [called] at tried
  · intro callable mode _
    obtain ⟨call, called⟩ := callable mode
    simp [called]

/-- The warning about a missing binding does not count. -/
theorem Check.function_fine {d : Declaration.Function} :
    (∀ diagnostic ∈ Check.function types binding d, diagnostic.severity ≠ .error) ↔
      ∃ f, d.build types = .ok f ∧ ∀ mode, ∃ call, f.call binding mode = .ok call := by
  simp only [Check.function]
  cases d.build types with
  | error failure => simp [Diagnostic.ofFailure, Diagnostic.plain]
  | ok f =>
    simp only [Except.ok.injEq, exists_eq_left', ← refusedCall_eq_none, builtFunction]
    cases Check.refusedCall f binding with
    | some refusal => simp [Diagnostic.ofFailure, Diagnostic.plain]
    | none =>
      simp only [Option.toList_none, List.map_nil, List.nil_append, iff_true]
      intro diagnostic member
      split at member <;> simp_all [unboundVariant, Diagnostic.plain]

namespace Command

open Declaration

variable {options : LowerOptions} {content : Content} {file : File} {types : Table NativeType}
  {functions : List BoundFunction}

/-- The binding under which the functions of a file are listed. -/
def LowerOptions.binding (options : LowerOptions) (file : File) : Option Binding :=
  if options.noBinding then none else file.binding

theorem ofResult_exit {result : Except Failure Outcome} :
    (ofResult result).exit = 0 ↔ ∃ outcome, result = .ok outcome ∧ outcome.exit = 0 := by
  cases result <;> simp [ofResult, Outcome.failed]

/-- The listing of a file with these functions, and what came up on the way. -/
def LowerOptions.listing (options : LowerOptions) (file : File) (functions : List BoundFunction) :
    String × Report :=
  Listing.all options.toOptions (options.binding file) functions .empty

theorem lowerFile_failed (errors : (options.listing file functions).2.hasErrors = true) :
    ∃ report error, lowerFile options file functions = .failed report error :=
  ⟨_, _, if_pos errors⟩

theorem lowerFile_listed (fine : (options.listing file functions).2.hasErrors = false) :
    lowerFile options file functions =
      if options.toFile then .success "" (some (options.listing file functions).1)
      else .success (options.listing file functions).1 none :=
  if_neg (Bool.eq_false_iff.mp fine)

theorem lowerFile_exit (sound : ∀ f ∈ functions, f.Sound) :
    (lowerFile options file functions).exit = 0 ↔
      ∀ f ∈ functions, ∃ call, f.call (options.binding file) options.mode = .ok call := by
  have accepted : (options.listing file functions).2.hasErrors = false ↔ _ :=
    Listing.all_hasErrors sound
  rw [← accepted]
  by_cases errors : (options.listing file functions).2.hasErrors = true
  · obtain ⟨report, error, failed⟩ := lowerFile_failed errors
    simp [failed, errors, Outcome.failed]
  · have fine := Bool.eq_false_iff.mpr errors
    rw [lowerFile_listed fine]
    split <;> simp [fine, Outcome.success]

/-- Each function has been built by the time the first is listed. -/
theorem lower_eq_lowerFile (held : content.Holds file types)
    (built : List.Forall₂ (fun d f => d.build types = .ok f) file.functions functions) :
    lower options content = lowerFile options file functions := by
  have built := File.build_eq_ok.mpr ⟨types, held.resolved, built⟩
  simp [lower, held.loaded, built, bind, Except.bind, pure, Except.pure, ofResult]

theorem exists_of_lower_exit (exit : (lower options content).exit = 0) : ∃ file types functions,
    content.Holds file types ∧
      List.Forall₂ (fun d f => d.build types = .ok f) file.functions functions := by
  simp only [lower, ofResult_exit, bind_eq_ok, File.build_eq_ok] at exit
  obtain ⟨_, ⟨file, loaded, functions, ⟨types, resolved, built⟩, -⟩, -⟩ := exit
  exact ⟨file, types, functions, ⟨loaded, resolved⟩, built⟩

theorem lower_exit : (lower options content).exit = 0 ↔ ∃ file types,
    content.Holds file types ∧ ∀ d ∈ file.functions, ∃ f, d.build types = .ok f ∧
      ∃ call, f.call (options.binding file) options.mode = .ok call := by
  constructor
  · intro exit
    obtain ⟨file, types, functions, held, built⟩ := exists_of_lower_exit exit
    rw [lower_eq_lowerFile held built, lowerFile_exit (Function.built_sound built)] at exit
    exact ⟨file, types, held, exists_results.mp ⟨functions, built, exit⟩⟩
  · intro accepted
    obtain ⟨file, types, held, each⟩ := accepted
    obtain ⟨functions, built, callable⟩ := exists_results.mpr each
    rw [lower_eq_lowerFile held built, lowerFile_exit (Function.built_sound built)]
    exact callable

theorem lower_unbound_exit (held : content.Holds file types)
    (builds : ∀ d ∈ file.functions, ∃ f, d.build types = .ok f) :
    (lower { options with noBinding := true } content).exit = 0 ↔
      ∀ d ∈ file.functions, ¬ d.NeedsBinding types := by
  rw [lower_exit]
  constructor
  · intro accepted d member
    obtain ⟨_, _, found, each⟩ := accepted
    obtain ⟨rfl, rfl⟩ := held.unique found
    obtain ⟨f, built, callable⟩ := each d member
    exact (Function.callable_unbound_iff built options.mode).mp callable
  · intro spared
    refine ⟨file, types, held, fun d member => ?_⟩
    obtain ⟨f, built⟩ := builds d member
    exact ⟨f, built, (Function.callable_unbound_iff built options.mode).mpr (spared d member)⟩

theorem lower_failed (exit : (lower options content).exit ≠ 0) :
    ∃ report error, lower options content = .failed report error := by
  rw [lower] at exit ⊢
  generalize computed : (do
    let file ← File.load content
    return lowerFile options file (← file.build)) = result at exit ⊢
  cases result with
  | error failure => exact ⟨_, _, rfl⟩
  | ok outcome =>
    obtain ⟨file, -, computed⟩ := bind_eq_ok.mp computed
    obtain ⟨functions, -, ⟨⟩⟩ := bind_eq_ok.mp computed
    by_cases errors : (options.listing file functions).2.hasErrors = true
    · exact lowerFile_failed errors
    · refine absurd ?_ exit
      rw [ofResult, lowerFile_listed (Bool.eq_false_iff.mpr errors)]
      split <;> rfl

theorem lower_listed (exit : (lower options content).exit = 0) : ∃ file types functions texts,
    content.Holds file types ∧
      List.Forall₂ (fun d f => d.build types = .ok f) file.functions functions ∧
      List.Forall₂ (Listing.Entry options.toOptions (options.binding file)) functions texts ∧
      (lower options content).stdout = (if options.toFile then "" else String.join texts) ∧
      (lower options content).output =
        if options.toFile then some (String.join texts) else none := by
  obtain ⟨file, types, functions, held, built⟩ := exists_of_lower_exit exit
  have sound := Function.built_sound built
  rw [lower_eq_lowerFile held built] at exit ⊢
  rw [lowerFile_exit sound] at exit
  obtain ⟨texts, entries⟩ := exists_partners.mpr fun f member =>
    (Listing.exists_entry (sound f member)).mpr (exit f member)
  have listed : options.listing file functions = (String.join texts, .empty) :=
    Listing.all_entries entries
  refine ⟨file, types, functions, texts, held, built, entries, ?_⟩
  rw [lowerFile_listed (by rw [listed]; rfl), listed]
  split <;> exact ⟨rfl, rfl⟩

theorem checkFile_exit : (checkFile path types file).exit = 0 ↔
    ∀ d ∈ file.functions, ∃ f, d.build types = .ok f ∧
      ∀ mode, ∃ call, f.call file.binding mode = .ok call := by
  have accepted : (Check.file types file).hasErrors = false ↔ ∀ d ∈ file.functions,
      ∃ f, d.build types = .ok f ∧ ∀ mode, ∃ call, f.call file.binding mode = .ok call := by
    simp only [Check.file, Report.foldl_add_hasErrors, Report.empty_hasErrors, true_and,
      List.mem_flatMap, ← Check.function_fine]
    exact ⟨fun fine d member diagnostic said => fine diagnostic ⟨d, member, said⟩,
      fun fine diagnostic ⟨d, member, said⟩ => fine d member diagnostic said⟩
  rw [← accepted]
  by_cases errors : (Check.file types file).hasErrors = true <;>
    simp [checkFile, errors, Outcome.failed, Outcome.success]

theorem check_exit : (check path content).exit = 0 ↔ ∃ file types,
    content.Holds file types ∧ ∀ d ∈ file.functions, ∃ f, d.build types = .ok f ∧
      ∀ mode, ∃ call, f.call file.binding mode = .ok call := by
  simp only [check, ofResult_exit, bind_eq_ok]
  constructor
  · intro accepted
    obtain ⟨_, ⟨file, loaded, types, resolved, ⟨⟩⟩, exit⟩ := accepted
    exact ⟨file, types, ⟨loaded, resolved⟩, checkFile_exit.mp exit⟩
  · intro accepted
    obtain ⟨file, types, held, each⟩ := accepted
    exact ⟨_, ⟨file, held.loaded, types, held.resolved, rfl⟩, checkFile_exit.mpr each⟩

/-- Listing fails exactly where checking does, and without the binding also where a raw variant
takes an object of which only the binding tells how it is passed. A failure puts nothing out, and
a success puts out an entry for each function of the file, in order. -/
theorem lower_check_agree (options : LowerOptions) (path : String) (content : Content) :
    ((lower { options with noBinding := false } content).exit = 0 ↔
      (check path content).exit = 0) ∧
    ((check path content).exit = 0 →
      ((lower { options with noBinding := true } content).exit ≠ 0 ↔ ∃ file types,
        content.Holds file types ∧ ∃ d ∈ file.functions, d.NeedsBinding types)) ∧
    ((lower options content).exit ≠ 0 →
      (lower options content).stdout = "" ∧ (lower options content).output = none) ∧
    ((lower options content).exit = 0 → ∃ file types functions texts,
      content.Holds file types ∧
        List.Forall₂ (fun d f => d.build types = .ok f) file.functions functions ∧
        List.Forall₂ (Listing.Entry options.toOptions (options.binding file)) functions texts ∧
        (lower options content).stdout = (if options.toFile then "" else String.join texts) ∧
        (lower options content).output =
          if options.toFile then some (String.join texts) else none) := by
  refine ⟨?_, fun exit => ?_, fun exit => ?_, lower_listed⟩
  · simp only [lower_exit, check_exit, LowerOptions.binding, Bool.false_eq_true, if_false,
      Function.callable_in_every_mode]
  · obtain ⟨file, types, held, each⟩ := check_exit.mp exit
    have builds (d : Function) (member : d ∈ file.functions) : ∃ f, d.build types = .ok f :=
      (each d member).imp fun _ => And.left
    rw [ne_eq, lower_unbound_exit held builds]
    simp only [not_forall, not_not, exists_prop]
    constructor
    · exact fun needing => ⟨file, types, held, needing⟩
    · intro needing
      obtain ⟨_, _, found, needing⟩ := needing
      obtain ⟨rfl, rfl⟩ := held.unique found
      exact needing
  · obtain ⟨report, error, failed⟩ := lower_failed exit
    rw [failed]
    exact ⟨rfl, rfl⟩

/-- A raw variant that takes an object. -/
def releaseText : String :=
  r#"{"binding":["CL"],"types":{"T":["T","object",{"pointer":"opaque_pointer"}]},"# ++
    r#""functions":[["clRelease",true,["void"],[["T","p"]]]]}"#

def handle : NativeType := ⟨"T", .object, .pointer .sealed, false⟩

def releaseFunction : Function :=
  ⟨"clRelease", true, .void, [⟨"T", "p", .input, "", "", .single, [], false⟩]⟩

def releaseFile : File := ⟨some ⟨"CL", false⟩, .ofList [("T", handle)], [releaseFunction]⟩

def releaseTypes : Table NativeType := .ofList [("T", handle), (voidKey, .void)]

theorem releaseText_holds :
    Content.Holds (.stored releaseText.toUTF8) releaseFile releaseTypes where
  loaded := by decide +kernel
  resolved := by decide +kernel

theorem releaseFunction_needsBinding : releaseFunction.NeedsBinding releaseTypes := by
  have found : releaseTypes.find? "T" = some handle := by decide +kernel
  exact ⟨rfl, _, List.mem_singleton.mpr rfl, rfl, ⟨handle, found, rfl⟩, by simp⟩

/-- With the binding the object is passed by its address, without it the listing fails. -/
theorem releaseText_lowered :
    (lower ⟨⟨.normal, true⟩, false, false⟩ (.stored releaseText.toUTF8)).exit = 0 ∧
      (lower ⟨⟨.normal, true⟩, false, false⟩ (.stored releaseText.toUTF8)).stdout =
        "// clRelease [special]\n" ++
        "managed: void clRelease(T p)\n" ++
        "void nclRelease(long p)\n" ++
        "typedef void (APIENTRY *clReleasePROC) (intptr_t);\n" ++
        "call: nclRelease(p.address())\n\n" ∧
      (lower ⟨⟨.normal, true⟩, true, false⟩ (.stored releaseText.toUTF8)).exit ≠ 0 ∧
      (lower ⟨⟨.normal, true⟩, true, false⟩ (.stored releaseText.toUTF8)).stdout = "" := by
  have checked : (check "cl.json" (.stored releaseText.toUTF8)).exit = 0 := by
    rw [check, releaseText_holds.loaded]
    decide +kernel
  obtain ⟨agree, unbound, -⟩ := lower_check_agree ⟨⟨.normal, true⟩, false, false⟩ "cl.json"
    (.stored releaseText.toUTF8)
  obtain ⟨-, -, silent, -⟩ := lower_check_agree ⟨⟨.normal, true⟩, true, false⟩ "cl.json"
    (.stored releaseText.toUTF8)
  have refused := (unbound checked).mpr ⟨_, _, releaseText_holds, releaseFunction,
    List.mem_singleton.mpr rfl, releaseFunction_needsBinding⟩
  refine ⟨agree.mpr checked, ?_, refused, (silent refused).1⟩
  rw [lower, releaseText_holds.loaded]
  decide +kernel

end Command

end CallBoundary
