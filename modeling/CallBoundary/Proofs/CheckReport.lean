import CallBoundary.Proofs.Commands
import CallBoundary.Proofs.Findings

/-! What checking a file reports. Each function has its own part of the report: the failure of its
build, or the refusal of its call with the warning behind it, or the warning alone, or nothing. So
no function is reported for two errors, and the first failed build is the one that building the
whole file ends with. -/
namespace CallBoundary

namespace Check

open Declaration (File)
open Listing (unboundParameter ofFailure_missingBinding)

variable {types : Table NativeType} {binding : Option Binding} {d : Declaration.Function}
  {declared : List Declaration.Function} {said : List (List Diagnostic)} {ds : List Diagnostic}

theorem refusedCall_eq_some (sound : f.Sound) : refusedCall f binding = some refusal ↔
    ∀ mode, f.call binding mode = .error refusal := by
  constructor
  · intro found mode
    obtain ⟨tried, -, failed⟩ := List.exists_of_findSome?_eq_some found
    have refused : f.call binding tried = .error refusal := by
      cases called : f.call binding tried <;> simp_all
    exact (BoundFunction.refused_in_other_mode sound tried mode).mp refused
  · intro refused
    simp [refusedCall, refused]

/-- What is said of a declaration at fault. -/
def declarationError (origin : Origin) (reason : String) : Diagnostic where
  severity := .error
  message := "Declaration error in " ++ origin.text ++ ": " ++ reason
  origin := some origin
  notes := []

/-- What is said of a raw variant that nothing can load. -/
def unboundWarning (name : String) : Diagnostic where
  severity := .warning
  message := "`" ++ name ++ "` declares an unsafe variant but the file has no binding"
  origin := none
  notes := []

/-- The part that a function has in the report. -/
inductive Part (types : Table NativeType) (binding : Option Binding) (d : Declaration.Function) :
    List Diagnostic → Prop where
  | unbuilt (failed : d.build types = .error (.declaration ⟨some d.name, subject⟩ reason)) :
      Part types binding d [declarationError ⟨some d.name, subject⟩ reason]
  | refused {f : BoundFunction} (built : d.build types = .ok f)
      (first : f.parameters.find? Parameter.needsBinding = some p)
      (refused : ∀ mode, f.call binding mode =
        .error (.missingBinding ⟨some d.name, .parameter p.name⟩))
      (raw : f.hasRawVariant = true) (unbound : binding = none) :
      Part types binding d [unboundParameter d.name p.name, unboundWarning d.name]
  | warned {f : BoundFunction} (built : d.build types = .ok f)
      (callable : ∀ mode, ∃ call, f.call binding mode = .ok call)
      (spared : ∀ p ∈ f.parameters, p.needsBinding = false)
      (raw : f.hasRawVariant = true) (unbound : binding = none) :
      Part types binding d [unboundWarning d.name]
  | fine {f : BoundFunction} (built : d.build types = .ok f)
      (callable : ∀ mode, ∃ call, f.call binding mode = .ok call)
      (loaded : f.hasRawVariant = true → binding ≠ none) : Part types binding d []

theorem builtFunction_part (built : d.build types = .ok f) :
    Part types binding d (builtFunction f binding) := by
  have sound := (Declaration.Function.build_reachable built).sound
  have name := (Declaration.Function.build_fields built).1
  have warning : unboundVariant f = unboundWarning d.name := by
    rw [← name]
    rfl
  rw [builtFunction]
  cases tried : refusedCall f binding with
  | some refusal =>
    have refused := (refusedCall_eq_some sound).mp tried
    obtain ⟨raw, rfl, p, first, rfl⟩ := (BoundFunction.call_eq_error sound).mp (refused .normal)
    have error := ofFailure_missingBinding p f.name
    rw [name] at refused error
    simpa [raw, warning, error, name] using .refused built first refused raw rfl
  | none =>
    have callable := refusedCall_eq_none.mp tried
    by_cases loose : f.hasRawVariant = true ∧ binding = none
    · obtain ⟨raw, rfl⟩ := loose
      have spared : ∀ p ∈ f.parameters, p.needsBinding = false := by
        intro p member
        refine Bool.eq_false_iff.mpr fun needing => ?_
        refine not_ok_iff_error.mpr ?_ (callable .normal)
        exact (BoundFunction.refused_iff sound).mpr ⟨raw, rfl, p, member, needing⟩
      simpa [raw, warning] using .warned built callable spared raw rfl
    · have quiet : (f.hasRawVariant && binding.isNone) = false :=
        Bool.eq_false_iff.mpr fun both => loose (by simpa using both)
      simpa [quiet] using .fine built callable fun raw unbound => loose ⟨raw, unbound⟩

theorem function_part : Part types binding d (function types binding d) := by
  rw [function]
  cases built : d.build types with
  | error failure =>
    obtain ⟨subject, reason, rfl⟩ := Declaration.Function.build_fault built
    exact .unbuilt built
  | ok f => exact builtFunction_part built

/-- The function cannot be built, or its call cannot be written in one of the modes. -/
def isFaulty (types : Table NativeType) (binding : Option Binding) (d : Declaration.Function) :
    Bool :=
  match d.build types with
  | .ok f => f.isRefused binding .normal || f.isRefused binding .alternative
  | .error _ => true

/-- What is said if something cannot be built. -/
def buildError? (built : Except Failure α) : Option Diagnostic :=
  (failureOf built).map fun failure => ⟨.error, failure.message, failure.origin?, []⟩

/-- The diagnostic is about a function of the file that cannot be built. -/
def isBuildError (types : Table NativeType) (file : File) (diagnostic : Diagnostic) : Bool :=
  file.functions.any fun d => buildError? (d.build types) == some diagnostic

theorem buildError?_ok {a : α} : buildError? (.ok a : Except Failure α) = none := rfl

theorem buildError?_declaration :
    buildError? (.error (.declaration origin reason) : Except Failure α) =
      some (declarationError origin reason) := rfl

theorem buildError?_mapM_cons {f : α → Except Failure β} {a : α} {as : List α} :
    buildError? ((a :: as).mapM f) = (buildError? (f a)).or (buildError? (as.mapM f)) := by
  rw [buildError?, failureOf_mapM_cons, Option.map_or]
  rfl

/-- The diagnostic says that a call cannot be written. -/
def IsLoweringError (diagnostic : Diagnostic) : Prop :=
  diagnostic.severity = .error ∧ "Lowering error in ".toList <+: diagnostic.message.toList

theorem declarationError_not_isLoweringError :
    ¬ IsLoweringError (declarationError origin reason) := by
  intro lowering
  obtain ⟨rest, letters⟩ := lowering.2
  simp [declarationError] at letters

/-- Only a declaration at fault keeps a function from being built. -/
theorem isBuildError_fault {file : File} {diagnostic : Diagnostic}
    (error : isBuildError types file diagnostic = true) :
    ∃ origin reason, diagnostic = declarationError origin reason := by
  obtain ⟨d, -, same⟩ := List.any_eq_true.mp error
  obtain ⟨failure, failed, rfl⟩ := Option.map_eq_some_iff.mp (beq_iff_eq.mp same)
  obtain ⟨subject, reason, rfl⟩ := d.build_fault (failureOf_eq_some.mp failed)
  exact ⟨_, reason, rfl⟩

theorem isBuildError_unboundWarning {file : File} :
    isBuildError types file (unboundWarning name) = false := by
  refine Bool.eq_false_iff.mpr fun error => ?_
  obtain ⟨origin, reason, same⟩ := isBuildError_fault error
  have severity := congrArg Diagnostic.severity same
  contradiction

theorem unboundParameter_isLoweringError : IsLoweringError (unboundParameter name parameter) := by
  refine ⟨rfl, ?_⟩
  simp only [unboundParameter, String.toList_append, List.append_assoc]
  exact List.prefix_append _ _

theorem isBuildError_unboundParameter {file : File} :
    isBuildError types file (unboundParameter name parameter) = false := by
  refine Bool.eq_false_iff.mpr fun error => ?_
  obtain ⟨origin, reason, same⟩ := isBuildError_fault error
  exact declarationError_not_isLoweringError (same ▸ unboundParameter_isLoweringError)

namespace Part

/-- The part holds one error if the function is faulty, and none otherwise. -/
theorem errors (part : Part types binding d ds) :
    ds.countP (·.severity == .error) = if isFaulty types binding d then 1 else 0 := by
  cases part with
  | unbuilt failed => simp [isFaulty, failed, declarationError]
  | refused built _ refused =>
    have normal := BoundFunction.isRefused_eq_true.mpr ⟨_, refused .normal⟩
    simp [isFaulty, built, normal, unboundParameter, unboundWarning]
  | warned built callable | fine built callable =>
    have normal := BoundFunction.isRefused_eq_false.mpr (callable .normal)
    have alternative := BoundFunction.isRefused_eq_false.mpr (callable .alternative)
    simp [isFaulty, built, normal, alternative, unboundWarning]

theorem errors_le_one (part : Part types binding d ds) :
    ds.countP (·.severity == .error) ≤ 1 := by
  rw [part.errors]
  split <;> omega

theorem find?_isBuildError {file : File} (part : Part types binding d ds)
    (member : d ∈ file.functions) :
    ds.find? (isBuildError types file) = buildError? (d.build types) := by
  cases part with
  | unbuilt failed =>
    have error : isBuildError types file (declarationError _ _) = true :=
      List.any_eq_true.mpr ⟨d, member, by rw [failed, buildError?_declaration, beq_self_eq_true]⟩
    rw [failed, buildError?_declaration, List.find?_cons_of_pos error]
  | refused built =>
    simp [built, buildError?_ok, isBuildError_unboundParameter, isBuildError_unboundWarning]
  | warned built => simp [built, buildError?_ok, isBuildError_unboundWarning]
  | fine built => simp [built, buildError?_ok]

end Part

/-- Each call that cannot be written is followed by the warning about its function. -/
def Followed (ds : List Diagnostic) : Prop :=
  ∀ (i : Nat) (diagnostic : Diagnostic), ds[i]? = some diagnostic → IsLoweringError diagnostic →
    ∃ name parameter, diagnostic.origin = some ⟨some name, .parameter parameter⟩ ∧
      ds[i + 1]? = some (unboundWarning name)

theorem Followed.cons {diagnostic : Diagnostic} (rest : Followed ds)
    (other : ¬ IsLoweringError diagnostic) : Followed (diagnostic :: ds) := by
  intro i error found lowering
  cases i with
  | zero =>
    rw [List.getElem?_cons_zero, Option.some.injEq] at found
    exact absurd (found ▸ lowering) other
  | succ i => exact rest i error found lowering

theorem Followed.warning (rest : Followed ds) : Followed (unboundWarning name :: ds) :=
  rest.cons fun lowering => nomatch lowering.1

theorem Followed.warned (rest : Followed ds) (name parameter : String) :
    Followed (unboundParameter name parameter :: unboundWarning name :: ds) := by
  intro i error found lowering
  cases i with
  | zero =>
    rw [List.getElem?_cons_zero, Option.some.injEq] at found
    subst found
    exact ⟨name, parameter, rfl, rfl⟩
  | succ i => exact rest.warning i error found lowering

theorem Part.followed (part : Part types binding d ds) (rest : Followed after) :
    Followed (ds ++ after) := by
  cases part with
  | unbuilt => exact rest.cons declarationError_not_isLoweringError
  | refused => exact rest.warned _ _
  | warned => exact rest.warning
  | fine => exact rest

section run

variable (parts : List.Forall₂ (Part types binding) declared said)

include parts

theorem followed_flatten : Followed said.flatten := by
  induction parts with
  | nil => simp [Followed]
  | cons part _ ih => exact part.followed ih

theorem errors_flatten :
    said.flatten.countP (·.severity == .error) = declared.countP (isFaulty types binding) := by
  induction parts with
  | nil => rfl
  | cons part _ ih => rw [List.flatten_cons, List.countP_append, part.errors, ih, List.countP_cons,
      Nat.add_comm]

theorem find?_flatten_isBuildError {file : File} (members : ∀ d ∈ declared, d ∈ file.functions) :
    said.flatten.find? (isBuildError types file) =
      buildError? (declared.mapM (·.build types)) := by
  induction parts with
  | nil => rfl
  | @cons d ds declared said part _ ih =>
    obtain ⟨member, members⟩ := List.forall_mem_cons.mp members
    rw [List.flatten_cons, List.find?_append, part.find?_isBuildError member, ih members,
      buildError?_mapM_cons]

end run

/-- What a report says of a file: the parts of its functions in order, none of them with two
errors; behind each call that cannot be written the warning about its function; as many errors as
there are faulty functions; and first among the failed builds the one that building the whole file
ends with. -/
structure Reported (types : Table NativeType) (file : File) (report : Report) : Prop where
  parts : ∃ said, List.Forall₂ (Part types file.binding) file.functions said ∧
    report.diagnostics = said.flatten ∧
    ∀ ds ∈ said, ds.countP (·.severity == .error) ≤ 1
  followed : Followed report.diagnostics
  errors : report.errors = file.functions.countP (isFaulty types file.binding)
  firstBuildError : report.diagnostics.find? (isBuildError types file) = buildError? file.build

theorem file_reported {file : File} (resolved : file.resolveTypes = .ok types) :
    Reported types file (Check.file types file) := by
  have parts : List.Forall₂ (Part types file.binding) file.functions
      (file.functions.map (function types file.binding)) := by
    rw [List.forall₂_map_right_iff, List.forall₂_same]
    exact fun _ _ => function_part
  have report : Check.file types file = _ := Report.foldl_add
  have diagnostics : (Check.file types file).diagnostics =
      (file.functions.map (function types file.binding)).flatten := by
    rw [report, List.flatMap_def]
    rfl
  have build : file.build = file.functions.mapM (·.build types) := by
    rw [File.build, resolved]
    rfl
  refine ⟨⟨_, parts, diagnostics, fun ds member => ?_⟩, ?_, ?_, ?_⟩
  · obtain ⟨d, -, part⟩ := partner_of_mem parts.flip member
    exact part.errors_le_one
  · rw [diagnostics]
    exact followed_flatten parts
  · rw [← errors_flatten parts, ← List.flatMap_def, report]
    exact Nat.zero_add _
  · rw [diagnostics, build]
    exact find?_flatten_isBuildError parts fun _ => id

end Check

namespace Command

open Declaration

/-- A diagnostic a line. -/
def lines (report : Report) : String := String.join (report.diagnostics.map (·.text ++ "\n"))

theorem check_held {content : Content} {file : File} {types : Table NativeType}
    (held : content.Holds file types) (path : String) :
    check path content = checkFile path types file := by
  simp [check, held.loaded, held.resolved, bind, Except.bind, pure, Except.pure, ofResult]

/-- The report of a file is what checking it puts out, and checking fails on any error in it. -/
theorem check_reported {content : Content} {file : File} {types : Table NativeType}
    (held : content.Holds file types) (path : String) :
    Check.Reported types file (Check.file types file) ∧
    ((check path content).exit ≠ 0 ↔ 0 < (Check.file types file).errors) ∧
    (check path content).stderr = lines (Check.file types file) ++
      if 0 < (Check.file types file).errors then
        "Error: " ++ (Check.file types file).summary ++ "\n" else "" := by
  refine ⟨Check.file_reported held.resolved, ?_⟩
  rw [check_held held, checkFile, Report.hasErrors]
  by_cases errors : 0 < (Check.file types file).errors
  · simp [errors, Outcome.failed, lines, String.append_assoc]
  · simp [errors, Outcome.success, lines]

/-- A result of a type that is not declared, an object that needs a binding, a raw variant of a
function without parameters, and a function without fault. -/
def mixedText : String :=
  r#"{"types":{"T":["T","object",{"pointer":"opaque_pointer"}]},"functions":["# ++
    r#"["clMap",true,["U"]],["clRelease",true,["void"],[["T","p"]]],"# ++
    r#"["clFlush",true],["clFinish"]]}"#

def mixedFile : File := ⟨none, .ofList [("T", handle)],
  [⟨"clMap", true, ⟨"U", []⟩, []⟩, releaseFunction, ⟨"clFlush", true, .void, []⟩,
    ⟨"clFinish", false, .void, []⟩]⟩

theorem mixedText_reported : Content.Holds (.stored mixedText.toUTF8) mixedFile releaseTypes ∧
    (Check.file releaseTypes mixedFile).diagnostics =
      [⟨.error, "Declaration error in return value of `clMap`: unknown native type `U`",
          some ⟨some "clMap", .returnValue⟩, []⟩,
        ⟨.error, "Lowering error in parameter `p` of `clRelease`: parameter `p` of " ++
            "`clRelease` needs an API binding, the function declares an unsafe variant " ++
            "but has no binding",
          some ⟨some "clRelease", .parameter "p"⟩, []⟩,
        ⟨.warning, "`clRelease` declares an unsafe variant but the file has no binding", none, []⟩,
        ⟨.warning, "`clFlush` declares an unsafe variant but the file has no binding", none, []⟩] ∧
    (Check.file releaseTypes mixedFile).errors = 2 ∧
    (check "cl.json" (.stored mixedText.toUTF8)).exit ≠ 0 := by
  have held : Content.Holds (.stored mixedText.toUTF8) mixedFile releaseTypes := by
    constructor <;> decide +kernel
  obtain ⟨reported, exit, -⟩ := check_reported held "cl.json"
  have errors : (Check.file releaseTypes mixedFile).errors = 2 :=
    reported.errors.trans (by decide +kernel)
  exact ⟨held, by decide +kernel, errors, exit.mpr (by rw [errors]; decide)⟩

end Command

end CallBoundary
