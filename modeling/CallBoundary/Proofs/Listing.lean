import CallBoundary.Listing
import CallBoundary.Proofs.BaseOverload

/-! What is listed. A plain overload is refused only where its function is, so each function adds
either its entry to the text or one complaint to the report, and neither changes what another
function adds. A listing is free of errors exactly if each function can be called. -/
namespace CallBoundary

namespace Report

variable {r : Report} {ds : List Diagnostic}

@[simp] theorem empty_hasErrors : empty.hasErrors = false := rfl

theorem foldl_add : ds.foldl add r = ⟨r.diagnostics ++ ds,
    r.errors + ds.countP (·.severity == .error),
    r.warnings + ds.countP (·.severity == .warning)⟩ := by
  induction ds generalizing r with
  | nil => simp
  | cons d ds ih =>
    rw [List.foldl_cons, ih]
    cases severity : d.severity <;> simp [add, severity, Nat.add_assoc, Nat.add_comm]

theorem foldl_add_hasErrors : (ds.foldl add r).hasErrors = false ↔
    r.hasErrors = false ∧ ∀ d ∈ ds, d.severity ≠ .error := by
  simp [foldl_add, hasErrors]

theorem foldl_add_errors (errors : ∀ d ∈ ds, d.severity = .error) :
    ds.foldl add r = ⟨r.diagnostics ++ ds, r.errors + ds.length, r.warnings⟩ := by
  have all : ds.countP (·.severity == .error) = ds.length :=
    List.countP_eq_length.mpr fun d member => by simp [errors d member]
  have none : ds.countP (·.severity == .warning) = 0 :=
    List.countP_eq_zero.mpr fun d member => by simp [errors d member]
  rw [foldl_add, all, none, Nat.add_zero]

end Report

def BoundFunction.isRefused (f : BoundFunction) (binding : Option Binding) (mode : Mode) : Bool :=
  !(f.call binding mode).isOk

theorem BoundFunction.isRefused_eq_false {f : BoundFunction} :
    f.isRefused binding mode = false ↔ ∃ call, f.call binding mode = .ok call := by
  rw [isRefused]
  cases f.call binding mode <;> simp [Except.isOk, Except.toBool]

theorem BoundFunction.isRefused_eq_true {f : BoundFunction} :
    f.isRefused binding mode = true ↔ ∃ refusal, f.call binding mode = .error refusal := by
  rw [← not_ok_iff_error, ← isRefused_eq_false, Bool.not_eq_false]

/-- Some parameter has a modifier of the array family. -/
def BoundFunction.TakesArrays (f : BoundFunction) : Prop :=
  ∃ p ∈ f.parameters, ∃ m ∈ p.modifiers.entries,
    m.kind ∈ [.pointerArray, .returned, .singleValue, .multiType]

theorem BoundFunction.hasArrayOverloads_iff {f : BoundFunction} :
    f.hasArrayOverloads = true ↔ f.TakesArrays := by
  simp only [hasArrayOverloads, TakesArrays, Parameter.hasArrayFamily, ModifierSet.hasArrayFamily,
    List.any_eq_true, ModifierSet.has_iff]
  constructor
  · rintro ⟨p, member, kind, inside, m, has, rfl⟩
    exact ⟨p, member, m, has, inside⟩
  · rintro ⟨p, member, m, has, inside⟩
    exact ⟨p, member, m.kind, inside, m, has, rfl⟩

namespace Listing

open BoundFunction (release upload release_reachable upload_reachable)

variable {options : Options} {binding : Option Binding} {mode : Mode} {f : BoundFunction}
  {label : String}

/-- The five lines of a block: a heading with the name and the routing of the function, and the
four texts that are generated for it. -/
inductive Block (binding : Option Binding) (mode : Mode) (label : String) (f : BoundFunction) :
    String → Prop where
  | lines (called : f.call binding mode = .ok call) : Block binding mode label f <|
      "// " ++ f.name ++ label ++
        (if f.isSpecial then " [special]" else " [passthrough]") ++ "\n" ++
      "managed: " ++ f.managedDeclaration ++ "\n" ++
      f.nativeDeclaration ++ "\n" ++
      f.pointerTypedef binding ++ "\n" ++
      "call: " ++ call ++ "\n"

theorem block_eq_ok : f.block binding mode label = .ok text ↔ Block binding mode label f text := by
  have routing : " [" ++ f.routing ++ "]\n" =
      (if f.isSpecial then " [special]" else " [passthrough]") ++ "\n" := by
    rw [BoundFunction.routing]
    split <;> decide
  rw [BoundFunction.block, map_eq_ok]
  constructor
  · intro written
    obtain ⟨call, called, rfl⟩ := written
    have lines : Block binding mode label f _ := .lines called
    simp only [String.append_assoc, ← routing] at lines ⊢
    exact lines
  · intro block
    cases block with
    | @lines call called =>
      refine ⟨call, called, ?_⟩
      simp only [String.append_assoc, ← routing]

/-- What is listed for a function: its block, behind it that of the plain overload where one is
asked for and there are array modifiers, and an empty line. -/
inductive Entry (options : Options) (binding : Option Binding) (f : BoundFunction) :
    String → Prop where
  | alone (block : Block binding options.mode "" f text)
      (plain : ¬ (options.baseOverloads = true ∧ f.TakesArrays)) :
      Entry options binding f (text ++ "\n")
  | withBase (block : Block binding options.mode "" f text)
      (asked : options.baseOverloads = true) (arrays : f.TakesArrays)
      (base : Block binding options.mode " (base overload)" f.baseOverload baseText) :
      Entry options binding f (text ++ baseText ++ "\n")

/-- The part of a function in the text: its entry, or nothing if it cannot be called. -/
inductive Chunk (options : Options) (binding : Option Binding) (f : BoundFunction) :
    String → Prop where
  | listed (entry : Entry options binding f text) : Chunk options binding f text
  | refused (refused : f.call binding options.mode = .error refusal) : Chunk options binding f ""

/-- What is said of a parameter that needs a binding where there is none. -/
def unboundParameter (function parameter : String) : Diagnostic where
  severity := .error
  message :=
    let place := "parameter `" ++ parameter ++ "` of `" ++ function ++ "`"
    "Lowering error in " ++ place ++ ": " ++ (place ++ " needs an API binding, " ++
      "the function declares an unsafe variant but has no binding")
  origin := some ⟨some function, .parameter parameter⟩
  notes := []

/-- The complaint about a function names it and the first parameter that needs a binding. -/
inductive Complaint (f : BoundFunction) : Diagnostic → Prop where
  | missingBinding (first : f.parameters.find? Parameter.needsBinding = some p) :
      Complaint f (unboundParameter f.name p.name)

theorem ofFailure_missingBinding (p : Parameter) (function : String) :
    Diagnostic.ofFailure (Refusal.missingBinding (p.origin.inFunction function)).failure =
      unboundParameter function p.name := by
  have place : (p.origin.inFunction function).text =
      "parameter `" ++ p.name ++ "` of `" ++ function ++ "`" := by
    simp only [Origin.text, Origin.inFunction, Parameter.origin, Origin.parameter, Subject.text,
      String.append_assoc]
    rfl
  rw [unboundParameter, ← place]
  rfl

theorem asksForBase_iff : (options.baseOverloads && f.hasArrayOverloads) = true ↔
    options.baseOverloads = true ∧ f.TakesArrays := by
  rw [Bool.and_eq_true, BoundFunction.hasArrayOverloads_iff]

theorem addFunction_entry (entry : Entry options binding f text) (before : String)
    (report : Report) :
    addFunction options binding (before, report) f = (before ++ text, report) := by
  cases entry with
  | @alone block listed plain =>
    have base : baseBlock options binding f = .ok "" := if_neg (mt asksForBase_iff.mp plain)
    simp [addFunction, block_eq_ok.mpr listed, base, String.append_assoc]
  | @withBase block baseText listed asked arrays base =>
    have base : baseBlock options binding f = .ok baseText :=
      (if_pos (asksForBase_iff.mpr ⟨asked, arrays⟩)).trans (block_eq_ok.mpr base)
    simp [addFunction, block_eq_ok.mpr listed, base, String.append_assoc]

theorem exists_entry (sound : f.Sound) :
    (∃ text, Entry options binding f text) ↔ ∃ call, f.call binding options.mode = .ok call := by
  constructor
  · intro listed
    obtain ⟨_, entry⟩ := listed
    cases entry with
    | alone block | withBase block => cases block with | lines called => exact ⟨_, called⟩
  · intro callable
    obtain ⟨call, called⟩ := callable
    have block : Block binding options.mode "" f _ := .lines called
    by_cases asked : options.baseOverloads = true ∧ f.TakesArrays
    · have main := block_eq_ok.mpr block
      obtain ⟨baseText, base⟩ := BoundFunction.baseBlock_eq_ok sound main
      rw [baseBlock, if_pos (asksForBase_iff.mpr asked)] at base
      exact ⟨_, .withBase block asked.1 asked.2 (block_eq_ok.mp base)⟩
    · exact ⟨_, .alone block asked⟩

/-- What functions add: a chunk each to the text, and a complaint for each that is refused. -/
structure Adds (options : Options) (binding : Option Binding) (functions : List BoundFunction)
    (texts : List String) (complaints : List Diagnostic) : Prop where
  texts : List.Forall₂ (Chunk options binding) functions texts
  complaints : List.Forall₂ Complaint
    (functions.filter (·.isRefused binding options.mode)) complaints

theorem Complaint.severity (complaint : Complaint f d) : d.severity = .error := by
  cases complaint
  rfl

/-- One function adds its entry or its complaint, whatever was listed before. -/
theorem addFunction_adds (sound : f.Sound) : ∃ text complaints,
    Adds options binding [f] [text] complaints ∧ ∀ before report,
      addFunction options binding (before, report) f =
        (before ++ text, complaints.foldl Report.add report) := by
  by_cases callable : ∃ call, f.call binding options.mode = .ok call
  · obtain ⟨text, entry⟩ := (exists_entry sound).mpr callable
    have kept : [f].filter (·.isRefused binding options.mode) = [] := by
      simp [BoundFunction.isRefused_eq_false.mpr callable]
    refine ⟨text, [], ⟨.cons (.listed entry) .nil, by rw [kept]; exact .nil⟩, ?_⟩
    exact addFunction_entry entry
  · obtain ⟨refusal, refused⟩ := not_ok_iff_error.mp callable
    obtain ⟨-, -, p, first, rfl⟩ := (BoundFunction.call_eq_error sound).mp refused
    have kept : [f].filter (·.isRefused binding options.mode) = [f] := by
      simp [BoundFunction.isRefused_eq_true.mpr ⟨_, refused⟩]
    refine ⟨"", [unboundParameter f.name p.name], ⟨.cons (.refused refused) .nil, ?_⟩,
      fun before report => ?_⟩
    · rw [kept]
      exact .cons ⟨first⟩ .nil
    · have main : f.block binding options.mode "" = .error _ := map_eq_error.mpr refused
      simp only [addFunction, main, String.append_empty, Report.addFailure,
        ofFailure_missingBinding, List.foldl_cons, List.foldl_nil]

/-- The chunks of a run stand in order, and so do its complaints. -/
theorem foldl_adds (options : Options) (binding : Option Binding) {functions : List BoundFunction}
    (sound : ∀ f ∈ functions, f.Sound) :
    ∃ texts complaints, Adds options binding functions texts complaints ∧ ∀ before report,
      functions.foldl (addFunction options binding) (before, report) =
        (before ++ String.join texts, complaints.foldl Report.add report) := by
  induction functions with
  | nil => exact ⟨[], [], ⟨.nil, .nil⟩, by simp⟩
  | cons f functions ih =>
    obtain ⟨head, tail⟩ := List.forall_mem_cons.mp sound
    obtain ⟨text, complaints, first, step⟩ := addFunction_adds head
    obtain ⟨texts, others, rest, run⟩ := ih tail
    refine ⟨text :: texts, complaints ++ others, ⟨?_, ?_⟩, fun before report => ?_⟩
    · exact .cons (List.forall₂_cons.mp first.texts).1 rest.texts
    · rw [← List.singleton_append, List.filter_append]
      exact List.rel_append first.complaints rest.complaints
    · rw [List.foldl_cons, step, run, String.join_cons, List.foldl_append, String.append_assoc]

theorem all_adds (options : Options) (binding : Option Binding) {functions : List BoundFunction}
    (sound : ∀ f ∈ functions, f.Sound) :
    ∃ texts complaints, Adds options binding functions texts complaints ∧
      ∀ report, all options binding functions report = (String.join texts,
        ⟨report.diagnostics ++ complaints, report.errors + complaints.length,
          report.warnings⟩) := by
  obtain ⟨texts, complaints, adds, run⟩ := foldl_adds options binding sound
  have errors : ∀ d ∈ complaints, d.severity = .error := by
    intro d member
    obtain ⟨f, -, complaint⟩ := partner_of_mem adds.complaints.flip member
    exact Complaint.severity complaint
  refine ⟨texts, complaints, adds, fun report => ?_⟩
  rw [all, run, String.empty_append, Report.foldl_add_errors errors]

theorem all_append {before after : List BoundFunction} (first : ∀ f ∈ before, f.Sound)
    (rest : ∀ f ∈ after, f.Sound) (report : Report) :
    all options binding (before ++ after) report =
      ((all options binding before report).1 ++
          (all options binding after (all options binding before report).2).1,
        (all options binding after (all options binding before report).2).2) := by
  obtain ⟨texts, complaints, -, run⟩ := foldl_adds options binding first
  obtain ⟨others, more, -, onward⟩ := foldl_adds options binding rest
  rw [all, List.foldl_append, run, onward, all, run, all, onward]
  simp only [String.empty_append]

theorem all_text {functions : List BoundFunction} (sound : ∀ f ∈ functions, f.Sound)
    (report other : Report) :
    (all options binding functions report).1 = (all options binding functions other).1 := by
  obtain ⟨_, _, -, run⟩ := all_adds options binding sound
  rw [run, run]

/-- A listing holds the chunks of its functions in order, and its report gains one complaint for
each function that is refused. So lists are listed part by part, and what is listed for a function
depends neither on its neighbours nor on the report. -/
theorem all_chunks {functions : List BoundFunction} (reachable : ∀ f ∈ functions, f.Reachable)
    (options : Options) (binding : Option Binding) :
    (∃ texts complaints, List.Forall₂ (Chunk options binding) functions texts ∧
      List.Forall₂ Complaint (functions.filter (·.isRefused binding options.mode)) complaints ∧
      ∀ report, all options binding functions report = (String.join texts,
        ⟨report.diagnostics ++ complaints, report.errors + complaints.length,
          report.warnings⟩)) ∧
    (∀ before after report, functions = before ++ after →
      all options binding functions report =
        ((all options binding before report).1 ++
            (all options binding after (all options binding before report).2).1,
          (all options binding after (all options binding before report).2).2)) ∧
    (∀ before f after r₁ r₂ r₃ r₄, functions = before ++ f :: after →
      (all options binding functions r₁).1 = (all options binding before r₂).1 ++
        (all options binding [f] r₃).1 ++ (all options binding after r₄).1) := by
  have sound : ∀ f ∈ functions, f.Sound := fun f member => (reachable f member).sound
  refine ⟨?_, fun before after report split => ?_, fun before f after r₁ r₂ r₃ r₄ split => ?_⟩
  · obtain ⟨texts, complaints, adds, run⟩ := all_adds options binding sound
    exact ⟨texts, complaints, adds.texts, adds.complaints, run⟩
  · subst split
    obtain ⟨first, rest⟩ := List.forall_mem_append.mp sound
    exact all_append first rest report
  · subst split
    obtain ⟨first, rest⟩ := List.forall_mem_append.mp sound
    obtain ⟨head, tail⟩ := List.forall_mem_cons.mp rest
    have alone : ∀ g ∈ [f], g.Sound := by simpa using head
    rw [all_append first rest, ← List.singleton_append, all_append alone tail]
    rw [all_text first r₁ r₂, all_text alone _ r₃, all_text tail _ r₄, String.append_assoc]

/-- Two functions that are refused, around one with a plain overload. -/
theorem releases_listed : (∀ f ∈ [release, upload, release], f.Reachable) ∧
    ∀ report, all ⟨.alternative, true⟩ none [release, upload, release] report =
      ("// glUpload [special]\n" ++
        "managed: void glUpload(int target, ByteBuffer pixels)\n" ++
        "void nglUpload(int target, long pixels)\n" ++
        "typedef void (APIENTRY *glUploadPROC) (GLenum, void *);\n" ++
        "call: nglUpload(target, memAddressSafe(pixels))\n" ++
        "// glUpload (base overload) [special]\n" ++
        "managed: void glUpload(int target, ByteBuffer pixels)\n" ++
        "void nglUpload(int target, long pixels)\n" ++
        "typedef void (APIENTRY *glUploadPROC) (GLenum, void *);\n" ++
        "call: nglUpload(target, memAddress(pixels))\n\n",
        ⟨report.diagnostics ++
          [unboundParameter "clRelease" "event", unboundParameter "clRelease" "event"],
          report.errors + 2, report.warnings⟩) := by
  have reachable : ∀ f ∈ [release, upload, release], f.Reachable := by
    simp [release_reachable, upload_reachable]
  obtain ⟨⟨texts, complaints, -, -, run⟩, -⟩ := all_chunks reachable ⟨.alternative, true⟩ none
  have joined := congrArg Prod.fst (run .empty)
  have complained : complaints =
      [unboundParameter "clRelease" "event", unboundParameter "clRelease" "event"] := by
    have reported := congrArg (·.2.diagnostics) (run .empty)
    refine Eq.trans (List.nil_append _).symm (reported.symm.trans ?_)
    decide +kernel
  refine ⟨reachable, fun report => ?_⟩
  rw [run, complained, Prod.mk.injEq]
  refine ⟨joined.symm.trans ?_, rfl⟩
  decide +kernel

theorem all_hasErrors {functions : List BoundFunction} (sound : ∀ f ∈ functions, f.Sound) :
    (all options binding functions .empty).2.hasErrors = false ↔
      ∀ f ∈ functions, ∃ call, f.call binding options.mode = .ok call := by
  obtain ⟨texts, complaints, adds, run⟩ := all_adds options binding sound
  have count := adds.complaints.length_eq
  have none : complaints.length = 0 ↔
      functions.filter (·.isRefused binding options.mode) = [] := by
    rw [← count, List.length_eq_zero_iff]
  simp only [run, Report.hasErrors, Report.empty, Nat.zero_add, decide_eq_false_iff_not,
    Nat.pos_iff_ne_zero, not_not, none, List.filter_eq_nil_iff, Bool.not_eq_true,
    BoundFunction.isRefused_eq_false]

theorem foldl_entries {functions : List BoundFunction} {texts : List String}
    (entries : List.Forall₂ (Entry options binding) functions texts) (before : String)
    (report : Report) : functions.foldl (addFunction options binding) (before, report) =
      (before ++ String.join texts, report) := by
  induction entries generalizing before with
  | nil => simp
  | cons entry _ ih =>
    rw [List.foldl_cons, addFunction_entry entry, ih, String.join_cons, String.append_assoc]

theorem all_entries {functions : List BoundFunction} {texts : List String} {report : Report}
    (entries : List.Forall₂ (Entry options binding) functions texts) :
    all options binding functions report = (String.join texts, report) := by
  rw [all, foldl_entries entries, String.empty_append]

end Listing

end CallBoundary
