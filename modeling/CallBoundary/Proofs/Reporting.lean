import CallBoundary.Proofs.Listing

/-! Reports as histories of calls. A diagnostic may get notes until the next one is reported, and
nothing else ever changes it, so the counts are those of the diagnostics that are kept. A summary
tells both counts: the first by its first word, the other by what follows. -/
namespace CallBoundary.Report

/-- A call that reports a diagnostic. -/
inductive Call where
  | report (d : Diagnostic)
  | failure (failure : Failure)
  /-- A message of any severity. -/
  | message (severity : Severity) (text : String) (origin : Option Origin)
  deriving DecidableEq, Repr

/-- A call, with the notes that its diagnostic is given before the next call. -/
structure Step where
  call : Call
  late : List String
  deriving DecidableEq, Repr

def Call.perform (r : Report) : Call → Report
  | report d => r.add d
  | failure f => r.addFailure f
  | message severity text origin => r.add (.plain severity text origin)

def Step.perform (r : Report) (step : Step) : Report :=
  step.late.foldl noteLatest (step.call.perform r)

/-- The report that a history of calls leaves. -/
def after (history : List Step) : Report := history.foldl Step.perform .empty

/-- The diagnostic that is reported. -/
def Call.diagnostic : Call → Diagnostic
  | report d => d
  | failure f => ⟨.error, f.message, f.origin?, []⟩
  | message severity text origin => ⟨severity, text, origin, []⟩

/-- The diagnostic that is reported, with the late notes behind its own. -/
def Step.diagnostic (step : Step) : Diagnostic :=
  { step.call.diagnostic with notes := step.call.diagnostic.notes ++ step.late }

section after

variable {r : Report} {earlier : List Diagnostic} {latest : Diagnostic} {history : List Step}

theorem Call.perform_eq (call : Call) : call.perform r = r.add call.diagnostic := by
  cases call <;> rfl

theorem noteLatest_concat (last : r.diagnostics = earlier ++ [latest]) (note : String) :
    r.noteLatest note = { r with diagnostics := earlier ++ [latest.withNote note] } := by
  simp only [noteLatest, last, List.getLast?_concat, List.dropLast_concat]

/-- Late notes change the latest diagnostic alone. -/
theorem foldl_noteLatest (last : r.diagnostics = earlier ++ [latest]) (late : List String) :
    late.foldl noteLatest r =
      { r with diagnostics := earlier ++ [{ latest with notes := latest.notes ++ late }] } := by
  induction late generalizing r latest with
  | nil => rw [List.append_nil, List.foldl_nil, ← last]
  | cons note late ih =>
    rw [List.foldl_cons, noteLatest_concat last, ih rfl]
    simp [Diagnostic.withNote]

/-- A step adds its diagnostic as if the late notes had been there at once. -/
theorem Step.perform_eq (step : Step) : step.perform r = r.add step.diagnostic := by
  rw [perform, Call.perform_eq, foldl_noteLatest rfl]
  rfl

theorem after_eq (history : List Step) : after history = ⟨history.map Step.diagnostic,
    (history.map Step.diagnostic).countP (·.severity == .error),
    (history.map Step.diagnostic).countP (·.severity == .warning)⟩ := by
  have each : Step.perform = fun r step => r.add step.diagnostic :=
    funext₂ fun _ step => step.perform_eq
  rw [after, each, ← List.foldl_map, foldl_add, empty, List.nil_append, Nat.zero_add, Nat.zero_add]

end after

section summary

def plural (n : Nat) : String := if n = 1 then "" else "s"

def alsoWarnings : Nat → String
  | 0 => ""
  | warnings => " and " ++ counted warnings "warning"

/-- The first word of the summary of errors and warnings, and what follows behind a blank. -/
inductive Summary : Nat → Nat → String → String → Prop where
  | nothing : Summary 0 0 "No" "errors or warnings"
  | warnings (n : Nat) : Summary 0 n (toString n) ("warning" ++ plural n)
  | errors (n m : Nat) : Summary n m (toString n) ("error" ++ plural n ++ alsoWarnings m)

variable {n m k l : Nat} {first other rest more : String}

theorem counted_eq (n : Nat) (noun : String) :
    counted n noun = toString n ++ " " ++ (noun ++ plural n) := by
  rw [counted, String.append_assoc]
  rfl

theorem summary_parts (r : Report) : ∃ first rest,
    Summary r.errors r.warnings first rest ∧ r.summary = first ++ " " ++ rest := by
  obtain ⟨diagnostics, errors, warnings⟩ := r
  cases errors with
  | zero =>
    cases warnings with
    | zero => exact ⟨_, _, .nothing, rfl⟩
    | succ n => exact ⟨_, _, .warnings (n + 1), counted_eq (n + 1) "warning"⟩
  | succ n =>
    have shown : summary ⟨diagnostics, n + 1, warnings⟩ =
        counted (n + 1) "error" ++ alsoWarnings warnings := by
      cases warnings with
      | zero => exact String.append_empty.symm
      | succ m => exact String.append_assoc
    refine ⟨_, _, .errors (n + 1) warnings, ?_⟩
    rw [shown, counted_eq, String.append_assoc]

theorem isDigit_of_mem_toString : ∀ c ∈ (toString n).toList, c.isDigit = true := by
  intro c member
  rw [Nat.toString_eq_repr, Nat.toList_repr] at member
  exact Nat.isDigit_of_mem_toDigits (by decide) (by decide) member

theorem toString_whole (n : Nat) : ' ' ∉ (toString n).toList := by
  intro member
  have digit := isDigit_of_mem_toString ' ' member
  contradiction

theorem toString_ne_no : toString n ≠ "No" := by
  intro same
  have digit := isDigit_of_mem_toString 'N' (by rw [same]; decide)
  contradiction

theorem toString_inj (same : toString n = toString m) : n = m := by
  have digits : Nat.toDigits 10 n = Nat.toDigits 10 m := by
    rw [← Nat.toList_repr, ← Nat.toList_repr]
    exact congrArg String.toList same
  calc n
    _ = Nat.ofDigitChars 10 (Nat.toDigits 10 n) 0 := Nat.ofDigitChars_ten_toDigits.symm
    _ = Nat.ofDigitChars 10 (Nat.toDigits 10 m) 0 := by rw [digits]
    _ = m := Nat.ofDigitChars_ten_toDigits

theorem takeWhile_word {word behind : List Char} (whole : ' ' ∉ word) :
    (word ++ ' ' :: behind).takeWhile (· != ' ') = word := by
  have clean : ∀ c ∈ word, (c != ' ') = true :=
    fun c member => bne_iff_ne.mpr (ne_of_mem_of_not_mem member whole)
  rw [List.takeWhile_append_of_pos clean, List.takeWhile_cons_of_neg (by simp), List.append_nil]

/-- A word without blanks is told from what is behind the blank that follows it. -/
theorem first_word_inj (whole : ' ' ∉ first.toList) (whole' : ' ' ∉ other.toList)
    (same : first ++ " " ++ rest = other ++ " " ++ more) : first = other ∧ rest = more := by
  have letters : first.toList ++ ' ' :: rest.toList = other.toList ++ ' ' :: more.toList := by
    simpa [← String.toList_inj] using same
  have words := congrArg (List.takeWhile (· != ' ')) letters
  rw [takeWhile_word whole, takeWhile_word whole'] at words
  rw [words] at letters
  have behind := (List.cons.inj (List.append_cancel_left letters)).2
  exact ⟨String.toList_inj.mp words, String.toList_inj.mp behind⟩

theorem counted_inj {noun : String} (same : counted n noun = counted m noun) : n = m := by
  rw [counted_eq, counted_eq] at same
  exact toString_inj (first_word_inj (toString_whole n) (toString_whole m) same).1

theorem alsoWarnings_inj (same : alsoWarnings n = alsoWarnings m) : n = m := by
  cases n with
  | zero =>
    cases m with
    | zero => rfl
    | succ m => simp [alsoWarnings] at same
  | succ n =>
    cases m with
    | zero => simp [alsoWarnings] at same
    | succ m => exact counted_inj (by simpa [alsoWarnings] using same)

theorem warning_ne_error : "warning" ++ rest ≠ "error" ++ more := by
  intro same
  have letters := congrArg String.toList same
  simp at letters

theorem Summary.whole (summary : Summary n m first rest) : ' ' ∉ first.toList := by
  cases summary with
  | nothing => decide
  | warnings | errors => exact toString_whole _

/-- The words of a summary leave no choice of counts. -/
theorem Summary.unique (summary : Summary n m first rest) (again : Summary k l other more)
    (words : first = other) (behind : rest = more) : n = k ∧ m = l := by
  cases summary with
  | nothing =>
    cases again with
    | nothing => exact ⟨rfl, rfl⟩
    | warnings | errors => exact absurd words.symm toString_ne_no
  | warnings =>
    cases again with
    | nothing => exact absurd words toString_ne_no
    | warnings => exact ⟨rfl, toString_inj words⟩
    | errors =>
      rw [String.append_assoc] at behind
      exact absurd behind warning_ne_error
  | errors =>
    cases again with
    | nothing => exact absurd words toString_ne_no
    | warnings =>
      rw [String.append_assoc] at behind
      exact absurd behind.symm warning_ne_error
    | errors =>
      obtain rfl := toString_inj words
      exact ⟨rfl, alsoWarnings_inj (by simpa using behind)⟩

theorem summary_inj {r s : Report} :
    r.summary = s.summary ↔ r.errors = s.errors ∧ r.warnings = s.warnings := by
  constructor
  · intro same
    obtain ⟨first, rest, summary, shown⟩ := r.summary_parts
    obtain ⟨other, more, again, shown'⟩ := s.summary_parts
    rw [shown, shown'] at same
    obtain ⟨words, behind⟩ := first_word_inj summary.whole again.whole same
    exact summary.unique again words behind
  · rintro ⟨errors, warnings⟩
    rw [Report.summary, Report.summary, errors, warnings]

end summary

/-- Whatever is called, the report keeps what was reported, in order, and only ever grows at the
end. It counts the errors and warnings that it keeps, and its summary tells both counts. -/
theorem after_counted (history : List Step) :
    (after history).diagnostics = history.map Step.diagnostic ∧
    (∀ later, (after (history ++ later)).diagnostics =
      (after history).diagnostics ++ later.map Step.diagnostic) ∧
    (after history).errors = (after history).diagnostics.countP (·.severity = .error) ∧
    (after history).warnings = (after history).diagnostics.countP (·.severity = .warning) ∧
    ((after history).hasErrors = true ↔
      ∃ d ∈ (after history).diagnostics, d.severity = .error) ∧
    ∀ other : Report, (after history).summary = other.summary ↔
      (after history).errors = other.errors ∧ (after history).warnings = other.warnings := by
  refine ⟨?_, fun later => ?_, ?_, ?_, ?_, fun other => summary_inj⟩
  · rw [after_eq]
  · rw [after_eq, after_eq, List.map_append]
  · rw [after_eq]
    rfl
  · rw [after_eq]
    rfl
  · rw [after_eq, hasErrors, decide_eq_true_iff, List.countP_pos_iff]
    simp

end CallBoundary.Report
