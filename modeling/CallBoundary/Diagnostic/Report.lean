import CallBoundary.Diagnostic.Basic

/-! A report collects diagnostics in the order in which they come and counts the errors and
warnings among them. -/
namespace CallBoundary

structure Report where
  diagnostics : List Diagnostic
  errors : Nat
  warnings : Nat
  deriving DecidableEq, Repr

namespace Report

def empty : Report := ⟨[], 0, 0⟩

/-- Notes are kept but not counted. -/
def add (r : Report) (d : Diagnostic) : Report where
  diagnostics := r.diagnostics ++ [d]
  errors := if d.severity = .error then r.errors + 1 else r.errors
  warnings := if d.severity = .warning then r.warnings + 1 else r.warnings

def addFailure (r : Report) (failure : Failure) : Report := r.add (.ofFailure failure)

/-- Adds a note to the latest diagnostic. -/
def noteLatest (r : Report) (note : String) : Report :=
  match r.diagnostics.getLast? with
  | some latest => { r with diagnostics := r.diagnostics.dropLast ++ [latest.withNote note] }
  | none => r

def hasErrors (r : Report) : Bool := 0 < r.errors

/-- The number and the noun, in the plural unless there is one. -/
def counted (n : Nat) (noun : String) : String :=
  toString n ++ " " ++ noun ++ if n = 1 then "" else "s"

def summary (r : Report) : String :=
  match r.errors, r.warnings with
  | 0, 0 => "No errors or warnings"
  | 0, warnings => counted warnings "warning"
  | errors, 0 => counted errors "error"
  | errors, warnings => counted errors "error" ++ " and " ++ counted warnings "warning"

end Report

end CallBoundary
