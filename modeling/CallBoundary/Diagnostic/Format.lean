import CallBoundary.Diagnostic.Basic
import CallBoundary.Json.Format

/-! Diagnostics as JSON. -/
namespace CallBoundary

open Json

def Severity.format : Format Severity :=
  .oneOf (.ofNames [("Error", .error), ("Warning", .warning), ("Note", .note)])

def Subject.parameterArm : Arm String Subject where
  build := .parameter
  content?
    | .parameter name => some name
    | _ => none

def Subject.format : Format Subject :=
  .oneOf <| .holding "Parameter" .text parameterArm <| .plain "ReturnValue" .returnValue .nil

def Origin.view : View [Option String, Subject] Origin where
  build := fun (function, subject, ()) => ⟨function, subject⟩
  row origin := (origin.function, origin.subject, ())

def Origin.format : Format Origin :=
  .record (.record "ElementOrigin")
    (.cons "function" (.nullable none) (.optional .text) <|
      .cons "element" .required Subject.format .nil) view

def Diagnostic.view : View [Severity, String, Option Origin, List String] Diagnostic where
  build := fun (severity, message, origin, notes, ()) => ⟨severity, message, origin, notes⟩
  row d := (d.severity, d.message, d.origin, d.notes, ())

def Diagnostic.format : Format Diagnostic :=
  .record (.record "Diagnostic")
    (.cons "severity" .required Severity.format <| .cons "message" .required .text <|
      .cons "origin" (.nullable none) (.optional Origin.format) <|
      .cons "notes" .required (.list .text) .nil) view

end CallBoundary
