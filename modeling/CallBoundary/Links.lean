import CallBoundary.Text

/-! The values that a parameter allows, appended to its documentation as links. -/
namespace CallBoundary

/-- How the links are introduced: as values to choose from or to combine, in a new sentence or in
the one that is there. -/
inductive LinkMode where
  | single
  | singleContinued
  | bitfield
  | bitfieldContinued
  deriving DecidableEq, Repr

namespace LinkMode

def isContinued : LinkMode → Bool
  | singleContinued => true
  | bitfieldContinued => true
  | _ => false

/-- A lone link has no alternatives, whatever the mode. -/
def introduction (mode : LinkMode) (several : Bool) : String :=
  if several then
    match mode with
    | single => "One of:"
    | singleContinued => "one of:"
    | bitfield => "One or more of:"
    | bitfieldContinued => "one or more of:"
  else if mode.isContinued then "must be:" else "Must be:"

/-- What stands between the documentation and the introduction. -/
def separator (mode : LinkMode) (documentation : String) : String :=
  if documentation.isEmpty then ""
  else if mode.isContinued || documentation.toList.getLast? == some '.' then " "
  else ". "

def append (mode : LinkMode) (documentation links : String) : String :=
  let documentation := Text.trim documentation
  let links := Text.trim links
  -- several links have a blank between them
  documentation ++ mode.separator documentation ++
    mode.introduction (links.toList.any Text.isBlank) ++ " " ++ links

end LinkMode

end CallBoundary
