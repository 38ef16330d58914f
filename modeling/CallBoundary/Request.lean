import CallBoundary.Command

/-! What the command line asks for. Options stand before or behind the input and at most once each.
Asking for help or for the version is no request. -/
namespace CallBoundary

inductive Request where
  | lower (input : String) (output : Option String) (options : Command.LowerOptions)
  | check (input : String)
  deriving DecidableEq, Repr

namespace Request

/-- Options without a value. -/
inductive Switch where
  | verbose
  | noBinding
  | baseOverloads
  deriving DecidableEq, Repr

/-- Options with a value. -/
inductive Setting where
  | output
  | mode
  deriving DecidableEq, Repr

inductive Item where
  | switch (switch : Switch)
  | setting (setting : Setting) (value : String)
  | operand (text : String)
  deriving DecidableEq, Repr

def Switch.ofName? : String → Option Switch
  | "verbose" => some verbose
  | "no-binding" => some noBinding
  | "base-overloads" => some baseOverloads
  | _ => none

def Setting.ofName? : String → Option Setting
  | "output" => some output
  | "mode" => some mode
  | _ => none

/-- A long option, the value of which may follow an equals sign. If a value is still needed, the
setting it is for comes back too. -/
def long? (cs : List Char) : Option (List Item × Option Setting) :=
  let (name, value) := cs.span (· != '=')
  match Switch.ofName? (String.ofList name), Setting.ofName? (String.ofList name), value with
  | some switch, _, [] => some ([.switch switch], none)
  | _, some setting, [] => some ([], some setting)
  | _, some setting, _ :: value => some ([.setting setting (String.ofList value)], none)
  | _, _, _ => none

/-- Short options in one argument. What stands behind the letter of a setting is its value. -/
def letters? : List Char → Option (List Item × Option Setting)
  | [] => some ([], none)
  | 'v' :: rest => (letters? rest).map fun (items, pending) => (.switch .verbose :: items, pending)
  | ['o'] => some ([], some .output)
  | 'o' :: '=' :: value => some ([.setting .output (String.ofList value)], none)
  | 'o' :: value => some ([.setting .output (String.ofList value)], none)
  | _ => none

/-- A lone dash is an operand or a value like any other. -/
def isOption : List Char → Bool
  | '-' :: _ :: _ => true
  | _ => false

def option? : List Char → Option (List Item × Option Setting)
  | '-' :: '-' :: name => long? name
  | '-' :: letters => letters? letters
  | _ => none

/-- The items of the arguments behind a command, of which the first may be the value of a setting.
Two dashes end the options. -/
def items? : Option Setting → List String → Option (List Item)
  | none, [] => some []
  | some _, [] => none
  | some setting, value :: rest =>
    if isOption value.toList then none
    else (items? none rest).map (.setting setting value :: ·)
  | none, argument :: rest =>
    if argument = "--" then some (rest.map .operand)
    else if isOption argument.toList then do
      let (items, pending) ← option? argument.toList
      return items ++ (← items? pending rest)
    else (items? none rest).map (.operand argument :: ·)

def operands (items : List Item) : List String :=
  items.filterMap fun
    | .operand text => some text
    | _ => none

def values (setting : Setting) (items : List Item) : List String :=
  items.filterMap fun
    | .setting other value => if other = setting then some value else none
    | _ => none

def atMostOne? : List α → Option (Option α)
  | [] => some none
  | [a] => some (some a)
  | _ => none

def switched? (switch : Switch) (items : List Item) : Option Bool :=
  match items.count (.switch switch) with
  | 0 => some false
  | 1 => some true
  | _ => none

def mode? : Option String → Option Mode
  | none => some .normal
  | some "normal" => some .normal
  | some "alternative" => some .alternative
  | _ => none

/-- Paths are not empty. -/
def path? (text : String) : Option String := if text = "" then none else some text

def lower? (items : List Item) : Option Request := do
  let input ← (← atMostOne? (operands items)).bind path?
  let output ← (← atMostOne? (values .output items)).mapM path?
  let mode ← mode? (← atMostOne? (values .mode items))
  let _ ← switched? .verbose items
  return .lower input output
    ⟨⟨mode, ← switched? .baseOverloads items⟩, ← switched? .noBinding items, output.isSome⟩

def check? (items : List Item) : Option Request :=
  match atMostOne? (items.erase (.switch .verbose)) with
  | some (some (.operand input)) => (path? input).map .check
  | _ => none

def command? : List String → Option Request
  | "lower" :: rest => (items? none rest).bind lower?
  | "check" :: rest => (items? none rest).bind check?
  | _ => none

/-- Fails on arguments that make no request. One switch may stand before the command as well. -/
def ofArguments? : List String → Option Request
  | "-v" :: rest => command? rest
  | "--verbose" :: rest => command? rest
  | arguments => command? arguments

def usage : String :=
  "Usage: lower [-v] [-o FILE] [--mode normal|alternative] [--no-binding] [--base-overloads] " ++
    "INPUT\n       check [-v] INPUT\n"

end Request

end CallBoundary
