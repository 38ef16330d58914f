import CallBoundary.Json.Value
import CallBoundary.Text

/-! What can be wrong with a document, and the text that says so. -/
namespace CallBoundary.Json

/-- The name of a record: its own, or that of the variant whose content it is. -/
inductive Label where
  | record (name : String)
  | variant (choice name : String)
  deriving DecidableEq, Repr

def Label.text : Label → String
  | .record name => "struct " ++ name
  | .variant choice name => "struct variant " ++ choice ++ "::" ++ name

inductive Expected where
  | text
  | flag
  | word
  | sequence
  | table
  | record (label : Label)
  | nothing
  | variantWithRecord
  | variantWithContent
  deriving DecidableEq, Repr

def Expected.describe : Expected → String
  | .text => "a string"
  | .flag => "a boolean"
  | .word => "u32"
  | .sequence => "a sequence"
  | .table => "a map"
  | .record label => label.text
  | .nothing => "unit"
  | .variantWithRecord => "struct variant"
  | .variantWithContent => "newtype variant"

inductive Found where
  | null
  | bool (value : Bool)
  | integer (value : Int)
  | floating (value : Float)
  | text (value : String)
  | sequence
  | map
  | bareVariant

/-- Floating numbers stand positionally from five zeros behind the point to sixteen digits before
it, and otherwise with a signed exponent. -/
def floatLayout : Decimal.Layout where
  positionalFrom := -5
  positionalTo := 15

def Found.describe : Found → String
  | .null => "null"
  | .bool value => "boolean `" ++ toString value ++ "`"
  | .integer value => "integer `" ++ toString value ++ "`"
  | .floating value => "floating point `" ++ floatLayout.writeFloat value ++ "`"
  | .text value => "string " ++ Text.quoted value
  | .sequence => "sequence"
  | .map => "map"
  | .bareVariant => "unit variant"

inductive Fault where
  /-- The text is no document, a choice is neither a name nor an object with one member, an array
  goes on behind its last field, or a literal or a number that is needed stands for no value. -/
  | malformed
  | wrongType (found : Found) (expected : Expected)
  | outOfRange (value : Int) (expected : Expected)
  | tooShort (length : Nat) (label : Label) (count : Nat)
  | missingField (name : String)
  | duplicateField (name : String)
  | unknownVariant (name : String) (known : List String)

def backquoted (name : String) : String := "`" ++ name ++ "`"

def alternatives : List String → String
  | [a, b] => backquoted a ++ " or " ++ backquoted b
  | [a] => backquoted a
  | names => "one of " ++ ", ".intercalate (names.map backquoted)

/-- A malformed document shows a fixed text here: what its reader objects to is left out, and so are
the line and the column. -/
def Fault.message : Fault → String
  | .malformed => "<syntax>"
  | .wrongType found expected =>
    "invalid type: " ++ found.describe ++ ", expected " ++ expected.describe
  | .outOfRange value expected =>
    "invalid value: integer `" ++ toString value ++ "`, expected " ++ expected.describe
  | .tooShort length label count =>
    "invalid length " ++ toString length ++ ", expected " ++ label.text ++ " with " ++
      toString count ++ (if count = 1 then " element" else " elements")
  | .missingField name => "missing field " ++ backquoted name
  | .duplicateField name => "duplicate field " ++ backquoted name
  | .unknownVariant name known =>
    "unknown variant " ++ backquoted name ++ ", expected " ++ alternatives known

/-- The fault of a value in a place meant for something else. A string without text and a number
out of range cannot even be named. -/
def Value.misplaced (value : Value) (expected : Expected) : Fault :=
  match value with
  | .null => .wrongType .null expected
  | .bool value => .wrongType (.bool value) expected
  | .number numeral =>
    match numeral.number? with
    | some (.integer value) => .wrongType (.integer value) expected
    | some (.floating value) => .wrongType (.floating value) expected
    | none => .malformed
  | .string (some text) => .wrongType (.text text) expected
  | .string none => .malformed
  | .array _ => .wrongType .sequence expected
  | .object _ => .wrongType .map expected

end CallBoundary.Json
