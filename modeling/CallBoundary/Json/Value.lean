import CallBoundary.Decimal.Layout

/-! JSON documents, and the machine numbers that their numerals stand for. Members keep their order
and may repeat a key: what a repeated key means is for the reader of the document to say. -/
namespace CallBoundary.Json

/-- A number as written. The whole part has no leading zeros, so its value keeps its digits. Without
a point there are no digits of a fraction. -/
structure Numeral where
  negative : Bool
  whole : Nat
  fraction : List Nat
  exponent : Option Int
  deriving DecidableEq, Repr

def Numeral.ofNat (n : Nat) : Numeral := ⟨false, n, [], none⟩

inductive Number where
  | integer (value : Int)
  | floating (value : Float)

def significandLimit : Nat := 0x10000000000000000

/-- Drops trailing digits until the rest fits a significand, and counts the dropped ones. -/
def cutToSignificand (n : Nat) : Nat × Nat :=
  if n < significandLimit then (n, 0)
  else
    let (kept, dropped) := cutToSignificand (n / 10)
    (kept, dropped + 1)
decreasing_by
  simp only [significandLimit] at *
  omega

def appendDigits (significand : Nat) : List Nat → Nat × Nat
  | [] => (significand, 0)
  | digit :: digits =>
    if 10 * significand + digit < significandLimit then
      let (all, count) := appendDigits (10 * significand + digit) digits
      (all, count + 1)
    else (significand, 0)

def powerOfTen (n : Nat) : Float := Float.ofScientific 1 false n

/-- The float for `significand * 10 ^ exponent` by floating steps, none when it exceeds the
greatest float. A scale below `10 ^ -308` is applied in two divisions. -/
def scale? (significand : Nat) (exponent : Int) : Option Float :=
  let start := Float.ofNat significand
  if 0 ≤ exponent then
    if significand = 0 then some 0
    else if 308 < exponent then none
    else
      let scaled := start * powerOfTen exponent.toNat
      if scaled.isInf then none else some scaled
  else if -308 ≤ exponent then some (start / powerOfTen (-exponent).toNat)
  else if -616 ≤ exponent then some (start / powerOfTen 308 / powerOfTen (-exponent - 308).toNat)
  else some 0

def Numeral.float? (n : Numeral) : Option Float :=
  let (kept, dropped) := cutToSignificand n.whole
  let (significand, appended) := appendDigits kept n.fraction
  let exponent := (dropped : Int) - appended + n.exponent.getD 0
  (scale? significand exponent).map fun x => if n.negative then -x else x

/-- A numeral without fraction and exponent is an integer if 64 bits hold it. Minus zero is
no integer. -/
def Numeral.integer? (n : Numeral) : Option Int :=
  if n.fraction.isEmpty && n.exponent.isNone then
    if n.negative then
      if 0 < n.whole ∧ n.whole ≤ 0x8000000000000000 then some (-n.whole) else none
    else if n.whole < 0x10000000000000000 then some n.whole else none
  else none

def Numeral.number? (n : Numeral) : Option Number :=
  match n.integer? with
  | some value => some (.integer value)
  | none => n.float?.map .floating

/-- The text of a string literal. A literal with an unpaired surrogate escape is well-formed
but stands for no text, which `none` records. -/
abbrev Literal := Option String

inductive Value where
  | null
  | bool (value : Bool)
  | number (numeral : Numeral)
  | string (literal : Literal)
  | array (items : List Value)
  | object (members : List (Literal × Value))
  deriving Repr

abbrev Member := Literal × Value

def Value.text (s : String) : Value := .string (some s)

def Value.nat (n : Nat) : Value := .number (.ofNat n)

def member (key : String) (value : Value) : Member := (some key, value)

def Value.find? (key : String) : Value → Option Value
  | .object members => (members.find? fun m => m.1 == some key).map (·.2)
  | _ => none

end CallBoundary.Json
