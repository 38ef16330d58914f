import CallBoundary.Json.Value

/-! Writing JSON text, without blanks between the tokens. -/
namespace CallBoundary.Json

def hexDigit (n : Nat) : Char :=
  if n < 10 then Char.ofNat ('0'.toNat + n) else Char.ofNat ('a'.toNat + (n - 10))

/-- A character as it stands inside a string literal: quotes, backslashes and control characters
are escaped, the rest stands for itself. -/
def escapeChar (c : Char) : List Char :=
  match c with
  | '"' => ['\\', '"']
  | '\\' => ['\\', '\\']
  | '\x08' => ['\\', 'b']
  | '\x0c' => ['\\', 'f']
  | '\n' => ['\\', 'n']
  | '\r' => ['\\', 'r']
  | '\t' => ['\\', 't']
  | c =>
    if c.toNat < 0x20 then
      ['\\', 'u', '0', '0', hexDigit (c.toNat / 16), hexDigit (c.toNat % 16)]
    else [c]

/-- A literal without text is written as a lone surrogate. -/
def writeLiteral : Literal → List Char
  | some s => '"' :: (s.toList.flatMap escapeChar ++ ['"'])
  | none => ['"', '\\', 'u', 'd', '8', '0', '0', '"']

def writeDigits (n : Nat) : List Char := Nat.toDigits 10 n

def Numeral.write (n : Numeral) : List Char :=
  (if n.negative then ['-'] else []) ++ writeDigits n.whole ++
    (if n.fraction.isEmpty then [] else '.' :: n.fraction.map Nat.digitChar) ++
    match n.exponent with
    | none => []
    | some power => 'e' :: (if power < 0 then ['-'] else []) ++ writeDigits power.natAbs

mutual

def writeValue : Value → List Char
  | .null => ['n', 'u', 'l', 'l']
  | .bool true => ['t', 'r', 'u', 'e']
  | .bool false => ['f', 'a', 'l', 's', 'e']
  | .number numeral => numeral.write
  | .string literal => writeLiteral literal
  | .array [] => ['[', ']']
  | .array (item :: items) => '[' :: (writeValue item ++ writeItems items)
  | .object [] => ['{', '}']
  | .object ((key, value) :: members) =>
    '{' :: (writeLiteral key ++ ':' :: (writeValue value ++ writeMembers members))

def writeItems : List Value → List Char
  | [] => [']']
  | item :: items => ',' :: (writeValue item ++ writeItems items)

def writeMembers : List Member → List Char
  | [] => ['}']
  | (key, value) :: members =>
    ',' :: (writeLiteral key ++ ':' :: (writeValue value ++ writeMembers members))

end

def Value.write (value : Value) : String := String.ofList (writeValue value)

end CallBoundary.Json
