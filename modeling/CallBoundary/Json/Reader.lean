import CallBoundary.Json.Value

/-! Reading JSON text. The grammar is exact: blanks are space, tab, line feed and carriage
return, and a document is one value with blanks around it. -/
namespace CallBoundary.Json

def isSpace (c : Char) : Bool := c == ' ' || c == '\t' || c == '\n' || c == '\r'

def skipSpaces (cs : List Char) : List Char := cs.dropWhile isSpace

def digit? (c : Char) : Option Nat :=
  if c.isDigit then some (c.toNat - '0'.toNat) else none

def hexDigit? (c : Char) : Option Nat :=
  if c.isDigit then some (c.toNat - '0'.toNat)
  else if 'a' ≤ c ∧ c ≤ 'f' then some (c.toNat - 'a'.toNat + 10)
  else if 'A' ≤ c ∧ c ≤ 'F' then some (c.toNat - 'A'.toNat + 10)
  else none

def readDigits : List Char → List Nat × List Char
  | [] => ([], [])
  | c :: cs =>
    match digit? c with
    | some digit => (digit :: (readDigits cs).1, (readDigits cs).2)
    | none => ([], c :: cs)

def ofDigits (digits : List Nat) : Nat := digits.foldl (fun n digit => 10 * n + digit) 0

def readDigits1? (cs : List Char) : Option (List Nat × List Char) :=
  match readDigits cs with
  | ([], _) => none
  | (digits, rest) => some (digits, rest)

/-- A whole part: a lone zero, or digits of which the first is no zero. -/
def readWhole? (cs : List Char) : Option (Nat × List Char) :=
  match cs with
  | '0' :: rest => some (0, rest)
  | _ => (readDigits1? cs).map fun (digits, rest) => (ofDigits digits, rest)

/-- A point asks for digits after it. -/
def readFraction? (cs : List Char) : Option (List Nat × List Char) :=
  match cs with
  | '.' :: rest => readDigits1? rest
  | _ => some ([], cs)

def readPower? (cs : List Char) : Option (Option Int × List Char) :=
  match cs with
  | '+' :: rest => (readDigits1? rest).map fun (digits, rest) => (some (ofDigits digits), rest)
  | '-' :: rest => (readDigits1? rest).map fun (digits, rest) => (some (-ofDigits digits), rest)
  | _ => (readDigits1? cs).map fun (digits, rest) => (some (ofDigits digits), rest)

def readExponent? (cs : List Char) : Option (Option Int × List Char) :=
  match cs with
  | 'e' :: rest => readPower? rest
  | 'E' :: rest => readPower? rest
  | _ => some (none, cs)

def readMagnitude? (negative : Bool) (cs : List Char) : Option (Numeral × List Char) := do
  let (whole, cs) ← readWhole? cs
  let (fraction, cs) ← readFraction? cs
  let (exponent, cs) ← readExponent? cs
  return (⟨negative, whole, fraction, exponent⟩, cs)

def readNumeral? (cs : List Char) : Option (Numeral × List Char) :=
  match cs with
  | '-' :: rest => readMagnitude? true rest
  | _ => readMagnitude? false cs

/-- What a string literal is made of: characters, and the 16-bit units written as `\u` escapes. -/
inductive Piece where
  | char (c : Char)
  | unit (code : Nat)
  deriving DecidableEq, Repr

def unescape? : Char → Option Char
  | '"' => some '"'
  | '\\' => some '\\'
  | '/' => some '/'
  | 'b' => some '\x08'
  | 'f' => some '\x0c'
  | 'n' => some '\n'
  | 'r' => some '\r'
  | 't' => some '\t'
  | _ => none

def unit? (a b c d : Char) : Option Nat := do
  return ((← hexDigit? a) * 16 + (← hexDigit? b)) * 256 + ((← hexDigit? c) * 16 + (← hexDigit? d))

/-- The pieces up to the closing quote. Control characters stand in no literal. -/
def readPieces? : List Char → Option (List Piece × List Char)
  | [] => none
  | '"' :: rest => some ([], rest)
  | '\\' :: 'u' :: a :: b :: c :: d :: rest => do
    let code ← unit? a b c d
    let (pieces, rest) ← readPieces? rest
    return (.unit code :: pieces, rest)
  | '\\' :: c :: rest => do
    let c ← unescape? c
    let (pieces, rest) ← readPieces? rest
    return (.char c :: pieces, rest)
  | c :: rest =>
    if c.toNat < 0x20 ∨ c = '\\' then none
    else do
      let (pieces, rest) ← readPieces? rest
      return (.char c :: pieces, rest)

def isHighSurrogate (code : Nat) : Bool := 0xD800 ≤ code && code < 0xDC00

def isLowSurrogate (code : Nat) : Bool := 0xDC00 ≤ code && code < 0xE000

def ofSurrogates (high low : Nat) : Char :=
  Char.ofNat (0x10000 + (high - 0xD800) * 0x400 + (low - 0xDC00))

/-- Joins the units into characters, and fails on a surrogate without its partner. -/
def joinPieces? : List Piece → Option (List Char)
  | [] => some []
  | .char c :: pieces => (joinPieces? pieces).map (c :: ·)
  | .unit high :: .unit low :: pieces =>
    if isHighSurrogate high then
      if isLowSurrogate low then (joinPieces? pieces).map (ofSurrogates high low :: ·) else none
    else if isLowSurrogate high then none
    else (joinPieces? (.unit low :: pieces)).map (Char.ofNat high :: ·)
  | .unit code :: pieces =>
    if isHighSurrogate code || isLowSurrogate code then none
    else (joinPieces? pieces).map (Char.ofNat code :: ·)

def readLiteral? (cs : List Char) : Option (Literal × List Char) :=
  (readPieces? cs).map fun (pieces, rest) => ((joinPieces? pieces).map String.ofList, rest)

mutual

/-- One value in front of the text. Every call spends fuel, and no two calls in a row leave the
text as it is, so twice the length of the text is enough. -/
def readValue? : Nat → List Char → Option (Value × List Char)
  | 0, _ => none
  | fuel + 1, cs =>
    match skipSpaces cs with
    | '{' :: rest =>
      match skipSpaces rest with
      | '}' :: rest => some (.object [], rest)
      | rest => (readMembers? fuel rest).map fun (members, rest) => (.object members, rest)
    | '[' :: rest =>
      match skipSpaces rest with
      | ']' :: rest => some (.array [], rest)
      | rest => (readItems? fuel rest).map fun (items, rest) => (.array items, rest)
    | '"' :: rest => (readLiteral? rest).map fun (literal, rest) => (.string literal, rest)
    | 'n' :: 'u' :: 'l' :: 'l' :: rest => some (.null, rest)
    | 't' :: 'r' :: 'u' :: 'e' :: rest => some (.bool true, rest)
    | 'f' :: 'a' :: 'l' :: 's' :: 'e' :: rest => some (.bool false, rest)
    | cs => (readNumeral? cs).map fun (numeral, rest) => (.number numeral, rest)

/-- Items up to the closing bracket, at least one. -/
def readItems? : Nat → List Char → Option (List Value × List Char)
  | 0, _ => none
  | fuel + 1, cs => do
    let (value, cs) ← readValue? fuel cs
    match skipSpaces cs with
    | ',' :: rest =>
      let (values, rest) ← readItems? fuel rest
      return (value :: values, rest)
    | ']' :: rest => return ([value], rest)
    | _ => none

/-- Members up to the closing brace, at least one. -/
def readMembers? : Nat → List Char → Option (List Member × List Char)
  | 0, _ => none
  | fuel + 1, cs =>
    match skipSpaces cs with
    | '"' :: rest => do
      let (key, rest) ← readLiteral? rest
      match skipSpaces rest with
      | ':' :: rest =>
        let (value, rest) ← readValue? fuel rest
        match skipSpaces rest with
        | ',' :: rest =>
          let (members, rest) ← readMembers? fuel rest
          return ((key, value) :: members, rest)
        | '}' :: rest => return ([(key, value)], rest)
        | _ => none
      | _ => none
    | _ => none

end

/-- The value that the whole text is, if it is one. -/
def Value.ofChars? (cs : List Char) : Option Value :=
  match readValue? (2 * cs.length + 2) cs with
  | some (value, rest) => if (skipSpaces rest).isEmpty then some value else none
  | none => none

def Value.read? (text : String) : Option Value := Value.ofChars? text.toList

end CallBoundary.Json
