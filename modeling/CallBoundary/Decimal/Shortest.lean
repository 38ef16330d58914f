/-! The shortest decimal that identifies a binary64 value, by exact arithmetic on its bits. -/
namespace CallBoundary.Decimal

/-- A finite value `mantissa * 2 ^ exponent`, its sign left out. The gap below a power of two
is half as wide as the gap above it, which `narrow` records. -/
structure Binary where
  mantissa : Nat
  exponent : Int
  narrow : Bool
  deriving DecidableEq, Repr

def Binary.ofBits (bits : UInt64) : Binary :=
  let exponent := (bits >>> 52 &&& 0x7FF).toNat
  let fraction := (bits &&& 0xFFFFFFFFFFFFF).toNat
  if exponent = 0 then ⟨fraction, -1074, false⟩
  else ⟨0x10000000000000 + fraction, exponent - 1075, fraction == 0 && exponent != 1⟩

structure Scaled where
  digits : Nat
  exponent : Int
  deriving DecidableEq, Repr

def compareScaled (a : Nat) (i : Int) (b : Nat) (j : Int) : Ordering :=
  compare (a * Nat.pow 10 i.toNat * Nat.pow 2 (-j).toNat)
    (b * Nat.pow 2 j.toNat * Nat.pow 10 (-i).toNat)

/-- The decimal lies among the reals that round to the value. Halfway to either neighbour
counts when the mantissa is even. -/
def Binary.roundsFrom (x : Binary) (d : Scaled) : Bool :=
  let low := 4 * x.mantissa - (if x.narrow then 1 else 2)
  let fromLow := compareScaled d.digits d.exponent low (x.exponent - 2)
  let fromHigh := compareScaled d.digits d.exponent (4 * x.mantissa + 2) (x.exponent - 2)
  let even := x.mantissa % 2 == 0
  (fromLow == .gt || even && fromLow == .eq) && (fromHigh == .lt || even && fromHigh == .eq)

def Binary.floorAt (x : Binary) (unit : Int) : Nat :=
  x.mantissa * Nat.pow 2 x.exponent.toNat * Nat.pow 10 (-unit).toNat /
    (Nat.pow 2 (-x.exponent).toNat * Nat.pow 10 unit.toNat)

/-- The multiple of `10 ^ unit` nearest to the value that still rounds to it, the even one of
two equally near. -/
def Binary.nearestAt? (x : Binary) (unit : Int) : Option Scaled :=
  let down := x.floorAt unit
  match x.roundsFrom ⟨down, unit⟩, x.roundsFrom ⟨down + 1, unit⟩ with
  | true, true =>
    match compareScaled (2 * down + 1) unit (2 * x.mantissa) x.exponent with
    | .gt => some ⟨down, unit⟩
    | .lt => some ⟨down + 1, unit⟩
    | .eq => some ⟨if down % 2 = 0 then down else down + 1, unit⟩
  | true, false => some ⟨down, unit⟩
  | false, true => some ⟨down + 1, unit⟩
  | false, false => none

def Binary.leadingBound (x : Binary) : Int :=
  -- the fraction is the logarithm of two to base ten
  (x.mantissa.log2 + x.exponent) * 30103 / 100000 + 2

/-- The units are tried from the coarsest down, so the first hit has the fewest digits.
Seventeen digits identify every value; should none be found, the exact value stands in. -/
def Binary.shortest (x : Binary) : Scaled :=
  let units := (List.range 21).map fun (step : Nat) => x.leadingBound - step
  (units.findSome? x.nearestAt?).getD
    ⟨x.mantissa * Nat.pow 2 x.exponent.toNat * Nat.pow 5 (-x.exponent).toNat, min x.exponent 0⟩

end CallBoundary.Decimal
