import CallBoundary.Decimal.Shortest

/-! How the digits of a number are set out as text. -/
namespace CallBoundary.Decimal

/-- The exponents that are written positionally, from the least to the greatest. The exponent meant
here is that of the leading digit. -/
structure Layout where
  positionalFrom : Int
  positionalTo : Int
  deriving DecidableEq, Repr

def zeros (n : Nat) : String := String.ofList (List.replicate n '0')

/-- A whole number keeps `.0`, so that its text is that of a fraction. -/
def Layout.positional (digits : String) (exponent : Int) : String :=
  let count : Int := digits.length
  if exponent + 1 ≥ count then digits ++ zeros (exponent + 1 - count).toNat ++ ".0"
  else if exponent ≥ 0 then
    String.ofList (digits.toList.take (exponent + 1).toNat) ++ "." ++
      String.ofList (digits.toList.drop (exponent + 1).toNat)
  else "0." ++ zeros (-exponent - 1).toNat ++ digits

def Layout.scientific (digits : String) (exponent : Int) : String :=
  let rest := digits.toList.drop 1
  String.ofList (digits.toList.take 1) ++
    (if rest.isEmpty then "" else "." ++ String.ofList rest) ++
    "e" ++ (if exponent < 0 then "-" else "+") ++ toString exponent.natAbs

def Layout.write (layout : Layout) (d : Scaled) : String :=
  let digits := toString d.digits
  let exponent := d.exponent + digits.length - 1
  if layout.positionalFrom ≤ exponent ∧ exponent ≤ layout.positionalTo then
    Layout.positional digits exponent
  else Layout.scientific digits exponent

def Layout.writeFloat (layout : Layout) (x : Float) : String :=
  let binary := Binary.ofBits x.toBits
  (if x.toBits >>> 63 == 1 then "-" else "") ++
    if binary.mantissa = 0 then "0.0" else layout.write binary.shortest

end CallBoundary.Decimal
