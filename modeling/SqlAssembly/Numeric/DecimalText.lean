import SqlAssembly.Numeric.Decimal

/-!
# Decimal texts

Two layouts of a decimal: the plain one with a point where it falls, and the one with a single
digit before the point and an explicit power of ten.
-/

namespace SqlAssembly.Numeric.Decimal

def digits (d : Decimal) : List Char := Nat.toDigits 10 d.coefficient

def leadingExponent (d : Decimal) : Int := d.digits.length + d.exponent - 1

/-- Digits around a point: no exponent, no needless zero, at least one digit before the point. -/
def positional (d : Decimal) : List Char :=
  let places := (-d.exponent).toNat
  let ds := d.digits
  if places = 0 then ds ++ List.replicate d.exponent.toNat '0'
  else if places < ds.length then
    ds.take (ds.length - places) ++ '.' :: ds.drop (ds.length - places)
  else '0' :: '.' :: (List.replicate (places - ds.length) '0' ++ ds)

/-- One digit, then the others after a point, then the leading exponent with its sign. -/
def scientific (d : Decimal) : List Char :=
  let mantissa :=
    match d.digits with
    | [] => []
    | [lead] => [lead]
    | lead :: others => lead :: '.' :: others
  let e := d.leadingExponent
  mantissa ++ 'e' :: (if e < 0 then '-' else '+') :: Nat.toDigits 10 e.natAbs

end SqlAssembly.Numeric.Decimal
