import TokenRisk.Binary64.Shortest

/-!
# Fixed and general notation

Two ways of writing a number with a given precision. Both round the exact binary value, a half to
the even digit. Fixed notation has a given number of places. General notation has six significant
digits at most, drops trailing zeros and takes an exponent below 10⁻⁴ and from 10⁶ on.
-/

namespace TokenRisk.Binary64

/-- The digits of `n`, filled up to at least `width` with zeros in front. -/
def paddedDigits (n width : Nat) : List Char :=
  let ds := Nat.toDigits 10 n
  List.replicate (width - ds.length) '0' ++ ds

/-- The number with exactly `places` digits after the point; the sign stays also on a zero. -/
def fixed (places : Nat) : Binary64 → String
  | .nan => "nan"
  | .infinite negative => if negative then "-inf" else "inf"
  | .finite x =>
    let ds := paddedDigits (roundQuotient (x.units * tenTo places) unitsPerOne) (places + 1)
    let whole := ds.take (ds.length - places)
    let fraction := ds.drop (ds.length - places)
    String.ofList ((if x.negative then ['-'] else []) ++ whole ++
      (if places = 0 then [] else '.' :: fraction))

/-- Digits without the zeros at the end. -/
def dropTrailingZeros (ds : List Char) : List Char :=
  (ds.reverse.dropWhile (· == '0')).reverse

/-- The magnitude rounded to six significant digits, as digits and the power of ten of the first. -/
def Finite.sixDigits (x : Finite) : List Char × Int :=
  let e := x.decimalExponent
  let (num, den) := x.scaledBy (e - 5)
  let n := roundQuotient num den
  if n = tenTo 6 then (Nat.toDigits 10 (tenTo 5), e + 1) else (Nat.toDigits 10 n, e)

/-- The magnitude in general notation, by its `sixDigits`. -/
def Finite.generalMagnitude (x : Finite) : List Char :=
  if x.mantissa = 0 then ['0']
  else
    let (ds, e) := x.sixDigits
    let significant := dropTrailingZeros ds
    if e < -4 || 6 ≤ e then
      let fraction := significant.drop 1
      significant.take 1 ++ (if fraction.isEmpty then [] else '.' :: fraction) ++ exponentText e
    else if e < 0 then
      '0' :: '.' :: List.replicate ((-e).toNat - 1) '0' ++ significant
    else
      let (whole, fraction) := placePoint significant (e.toNat + 1)
      whole ++ (if fraction.isEmpty then [] else '.' :: fraction)

/-- The number in general notation. -/
def general : Binary64 → String
  | .nan => "nan"
  | .infinite negative => if negative then "-inf" else "inf"
  | .finite x => String.ofList ((if x.negative then ['-'] else []) ++ x.generalMagnitude)

end TokenRisk.Binary64
