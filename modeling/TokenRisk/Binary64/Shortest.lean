import TokenRisk.Binary64.Decimal

/-!
# The shortest decimal form

The shortest form of a double is the decimal with the fewest digits that reads back as the same
double, and of those the one nearest to it. It is searched for grid by grid: for one digit, for two
and so on, the two neighbours of the value on the decimal grid of that length are read back.
Seventeen digits always suffice.
-/

namespace TokenRisk.Binary64

/-- A positive decimal: `digits * 10 ^ power`. -/
structure Decimal where
  digits : Nat
  power : Int
  deriving DecidableEq

/-- Whether the decimal, read by `ofDecimal` with the given sign, is the double `x`. -/
def Decimal.readsAs (d : Decimal) (x : Finite) : Bool :=
  ofDecimal x.negative d.digits d.power == .finite x

/-- The magnitude of `x` as a quotient, multiplied by `10 ^ (-power)`. -/
def Finite.scaledBy (x : Finite) (power : Int) : Nat × Nat :=
  if 0 ≤ power then (x.units, unitsPerOne * tenTo power.toNat)
  else (x.units * tenTo (-power).toNat, unitsPerOne)

/-- The greatest `p` with `10 ^ p` at most the magnitude of `x`, which is not zero. -/
def Finite.decimalExponent (x : Finite) : Int :=
  let whole := x.units / unitsPerOne
  if whole ≠ 0 then decimalLength whole - 1
  else
    let firstReachingOne := (List.range 400).find? fun k => unitsPerOne ≤ x.units * tenTo k
    Int.negOfNat (firstReachingOne.getD 0)

/-- The neighbours of `x` on the grid of decimals with `length` digits that `readsAs` reads as `x`,
the nearer one first. -/
def Finite.neighbours (x : Finite) (length : Nat) : List Decimal :=
  let power := x.decimalExponent - (length - 1 : Nat)
  let (num, den) := x.scaledBy power
  let below : Decimal := ⟨num / den, power⟩
  let above : Decimal := ⟨num / den + 1, power⟩
  let nearer := roundQuotient num den
  let ordered := if nearer = below.digits then [below, above] else [above, below]
  ordered.filter (·.readsAs x)

/-- The shortest decimal among the `neighbours` of `x`, without trailing zeros. -/
def Finite.shortest (x : Finite) : Decimal :=
  ((List.range 17).findSome? fun i => (x.neighbours (i + 1)).head?).getD ⟨0, 0⟩

/-- The digits of a decimal, without the zeros at the end, and the power of ten of the first. -/
def Decimal.scientific (d : Decimal) : List Char × Int :=
  let ds := Nat.toDigits 10 d.digits
  let significant := (ds.reverse.dropWhile (· == '0')).reverse
  (significant, d.power + ds.length - 1)

/-- A list of digits with the point after `n` of them, filled up with zeros on either side. -/
def placePoint (digits : List Char) (n : Nat) : List Char × List Char :=
  (digits.take n ++ List.replicate (n - digits.length) '0', digits.drop n)

/-- An exponent with its sign and at least two digits. -/
def exponentText (e : Int) : List Char :=
  let ds := Nat.toDigits 10 e.natAbs
  'e' :: (if e < 0 then '-' else '+') :: (if ds.length < 2 then '0' :: ds else ds)

/-- The text of the `shortest` decimal of `x`: positional from 10⁻⁴ up to 10¹⁶, with an exponent
outside. A positional number always has a fraction. -/
def Finite.magnitudeText (x : Finite) : List Char :=
  if x.mantissa = 0 then ['0', '.', '0']
  else
    let (ds, e) := x.shortest.scientific
    if e < -4 || 16 ≤ e then
      let fraction := ds.drop 1
      ds.take 1 ++ (if fraction.isEmpty then [] else '.' :: fraction) ++ exponentText e
    else if e < 0 then
      '0' :: '.' :: List.replicate ((-e).toNat - 1) '0' ++ ds
    else
      let (whole, fraction) := placePoint ds (e.toNat + 1)
      whole ++ '.' :: (if fraction.isEmpty then ['0'] else fraction)

/-- The shortest text that reads back as the number. -/
def text : Binary64 → String
  | .nan => "nan"
  | .infinite negative => if negative then "-inf" else "inf"
  | .finite x => String.ofList ((if x.negative then ['-'] else []) ++ x.magnitudeText)

end TokenRisk.Binary64
