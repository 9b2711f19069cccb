/-!
# Double-precision numbers

A finite double is an integer number of units of 2⁻¹⁰⁷⁴, the smallest positive double. Every
operation computes its exact result in units, as a quotient of natural numbers, and one function,
`Binary64.ofUnits`, brings a quotient back to the grid: to the nearest double, and of two equally
near ones to the one with an even significand. Comparisons compare units. No machine arithmetic is
involved, so each value can be reasoned about.
-/

namespace TokenRisk

/-- A power of two. -/
abbrev twoTo (n : Nat) : Nat := Nat.pow 2 n

/-- A power of ten. -/
abbrev tenTo (n : Nat) : Nat := Nat.pow 10 n

/-- The quotient of two natural numbers rounded to the nearest natural number, a half to the even
one. -/
def roundQuotient (num den : Nat) : Nat :=
  let q := num / den
  let r := num % den
  if den < 2 * r then q + 1
  else if 2 * r < den then q
  else if r = 0 then q
  else if q % 2 = 0 then q else q + 1

namespace Binary64

/-- A finite double: a sign and `mantissa * 2 ^ exponent` units, where the exponent is the least
that leaves the mantissa below 2⁵³. -/
structure Finite where
  negative : Bool
  mantissa : Nat
  exponent : Nat
  canonical : mantissa < twoTo 53 ∧ exponent ≤ 2045 ∧ (exponent = 0 ∨ twoTo 52 ≤ mantissa)
  deriving DecidableEq

/-- The magnitude in units of 2⁻¹⁰⁷⁴. -/
def Finite.units (x : Finite) : Nat :=
  x.mantissa * twoTo x.exponent

/-- The value in units of 2⁻¹⁰⁷⁴. -/
def Finite.signedUnits (x : Finite) : Int :=
  if x.negative then -(x.units : Int) else x.units

/-- A zero of the given sign. -/
def Finite.zero (negative : Bool) : Finite :=
  ⟨negative, 0, 0, by decide⟩

end Binary64

/-- A double-precision number. -/
inductive Binary64 where
  | nan
  | infinite (negative : Bool)
  | finite (x : Binary64.Finite)
  deriving DecidableEq

namespace Binary64

/-- The number of `units` in one. -/
def unitsPerOne : Nat := twoTo 1074

/-- The double with the given sign, mantissa and exponent, or the infinity of that sign when the
magnitude is out of range. -/
def ofParts (negative : Bool) (mantissa exponent : Nat) : Binary64 :=
  if h : mantissa < twoTo 53 ∧ exponent ≤ 2045 ∧ (exponent = 0 ∨ twoTo 52 ≤ mantissa) then
    .finite ⟨negative, mantissa, exponent, h⟩
  else .infinite negative

/-- The double nearest to `num / den` units, by `roundQuotient`. -/
def ofUnits (negative : Bool) (num den : Nat) : Binary64 :=
  let exponent := (num / den).log2 + 1 - 53
  let mantissa := roundQuotient num (den * twoTo exponent)
  if mantissa = twoTo 53 then ofParts negative (twoTo 52) (exponent + 1)
  else ofParts negative mantissa exponent

/-- The double nearest to `num / den`. -/
def ofRatio (negative : Bool) (num den : Nat) : Binary64 :=
  ofUnits negative (num * unitsPerOne) den

/-- The double nearest to an integer. -/
def ofInt (n : Int) : Binary64 :=
  ofRatio (n < 0) n.natAbs 1

def zero : Binary64 := .finite (Finite.zero false)

def hundred : Binary64 := ofInt 100

/-- Whether the value is neither zero nor negative zero. A `nan` counts as nonzero. -/
def isNonzero : Binary64 → Bool
  | .finite x => x.mantissa != 0
  | _ => true

/-- The order of the doubles: false whenever a side is `nan`, and blind to the sign of zero. -/
def lt : Binary64 → Binary64 → Bool
  | .nan, _ => false
  | _, .nan => false
  | .infinite a, .infinite b => a && !b
  | .infinite a, .finite _ => a
  | .finite _, .infinite b => !b
  | .finite x, .finite y => x.signedUnits < y.signedUnits

/-- Less than or equal in the order of the doubles, and false on `nan` as `lt` is. -/
def le : Binary64 → Binary64 → Bool
  | .nan, _ => false
  | _, .nan => false
  | x, y => !lt y x

/-- Numerical equality by `le`: zeros of both signs agree and `nan` agrees with nothing. -/
def eqv : Binary64 → Binary64 → Bool
  | x, y => le x y && le y x

/-- The sum, rounded by `ofUnits`. A sum of zero is negative only if both operands are. -/
def add : Binary64 → Binary64 → Binary64
  | .nan, _ => .nan
  | _, .nan => .nan
  | .infinite a, .infinite b => if a = b then .infinite a else .nan
  | .infinite a, .finite _ => .infinite a
  | .finite _, .infinite b => .infinite b
  | .finite x, .finite y =>
    let sum := x.signedUnits + y.signedUnits
    if sum = 0 then .finite (Finite.zero (x.negative && y.negative))
    else ofUnits (sum < 0) sum.natAbs 1

/-- The product of a finite double with a natural number, rounded by `ofUnits`. -/
def Finite.scale (x : Finite) (n : Nat) : Binary64 :=
  ofUnits x.negative (x.units * n) 1

/-- The sum from left to right by `add`, starting from zero. -/
def sum (l : List Binary64) : Binary64 :=
  l.foldl add zero

/-- The nearest integer, a half to the even one. -/
def Finite.round (x : Finite) : Int :=
  let n := roundQuotient x.units unitsPerOne
  if x.negative then -(n : Int) else n

/-- The exact value of a finite double. -/
def Finite.toRat (x : Finite) : Rat :=
  mkRat x.signedUnits unitsPerOne

end Binary64

end TokenRisk
