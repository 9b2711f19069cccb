import TokenRisk.Binary64.Basic

/-!
# From decimal notation

A decimal numeral stands for `digits * 10 ^ power`. Its double is the one nearest to that exact
value. Numerals far outside the range of the doubles are decided by their magnitude alone.
-/

namespace TokenRisk.Binary64

/-- The number of decimal digits of a natural number; zero has none. -/
def decimalLength (n : Nat) : Nat :=
  if n = 0 then 0 else (Nat.toDigits 10 n).length

/-- The double nearest to `digits * 10 ^ power` with the given sign. -/
def ofDecimal (negative : Bool) (digits : Nat) (power : Int) : Binary64 :=
  if digits = 0 then .finite (Finite.zero negative)
  else
    -- the value is below `10 ^ magnitude` and at least a tenth of that
    let magnitude := decimalLength digits + power
    if magnitude > 310 then .infinite negative
    else if magnitude < -330 then .finite (Finite.zero negative)
    else if 0 ≤ power then ofRatio negative (digits * tenTo power.toNat) 1
    else ofRatio negative digits (tenTo (-power).toNat)

end TokenRisk.Binary64
