import TokenRisk.Text.Basic

/-!
# Timestamps

A moment is counted in milliseconds from the start of 1970 and written as a UTC date and time. A
fraction of a second is written, with six digits, only if there is one.
-/

namespace TokenRisk

/-- Decimal digits filled up with zeros to a width. -/
def zeroPadded (width n : Nat) : String :=
  let ds := Nat.toDigits 10 n
  String.ofList (List.replicate (width - ds.length) '0' ++ ds)

/-- Year, month and day of a number of days from the start of 1970. The count runs from March, so
that the leap day ends a year. -/
def civilDate (days : Int) : Int × Int × Int :=
  let z := days + 719468
  let era := z / 146097
  let dayOfEra := z % 146097
  let yearOfEra := (dayOfEra - dayOfEra / 1460 + dayOfEra / 36524 - dayOfEra / 146096) / 365
  let dayOfYear := dayOfEra - (365 * yearOfEra + yearOfEra / 4 - yearOfEra / 100)
  let shifted := (5 * dayOfYear + 2) / 153
  let day := dayOfYear - (153 * shifted + 2) / 5 + 1
  let month := if shifted < 10 then shifted + 3 else shifted - 9
  let year := yearOfEra + era * 400 + (if month ≤ 2 then 1 else 0)
  (year, month, day)

/-- The moment `ms` milliseconds after the start of 1970, as text. -/
def timestamp (ms : Int) : String :=
  let seconds := ms / 1000
  let (year, month, day) := civilDate (seconds / 86400)
  let rest := (seconds % 86400).toNat
  let fraction := (ms % 1000).toNat
  let two := zeroPadded 2
  zeroPadded 4 year.toNat ++ "-" ++ two month.toNat ++ "-" ++ two day.toNat ++ "T" ++
    two (rest / 3600) ++ ":" ++ two (rest / 60 % 60) ++ ":" ++ two (rest % 60) ++
    (if fraction = 0 then "" else "." ++ zeroPadded 6 (fraction * 1000)) ++ "+00:00"

end TokenRisk
