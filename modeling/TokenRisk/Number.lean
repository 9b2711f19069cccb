import TokenRisk.Binary64.Shortest

/-!
# Numbers as given

Limits and lifetimes are shown the way they were given: whole numbers without a point, others as
doubles.
-/

namespace TokenRisk

/-- A number of seconds as a caller gave it: a `whole` one, or any other as a double. -/
inductive Number where
  | whole (n : Int)
  | real (x : Binary64)
  deriving DecidableEq

namespace Number

/-- The number as a `Binary64`, for reckoning with it. -/
def toBinary64 : Number → Binary64
  | .whole n => .ofInt n
  | .real x => x

/-- The number as it is shown, a `whole` one without a point. -/
def text : Number → String
  | .whole n => toString n
  | .real x => x.text

end Number

end TokenRisk
