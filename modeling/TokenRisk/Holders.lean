import TokenRisk.Binary64.Fixed
import TokenRisk.Failure
import TokenRisk.Ownership

/-!
# Holder concentration

How much of a token's supply its largest holders own. Holders are ranked by share whatever order
they come in; the shares of the first, the first five and the first ten are kept between 0 and 100
percent and compared with limits.
-/

namespace TokenRisk

/-- An entry of a list of holders. The `address` is kept as the explorer sent it. -/
structure Holder where
  address : Json
  share : Binary64

/-- What the `ranked` shares of the holders say. -/
structure Holders where
  total : Int := 0
  topAddress : Option String := none
  topShare : Binary64 := .zero
  top5Share : Binary64 := .zero
  top10Share : Binary64 := .zero
  risks : List String := []
  isConcentrated : Bool := false
  deriving DecidableEq

/-- The shares above which holdings are concentrated, in percent. -/
structure ConcentrationLimits where
  topExtreme : Binary64 := .ofInt 50
  topHigh : Binary64 := .ofInt 30
  top5 : Binary64 := .ofInt 80
  top10 : Binary64 := .ofInt 95

namespace Holders

def noHoldersRisk : String := "Cannot analyze holder distribution"
def failedRisk : String := "Failed to analyze holder distribution"

/-- An integer as a share; one beyond the range of `Binary64` is a fault. -/
def shareOfInt (n : Int) : Except Failure Binary64 :=
  match Binary64.ofInt n with
  | .finite x => .ok (.finite x)
  | _ => .error (.fault .overflow "int too large to convert to float")

/-- A share from a value, which may be a number or its text. What is neither is a fault. -/
def readShare : Json → Except Failure Binary64
  | .bool b => .ok (.ofInt (if b then 1 else 0))
  | .int n => shareOfInt n
  | .real x => .ok x
  | .string s =>
    match Numeral.readReal s with
    | some x => .ok x
    | none => .error (.fault .value (Numeral.realMessage s))
  | v => .error (.fault .type
      s!"float() argument must be a string or a real number, not '{v.kindName}'")

/-- A share brought between 0 and 100. What is no number becomes 100, and a negative zero zero. -/
def clamp (x : Binary64) : Binary64 :=
  let bounded := if Binary64.lt x .hundred then x else .hundred
  if Binary64.lt .zero bounded then bounded else .zero

/-- The length of the run at the start of a list: the longest strictly falling one if the second
share is below the first, else the longest that never falls. The second component tells which it
is. -/
def runLength : List Holder → Nat × Bool
  | a :: b :: l =>
    let falling := Binary64.lt b.share a.share
    let rec go (previous : Holder) : List Holder → Nat
      | [] => 0
      | c :: l => if Binary64.lt c.share previous.share = falling then go c l + 1 else 0
    (go b l + 2, falling)
  | l => (l.length, false)

/-- The place at which insertion puts a share into a row: between `low` and `high`, where a
comparison with the middle decides which half to go on in. -/
def insertionPoint (row : List Holder) (share : Binary64) : Nat → Nat → Nat → Nat
  | 0, low, _ => low
  | fuel + 1, low, high =>
    if low < high then
      let middle := low + (high - low) / 2
      if row[middle]?.any fun h => Binary64.lt share h.share then
        insertionPoint row share fuel low middle
      else insertionPoint row share fuel (middle + 1) high
    else low

/-- A row with a holder inserted at its `insertionPoint`. -/
def insertHolder (row : List Holder) (h : Holder) : List Holder :=
  let i := insertionPoint row h.share row.length 0 row.length
  row.take i ++ h :: row.drop i

/-- An arrangement that is defined also where shares cannot be compared: the run of `runLength` at
the start, put in rising order, and then each further holder inserted by `insertHolder`. -/
def arranged (l : List Holder) : List Holder :=
  let (n, falling) := runLength l
  let run := l.take n
  (l.drop n).foldl insertHolder (if falling then run.reverse else run)

/-- The holders by falling share; equal ones stay in order. Shares that are no numbers leave the
order to the way the holders are `arranged`. -/
def ranked (l : List Holder) : List Holder :=
  if l.any (·.share == .nan) then (arranged l.reverse).reverse
  else l.mergeSort fun a b => Binary64.le b.share a.share

/-- The sum of the shares of the first `n`, brought between 0 and 100 by `clamp`. -/
def shareOfFirst (n : Nat) (ranked : List Holder) : Binary64 :=
  clamp (.sum ((ranked.take n).map Holder.share))

/-- A share as the findings show it, with two decimals. -/
def percentText (x : Binary64) : String :=
  x.fixed 2 ++ "%"

/-- What comparisons with the `ConcentrationLimits` have found: the `risks`, and `isConcentrated`,
which is set beside each of them. -/
structure Concentration where
  risks : List String := []
  isConcentrated : Bool := false

namespace Concentration

/-- One more risk, and `isConcentrated`. -/
def found (c : Concentration) (risk : String) : Concentration where
  risks := c.risks ++ [risk]
  isConcentrated := true

variable (limits : ConcentrationLimits) (share : Binary64) (c : Concentration)

/-- Compares the share of the largest holder with `topExtreme`, and with `topHigh` if it is no
greater. -/
def checkTop : Concentration :=
  if Binary64.lt limits.topExtreme share then
    c.found s!"Top holder owns {percentText share} - extreme concentration"
  else if Binary64.lt limits.topHigh share then
    c.found s!"Top holder owns {percentText share} - high concentration"
  else c

/-- Compares the share of the five largest holders with `top5`. -/
def checkTop5 : Concentration :=
  if Binary64.lt limits.top5 share then
    c.found s!"Top 5 holders own {percentText share} - highly concentrated"
  else c

/-- Compares the share of the ten largest holders with `top10`. -/
def checkTop10 : Concentration :=
  if Binary64.lt limits.top10 share then
    c.found s!"Top 10 holders own {percentText share} - effectively centralized"
  else c

/-- What `checkTop`, `checkTop5` and `checkTop10` find about the shares of the largest, the five and
the ten largest holders. -/
def ofShares (topShare top5Share top10Share : Binary64) : Concentration :=
  checkTop10 limits top10Share (checkTop5 limits top5Share (checkTop limits topShare {}))

end Concentration

/-- The concentration of a list of holders in any order: it is `ranked` first. An empty list is a
risk of its own. -/
def summarize (limits : ConcentrationLimits) (l : List Holder) : Except Failure Holders :=
  match ranked l with
  | [] => .ok { risks := [noHoldersRisk] }
  | top :: rest => do
    let topShare := clamp top.share
    let top5Share := shareOfFirst 5 (top :: rest)
    let top10Share := shareOfFirst 10 (top :: rest)
    let found := Concentration.ofShares limits topShare top5Share top10Share
    return {
      total := (top :: rest).length
      topAddress := some (← Ownership.loweredText top.address)
      topShare, top5Share, top10Share
      risks := found.risks
      isConcentrated := found.isConcentrated }

/-- The first `n` of a list of holders; a negative `n` leaves out that many at the end. It is taken
in the order of arrival, before `summarize` ranks it. -/
def sample (n : Int) (l : List Holder) : List Holder :=
  if 0 ≤ n then l.take n.toNat else l.take (l.length - n.natAbs)

end Holders

end TokenRisk
