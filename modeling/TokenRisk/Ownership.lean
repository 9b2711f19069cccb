import TokenRisk.Address
import TokenRisk.Contract
import TokenRisk.Json.Display

/-!
# Ownership

Who controls a contract, as far as its code and its creation record tell: whether the creator is
labelled as a group of signers, whether the code is a minimal proxy, and which contract a proxy
forwards to.
-/

namespace TokenRisk

/-- What is known about who controls a contract. -/
structure Ownership where
  owner : Option String := none
  ownerLabel : Option String := none
  isMultisig : Bool := false
  isProxy : Bool := false
  implementation : Option String := none
  risks : List String := []
  deriving DecidableEq

namespace Ownership

/-- The code of the two trampolines that minimal proxies start with, as `isMinimalProxy` looks for
it. -/
def proxyFingerprints : List String :=
  ["3d82803d3d3d3d363d3d37", "363d3d373d3d3d363d73"]

/-- The code in front of the address that a minimal proxy forwards to. -/
def implementationStart : String := "363d3d373d3d3d363d73"

/-- The code after that address. -/
def implementationEnd : String := "5af4"

/-- The words that `isMultisigLabel` looks for in the label of a group of signers. -/
def multisigMarkers : List String := ["multisig", "safe"]

def proxyRisk : String := "Uses proxy pattern (upgradeable)"
def singleOwnerRisk : String := "Single owner address (high centralization risk)"
def unknownOwnerRisk : String := "Unknown or null owner"
def noCreationRisk : String := "Unable to get contract creation info"
def failedRisk : String := "Failed to analyze ownership"

/-- The lower-case form of a reported value. A value that is no text is a fault. -/
def loweredText : Json → Except Failure String
  | .string s => .ok (Text.lower s)
  | v => .error (.fault .attribute s!"'{v.kindName}' object has no attribute 'lower'")

/-- The `loweredText` of a reported value; none for a value that is not `isTruthy`. -/
def loweredText? (v : Json) : Except Failure (Option String) :=
  if v.isTruthy then (loweredText v).map some else .ok none

/-- Whether a label has one of the `multisigMarkers`. -/
def isMultisigLabel (label : Json) : Except Failure Bool :=
  (loweredText? label).map fun
    | none => false
    | some s => multisigMarkers.any (Text.contains s)

/-- Whether code holds one of the `proxyFingerprints`. -/
def isMinimalProxy (code : String) : Bool :=
  proxyFingerprints.any (Text.contains code)

/-- Whether `c` is a decimal digit or one of the letters from `a` to `f`. -/
def isLowerHexDigit (c : Char) : Bool :=
  c.isDigit || ('a' ≤ c && c ≤ 'f')

/-- The address embedded at the start of a code, if it stands between `implementationStart` and
`implementationEnd`. -/
def implementationAt? (l : List Char) : Option (List Char) :=
  let rest := l.drop implementationStart.length
  let address := rest.take 40
  if implementationStart.toList.isPrefixOf l ∧ address.length = 40 ∧
      address.all isLowerHexDigit ∧ implementationEnd.toList.isPrefixOf (rest.drop 40) then
    some address
  else none

/-- The first address that `implementationAt?` finds in a code. -/
def findImplementation? : List Char → Option (List Char)
  | [] => none
  | c :: l => (implementationAt? (c :: l)).or (findImplementation? l)

/-- The address of the contract that the code of a minimal proxy forwards to. -/
def embeddedImplementation? (code : String) : Option String :=
  (findImplementation? code.toList).map fun a => String.ofList ('0' :: 'x' :: a)

/-- The risks of a contract with such an owner. -/
def risksOf (isProxy isMultisig : Bool) (owner : Option String) : List String :=
  (if isProxy then [proxyRisk] else []) ++
  (if isMultisig then [] else [singleOwnerRisk]) ++
  (if owner.all (· == Address.zero) then [unknownOwnerRisk] else [])

/-- What the code, the creator and the creator's label say about who controls a contract. Reported
values that are no texts are faults. -/
def assess (contract : Contract) (creator label : Json) : Except Failure Ownership := do
  let code := contract.codeHex
  let isMultisig ← isMultisigLabel label
  let isProxy := isMinimalProxy code
  let owner ← loweredText? creator
  let implementation ←
    match embeddedImplementation? code with
    | some a => .ok (some (Text.lower a))
    | none => loweredText? contract.implementation
  return {
    owner, isMultisig, isProxy, implementation
    ownerLabel := if label.isTruthy then some label.display else none
    risks := risksOf isProxy isMultisig owner }

end Ownership

end TokenRisk
