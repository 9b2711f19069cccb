import TokenRisk.Binary64.Basic
import TokenRisk.Bytecode.Instruction

/-!
# Token standards

A contract implements a token standard when it answers to enough of the standard's selectors. A
profile fixes the reference selectors, how many of each standard must be found, and where they are
looked for: anywhere in the code text, or among the selectors of its dispatcher.
-/

namespace TokenRisk

/-- Where the `Profile.references` are looked for: as a `substring` of the code text, or among the
selectors of the `dispatcher`. -/
inductive Matching where
  | substring
  | dispatcher
  deriving DecidableEq

/-- Reference selectors and thresholds for the three standards. -/
structure Profile where
  name : String
  erc20 : List String
  erc721 : List String
  erc1155 : List String
  erc20Threshold : Int
  erc721Threshold : Int
  erc1155Threshold : Int
  matching : Matching
  deriving DecidableEq

/-- What the selectors of a contract say about the standards it follows. -/
structure Standard where
  isERC20 : Bool := false
  isERC721 : Bool := false
  isERC1155 : Bool := false
  detectedType : String := "Unknown"
  selectors : List String := []
  confidence : Int := 0
  deriving DecidableEq

namespace Profile

/-- The functions of a fungible token. -/
def erc20Selectors : List String :=
  ["0x18160ddd", "0x70a08231", "0xa9059cbb", "0x23b872dd", "0x095ea7b3", "0xdd62ed3e"]

/-- The functions of a non-fungible token. -/
def erc721Selectors : List String :=
  ["0x6352211e", "0x70a08231", "0x42842e0e", "0xa22cb465", "0xe985e9c5", "0x095ea7b3",
    "0x081812fc"]

/-- The functions of a token with many kinds. -/
def erc1155Selectors : List String :=
  ["0x00fdd58e", "0x4e1273f4", "0xa22cb465", "0xe985e9c5", "0xf242432a", "0x2eb2c2d6"]

/-- High thresholds, with `substring` matching. -/
def strict : Profile :=
  ⟨"strict", erc20Selectors, erc721Selectors, erc1155Selectors, 6, 5, 4, .substring⟩

/-- Low thresholds, with `dispatcher` matching. -/
def loose : Profile :=
  ⟨"loose", erc20Selectors, erc721Selectors ++ ["0x23b872dd"], erc1155Selectors, 4, 4, 4,
    .dispatcher⟩

/-- The names of the profiles, as `Config.issues` accepts them. -/
def names : List String := [strict.name, loose.name]

/-- The profile of a name, if it is among the `names`. -/
def ofName? (name : String) : Option Profile :=
  [strict, loose].find? (·.name == name)

/-- All reference selectors of a profile, each once. -/
def references (p : Profile) : List String :=
  Text.distinct (p.erc20 ++ p.erc721 ++ p.erc1155)

/-- How many of the `references` are among the selectors `found`. -/
def hits (references found : List String) : Int :=
  (references.filter found.contains).length

end Profile

namespace Standard

/-- The greatest number of references that `confidenceOf` is measured against. -/
def maxReferences : Nat := 20

/-- The standard that is displayed when several match. -/
def displayedType (isERC20 isERC721 isERC1155 : Bool) : String :=
  if isERC20 then "ERC20" else if isERC721 then "ERC721" else if isERC1155 then "ERC1155"
  else "Unknown"

/-- The share of `detected` in `references` as a whole percentage of at most 100: the quotient and
the percentage are doubles, and the percentage is rounded to the nearest integer. -/
def percentage (detected references : Nat) : Int :=
  match Binary64.ofRatio false detected references with
  | .finite share =>
    match share.scale 100 with
    | .finite percent => min 100 percent.round
    | _ => 100
  | _ => 100

/-- The confidence in a profile's verdict from the number of distinct selectors of the contract:
their `percentage` of the profile's `references`, of which at most `maxReferences` count. -/
def confidenceOf (p : Profile) (detected : Nat) : Int :=
  let references := min p.references.length maxReferences
  if references = 0 then 0 else percentage detected references

/-- The selectors in lower case, each once. -/
def lowered (selectors : List String) : List String :=
  Text.distinct (selectors.map Text.lower)

/-- Classifies the selectors that were `found` by the thresholds of a profile. The result lists
them, or the `reported` ones if there are any given. -/
def ofSelectors (p : Profile) (found : List String) (reported : Option (List String)) :
    Standard :=
  let lower := lowered found
  let isERC20 := p.erc20Threshold ≤ Profile.hits p.erc20 lower
  let isERC721 := p.erc721Threshold ≤ Profile.hits p.erc721 lower
  let isERC1155 := p.erc1155Threshold ≤ Profile.hits p.erc1155 lower
  let reported := reported.getD found
  { isERC20, isERC721, isERC1155
    detectedType := displayedType isERC20 isERC721 isERC1155
    selectors := Text.distinct reported
    confidence := confidenceOf p (lowered reported).length }

/-- The `references` of a profile whose digits occur in a code text. -/
def occurring (p : Profile) (code : String) : List String :=
  p.references.filter fun s => Text.contains code (Text.drop 2 s)

/-- Classifies a code: by the references `occurring` in its digits, or by its `Bytecode.selectors`,
as the profile's `matching` has it. -/
def ofBytecode (p : Profile) (code : String) : Standard :=
  let digits := Bytecode.digits code
  if digits.isEmpty then {}
  else
    let extracted := Bytecode.selectors digits
    let found := match p.matching with
      | .substring => occurring p digits
      | .dispatcher => extracted
    ofSelectors p found (some extracted)

end Standard

end TokenRisk
