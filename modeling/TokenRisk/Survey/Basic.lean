import TokenRisk.Analysis
import TokenRisk.Chain

/-!
# Surveys

What is known about one token across several chains: a record for each chain, counts over the
records, and what they have in common.
-/

namespace TokenRisk

/-- One chain of a `Survey`. -/
structure ChainRecord where
  chainId : Int
  chainName : String
  tokenAddress : String
  isFound : Bool
  analysis : Option Analysis := none
  error : Option String := none

/-- A deployment whose name marks it as wrapped or bridged. -/
structure WrappedToken where
  chainId : Int
  address : String
  wrapperName : String
  indicator : String := "bridge"
  bridgeAddress : Option String := none
  deriving DecidableEq

/-- A token across several chains: the `records`, and what they add up to. -/
structure Survey where
  baseAddress : String
  baseChainId : Int
  records : List ChainRecord := []
  found : Int := 0
  verified : Int := 0
  highRisk : Int := 0
  mediumRisk : Int := 0
  bridgeIndicators : List String := []
  wrapped : List WrappedToken := []
  recommendations : List String := []
  timestamp : String

namespace ChainRecord

/-- The record of a chain on which the token has no `Analysis`. -/
def missing (chainId : Int) (address error : String) : ChainRecord where
  chainId := chainId
  chainName := Chain.displayName chainId
  tokenAddress := address
  isFound := false
  error := some error

/-- The record of an `Outcome`. That of a failed one is `missing` an analysis. -/
def ofOutcome (chainId : Int) (address : String) : Outcome → ChainRecord
  | .failed _ failure => missing chainId address failure.message
  | outcome =>
    { chainId, chainName := Chain.displayName chainId, tokenAddress := address
      isFound := true, analysis := some outcome.analysis }

end ChainRecord

end TokenRisk
