import TokenRisk.Decision

/-!
# Requests and verifications

What a caller asks for and what is handed back: the decision with everything it rests on, under an
identifier of its own and with the request it answers.
-/

namespace TokenRisk

/-- A request to verify a token. Without a `chainId` the configured one is meant, and without
`chainIds` all supported chains are surveyed. -/
structure Request where
  tokenAddress : Option String
  chainId : Option Int := none
  crossChain : Bool := false
  chainIds : Option (List Int) := none
  deriving DecidableEq

/-- The answer to a `Request`, under an identifier of its own. -/
structure Verification where
  requestId : String
  timestamp : String
  request : Request
  decision : Decision
  report : String
  analysis : Option Analysis := none
  survey : Option Survey := none

/-- The address of a request as text, empty when there is none. -/
def Request.addressText (r : Request) : String :=
  r.tokenAddress.getD ""

/-- The chain of a request: `default` if it names none, or names zero. -/
def Request.chainOr (r : Request) (default : Int) : Int :=
  match r.chainId with
  | some id => if id = 0 then default else id
  | none => default

end TokenRisk
