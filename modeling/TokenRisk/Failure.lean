import TokenRisk.Binary64.Fixed
import TokenRisk.Text.Basic

/-!
# Failures

Why a verification step has no answer. Invalid addresses, unsupported chains and addresses without
code are settled: asking again would fail again. Failures of a provider may pass. Faults are
everything that nobody planned for.
-/

namespace TokenRisk

/-- What went wrong between this library and a provider. -/
inductive ProviderFault where
  /-- No answer in time; with a `limit`, the seconds waited. -/
  | timeout (limit : Option Binary64)
  /-- An answer with an HTTP status `code` that is no success. -/
  | status (code : Int)
  /-- An answer that cannot be used. -/
  | response (message : String)
  /-- Any other failure. -/
  | other (message : String)
  deriving DecidableEq

/-- The kinds of a `Failure.fault`. -/
inductive FaultKind where
  | runtime
  | value
  | type
  | attribute
  | key
  | index
  | overflow
  | recursion
  | markup
  deriving DecidableEq

/-- The name of a `FaultKind`, which stands in for an empty message in `Failure.description`. -/
def FaultKind.label : FaultKind → String
  | .runtime => "RuntimeError"
  | .value => "ValueError"
  | .type => "TypeError"
  | .attribute => "AttributeError"
  | .key => "KeyError"
  | .index => "IndexError"
  | .overflow => "OverflowError"
  | .recursion => "RecursionError"
  | .markup => "MarkupError"

/-- Why a step has no answer. A `fault` is one that nobody planned for. -/
inductive Failure where
  | invalidAddress (address : Option String) (errors : List String)
  | unsupportedChain
  | notAContract
  | unexpected (message : String)
  | provider (name : String) (fault : ProviderFault)
  | general (message : String)
  | fault (kind : FaultKind) (message : String)
  deriving DecidableEq

/-- The wording of a `ProviderFault`. -/
def ProviderFault.message : ProviderFault → String
  | .timeout none => "timed out"
  | .timeout (some limit) =>
    if limit.isNonzero then s!"timed out after {limit.general}s" else "timed out"
  | .status code => s!"HTTP {code}"
  | .response message => message
  | .other message => message

/-- The code of a `ProviderFault`, which is the `Failure.code?` of a provider's failure. -/
def ProviderFault.code : ProviderFault → String
  | .timeout _ => "TIMEOUT"
  | .status _ => "HTTP_ERROR"
  | .response _ => "BAD_RESPONSE"
  | .other _ => "DEPENDENCY_ERROR"

namespace Failure

/-- The wording of a `Failure`. -/
def message : Failure → String
  | .invalidAddress address errors =>
    let joined := Text.join "; " errors
    if joined.isEmpty then "Invalid address: " ++ address.getD "None" else joined
  | .unsupportedChain => "Unsupported chain"
  | .notAContract => "No contract found at this address"
  | .unexpected message => message
  | .provider name why => s!"{name}: {why.message}"
  | .general message => message
  | .fault _ message => message

/-- The code by which a caller tells planned failures apart. A `fault` has none. -/
def code? : Failure → Option String
  | .invalidAddress .. => some "VALIDATION_ERROR"
  | .unsupportedChain => some "UNSUPPORTED_CHAIN"
  | .notAContract => some "NOT_A_CONTRACT"
  | .unexpected _ => some "INTERNAL_ERROR"
  | .provider _ why => some why.code
  | .general _ => some "VERIFICATION_ERROR"
  | .fault .. => none

/-- The name of the class of a `Failure`. -/
def label : Failure → String
  | .invalidAddress .. => "AddressValidationError"
  | .unsupportedChain => "UnsupportedChainError"
  | .notAContract => "NotAContractError"
  | .unexpected _ => "UnexpectedAnalysisError"
  | .provider _ (.timeout _) => "ProviderTimeoutError"
  | .provider _ (.status _) => "ProviderHTTPError"
  | .provider _ (.response _) => "ProviderResponseError"
  | .provider _ (.other _) => "ProviderError"
  | .general _ => "VerificationError"
  | .fault kind _ => kind.label

/-- The `message`, or the `label` when the message is empty. -/
def description (f : Failure) : String :=
  if f.message.isEmpty then f.label else f.message

/-- Whether it is the failure of a `provider`. -/
def isProvider : Failure → Bool
  | .provider .. => true
  | _ => false

/-- Whether asking again would fail again. -/
def isSettled : Failure → Bool
  | .invalidAddress .. => true
  | .unsupportedChain => true
  | .notAContract => true
  | _ => false

end Failure

end TokenRisk
