import TokenRisk.Config
import TokenRisk.Http.Message
import TokenRisk.Sources

/-!
# Nodes

A node tells the code of an address. An address without code has the empty code `0x`.
-/

namespace TokenRisk.Http.Node

/-- The `Question` for the code of an address; none without a node for the chain. -/
def codeQuestion? (config : Config) (address : String) (chainId : Int) : Option Question :=
  ((config.rpcUrl? chainId).filter (!·.isEmpty)).map fun url =>
    .call url "eth_getCode" [.string (Text.lower address), .string "latest"]

/-- The error that a node answered with. -/
def errorMessage : Json → String
  | .object members => ((Json.lookup "message" members).getD (.string "error")).display
  | v => v.display

/-- Why an answer cannot be used, as a failure of the node. -/
def unusable (message : String) : Failure :=
  .provider Sources.node (.response message)

/-- The code in an answer. An answer without one is `unusable`, unless its result is null. -/
def readCode (members : List (String × Json)) : Except Failure String :=
  let error := Json.field "error" members
  if error.isTruthy then .error (unusable (errorMessage error))
  else match Json.field "result" members with
    | .null => .ok "0x"
    | .string s => .ok (if s.isEmpty then "0x" else s)
    | _ => .error (unusable "eth_getCode returned non-string")

/-- The code of an address: the answer to `codeQuestion?`, by `readCode`. -/
def code (config : Config) (transport : Transport) (room : Room) (address : String)
    (chainId : Int) : Except Failure String :=
  match codeQuestion? config address chainId with
  | none => .error .unsupportedChain
  | some q => ((transport q).members Sources.node room).bind readCode

end TokenRisk.Http.Node
