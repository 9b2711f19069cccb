import TokenRisk.Config
import TokenRisk.Http.Message
import TokenRisk.Http.SourceText
import TokenRisk.Sources

/-!
# Explorers

A block explorer knows the verified source of a contract, its largest holders, the record of its
creation and the labels of addresses. "No data" is an answer; whatever cannot be used is a failure.
-/

namespace TokenRisk.Http.Explorer

/-- A query to the explorer of a chain, with the key at its end; none for an unsupported chain. -/
def question? (config : Config) (chainId : Int) (params : List (String × String)) :
    Option Question :=
  (Chain.find? chainId).map fun chain =>
    .query chain.explorerApiUrl (params ++ [("apikey", config.explorerApiKey)])

/-- Asks for verified source. -/
def sourceParams (address : String) : List (String × String) :=
  [("module", "contract"), ("action", "getsourcecode"), ("address", Text.lower address)]

/-- Asks for the first page of holders. -/
def holderParams (address : String) (limit : Int) : List (String × String) :=
  [("module", "token"), ("action", "tokenholderlist"),
    ("contractaddress", Text.lower address), ("page", "1"), ("offset", toString limit)]

/-- Asks for the record of a creation. -/
def creationParams (address : String) : List (String × String) :=
  [("module", "contract"), ("action", "getcontractcreation"),
    ("contractaddresses", Text.lower address)]

/-- Asks for the label of an address. -/
def labelParams (address : String) : List (String × String) :=
  [("module", "account"), ("action", "addresslabellookup"), ("address", Text.lower address)]

/-- The messages by which `readResult` knows that there is no data. -/
def noDataMessages : List String :=
  ["no data found", "no records found", "no transactions found"]

/-- Why an answer cannot be used, as a failure of the explorer. -/
def unusable (message : String) : Failure :=
  .provider Sources.explorer (.response message)

/-- What an error of the explorer says: its result if that is a text, else its message. -/
def errorDetail (result : Json) (message : String) : String :=
  let fallback := if message.isEmpty then "API error" else message
  match result with
  | .string s => if s.isEmpty then fallback else s
  | _ => fallback

/-- The result in an answer; null when there is no data. Any other answer without success is
`unusable`. -/
def readResult (members : List (String × Json)) : Except Failure Json :=
  let result := Json.field "result" members
  if (Json.field "status" members).display = "1" then .ok result
  else
    let message := ((Json.field "message" members).orElse (.string "")).display
    let isEmpty := match result with
      | .array [] => true
      | _ => false
    if noDataMessages.contains (Text.lower message) || isEmpty then .ok .null
    else .error (unusable (errorDetail result message))

/-- The result of a query, by `readResult`. -/
def ask (config : Config) (transport : Transport) (room : Room) (chainId : Int)
    (params : List (String × String)) : Except Failure Json :=
  match question? config chainId params with
  | none => .error .unsupportedChain
  | some q => ((transport q).members Sources.explorer room).bind readResult

/-- The text of verified source, as `SourceText.flatten` makes it of what was sent. -/
def readSourceText (v : Json) : Except Failure String :=
  if !v.isTruthy then SourceText.flatten ""
  else match v with
    | .string s => SourceText.flatten s
    | v => .error (SourceText.lacks v "startswith")

/-- The `SourceRecord` in a result, of which the first entry counts. -/
def readSource (result : Json) : Except Failure (Option SourceRecord) :=
  if !result.isTruthy then .ok none
  else match result with
    | .array (.object entry :: _) =>
      (readSourceText (Json.field "SourceCode" entry)).map fun code =>
        some {
          code
          contractName := (Json.field "ContractName" entry).orElse (.string "")
          implementation := (Json.field "Implementation" entry).orElse (.string "")
          isProxy := ((Json.lookup "Proxy" entry).getD (.string "0")).display == "1" }
    | _ => .error (unusable "unexpected getsourcecode payload")

/-- A failure over an entry of a list of holders. -/
def malformed (message : String) : Failure :=
  unusable ("malformed holder entry: " ++ message)

/-- The share in an entry. A share beyond the range of `Binary64` is a fault; any other that cannot
be read makes the entry `malformed`. -/
def readShare (v : Json) : Except Failure Binary64 :=
  match Holders.readShare v with
  | .ok x => .ok x
  | .error (.fault .overflow message) => .error (.fault .overflow message)
  | .error f => .error (malformed f.message)

/-- A `Holder` from an entry of a result. -/
def readHolder : Json → Except Failure Holder
  | .object entry =>
    match Json.lookup "TokenHolderAddress" entry with
    | none => .error (malformed "'TokenHolderAddress'")
    | some address =>
      (readShare ((Json.lookup "TokenHolderPercentage" entry).getD (.int 0))).map fun share =>
        { address, share }
  | .string _ => .error (malformed "string indices must be integers, not 'str'")
  | .array _ => .error (malformed "list indices must be integers or slices, not str")
  | v => .error (malformed s!"'{v.kindName}' object is not subscriptable")

/-- The holders of a list of entries. The first one that `readHolder` refuses ends the reading. -/
def readEntries : List Json → Except Failure (List Holder)
  | [] => .ok []
  | v :: vs => do
    let h ← readHolder v
    return h :: (← readEntries vs)

/-- The holders in a result. -/
def readHolders (result : Json) : Except Failure (List Holder) :=
  if !result.isTruthy then .ok []
  else match result with
    | .array entries => readEntries entries
    | _ => .error (unusable "unexpected tokenholderlist payload")

/-- The value under the first of two keys that `isTruthy`. -/
def eitherField (key other : String) (entry : List (String × Json)) : Json :=
  (Json.field key entry).orElse (Json.field other entry)

/-- The `Creation` in a result, of which the first entry counts. -/
def readCreation (address : String) (result : Json) : Except Failure (Option Creation) :=
  if !result.isTruthy then .ok none
  else match result with
    | .array (.object entry :: _) =>
      let contractAddress :=
        (eitherField "contractAddress" "ContractAddress" entry).orElse (.string address)
      (Ownership.loweredText contractAddress).map fun contractAddress =>
        some {
          contractAddress
          creator := (eitherField "contractCreator" "ContractCreator" entry).orElse .null
          transaction := (eitherField "txHash" "TxHash" entry).orElse .null }
    | _ => .error (unusable "unexpected getcontractcreation payload")

/-- The label in a result, null when there is none. -/
def readLabel : Json → Json
  | .array (.object entry :: _) => (eitherField "Label" "Name" entry).orElse .null
  | _ => .null

/-- The first container for which there is no room in the files of the source text that a result
holds. -/
def tooDeepFiles? (room : Nat) : Json → Option Json.Container
  | .array (.object entry :: _) =>
    match Json.field "SourceCode" entry with
    | .string source => SourceText.tooDeep? room source
    | _ => none
  | _ => none

variable (config : Config) (transport : Transport) (room : Room)

/-- The verified source of a contract, if there is any, by `readSource`. -/
def source (address : String) (chainId : Int) : Except Failure (Option SourceRecord) :=
  (ask config transport room chainId (sourceParams address)).bind fun result =>
    match tooDeepFiles? room.files result with
    | some container => .error (Json.tooDeepFault container)
    | none => readSource result

/-- The largest holders of a token, as many as the explorer sends, by `readHolders`. -/
def holders (address : String) (chainId limit : Int) : Except Failure (List Holder) :=
  (ask config transport room chainId (holderParams address limit)).bind readHolders

/-- The record of a contract's creation, if there is one, by `readCreation`. -/
def creation (address : String) (chainId : Int) : Except Failure (Option Creation) :=
  (ask config transport room chainId (creationParams address)).bind (readCreation address)

/-- The label of an address, null when there is none, by `readLabel`. -/
def label (address : String) (chainId : Int) : Except Failure Json :=
  (ask config transport room chainId (labelParams address)).map readLabel

end TokenRisk.Http.Explorer
