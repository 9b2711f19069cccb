import TokenRisk.Sources

/-!
# Sources in memory

Sources that answer from tables: facts about tokens by address and chain, labels by address, and
delays and failures by the kind of call, for all chains or for one. An unknown token has no code and
no records.
-/

namespace TokenRisk

/-- What is known about a token on a chain. -/
structure TokenFacts where
  address : String
  chainId : Int
  bytecode : String := "0x"
  source : Option SourceRecord := none
  holders : List Holder := []
  creation : Option Creation := none

/-- Tables to answer from. Delays, in milliseconds, and failures stand under the name of a kind of
call, or under that name, an at sign and the number of a chain, which goes before. -/
structure World where
  tokens : List TokenFacts := []
  labels : List (String × String) := []
  delays : List (String × Rat) := []
  failures : List (String × Failure) := []

namespace World

/-- The name of a kind of `Call`. -/
def kindName : Call → String
  | .code .. => "get_bytecode"
  | .source .. => "get_source"
  | .holders .. => "get_token_holders"
  | .creation .. => "get_contract_creation"
  | .label .. => "get_address_label"

/-- The last entry under a key. -/
def last? {α : Type} (key : String) (entries : List (String × α)) : Option α :=
  (entries.reverse.find? (·.1 == key)).map (·.2)

/-- What a table holds for a `Call`, for its chain if possible. -/
def entryFor {α : Type} (entries : List (String × α)) (call : Call) : Option α :=
  (last? s!"{kindName call}@{call.chainId}" entries).or (last? (kindName call) entries)

/-- The `TokenFacts` about a token; the last entry counts. -/
def facts (w : World) (address : String) (chainId : Int) : TokenFacts :=
  (w.tokens.reverse.find? fun t =>
    t.chainId == chainId && Text.lower t.address == Text.lower address).getD
    { address, chainId }

/-- The label of an address, in any letter case. -/
def labelOf (w : World) (address : String) : Json :=
  .ofText? ((w.labels.reverse.find? fun l => Text.lower l.1 == Text.lower address).map (·.2))

/-- A `Reply` after the delay for a call: the failure for it, if there is one, else the answer. -/
def reply {α : Type} (w : World) (call : Call) (answer : α) : Reply α where
  delay := (entryFor w.delays call).getD 0
  answer := match entryFor w.failures call with
    | some f => .error f
    | none => .ok answer

/-- The `Sources` that answer from the tables. -/
def sources (w : World) : Sources where
  code address chainId :=
    w.reply (.code address chainId) (w.facts address chainId).bytecode
  source address chainId :=
    w.reply (.source address chainId) (w.facts address chainId).source
  holders address chainId limit :=
    w.reply (.holders address chainId limit) (w.facts address chainId).holders
  creation address chainId :=
    w.reply (.creation address chainId) (w.facts address chainId).creation
  label address chainId := w.reply (.label address chainId) (w.labelOf address)

/-- A `Call` as a line of a log. -/
def logLine (call : Call) : String :=
  let line (address : String) := s!"{kindName call} {address} {call.chainId}"
  match call with
  | .code address _ => line address
  | .source address _ => line address
  | .holders address _ limit => line address ++ s!" limit={limit}"
  | .creation address _ => line address
  | .label address _ => line address

end World

end TokenRisk
