import TokenRisk.Holders
import TokenRisk.Timed.Basic

/-!
# Sources

Where facts about a token come from: a node that knows its code and an explorer that knows the rest.
A source is asked by a call and replies after a delay with an answer or a failure.
-/

namespace TokenRisk

/-- What an explorer knows about verified source. The name and the implementation are kept as
sent. -/
structure SourceRecord where
  code : String
  contractName : Json := .null
  implementation : Json := .null
  isProxy : Bool := false

/-- The record of a contract's creation. The `creator` and the `transaction` are kept as sent. -/
structure Creation where
  contractAddress : String
  creator : Json
  transaction : Json := .null

/-- A question to one of the `Sources`. -/
inductive Call where
  | code (address : String) (chainId : Int)
  | source (address : String) (chainId : Int)
  | holders (address : String) (chainId : Int) (limit : Int)
  | creation (address : String) (chainId : Int)
  | label (address : String) (chainId : Int)
  deriving DecidableEq

/-- An answer or a failure after a `delay` in milliseconds. -/
structure Reply (α : Type) where
  delay : Rat := 0
  answer : Except Failure α

/-- The answers to every `Call`. -/
structure Sources where
  code : String → Int → Reply String
  source : String → Int → Reply (Option SourceRecord)
  holders : String → Int → Int → Reply (List Holder)
  creation : String → Int → Reply (Option Creation)
  label : String → Int → Reply Json

namespace Call

/-- The chain that a `Call` is about. -/
def chainId : Call → Int
  | .code _ chainId => chainId
  | .source _ chainId => chainId
  | .holders _ chainId _ => chainId
  | .creation _ chainId => chainId
  | .label _ chainId => chainId

end Call

/-- Makes a `Call` and awaits its `Reply`. -/
def Reply.await {α : Type} (reply : Reply α) (call : Call) : Timed Call (Except Failure α) :=
  .call call reply.delay reply.answer

/-- Makes a `Call` `within` a limit in seconds; a limit that runs out is a `timeout` of the
provider. -/
def Reply.awaitWithin {α : Type} (reply : Reply α) (call : Call) (limit : Option Binary64)
    (provider : String) : Timed Call (Except Failure α) :=
  (reply.await call).within limit (.error (.provider provider (.timeout limit)))

namespace Sources

def node : String := "rpc"
def explorer : String := "explorer"

variable (s : Sources) (limit : Option Binary64)

/-- Asks the `node` for the code of an address. -/
def askCode (address : String) (chainId : Int) : Timed Call (Except Failure String) :=
  (s.code address chainId).awaitWithin (.code address chainId) limit node

/-- Asks the `explorer` for verified source. -/
def askSource (address : String) (chainId : Int) :
    Timed Call (Except Failure (Option SourceRecord)) :=
  (s.source address chainId).awaitWithin (.source address chainId) limit explorer

/-- Asks the `explorer` for the largest holders. -/
def askHolders (address : String) (chainId count : Int) :
    Timed Call (Except Failure (List Holder)) :=
  (s.holders address chainId count).awaitWithin (.holders address chainId count) limit explorer

/-- Asks the `explorer` for the record of a contract's creation. -/
def askCreation (address : String) (chainId : Int) :
    Timed Call (Except Failure (Option Creation)) :=
  (s.creation address chainId).awaitWithin (.creation address chainId) limit explorer

/-- Asks the `explorer` for the label of an address. -/
def askLabel (address : String) (chainId : Int) : Timed Call (Except Failure Json) :=
  (s.label address chainId).awaitWithin (.label address chainId) limit explorer

end Sources

end TokenRisk
