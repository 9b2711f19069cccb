import TokenRisk.Bytecode.Hex
import TokenRisk.Json.Basic

/-!
# Contracts

What was fetched about one address on one chain: its code, its verified source, and what the
explorer reports under its name.
-/

namespace TokenRisk

/-- A contract as fetched. The `name` and the `implementation` are kept as the explorer sent
them. -/
structure Contract where
  address : String
  chainId : Int
  bytecode : String := "0x"
  sourceCode : Option String := none
  isContract : Bool := false
  name : Json := .null
  implementation : Json := .null

namespace Contract

/-- The `Bytecode.digits` of the code. -/
def codeHex (c : Contract) : String :=
  Bytecode.digits c.bytecode

/-- The source, empty when there is no `sourceCode`. -/
def sourceText (c : Contract) : String :=
  c.sourceCode.getD ""

/-- Whether there is any `sourceText`. -/
def hasSource (c : Contract) : Bool :=
  !c.sourceText.isEmpty

end Contract

end TokenRisk
