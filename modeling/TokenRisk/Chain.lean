/-!
# Chains

The networks that tokens are checked on, with the endpoints of each. A number that is no supported
chain still has a display name.
-/

namespace TokenRisk

/-- A supported network and its public endpoints. -/
structure Chain where
  id : Int
  name : String
  explorerUrl : String
  explorerApiUrl : String
  rpcUrl : String
  deriving DecidableEq

namespace Chain

/-- The supported networks, in the order in which a survey of `allIds` visits them. -/
def all : List Chain := [
  ⟨1, "Ethereum Mainnet", "https://etherscan.io", "https://api.etherscan.io/api",
    "https://eth.llamarpc.com"⟩,
  ⟨56, "BSC Mainnet", "https://bscscan.com", "https://api.bscscan.com/api",
    "https://bsc-dataseed.binance.org"⟩,
  ⟨137, "Polygon Mainnet", "https://polygonscan.com", "https://api.polygonscan.com/api",
    "https://polygon-rpc.com"⟩,
  ⟨8453, "Base Mainnet", "https://basescan.org", "https://api.basescan.org/api",
    "https://mainnet.base.org"⟩,
  ⟨10, "Optimism", "https://optimistic.etherscan.io",
    "https://api-optimistic.etherscan.io/api", "https://mainnet.optimism.io"⟩,
  ⟨42161, "Arbitrum One", "https://arbiscan.io", "https://api.arbiscan.io/api",
    "https://arb1.arbitrum.io/rpc"⟩,
  ⟨43114, "Avalanche C-Chain", "https://snowtrace.io", "https://api.snowtrace.io/api",
    "https://api.avax.network/ext/bc/C/rpc"⟩,
  ⟨250, "Fantom", "https://ftmscan.com", "https://api.ftmscan.com/api",
    "https://rpc.ftm.tools"⟩]

/-- The network among `all` with a number. -/
def find? (id : Int) : Option Chain :=
  all.find? (·.id == id)

/-- Whether `find?` knows a number. -/
def isSupported (id : Int) : Bool :=
  (find? id).isSome

/-- The name under which a number is shown. That of a number which `find?` does not know is written
in all its digits: `Numeral.maxIntDigits` bounds the integers that are read, not those that are
written. -/
def displayName (id : Int) : String :=
  match find? id with
  | some chain => chain.name
  | none => s!"Chain {id}"

/-- The numbers of `all` supported networks. -/
def allIds : List Int :=
  all.map Chain.id

end Chain

end TokenRisk
