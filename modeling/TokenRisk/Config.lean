import TokenRisk.Address
import TokenRisk.Bytecode.Standard
import TokenRisk.Chain
import TokenRisk.Number

/-!
# Configuration

The settings of a verifier, read from the environment. Numbers that cannot be read stop the reading;
settings that make no sense together are reported as issues and do not.
-/

namespace TokenRisk

/-- The settings. A limit that is `none` never runs out. -/
structure Config where
  explorerApiKey : String := ""
  /-- Nodes to use in place of `Chain.rpcUrl`, by chain. -/
  rpcUrls : List (Int × String) := []
  defaultChainId : Int := 1
  callTimeout : Option Binary64 := some (.ofInt 30)
  chainTimeout : Option Binary64 := some (.ofInt 90)
  maxConcurrentChains : Int := 8
  holderSampleSize : Int := 10
  enableCaching : Bool := true
  cacheTtl : Binary64 := .ofInt 3600
  cacheMaxEntries : Int := 1024
  classifierProfile : String := "strict"
  checksumScheme : String := "legacy"
  deriving DecidableEq

/-- The names and values that a process was started with, of which `Config.ofEnvironment` reads
some. -/
abbrev Environment := List (String × String)

namespace Config

/-- The value of a variable, the first one under its name. -/
def settingOf? (env : Environment) (name : String) : Option String :=
  env.findSome? fun v => if v.1 = name then some v.2 else none

/-- The value of a variable that `Numeral.readInt` can read, or else the failure to read it. -/
def intSetting (env : Environment) (name : String) (default : Int) : Except Failure Int :=
  match settingOf? env name with
  | none => .ok default
  | some s =>
    match Numeral.readInt s with
    | .ok n => .ok n
    | .error e => .error (.fault .value (e.message s))

/-- The value of a variable that is read as a `Binary64`, or else the failure to read it. -/
def realSetting (env : Environment) (name : String) (default : Binary64) :
    Except Failure Binary64 :=
  match settingOf? env name with
  | none => .ok default
  | some s =>
    match Numeral.readReal s with
    | some x => .ok x
    | none => .error (.fault .value (Numeral.realMessage s))

/-- The value of a variable that switches something on or off. -/
def boolSetting (env : Environment) (name : String) (default : Bool) : Bool :=
  match settingOf? env name with
  | none => default
  | some s => ["true", "1", "yes"].contains (Text.lower s)

/-- The start of the name of a variable that sets a node for a chain. The number of the chain
follows. -/
def rpcUrlStart : String := "RPC_URL_"

/-- The node for a chain set in a list of nodes; a later setting replaces an earlier one in its
place. -/
def setUrl (urls : List (Int × String)) (chainId : Int) (url : String) : List (Int × String) :=
  if urls.any (·.1 == chainId) then
    urls.map fun u => if u.1 = chainId then (chainId, url) else u
  else urls ++ [(chainId, url)]

/-- The nodes that the variables with `rpcUrlStart` set, on top of `urls`. -/
def rpcUrlsFrom (urls : List (Int × String)) : Environment → Except Failure (List (Int × String))
  | [] => .ok urls
  | (name, value) :: env =>
    let suffix := Text.drop rpcUrlStart.length name
    if Text.startsWith name rpcUrlStart && !value.isEmpty && Text.isDigits suffix then
      match Numeral.readInt suffix with
      | .ok chainId => rpcUrlsFrom (setUrl urls chainId value) env
      | .error e => .error (.fault .value (e.message suffix))
    else rpcUrlsFrom urls env

/-- Reads the settings from the environment. The first variable that cannot be read ends the
reading. -/
def ofEnvironment (env : Environment) : Except Failure Config := do
  let defaults : Config := {}
  let rpcUrls ← rpcUrlsFrom [] env
  return {
    explorerApiKey := (settingOf? env "ETHERSCAN_API_KEY").getD ""
    rpcUrls
    defaultChainId := ← intSetting env "DEFAULT_CHAIN_ID" defaults.defaultChainId
    callTimeout := some (← realSetting env "CALL_TIMEOUT_SECONDS" (.ofInt 30))
    chainTimeout := some (← realSetting env "CHAIN_TIMEOUT_SECONDS" (.ofInt 90))
    maxConcurrentChains := ← intSetting env "MAX_CONCURRENT_CHAINS" defaults.maxConcurrentChains
    holderSampleSize := ← intSetting env "HOLDER_SAMPLE_SIZE" defaults.holderSampleSize
    enableCaching := boolSetting env "ENABLE_CACHING" defaults.enableCaching
    cacheTtl := ← realSetting env "CACHE_TTL_SECONDS" defaults.cacheTtl
    cacheMaxEntries := ← intSetting env "CACHE_MAX_ENTRIES" defaults.cacheMaxEntries
    classifierProfile :=
      Text.lower ((settingOf? env "CLASSIFIER_PROFILE").getD defaults.classifierProfile)
    checksumScheme :=
      Text.lower ((settingOf? env "CHECKSUM_SCHEME").getD defaults.checksumScheme) }

/-- The node for a chain: the one that `rpcUrls` has for it, else its `Chain.rpcUrl`. -/
def rpcUrl? (c : Config) (chainId : Int) : Option String :=
  match c.rpcUrls.find? (·.1 == chainId) with
  | some u => some u.2
  | none => (Chain.find? chainId).map Chain.rpcUrl

/-- Whether a limit is not positive. An absent limit cannot be compared, and `issues` stumbles over
it. -/
def isNotPositive : Option Binary64 → Except Failure Bool
  | some x => .ok (x.le .zero)
  | none => .error (.fault .type
      "'<=' not supported between instances of 'NoneType' and 'int'")

/-- The names that `issues` accepts for `checksumScheme`. -/
def schemeNames : List String := ["legacy", "eip55"]

/-- The line `text` if an issue is `present`. -/
def issueIf (present : Bool) (text : String) : List String :=
  if present then [text] else []

/-- What is wrong with the settings, which are used all the same. -/
def issues (c : Config) : Except Failure (List String) := do
  let notPositive ←
    (do if ← isNotPositive c.callTimeout then return true else isNotPositive c.chainTimeout)
  return issueIf c.explorerApiKey.isEmpty "No ETHERSCAN_API_KEY configured" ++
    issueIf (!Chain.isSupported c.defaultChainId)
      s!"DEFAULT_CHAIN_ID {c.defaultChainId} is not a supported chain" ++
    issueIf (!Profile.names.contains c.classifierProfile)
      (s!"Unknown CLASSIFIER_PROFILE '{c.classifierProfile}' " ++
        "(expected one of " ++ Text.join ", " Profile.names ++ ")") ++
    issueIf (!schemeNames.contains c.checksumScheme)
      (s!"Unknown CHECKSUM_SCHEME '{c.checksumScheme}' " ++
        "(expected one of " ++ Text.join ", " schemeNames ++ ")") ++
    issueIf notPositive "Timeouts must be positive" ++
    issueIf (c.maxConcurrentChains < 1) "MAX_CONCURRENT_CHAINS must be at least 1"

/-- The `Profile` that `classifierProfile` names. There is none for an unknown name. -/
def profile (c : Config) : Except Failure Profile :=
  match Profile.ofName? c.classifierProfile with
  | some p => .ok p
  | none => .error (.fault .value s!"Unknown classifier profile: {c.classifierProfile}")

/-- The `Address.Scheme` that `checksumScheme` names. -/
def scheme (c : Config) : Address.Scheme :=
  .ofName c.checksumScheme

end Config

end TokenRisk
