import TokenRisk.Request

/-!
# The wire form

Requests, verifications and their parts as JSON. Every field of a part is written, in a fixed order,
under the wire name of the field; parts that are missing are null.
-/

namespace TokenRisk

/-- Wire names that `wireName` does not put together from the words of the field. -/
def exceptionalNames : List (String × String) := [
  ("is_erc20", "isERC20"),
  ("is_erc721", "isERC721"),
  ("is_erc1155", "isERC1155"),
  ("cross_chain", "crossChainVerification")]

/-- A word with a large first letter. The words of field names are plain ASCII. -/
def capitalized : List Char → List Char
  | [] => []
  | c :: word => c.toUpper :: word

/-- The name of a field on the wire: its words run together, each but the first `capitalized`. -/
def wireName (field : String) : String :=
  match exceptionalNames.lookup field with
  | some name => name
  | none =>
    match Text.splitOn '_' field.toList with
    | [] => ""
    | first :: words => .ofList (first ++ words.flatMap capitalized)

namespace Json

/-- Fields with what they are rendered as, as an object. Of two fields with the same `wireName` the
later one would replace the other. -/
def ofFields (fields : List (String × Json)) : Json :=
  .object (fields.foldl (fun members f => setMember (wireName f.1) f.2 members) [])

/-- A list of texts. -/
def ofTexts (l : List String) : Json :=
  .array (l.map .string)

/-- An optional value, as `null` or by `f`. -/
def ofOption {α : Type} (f : α → Json) : Option α → Json
  | none => .null
  | some x => f x

end Json

/-! ## Parts of an analysis -/

def Standard.fields (s : Standard) : List (String × Json) := [
  ("is_erc20", .bool s.isERC20),
  ("is_erc721", .bool s.isERC721),
  ("is_erc1155", .bool s.isERC1155),
  ("detected_type", .string s.detectedType),
  ("selectors", .ofTexts s.selectors),
  ("confidence", .int s.confidence)]

def Standard.toJson (s : Standard) : Json :=
  .ofFields s.fields

def Ownership.fields (o : Ownership) : List (String × Json) := [
  ("owner", .ofText? o.owner),
  ("owner_label", .ofText? o.ownerLabel),
  ("is_multisig", .bool o.isMultisig),
  ("is_proxy", .bool o.isProxy),
  ("proxy_implementation", .ofText? o.implementation),
  ("risks", .ofTexts o.risks)]

def Ownership.toJson (o : Ownership) : Json :=
  .ofFields o.fields

def Holders.fields (h : Holders) : List (String × Json) := [
  ("total_holders", .int h.total),
  ("top_holder_address", .ofText? h.topAddress),
  ("top_holder_pct", .real h.topShare),
  ("top5_pct", .real h.top5Share),
  ("top10_pct", .real h.top10Share),
  ("concentration_risks", .ofTexts h.risks),
  ("is_highly_concentrated", .bool h.isConcentrated)]

def Holders.toJson (h : Holders) : Json :=
  .ofFields h.fields

def Findings.fields (f : Findings) : List (String × Json) := [
  ("has_selfdestruct", .bool f.hasSelfdestruct),
  ("has_minting", .bool f.hasMinting),
  ("is_pausable", .bool f.isPausable),
  ("has_blacklist", .bool f.hasBlacklist),
  ("proxy_patterns", .ofTexts f.proxyPatterns),
  ("unverified_code", .bool f.unverifiedCode),
  ("risks", .ofTexts f.risks),
  ("risk_count", .int f.riskCount)]

def Findings.toJson (f : Findings) : Json :=
  .ofFields f.fields

def Analysis.fields (a : Analysis) : List (String × Json) := [
  ("token_address", .string a.tokenAddress),
  ("chain_id", .int a.chainId),
  ("timestamp", .string a.timestamp),
  ("is_contract", .bool a.isContract),
  ("standard", a.signals.standard.toJson),
  ("ownership", a.signals.ownership.toJson),
  ("holders", a.signals.holders.toJson),
  ("findings", a.signals.findings.toJson),
  ("overall_score", .int a.score),
  ("risk_level", .string a.level.name),
  ("recommendations", .ofTexts a.recommendations),
  ("warnings", .ofTexts a.warnings),
  ("error", .ofText? a.error),
  ("contract_name", a.contractName)]

def Analysis.toJson (a : Analysis) : Json :=
  .ofFields a.fields

/-! ## Parts of a verification -/

def Decision.fields (d : Decision) : List (String × Json) := [
  ("is_safe", .bool d.isSafe),
  ("can_automate", .bool d.canAutomate),
  ("requires_approval", .bool d.requiresApproval),
  ("risks", .ofTexts d.risks),
  ("reason", .string d.reason)]

def Decision.toJson (d : Decision) : Json :=
  .ofFields d.fields

def ChainRecord.fields (r : ChainRecord) : List (String × Json) := [
  ("chain_id", .int r.chainId),
  ("chain_name", .string r.chainName),
  ("token_address", .string r.tokenAddress),
  ("exists", .bool r.isFound),
  ("analysis", .ofOption Analysis.toJson r.analysis),
  ("error", .ofText? r.error)]

def ChainRecord.toJson (r : ChainRecord) : Json :=
  .ofFields r.fields

def WrappedToken.fields (w : WrappedToken) : List (String × Json) := [
  ("chain", .int w.chainId),
  ("wrapped_address", .string w.address),
  ("wrapper_name", .string w.wrapperName),
  ("indicator", .string w.indicator),
  ("bridge_address", .ofText? w.bridgeAddress)]

def WrappedToken.toJson (w : WrappedToken) : Json :=
  .ofFields w.fields

def Survey.fields (s : Survey) : List (String × Json) := [
  ("base_address", .string s.baseAddress),
  ("base_chain_id", .int s.baseChainId),
  ("per_chain_results", .array (s.records.map ChainRecord.toJson)),
  ("tokens_found", .int s.found),
  ("verified_on_chains", .int s.verified),
  ("high_risk_on_chains", .int s.highRisk),
  ("medium_risk_on_chains", .int s.mediumRisk),
  ("bridge_indicators", .ofTexts s.bridgeIndicators),
  ("wrapped_versions", .array (s.wrapped.map WrappedToken.toJson)),
  ("recommendations", .ofTexts s.recommendations),
  ("timestamp", .string s.timestamp)]

def Survey.toJson (s : Survey) : Json :=
  .ofFields s.fields

def Request.fields (r : Request) : List (String × Json) := [
  ("token_address", .ofText? r.tokenAddress),
  ("chain_id", .ofOption .int r.chainId),
  ("cross_chain", .bool r.crossChain),
  ("chain_ids", .ofOption (fun ids => .array (ids.map .int)) r.chainIds)]

def Request.toJson (r : Request) : Json :=
  .ofFields r.fields

def Verification.fields (v : Verification) : List (String × Json) := [
  ("request_id", .string v.requestId),
  ("timestamp", .string v.timestamp),
  ("request", v.request.toJson),
  ("decision", v.decision.toJson),
  ("formatted_report", .string v.report),
  ("chain_analysis", .ofOption Analysis.toJson v.analysis),
  ("cross_chain_analysis", .ofOption Survey.toJson v.survey)]

def Verification.toJson (v : Verification) : Json :=
  .ofFields v.fields

end TokenRisk
