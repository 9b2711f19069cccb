import TokenRisk.Config
import TokenRisk.Console.Arguments
import TokenRisk.Console.Markup
import TokenRisk.Console.Page
import TokenRisk.Json.Printer
import TokenRisk.Verifier
import TokenRisk.Wire

/-!
# The command line

The commands, what each prints, and how it ends: with 0 after success, with 1 when it fails and with
2 when it is not understood.
-/

namespace TokenRisk

/-- A command with its arguments, as `Command.parse?` reads it. -/
inductive Command where
  | verify (address : String) (chainId : Option Int) (crossChain : Bool) (chains : Option String)
      (asJson full : Bool)
  | batch (addresses : List String) (chainId : Option Int) (asJson asReport : Bool)
  | chains
  | checkAddress (address : String) (scheme : String)
  | help

namespace Command

def verifyOptions : OptionSet where
  switches := ["--cross-chain", "--json", "--full", "--verbose", "--help"]
  letters := [('v', "--verbose")]
  valued := ["--chain-id", "--chains"]

def batchOptions : OptionSet where
  switches := ["--json", "--report", "--verbose", "--help"]
  letters := [('v', "--verbose")]
  valued := ["--chain-id"]

def chainsOptions : OptionSet where
  switches := ["--help"]

def checkOptions : OptionSet where
  switches := ["--help"]
  valued := ["--scheme"]

/-- The arguments of a command, sorted out by `Arguments.sortOut`, unless help is asked for. -/
def withArguments (set : OptionSet) (words : List String)
    (command : Arguments → Option Command) : Option Command := do
  let a ← Arguments.sortOut set {} words
  if a.has "--help" then return .help else command a

/-- A command by its name and the words after it. -/
def ofName? (name : String) (words : List String) : Option Command :=
  match name with
  | "verify" => withArguments verifyOptions words fun a => do
    let chainId ← a.intValue? "--chain-id"
    match a.positional with
    | [address] =>
      some (.verify address chainId (a.has "--cross-chain") (a.value? "--chains")
        (a.has "--json") (a.has "--full"))
    | _ => none
  | "batch" => withArguments batchOptions words fun a => do
    let chainId ← a.intValue? "--chain-id"
    if a.positional.isEmpty then none
    else return .batch a.positional chainId (a.has "--json") (a.has "--report")
  | "chains" => withArguments chainsOptions words fun a =>
    if a.positional.isEmpty then some .chains else none
  | "check-address" => withArguments checkOptions words fun a =>
    match a.positional with
    | [address] => some (.checkAddress address ((a.value? "--scheme").getD "legacy"))
    | _ => none
  | _ => none

/-- The command that a command line stands for. Options in front of it are not understood, apart
from a plea for help. -/
def parse? : List String → Option Command
  | [] => none
  | "--" :: name :: words => ofName? name words
  | "--help" :: _ => some .help
  | name :: words => if Arguments.isOption name then none else ofName? name words

/-- The numbers in pieces of text, by `Numeral.readInt`; blank pieces are left out. -/
def numbersOf? : List (List Char) → Option (List Int)
  | [] => some []
  | piece :: pieces =>
    if piece.all Text.isBlank then numbersOf? pieces
    else do
      let n ← (Numeral.readInt (String.ofList piece)).toOption
      return n :: (← numbersOf? pieces)

/-- The wording of the refusal of a list of chains. -/
def badChainsMessage (chains : String) : String :=
  s!"Expected comma-separated chain ids, got '{chains}'"

/-- The chain numbers in a list with commas; nothing stands for no list. The error is
`badChainsMessage`. -/
def chainIds (chains : Option String) : Except String (Option (List Int)) :=
  match chains.getD "" with
  | "" => .ok none
  | s =>
    match numbersOf? (Text.splitOn ',' s.toList) with
    | some ids => .ok (some ids)
    | none => .error (badChainsMessage s)

/-- What a command printed and how it ended. -/
structure Output where
  exitCode : Nat := 0
  stdout : String := ""
  stderr : String := ""
  failure : Option Failure := none

/-- The `Output` of a command line that is not understood. -/
def Output.misuse : Output where
  exitCode := 2

/-- The `Output` of a command that failed, after what it has printed. -/
def Output.failed (o : Output) (f : Failure) : Output :=
  { o with exitCode := 1, failure := some f }

/-- Lines with a line break after each. -/
def ofLines (lines : List String) : String :=
  String.join (lines.map (· ++ "\n"))

/-- A text as `Page.lines` breaks it on the console. -/
def shown (s : String) : String :=
  ofLines (Page.lines s)

/-- A marked-up text as it appears on the console, by `Markup.plain`. -/
def marked (s : String) : Except Failure String :=
  (Markup.plain s).map shown

/-- Prints parts one after the other, up to the first that fails. -/
def printAll (o : Output) : List (Except Failure String) → Output
  | [] => o
  | .ok s :: parts => printAll { o with stdout := o.stdout ++ s } parts
  | .error f :: _ => o.failed f

/-- Warns of issues, up to the first whose text `marked` cannot show. -/
def warnAll (o : Output) : List String → Output
  | [] => o
  | issue :: issues =>
    match marked s!"[yellow]Config: {issue}[/yellow]" with
    | .ok s => warnAll { o with stderr := o.stderr ++ s } issues
    | .error f => o.failed f

/-- The style of a `Level`. -/
def levelStyle : Level → String
  | .low => "green"
  | .medium => "yellow"
  | .high => "orange3"
  | .critical => "red"

/-- A text in the `levelStyle` of a level. -/
def styled (level : Level) (s : String) : String :=
  s!"[{levelStyle level}]{s}[/{levelStyle level}]"

def yesNo (b : Bool) : String :=
  if b then "yes" else "no"

/-- A line of a list. -/
def bullet (s : String) : String :=
  "  • " ++ s

/-- The lines about a `Decision`, the level of its analysis included. -/
def decisionLines (v : Verification) : List String :=
  let d := v.decision
  (match v.analysis with
    | some a => ["Score: " ++ styled a.level s!"{a.score}/100 {a.level.name}"]
    | none => []) ++
  ["Verdict: " ++
      (if d.isSafe then "[bold green]SAFE[/bold green]" else "[bold red]UNSAFE[/bold red]"),
    "Can automate: " ++ yesNo d.canAutomate,
    "Requires approval: " ++ yesNo d.requiresApproval,
    "Reason: " ++ d.reason] ++
  (if d.risks.isEmpty then [] else "\n[bold]Risks:[/bold]" :: d.risks.map bullet)

/-- The cells of the row of a `ChainRecord`. -/
def recordCells (r : ChainRecord) : List String :=
  [r.chainName, yesNo r.isFound,
    match r.analysis with
      | some a => styled a.level s!"{a.level.name} ({a.score})"
      | none => "-",
    r.error.getD ""]

/-- A table whose cells hold markup, which `Markup.plain` takes out. -/
def markedTable (title : Option String) (headers : List String) (rows : List (List String)) :
    Except Failure String := do
  let rows ← rows.mapM fun r => r.mapM Markup.plain
  return ofLines (Page.table title headers rows)

/-- The parts about a `Survey`: its table and its advice. -/
def surveyParts (s : Survey) : List (Except Failure String) :=
  markedTable (some "Cross-chain") ["Chain", "Found", "Risk", "Note"]
    (s.records.map recordCells) :: s.recommendations.map fun r => marked (bullet r)

/-- What a `Verification` prints. -/
def verificationParts (address : String) (v : Verification) (asJson full : Bool) :
    List (Except Failure String) :=
  if asJson then [.ok (v.toJson.pretty ++ "\n")]
  else if full then [.ok (shown v.fullReport)]
  else
    marked s!"[bold green]Token verification[/bold green] {address}" ::
    (decisionLines v).map marked ++ (v.survey.map surveyParts).getD []

/-- The cells of the row of a `Verification` in a batch. -/
def verificationCells (v : Verification) : List String :=
  let (score, risk) := match v.analysis with
    | some a => (toString a.score, styled a.level a.level.name)
    | none => ("-", "-")
  [v.request.addressText, score, risk,
    if v.decision.isSafe then "[green]yes[/green]" else "[red]no[/red]",
    yesNo v.decision.canAutomate]

/-- What a batch prints. -/
def batchParts (vs : List Verification) (asJson asReport : Bool) :
    List (Except Failure String) :=
  if asJson then [.ok ((Json.array (vs.map Verification.toJson)).pretty ++ "\n")]
  else if asReport then [.ok (shown (Verification.comparison vs))]
  else
    let total := vs.length
    [markedTable none ["Token", "Score", "Risk", "Safe", "Automate"]
        (vs.map verificationCells),
      marked (s!"Safe: {Verification.safeCount vs}/{total} | " ++
        s!"Can automate: {Verification.automatableCount vs}/{total}")]

/-- What the list of chains prints, a row for each of `Chain.all`. -/
def chainsParts : List (Except Failure String) :=
  [markedTable none ["Chain ID", "Name", "Explorer"]
    (Chain.all.map fun c => [toString c.id, c.name, c.explorerUrl])]

/-- What an `Address.Check` prints. -/
def checkParts (c : Address.Check) : List (Except Failure String) :=
  (match c.normalized? with
    | some a => marked s!"[green]Valid[/green] {a}"
    | none => marked "[red]Invalid address[/red]") ::
  c.errors.map (fun e => marked s!"  [red]✗[/red] {e}") ++
  c.warnings.map fun w => marked s!"  [yellow]![/yellow] {w}"

/-- Makes a `Verifier` with an empty memory from the settings. -/
abbrev Start := Config → Except Failure (Verifier × Session)

/-- Answers requests by `verifyAll` with a verifier made for them. -/
def answerAll (start : Start) (config : Config) (requests : List Request) :
    Except Failure (List Verification) := do
  let (verifier, session) ← start config
  (verifier.verifyAll requests session).1.value

/-- Runs a command that needs the settings: reads them by `Config.ofEnvironment`, warns of
`Config.issues`, and goes on unless that failed. -/
def withConfig (env : Environment) (body : Config → Output → Output) : Output :=
  match Config.ofEnvironment env with
  | .error f => ({} : Output).failed f
  | .ok config =>
    match config.issues with
    | .error f => ({} : Output).failed f
    | .ok issues =>
      let warned := warnAll {} issues
      if warned.failure.isSome then warned else body config warned

/-- The chain that a request names, else that of the settings, by `Request.chainOr`. -/
def chainOr (chainId : Option Int) (config : Config) : Int :=
  ({ tokenAddress := none, chainId } : Request).chainOr config.defaultChainId

/-- Verifies one token. A list of chains that `chainIds` refuses ends it before a verifier is
made. -/
def runVerify (env : Environment) (start : Start) (address : String) (chainId : Option Int)
    (crossChain : Bool) (chains : Option String) (asJson full : Bool) : Output :=
  withConfig env fun config warned =>
    match chainIds chains with
    | .error _ => .misuse
    | .ok ids =>
      let request : Request := {
        tokenAddress := some address
        chainId := some (chainOr chainId config)
        crossChain
        chainIds := ids }
      match answerAll start config [request] with
      | .error f => warned.failed f
      | .ok vs => printAll warned (vs.flatMap fun v => verificationParts address v asJson full)

/-- Verifies several tokens, as one batch. -/
def runBatch (env : Environment) (start : Start) (addresses : List String) (chainId : Option Int)
    (asJson asReport : Bool) : Output :=
  withConfig env fun config warned =>
    let requests := addresses.map fun a =>
      ({ tokenAddress := some a, chainId := some (chainOr chainId config) } : Request)
    match answerAll start config requests with
    | .error f => warned.failed f
    | .ok vs => printAll warned (batchParts vs asJson asReport)

/-- Checks an address under the scheme of a name. -/
def runCheck (address scheme : String) : Output :=
  match Address.check (.ofName scheme) (some address) with
  | .error f => ({} : Output).failed f
  | .ok c =>
    let printed := printAll {} (checkParts c)
    if c.isValid then printed else { printed with exitCode := 1 }

/-- Runs a `Command`. -/
def run (env : Environment) (start : Start) : Command → Output
  | .verify address chainId crossChain ids asJson full =>
    runVerify env start address chainId crossChain ids asJson full
  | .batch addresses chainId asJson asReport =>
    runBatch env start addresses chainId asJson asReport
  | .chains => printAll {} chainsParts
  | .checkAddress address scheme => runCheck address scheme
  | .help => {}

/-- Runs a command line. One that `parse?` does not understand ends in `misuse`. -/
def runLine (env : Environment) (start : Start) (words : List String) : Output :=
  match parse? words with
  | none => .misuse
  | some command => command.run env start

end Command

end TokenRisk
