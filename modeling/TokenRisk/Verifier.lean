import TokenRisk.Cache
import TokenRisk.Report
import TokenRisk.Survey.Run

/-!
# Verifying

A verifier answers requests. Every request gets an identifier and an answer, also when the analysis
fails. Answers that would not change on another try are kept in a cache, if there is one, and handed
out again under new identifiers.

A request is answered in three steps: `begin` looks into the cache and draws an identifier, `work`
analyzes, and `complete` stores the answer. Requests of a batch begin in order and complete in the
order in which their work ends.
-/

namespace TokenRisk

/-- What a verifier needs besides its `Session`. -/
structure Verifier where
  analyze : Analyze
  surveyor : Surveyor
  defaultChainId : Int
  /-- The wall clock in milliseconds. -/
  nowMs : Int

/-- What a verifier remembers from one request to the next. -/
structure Session where
  nextId : Nat := 1
  cache : Option (Cache String Verification) := none

/-- A `Verification` without its identifier, and the `Outcome` that decides whether it is kept. -/
abbrev Work := Except Failure (Verification × Outcome)

namespace Verifier

variable (v : Verifier)

/-- The wall clock as a `timestamp`. -/
def now : String := timestamp v.nowMs

/-- The wall clock in seconds, as the `Cache` reads it. -/
def clock : Binary64 :=
  .ofRatio (v.nowMs < 0) v.nowMs.natAbs 1000

/-- The key under which `verify` keeps an answer. The chain id is written in all its digits:
`Numeral.maxIntDigits` bounds the integers that are read, not those that are written here. -/
def cacheKey (address : String) (chainId : Int) (crossChain : Bool) : String :=
  Text.lower address ++ ":" ++ toString chainId ++ ":" ++ (if crossChain then "true" else "false")

/-- The `cacheKey` of a request. The chains that it asks for are no part of it. -/
def keyOf (r : Request) : String :=
  cacheKey r.addressText (r.chainOr v.defaultChainId) r.crossChain

/-- The identifier for a number. -/
def requestId (n : Nat) : String :=
  s!"req_{v.nowMs}_{n}"

/-- Draws the next `requestId`. -/
def drawId (s : Session) : String × Session :=
  (v.requestId s.nextId, { s with nextId := s.nextId + 1 })

/-- The verification of a request from its `Outcome` and, for a request across chains, its
`Survey`. -/
def answer (id : String) (r : Request) (outcome : Outcome) (survey : Option Survey) :
    Verification where
  requestId := id
  timestamp := v.now
  request := r
  decision := Decision.decide outcome.analysis survey
  report := detailedReport (some outcome.analysis) survey
  analysis := some outcome.analysis
  survey := survey

/-- The answer to a request that failed: `Decision.ofError`, and no analysis. -/
def failedAnswer (id : String) (r : Request) (message : String) : Verification where
  requestId := id
  timestamp := v.now
  request := r
  decision := {
    isSafe := false
    canAutomate := false
    requiresApproval := false
    risks := [message]
    reason := "Verification failed: " ++ message }
  report := "Error during verification: " ++ message

/-- The outcome on the requested chain and the survey of the others. The requested chain is analyzed
apart if it is none of the `Surveyor.targets`, and once more if its visit came to no outcome. -/
def analyzeWithSurvey (r : Request) (chainId : Int) :
    Timed Call (Except Failure (Outcome × Survey)) :=
  let targets := Surveyor.targets r.chainIds
  let survey := v.surveyor.run r.addressText (some targets) chainId
  if !targets.contains chainId then
    (Timed.both (v.analyze r.tokenAddress chainId) survey).map fun
      | .ok (outcome, survey, _) => .ok (outcome, survey)
      | .error f => .error f
  else
    survey.bind fun
      | .error f => pure (.error f)
      | .ok (survey, outcomes) =>
        match outcomes.lookup chainId with
        | some outcome => pure (.ok (outcome, survey))
        | none => (v.analyze r.tokenAddress chainId).map fun r => r.map (·, survey)

/-- The work that a request takes: an analysis, or `analyzeWithSurvey` across chains. -/
def work (id : String) (r : Request) : Timed Call Work :=
  let chainId := r.chainOr v.defaultChainId
  if r.crossChain then
    (v.analyzeWithSurvey r chainId).map fun x =>
      x.map fun (outcome, survey) => (v.answer id r outcome (some survey), outcome)
  else
    (v.analyze r.tokenAddress chainId).map fun x =>
      x.map fun outcome => (v.answer id r outcome none, outcome)

/-- The work on a request never ends, as its `Surveyor.run` has no slot to wait for. -/
def IsStuck (r : Request) : Prop :=
  r.crossChain = true ∧ v.surveyor.IsStuck (Surveyor.targets r.chainIds)

/-- A request that has begun: answered from the cache, or at work. -/
inductive Begun where
  | hit (answer : Verification)
  | working (work : Timed Call Work)

/-- Looks the key of a request up in the cache, by `Cache.get`. -/
def lookUp (r : Request) (s : Session) : Option Verification × Session :=
  match s.cache with
  | none => (none, s)
  | some cache =>
    let (found, cache) := cache.get v.clock (v.keyOf r)
    (found, { s with cache := some cache })

/-- Begins a request by `lookUp`, and draws an identifier. An answer that was found is handed out
under it. -/
def begin (r : Request) (s : Session) : Begun × Session :=
  let (found, s) := v.lookUp r s
  let (id, s) := v.drawId s
  match found with
  | some answer => (.hit { answer with requestId := id }, s)
  | none => (.working (v.work id r), s)

/-- Stores an answer under the key of its request. -/
def store (r : Request) (answer : Verification) (s : Session) : Except Failure Unit × Session :=
  match s.cache with
  | none => (.ok (), s)
  | some cache =>
    let (stored, cache) := cache.put v.clock (v.keyOf r) (some answer)
    (stored, { s with cache := some cache })

/-- Completes a request whose work has ended. An answer whose outcome `isSettled` is stored. A
failure is answered under an identifier of its own. -/
def complete (r : Request) (work : Work) (s : Session) : Except Failure Verification × Session :=
  match work with
  | .error f =>
    let (id, s) := v.drawId s
    (.ok (v.failedAnswer id r f.description), s)
  | .ok (answer, outcome) =>
    if outcome.isSettled then
      let (stored, s) := v.store r answer s
      (stored.map fun _ => answer, s)
    else (.ok answer, s)

/-- A request of a batch: its place, and when its work ends. -/
structure Pending where
  place : Nat
  request : Request
  work : Timed Call Work

/-- What a batch has come to: the answers by place, what is still at work, and the calls. -/
structure Progress where
  session : Session
  answers : List (Nat × Except Failure Verification) := []
  pending : List Pending := []

/-- Begins the requests of a batch in order. Work that takes no time at all is completed at once. -/
def beginAll (requests : List Request) (s : Session) : Progress :=
  (requests.zipIdx).foldl (fun p (r, place) =>
    match v.begin r p.session with
    | (.hit answer, s) => { p with session := s, answers := p.answers ++ [(place, .ok answer)] }
    | (.working work, s) =>
      if work.finish = .zero then
        let (answer, s) := v.complete r work.value s
        { p with session := s, answers := p.answers ++ [(place, answer)] }
      else { p with session := s, pending := p.pending ++ [⟨place, r, work⟩] }) { session := s }

/-- Whether an answer could not be stored. -/
def isRefused (answer : Nat × Except Failure Verification) : Bool :=
  match answer.2 with
  | .ok _ => false
  | .error _ => true

/-- Completes the `pending` requests in the order in which their work ends, up to the first whose
answer `isRefused`. -/
def completeAll (p : Progress) : Progress :=
  (p.pending.mergeSort fun a b => a.work.finish.ble b.work.finish).foldl (fun p w =>
    if p.answers.any isRefused then p
    else
      let (answer, s) := v.complete w.request w.work.value p.session
      { p with session := s, answers := p.answers ++ [(w.place, answer)] }) p

/-- The answers of a batch in the order of the requests, or the failure that stopped it. -/
def answersInOrder (p : Progress) : Except Failure (List Verification) :=
  ((p.answers.mergeSort fun a b => a.1 ≤ b.1).map (·.2)).mapM id

/-- Answers requests side by side: `beginAll` and then `completeAll`. -/
def verifyAll (requests : List Request) (s : Session) :
    Timed Call (Except Failure (List Verification)) × Session :=
  let started := v.beginAll requests s
  let ended := v.completeAll started
  let tasks := started.pending.map fun w => w.work.spawned
  ({ finish := if requests.isEmpty then .zero else Timed.joinAt (tasks.map Timed.finish)
     value := answersInOrder ended
     calls := tasks.flatMap Timed.calls }, ended.session)

/-- Answers a request: `begin`, its work, and `complete`. -/
def verify (r : Request) (s : Session) : Timed Call (Except Failure Verification) × Session :=
  match v.begin r s with
  | (.hit answer, s) => (pure (.ok answer), s)
  | (.working work, s) =>
    let (answer, s) := v.complete r work.value s
    (work.map fun _ => answer, s)

/-- Begins a request and tells its work to stop at a moment. Work that is over by then, or that
`outlasts` being told, is completed; any other is given up at once and leaves no trace but its
identifier and its `lookUp`. Tells whether the request was cancelled. -/
def cancelAt (moment : Instant) (r : Request) (s : Session) :
    Timed Call (Except Failure Bool) × Session :=
  match v.begin r s with
  | (.hit _, s) => ({ finish := moment, value := .ok false, calls := [] }, s)
  | (.working work, s) =>
    if work.finish = .zero ∨ work.finish.blt moment ∨ work.outlasts moment then
      let (answer, s) := v.complete r work.value s
      ({ finish := moment, value := answer.map fun _ => false, calls := work.calls }, s)
    else ({ finish := moment, value := .ok true, calls := work.calls }, s)

/-- A `Request` for a single chain. -/
def quickRequest (address : Option String) (chainId : Option Int) : Request where
  tokenAddress := address
  chainId := some (({ tokenAddress := address, chainId } : Request).chainOr v.defaultChainId)

/-- A `Request` for a survey. -/
def deepRequest (address : Option String) (chainIds : Option (List Int)) : Request where
  tokenAddress := address
  chainId := some v.defaultChainId
  crossChain := true
  chainIds := chainIds

end Verifier

namespace Session

/-- Empties the cache by `Cache.clear`. -/
def clear (s : Session) : Session :=
  { s with cache := s.cache.map Cache.clear }

/-- The `Cache.stats` of the cache, if there is one. -/
def stats (now : Binary64) (s : Session) : Option (Cache.Stats String) × Session :=
  match s.cache with
  | none => (none, s)
  | some cache =>
    let (stats, cache) := cache.stats now
    (some stats, { s with cache := some cache })

end Session

end TokenRisk
