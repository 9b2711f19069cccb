import TokenRisk.Proofs.Fresh
import TokenRisk.Proofs.Keys
import TokenRisk.Proofs.LetterCase

/-!
# When the memory shows

A verifier with a memory should answer like one without. For requests about single chains it does as
long as requests under the same key are checked alike: a key holds the address in lower case, but
whether an address is valid is decided by its text as it stands.

## Key results

- `freshContent_of_standing`: requests under the same key that are checked alike are told the same
- `transparent_of_alike`: the memory does not show among requests that are checked alike
- `single_chain_transparent_iff`: and it shows among any others
-/

namespace TokenRisk

/-! ## Checks -/

/-- Whether an address is valid, if its check comes to an end. -/
def Address.standing (scheme : Scheme) (address : Option String) : Option Bool :=
  (check scheme address).toOption.map Check.isValid

theorem Address.standing_eq_some_iff (scheme : Scheme) (address : Option String) (valid : Bool) :
    standing scheme address = some valid ↔
      ∃ found, check scheme address = .ok found ∧ found.isValid = valid := by
  simp only [standing]
  cases check scheme address with
  | error f => simp [Except.toOption]
  | ok found => simp [Except.toOption]

/-- The message of `invalidAddress` is one of two, and the text of the address decides which. -/
private theorem message_of_invalid (scheme : Address.Scheme) (address : Option String)
    (found : Address.Check) (h : Address.check scheme address = .ok found)
    (hinvalid : found.isValid = false) :
    (Failure.invalidAddress address found.errors).message =
      if address.getD "" = "" then "Address is empty or undefined"
      else "Invalid address format: must be 42 characters (0x followed by 40 hex chars)" := by
  simp only [Address.check] at h
  split at h
  · rename_i hempty
    rw [if_pos hempty, ← Except.ok.inj h]
    rfl
  · rename_i hnonempty
    rw [if_neg hnonempty]
    split at h
    · rw [← Except.ok.inj h]
      rfl
    · -- An address that passes the format fails at its checksum at most, and that leaves it valid.
      split at h
      · rw [← Except.ok.inj h] at hinvalid
        cases hinvalid
      · obtain ⟨expected, _, hfound⟩ := Except.map_eq_ok_iff.mp h
        split at hfound <;> rw [← hfound] at hinvalid <;> cases hinvalid

/-- Addresses with the same lower-case form and the same `standing` have the same bare analysis. -/
theorem Analyzer.bare_analyze_of_standing (a : Analyzer) (address address' : Option String)
    (chainId : Int) (o : Outcome)
    (hlower : Text.lower (address.getD "") = Text.lower (address'.getD ""))
    (hstanding : Address.standing a.scheme address = Address.standing a.scheme address')
    (h : (a.analyze address chainId).value = .ok o) :
    ∃ o', (a.analyze address' chainId).value = .ok o' ∧ o'.analysis.bare = o.analysis.bare := by
  cases hcheck : Address.check a.scheme address with
  | error f =>
    simp only [analyze, hcheck] at h
    cases h
  | ok found =>
    obtain ⟨found', hcheck', hvalid⟩ := (Address.standing_eq_some_iff ..).mp
      (hstanding.symm.trans ((Address.standing_eq_some_iff a.scheme address found.isValid).mpr
        ⟨found, hcheck, rfl⟩))
    rw [a.value_analyze_of_check address chainId found hcheck] at h
    refine ⟨_, a.value_analyze_of_check address' chainId found' hcheck', ?_⟩
    rw [← Except.ok.inj h, hvalid, ← hlower]
    cases hisValid : found.isValid with
    | false =>
      -- What is said then depends on whether there is an address at all.
      have hempty : address.getD "" = "" ↔ address'.getD "" = "" := by
        rw [← Text.lower_eq_empty_iff, hlower, Text.lower_eq_empty_iff]
      have hmessage := message_of_invalid a.scheme address found hcheck hisValid
      have hmessage' := message_of_invalid a.scheme address' found' hcheck' (hvalid.trans hisValid)
      simp only [← hempty, ← hmessage] at hmessage'
      simp only [Bool.false_eq_true, ↓reduceIte, failure, Outcome.analysis, Analysis.placeholder,
        Analysis.bare, hlower, hmessage']
    | true =>
      simp only [↓reduceIte]
      split
      · -- The notes on the address are the only difference.
        have hvalue := congrArg Timed.value (a.analyzeValid_atTime a.now
          (Text.lower (address.getD "")) chainId found'.warnings found.warnings)
        rw [← Outcome.analysis_bare, ← Outcome.analysis_bare]
        refine congrArg Outcome.analysis ?_
        exact (a.bare_orUnexpected a.now _ chainId _).trans
          ((congrArg (fun x => (a.orUnexpected _ chainId x).bare) hvalue).trans
            (a.bare_orUnexpected a.now _ chainId _).symm)
      · rfl

namespace Scene

variable (c : Scene)

/-- The `freshContent` of a request about a single chain is said by its analysis. -/
theorem freshContent_of_single (r : Request) (h : r.crossChain = false) :
    c.freshContent r = saidOf (((c.analyzer.analyze r.tokenAddress (c.chainOf r)).value).map
      fun o => ((Decision.decide o.analysis none, some o.analysis.bare, none), o.bare)) := by
  rw [freshContent, c.value_work_of_single "" r h]
  cases (c.analyzer.analyze r.tokenAddress (c.chainOf r)).value <;> rfl

private theorem contentOf_congr (x y : Analysis) (h : x.bare = y.bare) :
    ((Decision.decide x none, some x.bare, none) : Content) =
      (Decision.decide y none, some y.bare, none) := by
  have hx : Decision.decide x.bare none = Decision.decide x none := Decision.decide_bare x none
  have hy : Decision.decide y.bare none = Decision.decide y none := Decision.decide_bare y none
  rw [← hx, ← hy, h]

/-- Requests about single chains that share a key and have the same `standing` have the same
`freshContent`, unless their check fails. -/
theorem freshContent_of_standing (r r' : Request) (hr : r.crossChain = false)
    (hr' : r'.crossChain = false) (hkey : c.verifier.keyOf r = c.verifier.keyOf r')
    (hstanding : Address.standing c.analyzer.scheme r.tokenAddress =
      Address.standing c.analyzer.scheme r'.tokenAddress)
    (hsome : Address.standing c.analyzer.scheme r.tokenAddress ≠ none) :
    c.freshContent r = c.freshContent r' := by
  -- Requests under the same key are about the same chain and the same address in lower case.
  obtain ⟨hlower, hchain, _⟩ := Verifier.cacheKey_inj _ _ _ _ _ _ hkey
  obtain ⟨valid, hvalid⟩ := Option.ne_none_iff_exists'.mp hsome
  obtain ⟨found, hcheck, _⟩ := (Address.standing_eq_some_iff ..).mp hvalid
  have hvalue := c.analyzer.value_analyze_of_check r.tokenAddress (c.chainOf r) found hcheck
  obtain ⟨o', ho', hbare⟩ := c.analyzer.bare_analyze_of_standing _ r'.tokenAddress _ _ hlower
    hstanding hvalue
  rw [c.freshContent_of_single r hr, c.freshContent_of_single r' hr',
    show c.chainOf r' = c.chainOf r from hchain.symm, hvalue, ho']
  exact contentOf_congr _ _ hbare.symm

/-- `work` on a single chain that comes to something has checked its address. -/
private theorem standing_of_work (id : String) (r : Request) (h : r.crossChain = false)
    (x : Verification × Outcome) (hwork : (c.verifier.work id r).value = .ok x) :
    Address.standing c.analyzer.scheme r.tokenAddress ≠ none := by
  intro hnone
  rw [c.value_work_of_single id r h] at hwork
  simp only [Address.standing, Option.map_eq_none_iff] at hnone
  cases hcheck : Address.check c.analyzer.scheme r.tokenAddress with
  | ok found => rw [hcheck] at hnone; cases hnone
  | error f =>
    simp only [Analyzer.analyze, hcheck] at hwork
    cases hwork

end Scene

/-! ## Histories -/

/-- The verdict of an answer: its decision, and the score, the level and the error of its analysis.
-/
def Verification.verdict (a : Verification) : Decision × Option (Int × Level × Option String) :=
  (a.decision, a.analysis.map fun x => (x.score, x.level, x.error))

/-- Answers with the same `content` have the same `verdict`. -/
theorem Verification.verdict_congr (a b : Verification) (h : a.content = b.content) :
    a.verdict = b.verdict := by
  have hverdict (x : Verification) : x.verdict =
      (x.content.1, x.content.2.1.map fun y => (y.score, y.level, y.error)) := by
    simp only [verdict, content, Option.map_map]
    rfl
  rw [hverdict, hverdict, h]

namespace Scene

variable (c : Scene)

/-- Requests that are made one after the other, each at its time. -/
def requestsOf (history : List (Int × Request)) : List Event :=
  c.eventsOf (history.map fun x => (x.1, .verify x.2))

/-- The memory of the session `s` does not show in a history: every answer has the `verdict` that a
verifier with nothing in its memory gives to the request, at whatever time. -/
def IsTransparent (s : Session) (history : List (Int × Request)) : Prop :=
  ∀ (i : Nat) (effect : Effect) (a : Verification),
    (s.run (c.requestsOf history)).1[i]? = some effect → a ∈ effect.answers →
    ∃ ms r, history[i]? = some (ms, r) ∧ ∀ ms' (s' : Session), s'.IsFresh → s'.CanStore →
      ∃ b, ((c.atTime ms').verifier.verify r s').1.value = .ok b ∧ b.verdict = a.verdict

/-- Whatever is answered in a history of requests about single chains is their `freshContent`, as
long as those that share a key have the same `standing`. -/
theorem content_of_alike (s : Session) (history : List (Int × Request)) (hfresh : s.IsFresh)
    (hsingle : ∀ x ∈ history, x.2.crossChain = false)
    (halike : ∀ x ∈ history, ∀ y ∈ history, c.verifier.keyOf x.2 = c.verifier.keyOf y.2 →
      Address.standing c.analyzer.scheme x.2.tokenAddress =
        Address.standing c.analyzer.scheme y.2.tokenAddress)
    (i : Nat) (effect : Effect) (a : Verification)
    (heffect : (s.run (c.requestsOf history)).1[i]? = some effect) (ha : a ∈ effect.answers) :
    ∃ ms r, history[i]? = some (ms, r) ∧ a.content = c.freshContent r := by
  obtain ⟨e, he, r, hr, hanswered⟩ := answers_run _ s hfresh i effect a heffect ha
  simp only [requestsOf, eventsOf, List.map_map, List.getElem?_map, Option.map_eq_some_iff] at he
  obtain ⟨⟨ms, r'⟩, hi, rfl⟩ := he
  obtain rfl : r = r' := List.mem_singleton.mp hr
  refine ⟨ms, r, hi, ?_⟩
  have hmem : (ms, r) ∈ history := List.mem_of_getElem? hi
  rcases c.content_of_answered ms r a hanswered with hcontent | ⟨b, id, hb, rfl⟩
  · exact hcontent
  · -- The answer was kept for an earlier request under the same key.
    obtain ⟨r', ⟨x, hx, hbegun⟩, hkey, ⟨y, hwork, _⟩, hcontent⟩ :=
      c.content_of_isWorkedIn _ _ b (hb.mono fun _ he => List.mem_of_mem_take he)
    obtain ⟨⟨ms', r''⟩, hmem', rfl⟩ := List.mem_map.mp hx
    obtain rfl : r' = r'' := List.mem_singleton.mp hbegun
    rw [keyOf_atTime] at hkey
    rw [← c.freshContent_of_standing r' r (hsingle _ hmem') (hsingle _ hmem) hkey
      (halike _ hmem' _ hmem hkey) (c.standing_of_work "" r' (hsingle _ hmem') y hwork)]
    exact hcontent

/-- `IsTransparent` holds of a history of requests about single chains, as long as those that share
a key have the same `standing`. -/
theorem transparent_of_alike (s : Session) (history : List (Int × Request)) (hfresh : s.IsFresh)
    (hsingle : ∀ x ∈ history, x.2.crossChain = false)
    (halike : ∀ x ∈ history, ∀ y ∈ history, c.verifier.keyOf x.2 = c.verifier.keyOf y.2 →
      Address.standing c.analyzer.scheme x.2.tokenAddress =
        Address.standing c.analyzer.scheme y.2.tokenAddress) :
    c.IsTransparent s history := by
  intro i effect a heffect ha
  obtain ⟨ms, r, hi, hcontent⟩ :=
    c.content_of_alike s history hfresh hsingle halike i effect a heffect ha
  refine ⟨ms, r, hi, fun ms' s' hfresh' hroom => ?_⟩
  obtain ⟨b, hb, hsame⟩ := c.verify_of_isFresh ms' r s' hfresh' hroom
  exact ⟨b, hb, Verification.verdict_congr b a (hsame.trans hcontent.symm)⟩

end Scene

/-! ## Where no address has code -/

/-- `Sources` that know no contract. -/
def Sources.vacant : Sources where
  code _ _ := { answer := .ok "0x" }
  source _ _ := { answer := .ok none }
  holders _ _ _ := { answer := .ok [] }
  creation _ _ := { answer := .ok none }
  label _ _ := { answer := .ok .null }

/-- An empty memory that keeps answers for an hour. -/
def Session.hourly : Session where
  cache := some { lifetime := .whole 3600, capacity := 8 }

theorem Session.isFresh_hourly : hourly.IsFresh := by
  intro c hc
  rw [← Option.some.inj hc]

namespace Scene

/-- A scene of `Sources.vacant`, without limits. -/
def vacant (scheme : Address.Scheme) (defaultChainId : Int) : Scene where
  analyzer := {
    sources := .vacant
    callLimit := none
    sampleSize := 10
    scheme := scheme
    profile := .strict
    detectors := .default
    now := timestamp 0 }
  chainLimit := none
  slots := 8
  defaultChainId := defaultChainId
  nowMs := 0

variable (scheme : Address.Scheme) (defaultChainId : Int)

private theorem analyzeValid_vacant (address : String) (chainId : Int) (notes : List String) :
    ((vacant scheme defaultChainId).analyzer.analyzeValid address chainId notes).value =
      .ok ((vacant scheme defaultChainId).analyzer.failure address chainId .notAContract notes
        Analysis.noContractAdvice) := by
  have hdigits : Bytecode.digits "0x" = "" := by decide +kernel
  have hcode : (vacant scheme defaultChainId).analyzer.codeAnswer address chainId = .ok "0x" := rfl
  have hsource : (vacant scheme defaultChainId).analyzer.sourceAnswer address chainId =
      .ok none := rfl
  have hfetch := ((vacant scheme defaultChainId).analyzer.value_fetch_eq_ok_iff address chainId
    _).mpr ⟨⟨by rw [hcode]; exact Analyzer.isRecorded_ok _,
      by rw [hsource]; exact Analyzer.isRecorded_ok _⟩, rfl⟩
  rw [hcode, hsource] at hfetch
  simp only [Analyzer.analyzeValid, Timed.value_bind, hfetch]
  simp [Analyzer.snapshot, hdigits]

/-- The messages about valid addresses that have no code. -/
def vacantMessages : List String :=
  [Failure.notAContract.message, Failure.unsupportedChain.message]

/-- In a `vacant` scene `analyze` always fails, and its failure is settled and tells whether the
address is valid. -/
theorem analyze_vacant (address : Option String) (chainId : Int) (found : Address.Check)
    (h : Address.check scheme address = .ok found) :
    ∃ o e, ((vacant scheme defaultChainId).analyzer.analyze address chainId).value = .ok o ∧
      o.isFailed = true ∧ o.isSettled = true ∧ o.analysis.error = some e ∧
        (found.isValid = true ↔ e ∈ vacantMessages) := by
  have hvalue := (vacant scheme defaultChainId).analyzer.value_analyze_of_check address chainId
    found h
  cases hvalid : found.isValid with
  | true =>
    -- A valid address fails for its chain, or for want of code.
    rw [hvalid, if_pos rfl] at hvalue
    cases hsupported : Chain.isSupported chainId with
    | true =>
      rw [hsupported, if_pos rfl, analyzeValid_vacant] at hvalue
      exact ⟨_, Failure.notAContract.message, hvalue, rfl, rfl, rfl, by simp [vacantMessages]⟩
    | false =>
      rw [hsupported, if_neg (by simp)] at hvalue
      exact ⟨_, Failure.unsupportedChain.message, hvalue, rfl, rfl, rfl, by simp [vacantMessages]⟩
  | false =>
    -- An invalid one fails with a message of its own.
    rw [hvalid, if_neg (by simp)] at hvalue
    refine ⟨_, _, hvalue, rfl, rfl, rfl, ?_⟩
    rw [message_of_invalid scheme address found h hvalid]
    split <;> decide

/-- The `standing` of an address, as far as the error of its analysis tells. -/
def toldStanding (x : Content) : Option Bool :=
  x.2.1.map fun y => y.error.any fun e => vacantMessages.contains e

private theorem toldStanding_content (a : Verification) :
    toldStanding a.content =
      a.verdict.2.map fun y => y.2.2.any fun e => vacantMessages.contains e := by
  simp only [toldStanding, Verification.content, Verification.verdict, Option.map_map]
  rfl

/-- In a `vacant` scene what is said tells the `standing` of the address. -/
private theorem toldStanding_freshContent (r : Request) (hr : r.crossChain = false) :
    toldStanding ((vacant scheme defaultChainId).freshContent r) =
      Address.standing scheme r.tokenAddress := by
  rw [freshContent_of_single _ r hr]
  cases hcheck : Address.check scheme r.tokenAddress with
  -- A check that fails leaves no analysis to tell anything.
  | error f =>
    have hscheme : Address.check (vacant scheme defaultChainId).analyzer.scheme r.tokenAddress =
        .error f := hcheck
    simp only [Analyzer.analyze, hscheme, Address.standing, hcheck]
    rfl
  | ok found =>
    obtain ⟨o, e, hvalue, _, _, herror, hmessage⟩ := analyze_vacant scheme defaultChainId
      r.tokenAddress ((vacant scheme defaultChainId).chainOf r) found hcheck
    rw [hvalue, (Address.standing_eq_some_iff scheme r.tokenAddress found.isValid).mpr
      ⟨found, hcheck, rfl⟩]
    show some ((o.analysis.error).any _) = _
    rw [herror, Option.any_some, Option.some.injEq, Bool.eq_iff_iff, List.contains_iff_mem]
    exact hmessage.symm

theorem isLive_hourly : ((vacant scheme defaultChainId).verifier.clock.lt
    ((vacant scheme defaultChainId).verifier.clock.add (Number.whole 3600).toBinary64)) = true := by
  have hclock : (vacant scheme defaultChainId).verifier.clock = .ofRatio false 0 1000 := rfl
  rw [hclock]
  decide +kernel

/-- If `IsTransparent` holds in a `vacant` scene for two requests with the same key, they have the
same `standing`, unless the check of the first fails. -/
private theorem standing_of_transparent (r r' : Request) (hr : r.crossChain = false)
    (hr' : r'.crossChain = false)
    (hkey : (vacant scheme defaultChainId).verifier.keyOf r' =
      (vacant scheme defaultChainId).verifier.keyOf r)
    (hsome : Address.standing scheme r.tokenAddress ≠ none)
    (h : (vacant scheme defaultChainId).IsTransparent .hourly [(0, r), (0, r')]) :
    Address.standing scheme r.tokenAddress = Address.standing scheme r'.tokenAddress := by
  let c := vacant scheme defaultChainId
  have hnow : c.atTime 0 = c := rfl
  -- The first request is worked on, and what it comes to is settled.
  have hwork (id : String) : ∃ a o, (c.verifier.work id r).value = .ok (a, o) ∧
      o.isSettled = true := by
    obtain ⟨valid, hvalid⟩ := Option.ne_none_iff_exists'.mp hsome
    obtain ⟨found, hcheck, _⟩ := (Address.standing_eq_some_iff ..).mp hvalid
    obtain ⟨o, _, hvalue, _, hsettled, _⟩ := analyze_vacant scheme defaultChainId r.tokenAddress
      (c.chainOf r) found hcheck
    exact ⟨_, o, by rw [c.value_work_of_single id r hr, hvalue]; rfl, hsettled⟩
  obtain ⟨id, a, o, hao, _, hfound⟩ := c.verifier.lookUp_verify c.verifier r r' .hourly _ rfl
    (by decide) (c.verifier.lookUp_of_isFresh r .hourly Session.isFresh_hourly) hkey hwork
  obtain ⟨id', hanswer⟩ := c.verifier.verify_of_found r' _ a
    (hfound.trans (if_pos (isLive_hourly scheme defaultChainId)))
  -- The second request is answered by what was kept for the first.
  have heffect := Session.run_pair .hourly ⟨(c.atTime 0).verifier, .verify r⟩
    ⟨(c.atTime 0).verifier, .verify r'⟩
  have hmem := ((c.atTime 0).verifier.mem_answers_verify r' _ _).mpr hanswer
  obtain ⟨ms, r'', hi, hagree⟩ := h 1 _ _ heffect hmem
  obtain rfl : r' = r'' := (Prod.mk.inj (Option.some.inj hi)).2
  obtain ⟨b, hb, hverdict⟩ := hagree 0 {} Session.isFresh_default Session.canStore_default
  have hcontent :=
    c.content_of_isFresh 0 r' {} Session.isFresh_default Session.canStore_default b hb
  have hsaid := c.saidOf_work 0 id r
  rw [hnow, hao] at hsaid
  rw [← toldStanding_freshContent scheme defaultChainId r hr,
    ← toldStanding_freshContent scheme defaultChainId r' hr']
  show toldStanding (c.freshContent r) = toldStanding (c.freshContent r')
  rw [← hsaid, ← hcontent, toldStanding_content, hverdict]
  exact toldStanding_content a

/-- `IsTransparent` holds of every history of the requests that are `letIn`, whatever the scene,
exactly if no two of them share a key and differ in the `standing` of their addresses. -/
theorem single_chain_transparent_iff (letIn : Request → Prop)
    (hsingle : ∀ r, letIn r → r.crossChain = false) :
    (∀ (c : Scene) (s : Session) (history : List (Int × Request)),
      c.analyzer.scheme = scheme → c.defaultChainId = defaultChainId → s.IsFresh →
        (∀ x ∈ history, letIn x.2) → c.IsTransparent s history) ↔
      ∀ r r', letIn r → letIn r' →
        Verifier.cacheKey r.addressText (r.chainOr defaultChainId) false =
          Verifier.cacheKey r'.addressText (r'.chainOr defaultChainId) false →
        Address.standing scheme r.tokenAddress = Address.standing scheme r'.tokenAddress := by
  constructor
  · intro h r r' hr hr' hkey
    -- The keys are compared in a `vacant` scene, where an analysis says how the address was
    -- checked.
    have hkeys : (vacant scheme defaultChainId).verifier.keyOf r =
        (vacant scheme defaultChainId).verifier.keyOf r' := by
      rw [keyOf_verifier, keyOf_verifier, hsingle r hr, hsingle r' hr']
      exact hkey
    have hshows (x y : Request) (hx : letIn x) (hy : letIn y) :=
      h (vacant scheme defaultChainId) .hourly [(0, x), (0, y)] rfl rfl Session.isFresh_hourly
        (by simp [hx, hy])
    -- A check that fails tells nothing, so the request that is kept must be one that is checked.
    by_cases hnone : Address.standing scheme r.tokenAddress = none
    · by_cases hnone' : Address.standing scheme r'.tokenAddress = none
      · rw [hnone, hnone']
      · exact (standing_of_transparent scheme defaultChainId r' r (hsingle r' hr') (hsingle r hr)
          hkeys hnone' (hshows r' r hr' hr)).symm
    · exact standing_of_transparent scheme defaultChainId r r' (hsingle r hr) (hsingle r' hr')
        hkeys.symm hnone (hshows r r' hr hr')
  · rintro halike c s history rfl rfl hfresh hletIn
    refine c.transparent_of_alike s history hfresh (fun x hx => hsingle _ (hletIn x hx)) ?_
    intro x hx y hy hkey
    rw [keyOf_verifier, keyOf_verifier, hsingle _ (hletIn x hx), hsingle _ (hletIn y hy)] at hkey
    exact halike x.2 y.2 (hletIn x hx) (hletIn y hy) hkey

/-- So `IsTransparent` fails for some history of requests about single chains: an address with a
capital X shares the key of the address that it would be. -/
theorem single_chain_memory_shows :
    (∀ r : Request, r.crossChain = false → r.crossChain = false) ∧
      ¬ ∀ (c : Scene) (s : Session) (history : List (Int × Request)),
        c.analyzer.scheme = .legacy → c.defaultChainId = 1 → s.IsFresh →
          (∀ x ∈ history, x.2.crossChain = false) → c.IsTransparent s history := by
  refine ⟨fun _ h => h, fun h => ?_⟩
  have halike := (single_chain_transparent_iff .legacy 1 (fun r => r.crossChain = false)
    (fun _ h => h)).mp h { tokenAddress := some "0X1111111111111111111111111111111111111111" }
    .plain rfl rfl
  have hlower : Text.lower "0X1111111111111111111111111111111111111111" =
      Text.lower Sources.plainAddress := by decide +kernel
  have hstanding := halike (congrArg (· ++ ":" ++ toString (1 : Int) ++ ":" ++ "false") hlower)
  exact absurd hstanding (by decide +kernel)

end Scene

end TokenRisk
