import TokenRisk.Proofs.Decision
import TokenRisk.Proofs.Session
import TokenRisk.Proofs.Verifier

/-!
# A positive answer has reasons

Denial is the default: an answer that calls a token safe, or lets a caller go ahead without asking,
rests on an analysis that has nothing against the token, on code and verified source that were both
asked for and answered in time, and on a clean survey if there is one. This is shown for the work on
one request (`justified_of_work`) and then for every answer that any history of a verifier brings,
worked out or remembered.
-/

namespace TokenRisk

/-! ## What is shown -/

/-- An answer that lets the caller go ahead. -/
def Verification.IsPositive (a : Verification) : Prop :=
  a.decision.isSafe = true ∨ a.decision.canAutomate = true

/-- An analysis that has nothing against the token. -/
structure Analysis.IsFavourable (x : Analysis) : Prop where
  error : x.error = none
  level : x.level = .low
  score : 80 ≤ x.score
  isContract : x.isContract = true
  verified : x.signals.findings.unverifiedCode = false
  spread : x.signals.holders.isConcentrated = false

/-- A survey that has nothing against the token. -/
structure Survey.IsFavourable (s : Survey) : Prop where
  found : 1 ≤ s.found
  verified : 1 ≤ s.verified
  highRisk : s.highRisk = 0

/-- An answer that has an analysis, and has it and the survey in favour of the token. -/
structure Verification.IsJustified (a : Verification) : Prop where
  analysis : ∃ x, a.analysis = some x ∧ x.IsFavourable
  survey : ∀ s, a.survey = some s → s.IsFavourable

/-- An analysis for which both code and source of the token were asked for and answered in time. -/
structure Analyzer.Substantiates (a : Analyzer) (asked : List Call) (x : Analysis) : Prop where
  code : .code x.tokenAddress x.chainId ∈ asked ∧
    ∃ code, a.codeAnswer x.tokenAddress x.chainId = .ok code ∧ code ≠ "" ∧
      Bytecode.digits code ≠ ""
  source : .source x.tokenAddress x.chainId ∈ asked ∧
    ∃ record, a.sourceAnswer x.tokenAddress x.chainId = .ok (some record) ∧ record.code ≠ ""

/-- The `work` on a request came to an answer, by an analysis of the token on the requested chain
that the analyzer `Substantiates`. -/
def Scene.WorksOut (c : Scene) (r : Request) (a : Verification) : Prop :=
  ∃ id o, (c.verifier.work id r).value = .ok (a, o) ∧
    ∃ x, a.analysis = some x ∧ x.tokenAddress = Text.lower r.addressText ∧
      x.chainId = c.chainOf r ∧ c.analyzer.Substantiates (c.verifier.work id r).asked x

/-! ## The work on one request -/

/-- A clean survey that `ofRecords` comes to is favourable. -/
private theorem isFavourable_survey (now address : String) (baseChainId : Int)
    (records : List ChainRecord) (s : Survey)
    (h : Survey.ofRecords now address baseChainId records = .ok s)
    (hclean : Decision.IsClean s) : s.IsFavourable := by
  obtain ⟨_, hfound, hverified, hhigh⟩ := Survey.ofRecords_eq_ok _ _ _ _ _ h
  have hf := hclean.found
  have hv := hclean.verified
  have hh := hclean.highRisk
  constructor <;> omega

/-- If the contract `hasSource`, this is the source of the answered record. -/
private theorem sourceAnswer_of_hasSource (a : Analyzer) (address : String) (chainId : Int)
    (h : (a.contractOf address chainId).hasSource = true) :
    ∃ record, a.sourceAnswer address chainId = .ok (some record) ∧ record.code ≠ "" := by
  cases htext : (a.contractOf address chainId).sourceCode with
  | none => simp [Contract.hasSource, Contract.sourceText, htext] at h
  | some text =>
    obtain ⟨record, hanswer, hcode, hne⟩ := Analyzer.sourceCode_snapshot _ _ _ _ text htext
    exact ⟨record, hanswer, hcode ▸ hne⟩

/-- An outcome on which a positive verdict rests is that of an analysis that the analyzer
`Substantiates`. -/
private theorem substantiates_of_isSound (a : Analyzer) (address : Option String) (chainId : Int)
    (o : Outcome) (ho : (a.analyze address chainId).value = .ok o)
    (hsound : Decision.IsSound o.analysis) :
    o.analysis.IsFavourable ∧ o.analysis.tokenAddress = Text.lower (address.getD "") ∧
      o.analysis.chainId = chainId ∧
      a.Substantiates (a.analyze address chainId).asked o.analysis := by
  rcases a.analyze_cases address chainId o ho with
    ⟨text, f, warnings, advice, rfl⟩ | ⟨check, hcheck, hvalid, hsupported, hcode, warnings, rfl⟩
  · -- A placeholder is at the highest level.
    exact absurd hsound.level (by simp [Analyzer.level_failure])
  · rw [Analyzer.analysis_outcomeOf] at hsound ⊢
    -- Verified source is text, and text is only ever that of an answered record.
    have hverified := hsound.verified
    have hsource := a.hasSource_of_verified _ hverified
    obtain ⟨record, hrecord, hne⟩ := sourceAnswer_of_hasSource a _ _ hsource
    obtain ⟨code, hanswer, hdigits⟩ := hcode.code
    have hempty : code ≠ "" := by
      rintro rfl
      exact hdigits (by decide +kernel)
    obtain ⟨_, hcontract⟩ := (Analyzer.isContract_snapshot_iff (Text.lower (address.getD ""))
      chainId _ (a.sourceAnswer (Text.lower (address.getD "")) chainId)).mpr
        ⟨code, hanswer, hdigits⟩
    have hscore := (Level.ofScore_eq_low_iff _).mp hsound.level
    obtain ⟨haskedCode, haskedSource⟩ := a.asked_analyze address chainId check hcheck hvalid
      hsupported code (some record) hanswer hrecord
    exact ⟨⟨rfl, hsound.level, hscore, hcontract, hverified, hsound.spread⟩, rfl, rfl,
      ⟨⟨haskedCode, code, hanswer, hempty, hdigits⟩, haskedSource, record, hrecord, hne⟩⟩

/-- If `work` comes to a positive answer, the answer has reasons. -/
theorem justified_of_work (c : Scene) (id : String) (r : Request) (a : Verification) (o : Outcome)
    (hwork : (c.verifier.work id r).value = .ok (a, o)) (hpositive : a.IsPositive) :
    a.IsJustified ∧ c.WorksOut r a := by
  obtain ⟨⟨address, haddress, hvalue, hasked⟩, survey, rfl, hsurvey⟩ := c.work_eq_ok id r a o hwork
  have hsafe : (Decision.decide o.analysis survey).isSafe = true :=
    hpositive.elim (fun h => h) fun h => by rwa [← Decision.canAutomate_decide]
  obtain ⟨hsound, hclean⟩ := (Decision.isSafe_decide_iff _ _).mp hsafe
  obtain ⟨hfavourable, htoken, hchain, hcode, hsource⟩ :=
    substantiates_of_isSound c.analyzer address (c.chainOf r) o hvalue hsound
  rw [haddress] at htoken
  refine ⟨⟨⟨o.analysis, rfl, hfavourable⟩, fun s hs => ?_⟩,
    ⟨id, o, hwork, o.analysis, rfl, htoken, hchain, ?_⟩⟩
  · rw [show survey = some s from hs] at hsurvey
    exact isFavourable_survey _ _ _ _ s hsurvey.2.2 (hclean s hs)
  · -- The survey may have asked more, but not less.
    exact ⟨⟨hasked _ hcode.1, hcode.2⟩, hasked _ hsource.1, hsource.2⟩

/-! ## Histories -/

/-- An action in a scene. -/
structure Occasion where
  scene : Scene
  action : Action

/-- An occasion as an event of a history. -/
def Occasion.event (x : Occasion) : Event :=
  ⟨x.scene.verifier, x.action⟩

/-- Settings and sources may change from one occasion to the next, and there may or may not be a
cache. Still every positive answer `IsJustified`, and is the answer, up to its identifier, that some
request `WorksOut` up to then, on code and source that were answered. -/
theorem positive_answer_is_justified (history : List Occasion) (s : Session) (hfresh : s.IsFresh)
    (i : Nat) (effect : Effect) (a : Verification)
    (heffect : (s.run (history.map Occasion.event)).1[i]? = some effect)
    (ha : a ∈ effect.answers) (hpositive : a.IsPositive) :
    a.IsJustified ∧ ∃ x ∈ history.take (i + 1), ∃ r ∈ x.scene.verifier.begunBy x.action,
      ∃ b, x.scene.WorksOut r b ∧ a = { b with requestId := a.requestId } := by
  obtain ⟨e, he, r, hr, hanswered⟩ := answers_run _ s hfresh i effect a heffect ha
  rw [List.getElem?_map, Option.map_eq_some_iff] at he
  obtain ⟨x, hx, rfl⟩ := he
  -- An answer was kept, worked out in this event, or says that the work failed.
  cases hanswered with
  | kept id b hkept =>
    -- The answer was worked out for a request of an earlier event, or of this one.
    obtain ⟨e', he', r', hr', _, id', o, hwork, _⟩ := hkept
    rw [← List.map_take, List.mem_map] at he'
    obtain ⟨x', hx', rfl⟩ := he'
    obtain ⟨hjustified, hsubstance⟩ := justified_of_work x'.scene id' r' b o hwork hpositive
    exact ⟨⟨hjustified.analysis, hjustified.survey⟩, x', hx', r', hr', b, hsubstance, rfl⟩
  | worked id _ o hwork =>
    obtain ⟨hjustified, hsubstance⟩ := justified_of_work x.scene id r a o hwork hpositive
    have hmem : x ∈ history.take (i + 1) := by
      rw [List.take_add_one, hx]
      simp
    have hbegun : r ∈ x.scene.verifier.begunBy x.action := by
      cases haction : x.action <;> simp_all [Verifier.begunBy, Verifier.requestsOf, Occasion.event]
    exact ⟨hjustified, x, hmem, r, hbegun, a, hsubstance, rfl⟩
  | failed id id' f =>
    exact absurd hpositive (by simp [Verification.IsPositive, Verifier.failedAnswer])

/-- A verdict on the plain token is remembered for an hour. By the second request its holders cannot
be had any more, and still the answer `IsJustified`. -/
theorem remembered_answer_is_justified :
    let first : Occasion := ⟨.plain (.ok []) 0, .verify .plain⟩
    let second : Occasion :=
      ⟨.plain (.error (.provider "explorer" (.timeout none))) 60000, .verify .plain⟩
    let s : Session := { cache := some { lifetime := .whole 3600, capacity := 8 } }
    ∃ effect a, (s.run [first.event, second.event]).1[1]? = some effect ∧ a ∈ effect.answers ∧
      a.IsJustified ∧ ∃ x ∈ [first, second], ∃ r' ∈ x.scene.verifier.begunBy x.action,
        ∃ b, x.scene.WorksOut r' b ∧ a = { b with requestId := a.requestId } := by
  intro first second s
  have hfresh : s.IsFresh := fun c hc => by rw [← Option.some.inj hc]
  -- The plain token is worked on once, and the outcome is settled.
  have hwork (id : String) := Scene.work_plain (.ok []) 0 id
  have hkey : second.scene.verifier.keyOf .plain = first.scene.verifier.keyOf .plain := by
    rw [Scene.keyOf_verifier, Scene.keyOf_verifier]
    rfl
  have hlive : second.scene.verifier.clock.lt (first.scene.verifier.clock.add (.ofInt 3600)) =
      true := by decide +kernel
  -- The second request finds what the first one stored.
  obtain ⟨id, a, o, hao, _, hfound⟩ := first.scene.verifier.lookUp_verify second.scene.verifier
    .plain .plain s _ rfl (by decide) (Verifier.lookUp_of_isFresh _ .plain s hfresh) hkey
    fun id => by
      obtain ⟨a, o, hao, hsettled, _⟩ := hwork id
      exact ⟨a, o, hao, hsettled⟩
  obtain ⟨a', o', hao', _, hsafe⟩ := hwork id
  obtain ⟨rfl, rfl⟩ := Prod.mk.inj (Except.ok.inj (hao.symm.trans hao'))
  -- After a minute the answer is still alive, although its holders could not be had any more.
  obtain ⟨id', hverify⟩ := second.scene.verifier.verify_of_found .plain _ a
    (hfound.trans (if_pos hlive))
  rw [← Verifier.perform_verify_snd, ← Verifier.mem_answers_verify] at hverify
  have heffect := Session.run_pair s first.event second.event
  exact ⟨_, _, heffect, hverify, positive_answer_is_justified [first, second] s
    hfresh 1 _ _ heffect hverify
    (.inl (hsafe.mpr (Scene.isConcentrated_plain_nil 0)))⟩

end TokenRisk
