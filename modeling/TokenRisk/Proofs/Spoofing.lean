import TokenRisk.Proofs.Agreement
import TokenRisk.Proofs.ReportLines
import TokenRisk.Proofs.Traffic

/-!
# Spoofed reports

A report quotes texts from outside as they are. One without a line end stays in the line of its
label and cannot be taken for a verdict. One with a line end goes on in lines of its own, and there
it can say that the token is safe. That is the only way: whatever is asked and whatever the sources
answer, the verdict lines in a report are its own and those in which quoted texts go on.

## Key results

- `Scene.isWritten_of_work`: all that a verification is made of inside is printable, and begins no
  verdict line.
- `verdict_is_spoofed_only_by_line_breaks`: what a reader of a report takes for the verdict.
- `Scene.name_spoofs_verdict`: a contract name does spoof it.
-/

namespace TokenRisk

open Text Report

/-! ## What a reader takes for the verdict -/

/-- What a report tells a reader, with some lines brought into it from outside: it is said to be
safe if it is, or if a line brought in says so, likewise for the use without asking, and the scores
that are read are its own and those brought in. -/
structure Verification.TellsVerdict (e : LineEnds) (v : Verification) (brought : List String) :
    Prop where
  safe : "Safe to Interact: YES" ∈ lines e v.fullReport ↔
    v.decision.isSafe = true ∨ "Safe to Interact: YES" ∈ brought
  automate : "Can Automate: YES" ∈ lines e v.fullReport ↔
    v.decision.canAutomate = true ∨ "Can Automate: YES" ∈ brought
  score : ∀ a, v.analysis = some a →
    ((lines e v.fullReport).filter (startsWith · "Security Score: ")).Perm
      (s!"Security Score: {a.score}/100" :: brought.filter (startsWith · "Security Score: "))

namespace Verification

variable {e : LineEnds} {v : Verification}

/-- The verdict lines in a report are the `verdictLines`, and those in which quoted texts go on. -/
private theorem verdictLines_perm (h : v.IsWritten) :
    ((lines e v.fullReport).filter isVerdictLine).Perm
      (v.verdictLines ++ (v.quotes.flatMap (continued e)).filter isVerdictLine) := by
  have htells := tells_fullReport (e := e) h
  rwa [Tells, List.flatMap_singleton] at htells

/-- A verdict line among the `lines` of a report is its own, or a quoted text goes on in it. -/
private theorem mem_lines_iff (h : v.IsWritten) {l : String} (hl : isVerdictLine l = true) :
    l ∈ lines e v.fullReport ↔ l ∈ v.verdictLines ∨ l ∈ v.quotes.flatMap (continued e) := by
  have hmem := (verdictLines_perm (e := e) h).mem_iff (a := l)
  simpa only [List.mem_append, List.mem_filter, hl, and_true] using hmem

/-- A line that begins otherwise is no `scoreLine`. -/
private theorem not_mem_scoreLines {l : String} (hl : startsWith l "Security Score: " = false) :
    l ∉ v.analysis.toList.map Analysis.scoreLine := by
  intro hmem
  obtain ⟨a, _, rfl⟩ := List.mem_map.mp hmem
  rw [a.startsWith_scoreLine] at hl
  cases hl

/-- A `scoreLine` is a verdict line. -/
private theorem filter_scoreLines (ls : List String) :
    (ls.filter isVerdictLine).filter (startsWith · "Security Score: ") =
      ls.filter (startsWith · "Security Score: ") := by
  rw [List.filter_filter]
  refine List.filter_congr fun l _ => ?_
  cases hl : startsWith l "Security Score: " with
  | false => rfl
  | true =>
    rw [Bool.true_and, isVerdictLine, List.any_eq_true]
    exact ⟨"Security Score: ", by decide, hl⟩

/-- Quoted texts bring in the lines in which they are `continued`. -/
theorem tellsVerdict (h : v.IsWritten) : v.TellsVerdict e (v.quotes.flatMap (continued e)) := by
  -- Among the report's own lines each verdict stands once, so only the lines brought in are left
  -- open.
  constructor
  case safe =>
    have hown : ∀ b c, "Safe to Interact: YES" ∈
        ["Safe to Interact: " ++ yesNo b, "Can Automate: " ++ yesNo c] ↔ b = true := by decide
    rw [mem_lines_iff h (by decide), verdictLines, List.mem_append, hown,
      or_iff_left (not_mem_scoreLines (by decide))]
  case automate =>
    have hown : ∀ b c, "Can Automate: YES" ∈
        ["Safe to Interact: " ++ yesNo b, "Can Automate: " ++ yesNo c] ↔ c = true := by decide
    rw [mem_lines_iff h (by decide), verdictLines, List.mem_append, hown,
      or_iff_left (not_mem_scoreLines (by decide))]
  case score =>
    intro a ha
    have hperm := (verdictLines_perm (e := e) h).filter (startsWith · "Security Score: ")
    have hown : ∀ b c, ["Safe to Interact: " ++ yesNo b, "Can Automate: " ++ yesNo c].filter
        (startsWith · "Security Score: ") = [] := by decide
    have hscore : [a.scoreLine].filter (startsWith · "Security Score: ") = [a.scoreLine] :=
      List.filter_cons_of_pos a.startsWith_scoreLine
    rw [filter_scoreLines, List.filter_append, filter_scoreLines, verdictLines, List.filter_append,
      hown, ha, Option.toList_some, List.map_singleton, hscore] at hperm
    exact hperm

end Verification

/-! ## What a verification is made of -/

/-- What holds of a line of `adviceIf` holds if the line is given. -/
private theorem forall_mem_adviceIf {P : String → Prop} {present : Bool} {line : String} :
    (∀ l ∈ adviceIf present line, P l) ↔ (present = true → P line) := by
  cases present <;> simp [adviceIf]

/-- No `advice` on a token begins a verdict line. -/
private theorem isOpening_advice (s : Signals) (level : Level) :
    ∀ l ∈ s.advice level, IsOpening l := by
  have hlevel : IsOpening level.advice := by cases level <;> decide
  simp only [Signals.advice, List.forall_mem_append, forall_mem_adviceIf, List.forall_mem_singleton]
  exact ⟨⟨⟨⟨⟨⟨fun _ => by decide, fun _ => by decide⟩, fun _ => by decide⟩, fun _ => by decide⟩,
    fun _ => by decide⟩, fun _ => by decide⟩, hlevel⟩

/-- The `detectedType` of a token is the name of one of the standards. -/
private theorem isPrintable_detectedType (p : Profile) (code : String) :
    IsPrintable (Standard.ofBytecode p code).detectedType := by
  have hnames (isERC20 isERC721 isERC1155 : Bool) :
      IsPrintable (Standard.displayedType isERC20 isERC721 isERC1155) := by
    revert isERC20 isERC721 isERC1155
    decide
  simp only [Standard.ofBytecode]
  split
  · decide
  · exact hnames _ _ _

/-- What `analyze` comes to is dated by the clock, names one of the standards, and gives advice from
a list. -/
theorem Analyzer.isWritten_of_analyze (a : Analyzer) (hnow : IsPrintable a.now)
    (address : Option String) (chainId : Int) (o : Outcome)
    (h : (a.analyze address chainId).value = .ok o) : o.analysis.IsWritten := by
  rcases a.analyze_cases address chainId o h with
    ⟨text, f, warnings, advice, ho⟩ | ⟨check, _, _, _, _, warnings, rfl⟩
  · -- A placeholder has one line of advice, which is one of two.
    have hfailed : o.isFailed = true := by rw [ho]; rfl
    have hadvice := a.recommendations_of_isFailed address chainId o h hfailed
    refine ⟨by rw [ho]; exact hnow, by rw [ho]; exact (by decide : IsPrintable "Unknown"), ?_⟩
    rcases hadvice with hline | hline
    · rw [hline, List.forall_mem_singleton]
      decide
    · rw [hline, List.forall_mem_singleton]
      decide
  · rw [analysis_outcomeOf]
    constructor
    case timestamp => exact hnow
    case detectedType => exact isPrintable_detectedType a.profile _
    case recommendations => exact isOpening_advice _ _

/-- A line that counts something `IsPrintable`. -/
private theorem isPrintable_count {front number rest : String} (hnumber : IsPrintable number)
    (hfront : IsPrintable front) (hrest : IsPrintable rest) :
    IsPrintable (front ++ number ++ rest) := by
  rw [isPrintable_append, isPrintable_append]
  exact ⟨⟨hfront, hnumber⟩, hrest⟩

private theorem isPrintable_bridgeIndicators (records : List ChainRecord) :
    ∀ l ∈ ChainRecord.bridgeIndicators records, IsPrintable l := by
  have hdeployed : IsPrintable ("Token deployed on " ++
      toString (ChainRecord.foundCount records) ++ " chains") :=
    isPrintable_count (isPrintable_toString_nat _) (by decide) (by decide)
  have hhigh : IsPrintable ("High risk on " ++
      toString (ChainRecord.highRiskCount records) ++ " chains") :=
    isPrintable_count (isPrintable_toString_nat _) (by decide) (by decide)
  have howners : IsPrintable ("Multiple owner addresses across chains (" ++
      toString (ChainRecord.owners records).length ++ ")") :=
    isPrintable_count (isPrintable_toString_nat _) (by decide) (by decide)
  simp only [ChainRecord.bridgeIndicators, List.forall_mem_append, forall_mem_adviceIf]
  exact ⟨⟨⟨⟨fun _ => hdeployed, fun _ => hhigh⟩, fun _ => by decide⟩, fun _ => howners⟩,
    fun _ => by decide⟩

private theorem Survey.isPrintable_advice (s : Survey) : ∀ l ∈ s.advice, IsPrintable l := by
  -- What an advice counts is printable, as numbers are.
  have hhigh : IsPrintable ("Token rated HIGH or CRITICAL risk on " ++ toString s.highRisk ++
      " chain(s)") :=
    isPrintable_count (isPrintable_toString_int _) (by decide) (by decide)
  have hwrapped : IsPrintable ("Token has " ++ toString s.wrapped.length ++
      " wrapped version(s) detected") :=
    isPrintable_count (isPrintable_toString_nat _) (by decide) (by decide)
  have hunverified : IsPrintable ("" ++ toString (s.found - s.verified) ++
      " version(s) not verified - increased risk") :=
    isPrintable_count (isPrintable_toString_int _) (by decide) (by decide)
  -- What it says of places is one of three fixed lines, or nothing.
  have hplaces : ∀ l ∈ (if s.found = 0 then ["Token not found on any network"]
      else if s.found = 1 then ["Token exists on single chain only"]
      else adviceIf (s.highRisk = 0 && s.mediumRisk ≤ 1)
        "Token appears safe on all verified chains"), IsPrintable l := by
    split
    · decide
    · split
      · decide
      · rw [forall_mem_adviceIf]
        exact fun _ => by decide
  simp only [advice, List.forall_mem_append, forall_mem_adviceIf]
  exact ⟨⟨⟨⟨⟨⟨fun _ => hhigh, fun _ => by decide⟩, fun _ => hwrapped⟩, fun _ => hunverified⟩,
    fun _ => by decide⟩, fun _ => by decide⟩, hplaces⟩

/-- What `ofRecords` comes to names the chains and wrappers, and counts. -/
theorem Survey.isWritten_ofRecords (now address : String) (baseChainId : Int)
    (records : List ChainRecord) (survey : Survey) (hnow : IsPrintable now)
    (hnames : ∀ r ∈ records, IsOpening r.chainName)
    (h : Survey.ofRecords now address baseChainId records = .ok survey) : survey.IsWritten := by
  obtain ⟨wrapped, hwrapped, hsurvey⟩ := Except.bind_eq_ok_iff.mp h
  have hpatterns : ∀ p ∈ Wrapped.patterns, IsOpening p.2.1 := by
    simp only [Wrapped.patterns, List.forall_mem_cons]
    exact ⟨by decide, by decide, by decide, by decide, by decide, by decide, List.forall_mem_nil _⟩
  cases hsurvey
  refine ⟨hnow, hnames, isPrintable_bridgeIndicators records, fun w hw => ?_,
    Survey.isPrintable_advice _⟩
  obtain ⟨-, p, hp, hname⟩ := Wrapped.mem_ofRecords records wrapped hwrapped w hw
  rw [hname]
  exact hpatterns p hp

/-- `HasDetails` holds of an answer under another identifier. -/
private theorem Verification.HasDetails.renamed {v : Verification} (h : v.HasDetails)
    (id : String) : Verification.HasDetails { v with requestId := id } := by
  cases h with
  | failed message hanalysis hsurvey hreport => exact .failed message hanalysis hsurvey hreport
  | analyzed a hanalysis hwritten hsurvey hreport =>
    exact .analyzed a hanalysis hwritten hsurvey hreport

namespace Scene

variable (c : Scene)

/-- The analyses of a scene are dated by its clock. -/
def IsTimed : Prop :=
  c.analyzer.now = timestamp c.nowMs

private theorem isPrintable_requestId (n : Nat) : IsPrintable (c.verifier.requestId n) := by
  show IsPrintable ("req_" ++ toString c.nowMs ++ "_" ++ toString n)
  simp only [isPrintable_append, isPrintable_toString_int, isPrintable_toString_nat]
  decide

/-- The record that `visitOn` comes to names its chain. -/
private theorem isOpening_chainName (address : String) (chainId : Int) :
    IsOpening (c.surveyor.visitOn address chainId).1.chainName := by
  have hname : (c.surveyor.visitOn address chainId).1.chainName = Chain.displayName chainId := by
    simp only [Surveyor.visitOn]
    split
    · cases c.surveyor.reached address chainId with
      | none => rfl
      | some x =>
        cases x with
        | error f => rfl
        | ok o => cases o <;> rfl
    · rfl
  rw [hname]
  exact Chain.isOpening_displayName chainId

/-- `IsWritten` holds of what `work` comes to: all that an answer is made of inside is printable,
and begins no verdict line. -/
theorem isWritten_of_work (htimed : c.IsTimed) (n : Nat) (r : Request) (v : Verification)
    (o : Outcome) (h : (c.verifier.work (c.verifier.requestId n) r).value = .ok (v, o)) :
    v.IsWritten := by
  have hnow : IsPrintable c.analyzer.now := by
    rw [htimed]
    exact isPrintable_timestamp _
  obtain ⟨⟨address, _, hvalue, _⟩, survey, rfl, hsurveyed⟩ := c.work_eq_ok _ r v o h
  refine ⟨c.isPrintable_requestId n, isPrintable_timestamp _, ?_⟩
  refine .analyzed o.analysis rfl (c.analyzer.isWritten_of_analyze hnow _ _ o hvalue) ?_ rfl
  rintro survey rfl
  refine Survey.isWritten_ofRecords _ _ _ _ _ (isPrintable_timestamp _) (fun record hrecord => ?_)
    hsurveyed.2.2
  obtain ⟨chainId, _, rfl⟩ := List.mem_map.mp hrecord
  exact c.isOpening_chainName _ _

/-- `IsWritten` holds of all answers that a verifier `Yields`. -/
theorem yields_isWritten (htimed : c.IsTimed) : c.verifier.Yields fun _ v => v.IsWritten where
  lasts _ _ _ _ h := h
  renamed n _ h := ⟨c.isPrintable_requestId n, h.timestamp, h.details.renamed _⟩
  worked n r v o h := c.isWritten_of_work htimed n r v o h
  failed n _ f := ⟨c.isPrintable_requestId n, isPrintable_timestamp _,
    .failed f.description rfl rfl rfl⟩

end Scene

/-! ## Only line breaks spoof a verdict -/

/-- In any history, `IsWritten` holds of all answers. -/
theorem Verification.isWritten_of_mem_run (history : List Occasion)
    (htimed : ∀ x ∈ history, x.scene.IsTimed) (s : Session) (hs : s.IsFresh) (v : Verification)
    (hv : v ∈ (s.run (history.map Occasion.event)).1.flatMap Effect.answers) : v.IsWritten := by
  obtain ⟨moves, hof, -, hreturned⟩ :=
    Traffic.exists_moves_run (history.map Occasion.event) { session := s }
  have hyields : ∀ x ∈ moves, x.1.Yields fun _ v => v.IsWritten := by
    intro x hx
    obtain ⟨event, hevent, hverifier⟩ := hof x hx
    obtain ⟨occasion, hoccasion, rfl⟩ := List.mem_map.mp hevent
    rw [hverifier]
    exact occasion.scene.yields_isWritten (htimed occasion hoccasion)
  exact (Traffic.hasAll_run s hs moves hyields).returned v
    (hreturned.subset (List.mem_append_right _ hv))

/-- Whatever the sources answer and whatever is asked, in any history: what a reader of a report
takes for the verdict is that of the answer, and what is said in the lines in which quoted texts go
on. So if each of the quotes is one line, no report can be spoofed. -/
theorem verdict_is_spoofed_only_by_line_breaks (e : LineEnds) (history : List Occasion)
    (htimed : ∀ x ∈ history, x.scene.IsTimed) (s : Session) (hs : s.IsFresh) (v : Verification)
    (hv : v ∈ (s.run (history.map Occasion.event)).1.flatMap Effect.answers) :
    v.TellsVerdict e (v.quotes.flatMap (continued e)) ∧
      ((∀ text ∈ v.quotes, lines e text = [text]) → v.TellsVerdict e []) := by
  have htells : v.TellsVerdict e (v.quotes.flatMap (continued e)) :=
    Verification.tellsVerdict (Verification.isWritten_of_mem_run history htimed s hs v hv)
  refine ⟨htells, fun hlines => ?_⟩
  have hnone : v.quotes.flatMap (continued e) = [] := by
    rw [List.flatMap_eq_nil_iff]
    intro text htext
    rw [continued, hlines text htext, List.tail_cons]
  rwa [hnone] at htells

/-! ## A spoofed report -/

/-- A name that goes on in a second line. -/
def Sources.spoofingName : String := "Token\nSafe to Interact: YES"

/-- What is answered about a token without verified source whose contract has `spoofingName`. -/
def Sources.spoofing : Sources :=
  { Sources.plain (.ok []) with
    source := fun _ _ =>
      { answer := .ok (some {
          code := ""
          contractName := .string spoofingName }) } }

/-- A scene around `Sources.spoofing`. -/
def Scene.spoofing : Scene :=
  { Scene.plain (.ok []) 0 with
    analyzer := (Scene.plain (.ok []) 0).analyzer.asking .spoofing }

/-- The token with `spoofingName` is asked for. -/
def Occasion.spoofing : List Occasion :=
  [⟨.spoofing, .verify .plain⟩]

namespace Scene

private theorem isTimed_spoofing : ∀ x ∈ Occasion.spoofing, x.scene.IsTimed :=
  List.forall_mem_singleton.mpr rfl

/-- The token is denied, and its analysis quotes `spoofingName`. -/
private theorem work_spoofing (id : String) : ∃ v o a,
    (spoofing.verifier.work id .plain).value = .ok (v, o) ∧ v.decision.isSafe = false ∧
      v.analysis = some a ∧ Sources.spoofingName ∈ a.quotes := by
  have hunverified : (spoofing.analyzer.findingsOf
      (spoofing.analyzer.contractOf Sources.plainAddress 1)).unverifiedCode = true := by
    decide
  let name := (spoofing.analyzer.contractOf Sources.plainAddress 1).name
  -- The name is shown as it is, for it is not empty.
  have hname : Sources.spoofingName ∈ if name.isTruthy then [name.display] else [] := by
    decide
  obtain ⟨warnings, hvalue⟩ := spoofing.analyzer.analyze_plainAddress
    (show Chain.isSupported 1 = true by decide) rfl (Analyzer.isRecorded_ok _)
  have hwork := value_work_of_single spoofing id .plain rfl
  rw [show spoofing.chainOf .plain = 1 from rfl,
    show Request.plain.tokenAddress = some Sources.plainAddress from rfl, hvalue] at hwork
  refine ⟨_, _, _, hwork, ?_, rfl, ?_⟩
  · -- Without verified source no decision is safe.
    show (Decision.decide _ none).isSafe = false
    rw [← Bool.not_eq_true, Decision.isSafe_decide_iff, Analyzer.analysis_outcomeOf]
    intro ⟨hsound, _⟩
    exact Bool.noConfusion (hunverified.symm.trans hsound.verified)
  · rw [Analyzer.analysis_outcomeOf]
    simp only [Analysis.quotes, List.mem_append, List.mem_cons]
    exact .inl (.inl (.inl (.inl (.inr hname))))

/-- The request of `Occasion.spoofing` is answered so. -/
private theorem answer_spoofing :
    ∃ v ∈ (({} : Session).run (Occasion.spoofing.map Occasion.event)).1.flatMap Effect.answers,
      v.decision.isSafe = false ∧ Sources.spoofingName ∈ v.quotes := by
  obtain ⟨id, s', _, hroom, hvalue, _⟩ := spoofing.verifier.verify_of_not_found .plain {}
    (Verifier.lookUp_of_isFresh _ _ _ Session.isFresh_default)
  obtain ⟨v, o, a, hwork, hdenied, ha, hnamed⟩ := work_spoofing id
  -- The session has no cache, so the answer is handed out as it is.
  have hverify : (spoofing.verifier.verify .plain {}).1.value = .ok v := by
    rw [hvalue, hwork, Verifier.complete_eq_ok_iff]
    exact ⟨rfl, fun _ => hroom.mpr Session.canStore_default⟩
  have hquoted : Sources.spoofingName ∈ v.quotes := by
    rw [Verification.quotes, Verification.detailQuotes, ha]
    exact List.mem_append_right _ (List.mem_append_left _ hnamed)
  refine ⟨v, ?_, hdenied, hquoted⟩
  show v ∈ (((spoofing.verifier.verify .plain {}).1.value.map fun a => [a]).toOption.getD []) ++ []
  rw [hverify]
  exact List.mem_singleton_self v

/-- A token without verified source is called safe among the `lines` of its report, in the name of
its contract. -/
theorem name_spoofs_verdict :
    ∃ v ∈ (({} : Session).run (Occasion.spoofing.map Occasion.event)).1.flatMap Effect.answers,
      v.decision.isSafe = false ∧ "Safe to Interact: YES" ∈ lines .lineFeeds v.fullReport := by
  obtain ⟨v, hv, hdenied, hquoted⟩ := answer_spoofing
  have hwritten : v.IsWritten := Verification.isWritten_of_mem_run Occasion.spoofing
    isTimed_spoofing {} Session.isFresh_default v hv
  refine ⟨v, hv, hdenied, (Verification.tellsVerdict hwritten).safe.mpr (.inr ?_)⟩
  exact List.mem_flatMap.mpr ⟨_, hquoted, by decide⟩

/-- What the report on the token says is the verdict, and what `spoofingName` says in its second
line. -/
theorem verdict_of_spoofing :
    ∃ v ∈ (({} : Session).run (Occasion.spoofing.map Occasion.event)).1.flatMap Effect.answers,
      v.decision.isSafe = false ∧
        v.TellsVerdict .lineFeeds (v.quotes.flatMap (continued .lineFeeds)) := by
  obtain ⟨v, hv, hdenied, -⟩ := answer_spoofing
  obtain ⟨htells, -⟩ := verdict_is_spoofed_only_by_line_breaks .lineFeeds Occasion.spoofing
    isTimed_spoofing {} Session.isFresh_default v hv
  exact ⟨v, hv, hdenied, htells⟩

end Scene

end TokenRisk
