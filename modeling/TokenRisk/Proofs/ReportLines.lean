import TokenRisk.Proofs.Lines
import TokenRisk.Report

/-!
# What the lines of a report say

Three lines of a report give the verdict: whether the token is safe, whether it may be used without
asking, and its score. All other lines begin otherwise. But a report also quotes texts from outside,
each at the end of a line, and where such a text goes on behind a line end, it can say anything.

So a list of lines is described by the verdict lines among them and by the texts they quote. What a
reader takes for verdict lines is then exactly the former, and those in which the latter continue.

## Key results

- `Report.Tells`: lines that give certain verdict lines and quote certain texts, put together line
  by line and section by section.
- `Verification.tells_fullReport`: a report gives its own verdict lines, and quotes the texts from
  outside that are in the verification.
-/

namespace TokenRisk

open Text

namespace Report

/-! ## Lines with and without a verdict -/

/-- What verdict lines begin with. -/
def verdictOpenings : List String :=
  ["Safe to Interact: ", "Can Automate: ", "Security Score: "]

/-- Whether a reader takes a line for a verdict line. -/
def isVerdictLine (l : String) : Bool :=
  verdictOpenings.any (startsWith l)

/-- A printable text behind which nothing makes a verdict line. -/
def IsOpening (s : String) : Prop :=
  IsPrintable s ∧ ∀ o ∈ verdictOpenings, ¬ octets o <+: octets s ∧ ¬ octets s <+: octets o

instance (s : String) : Decidable (IsOpening s) :=
  inferInstanceAs (Decidable (_ ∧ _))

theorem IsOpening.append {s t : String} (hs : IsOpening s) (ht : IsPrintable t) :
    IsOpening (s ++ t) := by
  refine ⟨isPrintable_append.mpr ⟨hs.1, ht⟩, fun o ho => ?_⟩
  obtain ⟨hbegins, hends⟩ := hs.2 o ho
  rw [octets_append]
  constructor
  · intro h
    exact (List.prefix_or_prefix_of_prefix h (List.prefix_append _ _)).elim hbegins hends
  · intro h
    exact hends ((List.prefix_append _ _).trans h)

theorem isVerdictLine_append {s : String} (h : IsOpening s) (t : String) :
    isVerdictLine (s ++ t) = false := by
  rw [isVerdictLine, List.any_eq_false]
  intro o ho hstarts
  obtain ⟨hbegins, hends⟩ := h.2 o ho
  rw [startsWith, List.isPrefixOf_iff_prefix] at hstarts
  have hoctets := octets_prefix hstarts
  rw [octets_append] at hoctets
  exact (List.prefix_or_prefix_of_prefix hoctets (List.prefix_append _ _)).elim hbegins hends

/-- Lines that give the verdict lines `own` and quote the texts `quotes`: the verdict lines that are
read are these, and those in which the texts continue. -/
def Tells (e : LineEnds) (ls own quotes : List String) : Prop :=
  ((ls.flatMap (lines e)).filter isVerdictLine).Perm
    (own ++ (quotes.flatMap (continued e)).filter isVerdictLine)

namespace Tells

variable {e : LineEnds}

theorem nil : Tells e [] [] [] :=
  .refl _

theorem append {ls ls' own own' quotes quotes' : List String} (h : Tells e ls own quotes)
    (h' : Tells e ls' own' quotes') :
    Tells e (ls ++ ls') (own ++ own') (quotes ++ quotes') := by
  rw [Tells] at h h' ⊢
  simp only [List.flatMap_append, List.filter_append, List.append_assoc]
  apply (h.append h').trans
  rw [List.append_assoc]
  apply List.Perm.append_left
  rw [← List.append_assoc, ← List.append_assoc]
  exact List.perm_append_comm.append_right _

theorem cons {l : String} {ls own own' quotes quotes' : List String} (h : Tells e [l] own quotes)
    (h' : Tells e ls own' quotes') : Tells e (l :: ls) (own ++ own') (quotes ++ quotes') :=
  h.append h'

/-- A line that begins otherwise is told by `Tells` without a verdict. -/
private theorem of_lines {l first : String} {quotes : List String}
    (h : lines e l = first :: quotes.flatMap (continued e)) (hfirst : isVerdictLine first = false) :
    Tells e [l] [] quotes := by
  rw [Tells, List.flatMap_singleton, h, List.filter_cons_of_neg (by rw [hfirst]; decide)]
  exact .refl _

/-- `Tells` for a line that begins otherwise and quotes nothing. -/
theorem plain {l : String} (h : IsOpening l) : Tells e [l] [] [] :=
  of_lines (lines_of_isPrintable e h.1) (by simpa using isVerdictLine_append h "")

/-- `Tells` for a blank line. -/
theorem blank : Tells e [""] [] [] :=
  of_lines (lines_of_isPrintable e (by decide)) (by decide)

/-- `Tells` for a verdict line, which tells itself. -/
theorem verdict {l : String} (h : IsPrintable l) (hline : isVerdictLine l = true) :
    Tells e [l] [l] [] := by
  rw [Tells, List.flatMap_singleton, lines_of_isPrintable e h, List.filter_cons_of_pos hline]
  exact .refl _

/-- `Tells` for a text that is quoted behind a label. -/
theorem quote {label : String} (h : IsOpening label) (text : String) :
    Tells e [label ++ text] [] [text] := by
  obtain ⟨first, hlines⟩ := lines_append e h.1 text
  apply of_lines _ (isVerdictLine_append h first)
  rw [hlines, List.flatMap_singleton]

/-- `Tells` for a text with a label that is quoted as a whole. -/
theorem labelled {label : String} (h : IsOpening label) (text : String) :
    Tells e [label ++ text] [] [label ++ text] := by
  obtain ⟨first, hlines⟩ := lines_append e h.1 text
  apply of_lines _ (isVerdictLine_append h first)
  rw [List.flatMap_singleton, continued, hlines, List.tail_cons]

/-- Lines that `ofLines` joins to one text tell what they told. -/
theorem joined {ls own quotes : List String} (hne : ls ≠ []) (h : Tells e ls own quotes) :
    Tells e [ofLines ls] own quotes := by
  rwa [Tells, List.flatMap_singleton, ofLines, lines_join e hne]

/-- `Tells` for one line for each of some things. -/
theorem map {α : Type} {line : α → String} {quotes : α → List String} {xs : List α}
    (h : ∀ x ∈ xs, Tells e [line x] [] (quotes x)) :
    Tells e (xs.map line) [] (xs.flatMap quotes) := by
  induction xs with
  | nil => exact nil
  | cons x xs ih =>
    rw [List.map_cons, List.flatMap_cons]
    exact (h x List.mem_cons_self).cons (ih fun y hy => h y (List.mem_cons_of_mem x hy))

/-- `Tells` for lines that begin otherwise and quote nothing. -/
theorem plains {ls : List String} (h : ∀ l ∈ ls, IsOpening l) : Tells e ls [] [] := by
  have hmap : Tells e (ls.map id) [] (ls.flatMap fun _ => []) :=
    map fun l hl => plain (h l hl)
  rwa [List.map_id, List.flatMap_eq_nil_iff.mpr fun _ _ => rfl] at hmap

end Tells

end Report

open Report

/-! ## What is made inside -/

namespace Report

theorem isPrintable_yesNo (b : Bool) : IsPrintable (yesNo b) := by
  cases b <;> decide

theorem isPrintable_trueFalse (b : Bool) : IsPrintable (trueFalse b) := by
  cases b <;> decide

end Report

theorem Level.isPrintable_name (l : Level) : IsPrintable l.name := by
  cases l <;> decide

/-- The `displayName` of a chain opens a line of its own. -/
theorem Chain.isOpening_displayName (id : Int) : IsOpening (displayName id) := by
  have hall : ∀ chain ∈ all, IsOpening chain.name := by decide
  rw [displayName]
  cases hfound : find? id with
  | some chain => exact hall chain (List.mem_of_find?_eq_some hfound)
  | none => exact IsOpening.append (by decide) (isPrintable_toString_int id)

theorem Binary64.isPrintable_fixed (places : Nat) (x : Binary64) :
    IsPrintable (x.fixed places) := by
  have hdigits (n width : Nat) (c : Char) (hc : c ∈ paddedDigits n width) :
      isPrintableChar c = true := by
    -- Zeros in front are put there to fill the width.
    rcases List.mem_append.mp hc with hzero | hdigit
    · rw [List.eq_of_mem_replicate hzero]
      decide
    · exact isPrintableChar_of_mem_toDigits hdigit
  cases x with
  | nan => exact (by decide : IsPrintable "nan")
  | infinite negative =>
    cases negative with
    | false => exact (by decide : IsPrintable "inf")
    | true => exact (by decide : IsPrintable "-inf")
  | finite x =>
    -- A sign, the whole digits, and the digits behind the point.
    rw [fixed, isPrintable_ofList]
    intro c hc
    simp only [List.mem_append] at hc
    rcases hc with (hsign | hwhole) | hfraction
    · split at hsign
      · rw [List.mem_singleton.mp hsign]
        decide
      · cases hsign
    · exact hdigits _ _ c (List.mem_of_mem_take hwhole)
    · -- Without places there is no point.
      split at hfraction
      · cases hfraction
      · rcases List.mem_cons.mp hfraction with rfl | hfraction
        · decide
        · exact hdigits _ _ c (List.mem_of_mem_drop hfraction)

theorem Holders.isPrintable_percentText (x : Binary64) : IsPrintable (percentText x) :=
  isPrintable_append.mpr ⟨x.isPrintable_fixed 2, by decide⟩

/-! ## Analyses -/

namespace Analysis

/-- What is written into an analysis without quoting anything: the time, the type of the token, and
the advice, none of which can be taken for a verdict line. -/
structure IsWritten (a : Analysis) : Prop where
  timestamp : IsPrintable a.timestamp
  detectedType : IsPrintable a.signals.standard.detectedType
  recommendations : ∀ l ∈ a.recommendations, IsOpening l

/-- The texts that the report on an analysis quotes. -/
def quotes (a : Analysis) : List String :=
  a.tokenAddress :: (if a.contractName.isTruthy then [a.contractName.display] else []) ++
    a.error.toList ++ a.signals.ownership.owner.toList ++
    a.signals.ownership.implementation.toList ++ a.warnings

/-- The line of the score. -/
def scoreLine (a : Analysis) : String :=
  s!"Security Score: {a.score}/100"

variable {e : LineEnds}

theorem tells_optionalLine {label : String} (h : IsOpening label) (text : Option String) :
    Tells e (optionalLine label text) [] text.toList := by
  cases text with
  | none => exact .nil
  | some text =>
    rw [optionalLine]
    split
    next hempty =>
      -- The line is left out, and an empty text goes on nowhere.
      rw [String.isEmpty_iff.mp hempty]
      exact .refl _
    next => exact .quote h text

theorem tells_headLines {a : Analysis} (h : a.IsWritten) : Tells e a.headLines []
    (a.tokenAddress :: (if a.contractName.isTruthy then [a.contractName.display] else []) ++
      a.error.toList) := by
  -- The line of the chain is made of a name and an integer, neither of which has a line break.
  have hchain : IsOpening ("Chain: " ++ Chain.displayName a.chainId ++ " (" ++
      toString a.chainId ++ ")") :=
    (((IsOpening.append (by decide) (Chain.isOpening_displayName a.chainId).1).append
      (by decide)).append (isPrintable_toString_int _)).append (by decide)
  -- The name comes from outside, and is shown if there is one.
  have hname : Tells e
      (if a.contractName.isTruthy then ["Contract Name: " ++ a.contractName.display] else []) []
      (if a.contractName.isTruthy then [a.contractName.display] else []) := by
    split
    · exact .quote (by decide) _
    · exact .nil
  have hfront : Tells e ["=== Token Analysis Report ===", "Token Address: " ++ a.tokenAddress] []
      [a.tokenAddress] :=
    (Tells.plain (by decide)).cons (.quote (by decide) _)
  have hback : Tells e ["Chain: " ++ Chain.displayName a.chainId ++ " (" ++ toString a.chainId ++
      ")", "Timestamp: " ++ a.timestamp] [] [] :=
    (Tells.plain hchain).cons (.plain (.append (by decide) h.timestamp))
  exact ((hfront.append hback).append hname).append (tells_optionalLine (by decide) _)

theorem isOpening_standardLines {s : Standard} (h : IsPrintable s.detectedType) :
    ∀ l ∈ standardLines s, IsOpening l := by
  have hconfidence : IsOpening ("Confidence: " ++ toString s.confidence ++ "%") :=
    (IsOpening.append (by decide) (isPrintable_toString_int _)).append (by decide)
  simp only [standardLines, List.forall_mem_cons]
  exact ⟨by decide, .append (by decide) h, .append (by decide) (isPrintable_trueFalse _),
    .append (by decide) (isPrintable_trueFalse _), .append (by decide) (isPrintable_trueFalse _),
    hconfidence, List.forall_mem_nil _⟩

theorem tells_ownershipLines (o : Ownership) :
    Tells e (ownershipLines o) [] (o.owner.toList ++ o.implementation.toList) := by
  have howner : Tells e ["Owner: " ++ (o.owner.filter (!·.isEmpty)).getD "Unknown"] []
      o.owner.toList := by
    cases howner : o.owner with
    | none => exact .plain (by decide)
    | some owner =>
      by_cases hempty : owner.isEmpty
      · -- An empty owner is shown as unknown, and goes on nowhere.
        rw [String.isEmpty_iff.mp hempty]
        exact .plain (by decide)
      · rw [Option.filter_some, if_pos (by simpa using hempty), Option.getD_some]
        exact .quote (by decide) owner
  -- Flags and numbers tell no verdict and quote nothing.
  have htitle : Tells e ["--- Ownership ---"] [] [] := .plain (by decide)
  have hflags : Tells e ["Multisig: " ++ trueFalse o.isMultisig, "Proxy: " ++ trueFalse o.isProxy]
      [] [] :=
    (Tells.plain (.append (by decide) (isPrintable_trueFalse _))).cons
      (.plain (.append (by decide) (isPrintable_trueFalse _)))
  have hrisks : Tells e ["Risks: " ++ toString o.risks.length] [] [] :=
    .plain (.append (by decide) (isPrintable_toString_nat _))
  have himplementation : Tells e (optionalLine "Implementation: " o.implementation) []
      o.implementation.toList := tells_optionalLine (by decide) _
  have hall := (((htitle.append howner).append hflags).append himplementation).append hrisks
  simp only [List.nil_append, List.append_nil] at hall
  exact hall

theorem isOpening_holderLines (h : Holders) : ∀ l ∈ holderLines h, IsOpening l := by
  have hshare : IsPrintable (if h.total = 0 then "N/A" else Holders.percentText h.topShare) := by
    split
    · decide
    · exact Holders.isPrintable_percentText _
  simp only [holderLines, List.forall_mem_cons]
  exact ⟨by decide, .append (by decide) (isPrintable_toString_int h.total),
    .append (by decide) hshare, .append (by decide) (Holders.isPrintable_percentText _),
    .append (by decide) (Holders.isPrintable_percentText _),
    .append (by decide) (isPrintable_yesNo _), List.forall_mem_nil _⟩

theorem isOpening_findingLines (f : Findings) : ∀ l ∈ findingLines f, IsOpening l := by
  simp only [findingLines, List.forall_mem_cons]
  exact ⟨by decide, .append (by decide) (isPrintable_yesNo _),
    .append (by decide) (isPrintable_trueFalse _), .append (by decide) (isPrintable_trueFalse _),
    .append (by decide) (isPrintable_trueFalse _), .append (by decide) (isPrintable_trueFalse _),
    .append (by decide) (isPrintable_toString_int f.riskCount), List.forall_mem_nil _⟩

private theorem scoreLine_eq (a : Analysis) :
    a.scoreLine = "Security Score: " ++ (toString a.score ++ "/100") := by
  rw [← String.append_assoc]
  rfl

theorem isPrintable_scoreLine (a : Analysis) : IsPrintable a.scoreLine := by
  rw [scoreLine_eq, isPrintable_append, isPrintable_append]
  exact ⟨by decide, isPrintable_toString_int _, by decide⟩

/-- The `scoreLine` begins as such. -/
theorem startsWith_scoreLine (a : Analysis) :
    startsWith a.scoreLine "Security Score: " = true := by
  rw [scoreLine_eq, startsWith, List.isPrefixOf_iff_prefix, String.toList_append]
  exact List.prefix_append _ _

theorem tells_assessmentLines (a : Analysis) : Tells e a.assessmentLines [a.scoreLine] [] := by
  have htitle : Tells e ["--- Overall Assessment ---"] [] [] := .plain (by decide)
  have hscore : Tells e [a.scoreLine] [a.scoreLine] [] :=
    .verdict a.isPrintable_scoreLine
      (List.any_eq_true.mpr ⟨"Security Score: ", by decide, a.startsWith_scoreLine⟩)
  have hlevel : Tells e ["Risk Level: " ++ a.level.name] [] [] :=
    .plain (.append (by decide) a.level.isPrintable_name)
  exact (htitle.append hscore).append hlevel

/-- `reportLines` of an analysis give its `scoreLine`, and quote the texts from outside. -/
theorem tells_reportLines {a : Analysis} (h : a.IsWritten) :
    Tells e a.reportLines [a.scoreLine] a.quotes := by
  have hstandard : Tells e (standardLines a.signals.standard) [] [] :=
    .plains (isOpening_standardLines h.detectedType)
  have hholders : Tells e (holderLines a.signals.holders) [] [] :=
    .plains (isOpening_holderLines _)
  have hfindings : Tells e (findingLines a.signals.findings) [] [] :=
    .plains (isOpening_findingLines _)
  have hadvice : Tells e ("--- Recommendations ---" :: a.recommendations) [] [] :=
    (Tells.plain (by decide)).cons (.plains h.recommendations)
  -- Each warning has a line of its own, so each may go on in further lines.
  have hwarnings : Tells e (if a.warnings.isEmpty then []
      else ["", "--- Warnings ---"] ++ a.warnings.map bullet) [] a.warnings := by
    split
    next hempty =>
      rw [List.isEmpty_iff.mp hempty]
      exact .nil
    next =>
      have hbullets : Tells e (a.warnings.map bullet) [] (a.warnings.flatMap fun w => [w]) :=
        .map fun w _ => .quote (by decide) w
      rw [List.flatMap_singleton'] at hbullets
      exact ((Tells.blank).cons (.plain (by decide))).append hbullets
  -- The sections are put together one after the other, with a blank line between them.
  have hblank : Tells e [""] [] [] := .blank
  have hall := ((tells_headLines h).append hblank |>.append hstandard |>.append hblank |>.append
    (tells_ownershipLines a.signals.ownership) |>.append hblank |>.append hholders |>.append
    hblank |>.append hfindings |>.append hblank |>.append (tells_assessmentLines a) |>.append
    hblank |>.append hadvice |>.append hwarnings)
  simpa [reportLines, quotes] using hall

end Analysis

/-! ## Surveys -/

namespace Survey

/-- What is written into a survey without quoting anything: the time, the names of chains and of
wrappers, the patterns and the advice. -/
structure IsWritten (s : Survey) : Prop where
  timestamp : IsPrintable s.timestamp
  chainNames : ∀ r ∈ s.records, IsOpening r.chainName
  bridgeIndicators : ∀ l ∈ s.bridgeIndicators, IsPrintable l
  wrapperNames : ∀ w ∈ s.wrapped, IsOpening w.wrapperName
  recommendations : ∀ l ∈ s.recommendations, IsPrintable l

/-- The texts that the report on a survey quotes. -/
def quotes (s : Survey) : List String :=
  s.baseAddress :: s.records.flatMap fun r => r.error.toList

variable {e : LineEnds}

theorem tells_sectionLines {title : String} {ls quotes : List String} (htitle : IsOpening title)
    (h : Tells e ls [] quotes) : Tells e (sectionLines title ls) [] quotes := by
  rw [sectionLines]
  split
  next hempty => rwa [List.isEmpty_iff.mp hempty] at h
  next =>
    have hall := ((Tells.plain htitle).cons h).append .blank
    simp only [List.nil_append, List.append_nil] at hall
    exact hall

/-- Without its error, the `status` of a record is printable. -/
private theorem isPrintable_status (r : ChainRecord) :
    IsPrintable { r with error := none }.status := by
  rw [ChainRecord.status, isPrintable_append]
  refine ⟨?_, (by decide : IsPrintable "")⟩
  split
  next a _ =>
    show IsPrintable (a.level.name ++ " (" ++ toString a.score ++ "/100)")
    simp only [isPrintable_append, isPrintable_toString_int, a.level.isPrintable_name]
    decide
  next => split <;> decide

/-- The line of a record's `status` quotes its error. -/
theorem tells_status {r : ChainRecord} (h : IsOpening r.chainName) :
    Tells e [r.chainName ++ ": " ++ r.status] [] r.error.toList := by
  let state := { r with error := none }.status
  have hfront : IsOpening (r.chainName ++ ": " ++ state) :=
    (h.append (by decide)).append (isPrintable_status r)
  cases herror : r.error with
  | none =>
    have hstatus : r.status = state := by simp [state, ChainRecord.status, herror]
    rw [hstatus]
    exact .plain hfront
  | some error =>
    by_cases hempty : error = ""
    · -- An empty error is left out, and goes on nowhere.
      have hstatus : r.status = state := by simp [state, ChainRecord.status, herror, hempty]
      rw [hstatus, hempty, ← String.append_empty (s := r.chainName ++ ": " ++ state)]
      exact .quote hfront ""
    · have hstatus : r.status = state ++ (" - " ++ error) := by
        simp [state, ChainRecord.status, herror, hempty]
      rw [hstatus, ← String.append_assoc, ← String.append_assoc]
      exact .quote (hfront.append (by decide)) error

/-- `reportLines` of a survey give no verdict, and quote the texts from outside. -/
theorem tells_reportLines {s : Survey} (h : s.IsWritten) : Tells e s.reportLines [] s.quotes := by
  have hfront : Tells e ["=== Cross-Chain Token Analysis ===",
      "Base Token Address: " ++ s.baseAddress] [] [s.baseAddress] :=
    (Tells.plain (by decide)).cons (.quote (by decide) _)
  have hcounts : Tells e ["Analysis Timestamp: " ++ s.timestamp, "", "--- Chain Summary ---",
      "Total Chains Checked: " ++ toString s.records.length, "Tokens Found: " ++ toString s.found,
      "Verified on Chains: " ++ toString s.verified,
      "High/Critical Risk on Chains: " ++ toString s.highRisk,
      "Medium Risk on Chains: " ++ toString s.mediumRisk, ""] [] [] :=
    (Tells.plain (.append (by decide) h.timestamp)).cons <| Tells.blank.cons <|
      (Tells.plain (by decide)).cons <|
      (Tells.plain (.append (by decide) (isPrintable_toString_nat _))).cons <|
      (Tells.plain (.append (by decide) (isPrintable_toString_int _))).cons <|
      (Tells.plain (.append (by decide) (isPrintable_toString_int _))).cons <|
      (Tells.plain (.append (by decide) (isPrintable_toString_int _))).cons <|
      (Tells.plain (.append (by decide) (isPrintable_toString_int _))).cons .blank
  -- The errors of records are all that a survey quotes besides its address.
  have hrecords : Tells e (sectionLines "--- Per-Chain Status ---"
      (s.records.map fun r => r.chainName ++ ": " ++ r.status)) []
      (s.records.flatMap fun r => r.error.toList) :=
    tells_sectionLines (by decide) (.map fun r hr => tells_status (h.chainNames r hr))
  have hbridges : Tells e (sectionLines "--- Bridge Indicators ---" (s.bridgeIndicators.map bullet))
      [] [] :=
    tells_sectionLines (by decide) (.plains (List.forall_mem_map.mpr fun l hl =>
      .append (by decide) (h.bridgeIndicators l hl)))
  have hwrapped : Tells e (sectionLines "--- Wrapped Versions ---"
      (s.wrapped.map fun w => w.wrapperName ++ " on " ++ Chain.displayName w.chainId)) [] [] :=
    tells_sectionLines (by decide) (.plains (List.forall_mem_map.mpr fun w hw =>
      ((h.wrapperNames w hw).append (by decide)).append (Chain.isOpening_displayName w.chainId).1))
  have hadvice : Tells e ("--- Recommendations ---" :: s.recommendations.map bullet) [] [] :=
    (Tells.plain (by decide)).cons (.plains (List.forall_mem_map.mpr fun l hl =>
      .append (by decide) (h.recommendations l hl)))
  -- Only the address and the errors are quoted, in this order.
  have hall := hfront.append hcounts |>.append hrecords |>.append hbridges |>.append hwrapped
    |>.append hadvice
  simp only [List.append_nil] at hall
  exact hall

end Survey

/-! ## Verifications -/

namespace Verification

/-- How the details of a verification came about: the work failed, or it came to an analysis and
maybe a survey. -/
inductive HasDetails (v : Verification) : Prop where
  | failed (message : String) (analysis : v.analysis = none) (survey : v.survey = none)
      (report : v.report = "Error during verification: " ++ message)
  | analyzed (a : Analysis) (analysis : v.analysis = some a) (written : a.IsWritten)
      (survey : ∀ s ∈ v.survey, s.IsWritten) (report : v.report = detailedReport (some a) v.survey)

/-- What is written into a verification without quoting anything. -/
structure IsWritten (v : Verification) : Prop where
  requestId : IsPrintable v.requestId
  timestamp : IsPrintable v.timestamp
  details : v.HasDetails

/-- The texts that the details quote: those of the analysis and the survey, or else the failure. -/
def detailQuotes (v : Verification) : List String :=
  match v.analysis with
  | none => [v.report]
  | some a => a.quotes ++ v.survey.toList.flatMap Survey.quotes

/-- The texts that the report on a verification quotes. The reason and the risks may name a failure.
-/
def quotes (v : Verification) : List String :=
  v.decision.reason :: v.decision.risks ++ v.detailQuotes

/-- The verdict lines of a verification. -/
def verdictLines (v : Verification) : List String :=
  ["Safe to Interact: " ++ yesNo v.decision.isSafe,
    "Can Automate: " ++ yesNo v.decision.canAutomate] ++ v.analysis.toList.map Analysis.scoreLine

variable {e : LineEnds} {v : Verification}

/-- `detailedReport` of an analysis without a survey. -/
private theorem detailedReport_single (a : Analysis) : detailedReport (some a) none = a.report := by
  simp [detailedReport, join, String.intercalate_singleton]

/-- `detailedReport` of an analysis and a survey has a blank line between them. -/
private theorem lines_detailedReport (a : Analysis) (s : Survey) :
    lines e (detailedReport (some a) (some s)) =
      lines e a.report ++ (lines e "" ++ lines e s.report) := by
  have hblank : detailedReport (some a) (some s) =
      a.report ++ "\n" ++ ("" ++ "\n" ++ s.report) := by
    rw [← String.toList_inj]
    simp [detailedReport, join, String.intercalate_cons_cons, String.intercalate_singleton]
  rw [hblank, lines_append_lineFeed, lines_append_lineFeed]

/-- The details give the `scoreLine`, if there is an analysis. -/
private theorem tells_report (h : v.HasDetails) :
    Tells e [v.report] (v.analysis.toList.map Analysis.scoreLine) v.detailQuotes := by
  cases h with
  -- A failure before any analysis is all that there is to report.
  | failed message hanalysis hsurvey hreport =>
    rw [detailQuotes, hanalysis, hreport]
    exact .labelled (by decide) message
  | analyzed a hanalysis hwritten hsurvey hreport =>
    have hne : a.reportLines ≠ [] := by simp [Analysis.reportLines, Analysis.headLines]
    have ha : Tells e [a.report] [a.scoreLine] a.quotes :=
      (Analysis.tells_reportLines hwritten).joined hne
    rw [hreport, hanalysis, detailQuotes, hanalysis]
    -- Without a survey the report is that of the analysis.
    cases hsome : v.survey with
    | none =>
      rw [detailedReport_single]
      simpa using ha
    | some s =>
      have hne' : s.reportLines ≠ [] := by simp [Survey.reportLines]
      have hs : Tells e [s.report] [] s.quotes :=
        (Survey.tells_reportLines (hsurvey s hsome)).joined hne'
      -- With one, the two reports stand one after the other.
      have hall := ha.cons (Tells.blank.cons hs)
      rw [Tells, List.flatMap_singleton, lines_detailedReport]
      simpa [Tells] using hall

/-- `fullReport` gives the `verdictLines` of the verification, and quotes the texts from outside. -/
theorem tells_fullReport (h : v.IsWritten) : Tells e [v.fullReport] v.verdictLines v.quotes := by
  -- Each of the two verdicts is told by a line of its own.
  have hsafe : Tells e ["Safe to Interact: " ++ yesNo v.decision.isSafe]
      ["Safe to Interact: " ++ yesNo v.decision.isSafe] [] := by
    cases v.decision.isSafe <;> exact .verdict (by decide) (by decide)
  have hautomate : Tells e ["Can Automate: " ++ yesNo v.decision.canAutomate]
      ["Can Automate: " ++ yesNo v.decision.canAutomate] [] := by
    cases v.decision.canAutomate <;> exact .verdict (by decide) (by decide)
  -- The risks may name a failure, so each of them counts as quoted.
  have hrisks : Tells e (Survey.sectionLines "--- Detected Risks ---" (v.decision.risks.map bullet))
      [] v.decision.risks := by
    have hbullets : Tells e (v.decision.risks.map bullet) []
        (v.decision.risks.flatMap fun r => [r]) :=
      .map fun r _ => .quote (by decide) r
    rw [List.flatMap_singleton'] at hbullets
    exact Survey.tells_sectionLines (by decide) hbullets
  have hfront : Tells e [rule, "TOKEN VERIFICATION REPORT", rule, "Request ID: " ++ v.requestId,
      "Timestamp: " ++ v.timestamp, "", "--- Verification Decision ---"] [] [] :=
    (Tells.plain (by decide)).cons <| (Tells.plain (by decide)).cons <|
      (Tells.plain (by decide)).cons <|
      (Tells.plain (.append (by decide) h.requestId)).cons <|
      (Tells.plain (.append (by decide) h.timestamp)).cons <| Tells.blank.cons <|
      .plain (by decide)
  -- The reason may repeat the error of an analysis, so it is quoted.
  have hreason : Tells e ["Requires Approval: " ++ yesNo v.decision.requiresApproval,
      "Reason: " ++ v.decision.reason, ""] [] [v.decision.reason] :=
    (Tells.plain (.append (by decide) (isPrintable_yesNo _))).cons
      ((Tells.quote (by decide) _).cons .blank)
  have htitle : Tells e ["--- Detailed Analysis ---"] [] [] := .plain (by decide)
  have hend : Tells e ["", rule] [] [] := Tells.blank.cons (.plain (by decide))
  have hall := hfront.append (hsafe.append hautomate) |>.append hreason |>.append hrisks |>.append
    htitle |>.append (tells_report h.details) |>.append hend
  simp only [List.nil_append, List.append_nil] at hall
  apply Tells.joined (by simp)
  simpa [verdictLines, quotes] using hall

end Verification

end TokenRisk
