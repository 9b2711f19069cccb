import TokenRisk.Capability
import TokenRisk.Proofs.LetterCase
import TokenRisk.Proofs.Severity

/-!
# Source within other source

A token's source may be flattened into a text with much other code before and behind it. None of
that can hide what a search for words finds in the source itself: whatever is reported about a text
is reported about every text that holds it, and the score is no higher. Lower case depends on the
characters around, but only in the form of sigmas, and no word that is searched for has one.

## Key results

- `Detector.matches?_surrounded`: a word that is found is found with any text around it
- `Detector.hits_mono`: detectors that hit wherever others do are listed among them
- `Findings.isPartOf_ofHits`: more hits add up to more findings
- `Findings.detect_surrounded`: findings in a source and in a longer one, with their scores
-/

namespace TokenRisk

/-! ## Words -/

/-- Evidence that consists of words without characters beyond ASCII. -/
def Evidence.isPlainWords : Evidence → Bool
  | .keywords words => words.all fun w => w.toList.all fun c => c.toNat < 128
  | _ => false

/-- A contract with the given source. -/
def Contract.withSource (c : Contract) (source : String) : Contract :=
  { c with sourceCode := some source }

theorem Contract.hasSource_withSource (c : Contract) {source : String} (h : source ≠ "") :
    (c.withSource source).hasSource = true := by
  simpa [hasSource, sourceText, withSource, String.isEmpty_iff] using h

namespace Detector

/-- `Text.lower` of a word of ASCII characters has no sigma. -/
private theorem not_sigma_of_ascii {w : String} (hw : ∀ c ∈ w.toList, c.toNat < 128) :
    ∀ c ∈ (Text.lower w).toList, c ≠ 'σ' ∧ c ≠ 'ς' := by
  intro c hc
  rw [Text.lower, String.toList_ofList, Text.lowerAfter_of_ascii false _ hw] at hc
  obtain ⟨d, hd, rfl⟩ := List.mem_map.mp hc
  have hascii := (Text.toLower_of_ascii d (hw d hd)).1
  constructor
  · intro heq
    rw [heq] at hascii
    exact absurd hascii (by decide)
  · intro heq
    rw [heq] at hascii
    exact absurd hascii (by decide)

/-- A detector for plain words that `matches?` a source matches it with any text around it. -/
theorem matches?_surrounded {d : Detector} (hwords : d.evidence.isPlainWords = true) (c : Contract)
    (p s q : String) : ∃ hit hit', d.matches? (c.withSource s) = .ok hit ∧
      d.matches? (c.withSource (p ++ s ++ q)) = .ok hit' ∧ (hit = true → hit' = true) := by
  cases hevidence : d.evidence with
  | fragments parts =>
    rw [hevidence] at hwords
    cases hwords
  | broken message =>
    rw [hevidence] at hwords
    cases hwords
  | keywords words =>
    simp only [hevidence, Evidence.isPlainWords, List.all_eq_true, decide_eq_true_eq] at hwords
    refine ⟨_, _, by rw [matches?, hevidence], by rw [matches?, hevidence], ?_⟩
    -- The same word is found in the longer source.
    intro hhit
    obtain ⟨w, hw, hfound⟩ := List.any_eq_true.mp hhit
    refine List.any_eq_true.mpr ⟨w, hw, ?_⟩
    rw [Text.contains, Text.occurs_iff] at hfound ⊢
    exact Text.isInfix_lower_append p q (not_sigma_of_ascii (hwords w hw)) hfound

/-- If on one contract each detector hits that does so on another one, all `hits` on the other one
are, in their order, among those on it. -/
theorem hits_mono {c c' : Contract} (ds : List Detector)
    (h : ∀ d ∈ ds, ∃ hit hit', d.matches? c = .ok hit ∧ d.matches? c' = .ok hit' ∧
      (hit = true → hit' = true)) :
    ∃ hs hs', hits c ds = .ok hs ∧ hits c' ds = .ok hs' ∧ hs.Sublist hs' ∧ hs'.Sublist ds := by
  induction ds with
  | nil => exact ⟨[], [], rfl, rfl, .slnil, .slnil⟩
  | cons d ds ih =>
    obtain ⟨hit, hit', hhere, hhere', hmono⟩ := h d List.mem_cons_self
    obtain ⟨hs, hs', hrest, hrest', hsub, hall⟩ := ih fun e he => h e (List.mem_cons_of_mem d he)
    have hhits : hits c (d :: ds) = .ok (if hit then d :: hs else hs) := by
      rw [hits, hhere, hrest]
      rfl
    have hhits' : hits c' (d :: ds) = .ok (if hit' then d :: hs' else hs') := by
      rw [hits, hhere', hrest']
      rfl
    refine ⟨_, _, hhits, hhits', ?_⟩
    -- A detector that hits in the part hits in the whole, so the hits of the part are among the
    -- others.
    cases hit with
    | true =>
      rw [hmono rfl]
      exact ⟨hsub.cons_cons d, hall.cons_cons d⟩
    | false =>
      cases hit' with
      | true => exact ⟨hsub.cons d, hall.cons_cons d⟩
      | false => exact ⟨hsub, hall.cons d⟩

end Detector

/-! ## Findings -/

namespace Findings

/-- Whatever is found in one place is found in another one. -/
structure IsPartOf (f f' : Findings) : Prop where
  hasSelfdestruct : f.hasSelfdestruct = true → f'.hasSelfdestruct = true
  hasMinting : f.hasMinting = true → f'.hasMinting = true
  isPausable : f.isPausable = true → f'.isPausable = true
  hasBlacklist : f.hasBlacklist = true → f'.hasBlacklist = true
  proxyPatterns : f.proxyPatterns.Sublist f'.proxyPatterns
  unverifiedCode : f'.unverifiedCode = f.unverifiedCode
  risks : f.risks.Sublist f'.risks
  riskCount : f.riskCount ≤ f'.riskCount

/-- More hits add up to more findings by `ofHits`. -/
theorem isPartOf_ofHits (unverified : Bool) {hs hs' : List Detector} (h : hs.Sublist hs') :
    (ofHits unverified hs).IsPartOf (ofHits unverified hs') := by
  -- A flag is set by some hit, and that is still there.
  have hflag (flag : Flag) (hmem : (hs.filterMap Detector.flag).contains flag = true) :
      (hs'.filterMap Detector.flag).contains flag = true := by
    rw [List.contains_iff_mem] at hmem ⊢
    exact (h.filterMap Detector.flag).subset hmem
  have hrisks : (ofHits unverified hs).risks.Sublist (ofHits unverified hs').risks :=
    (h.map Detector.risk).append_left _
  constructor
  case hasSelfdestruct => exact hflag .selfdestruct
  case hasMinting => exact hflag .minting
  case isPausable => exact hflag .pausable
  case hasBlacklist => exact hflag .blacklist
  case proxyPatterns => exact h.filterMap Detector.proxyPattern
  case unverifiedCode => rfl
  case risks => exact hrisks
  case riskCount => exact Int.ofNat_le.mpr hrisks.length_le

/-- Findings that `IsPartOf` others are no riskier. -/
theorem IsPartOf.isNoRiskierThan {f f' : Findings} (h : f.IsPartOf f') : f.IsNoRiskierThan f' where
  unverifiedCode hf := h.unverifiedCode.trans hf
  hasSelfdestruct := h.hasSelfdestruct
  hasMinting := h.hasMinting
  isPausable := h.isPausable
  hasBlacklist := h.hasBlacklist
  proxyPatterns hne hnil := by
    have hsub := h.proxyPatterns
    rw [hnil] at hsub
    exact hne (List.sublist_nil.mp hsub)
  riskCount := h.riskCount

/-- Where there is source, `detect` adds the hits of its detectors up to the findings, as long as
all their flags are known. -/
private theorem detect_of_hits (detectors : Detectors) (c : Contract) (h : c.hasSource = true)
    {hs : List Detector} (hhits : Detector.hits c detectors.source = .ok hs)
    (hflags : ∀ d ∈ hs, d.flag.bind unknownFlag? = none) :
    detect detectors c = .ok (ofHits false hs) := by
  have hknown : (hs.filterMap Detector.flag).findSome? unknownFlag? = none := by
    rw [List.findSome?_eq_none_iff]
    intro flag hflag
    obtain ⟨d, hd, hdflag⟩ := List.mem_filterMap.mp hflag
    simpa [hdflag] using hflags d hd
  unfold detect
  apply Except.bind_eq_ok_iff.mpr
  rw [h]
  exact ⟨hs, hhits, by rw [hknown]; rfl⟩

/-! ## Sources -/

/-- The detectors of `defaultSource` look for plain words and raise known flags. -/
private theorem defaultSource_spec (d : Detector) (hd : d ∈ Detectors.defaultSource) :
    d.evidence.isPlainWords = true ∧ d.flag.bind unknownFlag? = none := by
  have hall : (Detectors.defaultSource.all fun d =>
      d.evidence.isPlainWords && (d.flag.bind unknownFlag?).isNone) = true := by
    decide +kernel
  simpa using List.all_eq_true.mp hall d hd

/-- What `detect` finds in a source it finds in every text that holds it, and the `score` of the
longer text is no higher. The code of the contract and the detectors for it play no part. -/
theorem detect_surrounded (bytecode : List Detector) (c : Contract) (p s q : String) (hs : s ≠ "") :
    ∃ f f', detect { Detectors.default with bytecode } (c.withSource s) = .ok f ∧
      detect { Detectors.default with bytecode } (c.withSource (p ++ s ++ q)) = .ok f' ∧
      f.IsPartOf f' ∧ f.unverifiedCode = false ∧ f'.unverifiedCode = false ∧
      ∀ rest : Signals, { rest with findings := f' }.score {} ≤
        { rest with findings := f }.score {} := by
  obtain ⟨found, found', hfound, hfound', hsub, hall⟩ :=
    Detector.hits_mono Detectors.defaultSource fun d hd =>
      Detector.matches?_surrounded (defaultSource_spec d hd).1 c p s q
  -- What is put around a text leaves it there, so there is source in both cases.
  have hlonger : p ++ s ++ q ≠ "" := by
    intro hempty
    have hfront : p ++ s = "" := (String.append_eq_empty_iff.mp hempty).1
    exact hs (String.append_eq_empty_iff.mp hfront).2
  have hpart := isPartOf_ofHits false hsub
  refine ⟨_, _, detect_of_hits _ _ (c.hasSource_withSource hs) hfound fun d hd => ?_,
    detect_of_hits _ _ (c.hasSource_withSource hlonger) hfound' fun d hd => ?_, hpart, rfl, rfl,
    fun rest => ?_⟩
  · -- Every flag of these detectors is known, so no hit is a fault.
    exact (defaultSource_spec d (hall.subset (hsub.subset hd))).2
  · exact (defaultSource_spec d (hall.subset hd)).2
  · exact Signals.score_le Weights.isPenal_default ⟨id, .rfl, .rfl, hpart.isNoRiskierThan⟩

/-- A contract that is known by its source only. -/
def sourced : Contract where
  address := "0x1111111111111111111111111111111111111111"
  chainId := 1

/-- The last character of this source has another lower-case form once more source follows, and
`detect` finds minting all the same. -/
theorem detect_surrounded_sigma :
    "_MINTΣ" ≠ "" ∧ Text.lower ("_MINTΣ" ++ "a") ≠ Text.lower "_MINTΣ" ++ Text.lower "a" ∧
      ∃ f f', detect .default (sourced.withSource "_MINTΣ") = .ok f ∧
        detect .default (sourced.withSource ("library " ++ "_MINTΣ" ++ "a")) = .ok f' ∧
        f.IsPartOf f' ∧ f.hasMinting = true ∧ f'.hasMinting = true := by
  have hne : "_MINTΣ" ≠ "" := by decide
  obtain ⟨f, f', hf, hf', hpart, _⟩ :=
    detect_surrounded Detectors.defaultBytecode sourced "library " "_MINTΣ" "a" hne
  have hminting : (detect .default (sourced.withSource "_MINTΣ")).toOption.map hasMinting =
      some true := by decide +kernel
  have hfound : f.hasMinting = true := by
    rw [show detect .default (sourced.withSource "_MINTΣ") = .ok f from hf] at hminting
    exact Option.some.inj hminting
  exact ⟨hne, by decide +kernel, f, f', hf, hf', hpart, hfound, hpart.hasMinting hfound⟩

end Findings

end TokenRisk
