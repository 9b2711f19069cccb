import TokenRisk.Proofs.Trampoline
import TokenRisk.Proofs.Verifier

/-!
# Signals of a proxy

Whether a contract is a proxy can be told from its code. But `Analyzer.ownership` begins with the
record of the creation, and without one it ends with a cautious default that tells nothing about the
code. With a record the signals of a proxy are those of the code, whatever comes of the creator's
label.

## Key results

- `Ownership.IsAssessed.showsProxy`: an assessment shows what the code shows
- `Analyzer.proxy_shown_with_creation`: what `Analyzer.ownership` comes to
- `Analyzer.cost_ownershipOf_of_lost_creation`: what the loss of the record gives back
-/

namespace TokenRisk

/-! ## Assessments -/

/-- The signals of a token, with `isProxy` taken to be false. -/
def Signals.withoutProxy (s : Signals) : Signals :=
  { s with ownership := { s.ownership with isProxy := false } }

/-- The `score` of a proxy is that of the same token without one, from a lower start. -/
theorem Signals.score_of_isProxy (w : Weights) (s : Signals) (h : s.ownership.isProxy = true) :
    s.score w = s.withoutProxy.score { w with start := w.start - w.proxyPenalty } := by
  have hwithout : s.withoutProxy.ownershipCost w =
      s.ownership.risks.length * w.perOwnershipRisk -
        pointsIf s.ownership.isMultisig w.multisigBonus + 0 := rfl
  have hpenalty : pointsIf true w.proxyPenalty = w.proxyPenalty := rfl
  have hcost : s.ownershipCost w = s.withoutProxy.ownershipCost w + w.proxyPenalty := by
    rw [hwithout, ownershipCost, h, hpenalty]
    omega
  -- Neither the start nor the flag matters to what else is added up.
  have hlower : s.withoutProxy.score { w with start := w.start - w.proxyPenalty } =
      max 0 (min 100 (w.start - w.proxyPenalty - s.withoutProxy.ownershipCost w - s.holderCost w -
        s.capabilityCost w + pointsIf s.standard.isERC20 w.erc20Bonus)) := rfl
  rw [hlower, score, hcost]
  omega

namespace Ownership

/-- `proxyRisk` is among the risks that `risksOf` lists exactly if there is a proxy. -/
private theorem proxyRisk_mem_risksOf (isProxy isMultisig : Bool) (owner : Option String) :
    proxyRisk ∈ risksOf isProxy isMultisig owner ↔ isProxy = true := by
  have hsingle : proxyRisk ≠ singleOwnerRisk := by decide
  have hunknown : proxyRisk ≠ unknownOwnerRisk := by decide
  cases isProxy <;> cases isMultisig <;> cases hnone : owner.all (· == Address.zero) <;>
    simp [risksOf, hnone, hsingle, hunknown]

/-- What an ownership says of a proxy is what the code shows: whether `HasFingerprint` holds of it,
and which implementation is embedded in it. -/
structure ShowsProxy (contract : Contract) (o : Ownership) : Prop where
  isProxy : o.isProxy = true ↔ HasFingerprint contract.codeHex
  listed : proxyRisk ∈ o.risks ↔ HasFingerprint contract.codeHex
  embedded : ∀ address, embeddedImplementation? contract.codeHex = some address →
    o.implementation = some address
  reported : embeddedImplementation? contract.codeHex = none →
    loweredText? contract.implementation = .ok o.implementation
  penalized : HasFingerprint contract.codeHex → ∀ (w : Weights) (s : Signals), s.ownership = o →
    s.score w = s.withoutProxy.score { w with start := w.start - w.proxyPenalty }

/-- An ownership that `IsAssessed` shows the proxy that the code shows. -/
theorem IsAssessed.showsProxy {contract : Contract} {creator label : Json} {o : Ownership}
    (h : IsAssessed contract creator label o) : ShowsProxy contract o := by
  have hproxy : o.isProxy = true ↔ HasFingerprint contract.codeHex := by
    rw [h.isProxy, isMinimalProxy_iff_hasFingerprint]
  have hbehind := h.implementation
  rw [behind] at hbehind
  constructor
  case isProxy => exact hproxy
  case listed => rw [h.risks, proxyRisk_mem_risksOf, hproxy]
  case embedded =>
    intro address haddress
    obtain ⟨x, hx, rfl, _⟩ := exists_trampolineTo_of_embedded haddress
    rw [haddress] at hbehind
    -- An address in the code is in lower case already.
    rw [← Except.ok.inj hbehind, lower_address hx]
  case reported =>
    intro hnone
    rwa [hnone] at hbehind
  case penalized =>
    rintro hfingerprint w s rfl
    exact s.score_of_isProxy w (hproxy.mpr hfingerprint)

/-- If the code `HasFingerprint`, an assessed ownership costs more than the remark that nothing is
known about it. -/
theorem IsAssessed.cost_of_hasFingerprint {contract : Contract} {creator label : Json}
    {o : Ownership} (h : IsAssessed contract creator label o)
    (hfingerprint : HasFingerprint contract.codeHex) : 10 ≤ o.cost := by
  have hproxy : o.isProxy = true := h.showsProxy.isProxy.mpr hfingerprint
  rw [cost_assessed o h.risks, hproxy]
  -- A group of signers gives back less than the proxy costs.
  cases o.isMultisig <;> simp <;> split <;> omega

/-- The ownership of a contract whose creation is not known. -/
def withoutCreation : Ownership where
  risks := [noCreationRisk]

end Ownership

/-! ## The ownership part -/

namespace Analyzer

variable (a : Analyzer)

/-- The record of a contract's creation was had in time: `creationAnswer` holds one. -/
def HasCreation (contract : Contract) : Prop :=
  ∃ creation, a.creationAnswer contract.address contract.chainId = .ok (some creation)

/-- With a record of the creation, what `ownership` comes to was assessed. -/
theorem isAssessed_of_hasCreation {contract : Contract} {o : Ownership} {warnings : List String}
    (hcreation : a.HasCreation contract)
    (h : (a.ownership contract).value = .ok (o, warnings)) :
    ∃ creator label, Ownership.IsAssessed contract creator label o := by
  obtain ⟨creation, hcreation⟩ := hcreation
  rw [value_ownership, hcreation] at h
  obtain ⟨l, _, h⟩ := Except.bind_eq_ok_iff.mp h
  obtain ⟨o', ho', heq⟩ := Except.map_eq_ok_iff.mp h
  cases heq
  exact ⟨creation.creator, l.1, Ownership.isAssessed_of_ok _ _ _ _ ho'⟩

/-- Without one, `ownership` comes to `withoutCreation`. -/
theorem eq_withoutCreation_of_not {contract : Contract} {o : Ownership}
    {warnings : List String} (hnone : ¬ a.HasCreation contract)
    (h : (a.ownership contract).value = .ok (o, warnings)) : o = .withoutCreation := by
  rw [value_ownership] at h
  -- Either no lookup was answered, or the answer was that there is no record.
  cases hanswer : a.creationAnswer contract.address contract.chainId with
  | error f =>
    simp only [hanswer] at h
    split at h
    · cases h
      rfl
    · cases h
  | ok creation =>
    cases creation with
    | none =>
      simp only [hanswer] at h
      cases h
      rfl
    | some creation => exact absurd ⟨creation, hanswer⟩ hnone

/-- `ownership` does not fail. With a record of the creation, whoever created the contract and
whatever comes of the label, it shows a proxy exactly if the code does. Without a record, whether
there is none, the lookup fails or takes too long, it comes to `withoutCreation`, whatever the
code. -/
theorem proxy_shown_with_creation (contract : Contract)
    (himplementation : contract.implementation.IsTextIfAny)
    (htyped : a.sources.AnswersTyped) (hproviders : a.sources.FailsByProviders) :
    ∃ o warnings, (a.ownership contract).value = .ok (o, warnings) ∧
      (a.HasCreation contract → o.ShowsProxy contract) ∧
      (¬ a.HasCreation contract → o = .withoutCreation) := by
  obtain ⟨⟨o, warnings⟩, hvalue⟩ :=
    a.ownership_isOk_of_typed contract himplementation htyped hproviders
  refine ⟨o, warnings, hvalue, fun hcreation => ?_, fun hnone => ?_⟩
  · obtain ⟨_, _, hassessed⟩ := a.isAssessed_of_hasCreation hcreation hvalue
    exact hassessed.showsProxy
  · exact a.eq_withoutCreation_of_not hnone hvalue

/-- The loss of the record of its creation takes more from the `cost` of a proxy than the remark
adds that the record is missing. -/
theorem cost_ownershipOf_of_lost_creation (sources : Sources) (contract : Contract)
    (himplementation : contract.implementation.IsTextIfAny)
    (htyped : a.sources.AnswersTyped) (hproviders : a.sources.FailsByProviders)
    (hfingerprint : Ownership.HasFingerprint contract.codeHex) (hcreation : a.HasCreation contract)
    (hlost : IsLost (a.creationAnswer contract.address contract.chainId)
      ((a.asking sources).creationAnswer contract.address contract.chainId)) :
    ((a.asking sources).ownershipOf contract).cost + 5 ≤ (a.ownershipOf contract).cost := by
  obtain ⟨⟨o, warnings⟩, hvalue⟩ :=
    a.ownership_isOk_of_typed contract himplementation htyped hproviders
  obtain ⟨_, _, hassessed⟩ := a.isAssessed_of_hasCreation hcreation hvalue
  -- Before the loss the assessment counts, after it the remark alone.
  have hbefore : a.ownershipOf contract = o := by
    rw [ownershipOf, hvalue]
    rfl
  have hafter : (a.asking sources).ownershipOf contract = .withoutCreation := by
    obtain ⟨name, why, hfailed⟩ := hlost.failed
    rw [ownershipOf_eq, hfailed]
    rfl
  have hcost := hassessed.cost_of_hasFingerprint hfingerprint
  rw [hbefore, hafter, Ownership.withoutCreation, Ownership.cost_of_remark]
  omega

end Analyzer

/-! ## A proxy with a record of its creation and without -/

/-- A contract that forwards to another one, as a clone does. -/
def Contract.clone : Contract where
  address := Sources.plainAddress
  chainId := 1
  bytecode := "0x" ++ String.ofList (Ownership.trampolineTo (List.replicate 40 'a'))
  isContract := true

/-- The record of the clone's creation. -/
def Creation.ofClone : Creation where
  contractAddress := Sources.plainAddress
  creator := .string Sources.plainAddress

/-- A lookup of the clone's creation that the explorer refuses. -/
def Creation.refused : Except Failure (Option Creation) :=
  .error (.provider Sources.explorer (.status 502))

/-- Sources that answer so about the creation of `clone`, and do not tell the label of its
creator. -/
def Sources.ofClone (creation : Except Failure (Option Creation)) : Sources :=
  { Sources.plain (.ok []) with
    creation := fun _ _ => { answer := creation }
    label := fun _ _ => { answer := .error (.provider explorer (.status 500)) } }

private theorem Contract.hasFingerprint_clone :
    Ownership.HasFingerprint Contract.clone.codeHex := by
  have hdigits : Bytecode.HasDigits Contract.clone.bytecode
      (Ownership.trampolineTo (List.replicate 40 'a')) :=
    ⟨⟨"0x", by decide, rfl⟩, List.all_eq_true.mp (by decide +kernel)⟩
  have hlower : (Ownership.trampolineTo (List.replicate 40 'a')).map Char.toLower =
      Ownership.trampolineTo (List.replicate 40 'a') := by decide +kernel
  have hcode : Contract.clone.codeHex.toList =
      Ownership.trampolineTo (List.replicate 40 'a') := by
    rw [Contract.codeHex, Bytecode.toList_digits hdigits, hlower]
  rw [← Ownership.isMinimalProxy_iff_hasFingerprint]
  apply Ownership.isMinimalProxy_of_trampolineTo (x := List.replicate 40 'a')
  exact ⟨[], [], by rw [List.nil_append, List.append_nil, hcode]⟩

private theorem Sources.answersTyped_ofClone {creation : Except Failure (Option Creation)}
    (h : ∀ record, creation = .ok (some record) → record.IsTyped) :
    (Sources.ofClone creation).AnswersTyped := by
  have hnull : Json.null.IsTextIfAny := fun hany => by cases hany
  -- All that is answered but the record of the creation is null or empty.
  constructor
  case source =>
    intro _ _ record hrecord
    cases hrecord
    exact ⟨hnull, hnull⟩
  case holders =>
    intro _ _ _ l hl x hx
    cases hl
    cases hx
  case creation => exact fun _ _ => h
  case label =>
    intro _ _ label hlabel
    cases hlabel

private theorem Sources.failsByProviders_ofClone {creation : Except Failure (Option Creation)}
    (h : ∀ f, creation = .error f → f.isProvider = true) :
    (Sources.ofClone creation).FailsByProviders := by
  constructor
  case creation => exact fun _ _ => h
  case label =>
    intro _ _ f hf
    cases hf
    rfl
  all_goals intros; rename_i hanswer; cases hanswer

namespace Analyzer

/-- The analyzer that asks `Sources.ofClone`. -/
def ofClone (creation : Except Failure (Option Creation)) : Analyzer :=
  (Scene.plain (.ok []) 0).analyzer.asking (.ofClone creation)

private theorem isTyped_record : Creation.ofClone.IsTyped :=
  ⟨fun _ => ⟨_, rfl⟩, fun hany => by cases hany⟩

private theorem answersTyped_record :
    (ofClone (.ok (some .ofClone))).sources.AnswersTyped :=
  Sources.answersTyped_ofClone fun record hrecord => by cases hrecord; exact isTyped_record

private theorem failsByProviders_record :
    (ofClone (.ok (some .ofClone))).sources.FailsByProviders :=
  Sources.failsByProviders_ofClone fun f hf => by cases hf

/-- With its record `clone` is a proxy, though the label of its creator is not told. -/
theorem clone_is_shown_with_creation :
    Contract.clone.implementation.IsTextIfAny ∧
      (ofClone (.ok (some .ofClone))).sources.AnswersTyped ∧
      (ofClone (.ok (some .ofClone))).sources.FailsByProviders ∧
      (ofClone (.ok (some .ofClone))).HasCreation .clone ∧
      ∃ o warnings, ((ofClone (.ok (some .ofClone))).ownership .clone).value = .ok (o, warnings) ∧
        o.isProxy = true ∧ Ownership.proxyRisk ∈ o.risks := by
  have himplementation : Contract.clone.implementation.IsTextIfAny := fun hany => by cases hany
  have hcreation : (ofClone (.ok (some .ofClone))).HasCreation .clone := ⟨.ofClone, rfl⟩
  obtain ⟨o, warnings, hvalue, hshows, _⟩ := proxy_shown_with_creation
    (ofClone (.ok (some .ofClone))) .clone himplementation answersTyped_record
    failsByProviders_record
  have hproxy := hshows hcreation
  exact ⟨himplementation, answersTyped_record, failsByProviders_record, hcreation, o, warnings,
    hvalue, hproxy.isProxy.mpr Contract.hasFingerprint_clone,
    hproxy.listed.mpr Contract.hasFingerprint_clone⟩

/-- Once the lookup of its creation fails, `clone` is no proxy, and its ownership costs less than
before. -/
theorem lost_creation_hides_proxy :
    Contract.clone.implementation.IsTextIfAny ∧ (ofClone Creation.refused).sources.AnswersTyped ∧
      (ofClone Creation.refused).sources.FailsByProviders ∧
      Ownership.HasFingerprint Contract.clone.codeHex ∧
      (∃ o, ((ofClone Creation.refused).ownership .clone).value =
          .ok (o, ["Ownership lookup failed: explorer: HTTP 502"]) ∧
        o.isProxy = false ∧ Ownership.proxyRisk ∉ o.risks ∧ o.implementation = none) ∧
      ((ofClone Creation.refused).ownershipOf .clone).cost + 5 ≤
        ((ofClone (.ok (some .ofClone))).ownershipOf .clone).cost := by
  have himplementation : Contract.clone.implementation.IsTextIfAny := fun hany => by cases hany
  refine ⟨himplementation, ?_, ?_, Contract.hasFingerprint_clone, ?_, ?_⟩
  · exact Sources.answersTyped_ofClone fun record hrecord => by cases hrecord
  · exact Sources.failsByProviders_ofClone fun f hf => by cases hf; rfl
  · -- With the record the whole assessment is lost, and what is left says nothing of a proxy.
    exact ⟨.withoutCreation, rfl, rfl, by decide, rfl⟩
  · -- The risk of the proxy goes with it, and so do its points.
    exact (ofClone (.ok (some .ofClone))).cost_ownershipOf_of_lost_creation
      (.ofClone Creation.refused) .clone himplementation answersTyped_record
      failsByProviders_record Contract.hasFingerprint_clone ⟨.ofClone, rfl⟩
      ⟨⟨_, rfl⟩, _, _, rfl⟩

end Analyzer

end TokenRisk
