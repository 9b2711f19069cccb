import TokenRisk.Proofs.Loss
import TokenRisk.Proofs.Verifier

/-!
# What the warnings of an analysis tell

What goes wrong in an analysis is recorded in four ways: a failed fetch becomes a value, a failed
part leaves a warning in a common list and is replaced by a default, and `Analyzer.ownership` and
`Analyzer.holders` come with warnings of their own. This file compares the warnings with what went
wrong: each mishap is told once, and nothing else is told. The one mishap that goes untold is a
label that could not be had, if `Analyzer.ownership` then fails over something else and takes its
warnings with it.

## Key results

- `Analyzer.ownership_told`: what is told of `Analyzer.ownership`, and the one way to lose a warning
- `Analyzer.isUnharmed_iff`: nothing went wrong exactly if there is no mishap
- `Analyzer.warnings_tell`: the warnings of an analysis against its mishaps
-/

namespace TokenRisk

/-! ## Mishaps -/

/-- Something that went wrong in an analysis: a lookup or a part, and its failure. -/
structure Mishap where
  part : String
  failure : Failure

namespace Mishap

variable {α : Type}

/-- The text of the warning that tells a mishap. -/
def warning (m : Mishap) : String :=
  s!"{m.part} failed: {m.failure.message}"

/-- The mishap of a lookup that failed for its provider's sake. Any other failure goes on to the
part that made the lookup. -/
def ofLookup (part : String) : Except Failure α → List Mishap
  | .ok _ => []
  | .error f => if f.isProvider then [⟨part, f⟩] else []

/-- The mishap of a part that failed. -/
def ofPart (part : String) : Except Failure α → List Mishap
  | .ok _ => []
  | .error f => [⟨part, f⟩]

@[simp] theorem ofLookup_ok (part : String) (x : α) : ofLookup part (.ok x) = [] := rfl

@[simp] theorem ofPart_ok (part : String) (x : α) : ofPart part (.ok x) = [] := rfl

@[simp] theorem ofPart_error (part : String) (f : Failure) :
    ofPart part (.error f : Except Failure α) = [⟨part, f⟩] := rfl

theorem ofLookup_of_provider (part : String) (f : Failure) (h : f.isProvider = true) :
    ofLookup part (.error f : Except Failure α) = [⟨part, f⟩] := by
  simp [ofLookup, h]

theorem ofLookup_of_not_provider (part : String) (f : Failure) (h : f.isProvider = false) :
    ofLookup part (.error f : Except Failure α) = [] := by
  simp [ofLookup, h]

theorem ofPart_eq_nil_iff (part : String) (x : Except Failure α) :
    ofPart part x = [] ↔ ∃ y, x = .ok y := by
  cases x <;> simp

/-- `ofLookup` is empty exactly for an answer, if all failures are the provider's. -/
theorem ofLookup_eq_nil_iff (part : String) (x : Except Failure α)
    (h : ∀ f, x = .error f → f.isProvider = true) :
    ofLookup part x = [] ↔ ∃ y, x = .ok y := by
  cases x with
  | ok y => simp
  | error f => simp [ofLookup_of_provider part f (h f rfl)]

/-- What is told of a part that comes with warnings of its own: those, or that it failed. -/
def told (part : String) : Except Failure (α × List String) → List String
  | .ok (_, warnings) => warnings
  | .error f => [warning ⟨part, f⟩]

/-- `Analyzer.warning` for a part, and else its own warnings, are what is `told` of it. -/
theorem told_eq (part : String) (x : Except Failure (α × List String)) (default : α) :
    Analyzer.warning part x ++ (x.toOption.getD (default, [])).2 = told part x := by
  cases x <;> rfl

/-- `Analyzer.warning` for a part is the warning of its mishap. -/
theorem warning_eq (part : String) (x : Except Failure α) :
    Analyzer.warning part x = (ofPart part x).map warning := by
  cases x <;> rfl

end Mishap

namespace Analyzer

variable (a : Analyzer)

/-! ## Lookups and parts -/

/-- The `labelAnswer` for a creator, if it is asked for: a creator that is no text, or an empty one,
has no label. -/
def labelOfCreator (creator : Json) (chainId : Int) : Option (Except Failure Json) :=
  match creator with
  | .string address => if address.isEmpty then none else some (a.labelAnswer address chainId)
  | _ => none

/-- The `labelAnswer` for the creator of a contract, if there is a creator to ask about. -/
def creatorAnswer (address : String) (chainId : Int) : Option (Except Failure Json) :=
  (a.creationAnswer address chainId).toOption.join.bind fun creation =>
    a.labelOfCreator creation.creator chainId

/-- The mishap of the lookup of a label, if the lookup was made. -/
def labelMishaps : Option (Except Failure Json) → List Mishap
  | none => []
  | some answer => Mishap.ofLookup "Owner label lookup" answer

/-- The mishaps of the lookups that `ownership` makes. -/
def controlMishaps (contract : Contract) : List Mishap :=
  Mishap.ofLookup "Ownership lookup" (a.creationAnswer contract.address contract.chainId) ++
    labelMishaps (a.creatorAnswer contract.address contract.chainId)

/-- What went wrong in `ownership`: in its lookups, or in the part as a whole. -/
def ownershipMishaps (contract : Contract) : List Mishap :=
  a.controlMishaps contract ++ Mishap.ofPart "Ownership analysis" (a.ownership contract).value

/-- What went wrong in `holders`: in its lookup, or in the part as a whole. -/
def holderMishaps (address : String) (chainId : Int) : List Mishap :=
  Mishap.ofLookup "Holder lookup" (a.holdersAnswer address chainId) ++
    Mishap.ofPart "Holder analysis" (a.holders address chainId).value

/-- What went wrong in the analysis of an address with code: each lookup that failed for its
provider's sake and each part that failed. -/
def mishaps (address : String) (chainId : Int) : List Mishap :=
  Mishap.ofLookup "Source lookup" (a.sourceAnswer address chainId) ++
    Mishap.ofPart "Standard detection" (a.standard (a.contractOf address chainId)).value ++
    a.ownershipMishaps (a.contractOf address chainId) ++
    a.holderMishaps address chainId ++
    Mishap.ofPart "Risk detection" (a.findings (a.contractOf address chainId)).value

/-- Nothing went wrong: each lookup that was made was answered, and no part failed. -/
structure IsUnharmed (address : String) (chainId : Int) : Prop where
  source : ∃ x, a.sourceAnswer address chainId = .ok x
  creation : ∃ x, a.creationAnswer address chainId = .ok x
  label : ∀ answer, a.creatorAnswer address chainId = some answer → ∃ x, answer = .ok x
  holders : ∃ x, a.holdersAnswer address chainId = .ok x
  standard : ∃ x, (a.standard (a.contractOf address chainId)).value = .ok x
  ownership : ∃ x, (a.ownership (a.contractOf address chainId)).value = .ok x
  concentration : ∃ x, (a.holders address chainId).value = .ok x
  findings : ∃ x, (a.findings (a.contractOf address chainId)).value = .ok x

/-- The label could not be had for its provider's sake, and then `ownership` failed. -/
structure HidesLabel (contract : Contract) (f : Failure) : Prop where
  label : a.creatorAnswer contract.address contract.chainId = some (.error f)
  provider : f.isProvider = true
  ownership : ∃ g, (a.ownership contract).value = .error g

/-! ## The ownership part -/

/-- The only mishap that `labelMishaps` knows is that the label could not be had. -/
private theorem labelMishaps_cases (answer : Option (Except Failure Json)) :
    labelMishaps answer = [] ∨ ∃ f, answer = some (.error f) ∧ f.isProvider = true ∧
      labelMishaps answer = [⟨"Owner label lookup", f⟩] := by
  rcases answer with _ | f | label
  · exact .inl rfl
  · cases hprovider : f.isProvider with
    | true => exact .inr ⟨f, rfl, hprovider, Mishap.ofLookup_of_provider (α := Json) _ f hprovider⟩
    | false => exact .inl (Mishap.ofLookup_of_not_provider (α := Json) _ f hprovider)
  · exact .inl rfl

/-- `creatorLabel` comes with a warning if the label could not be had for its provider's sake. Any
other failure is its own. -/
private theorem creatorLabel_cases (creator : Json) (chainId : Int) :
    (∃ label, (a.creatorLabel creator chainId).value =
        .ok (label, (labelMishaps (a.labelOfCreator creator chainId)).map Mishap.warning) ∧
      ∀ f, a.labelOfCreator creator chainId = some (.error f) → f.isProvider = true) ∨
    ∃ f, (a.creatorLabel creator chainId).value = .error f ∧
      labelMishaps (a.labelOfCreator creator chainId) = [] := by
  simp only [creatorLabel]
  split
  · rename_i address
    simp only [labelOfCreator]
    split
    · exact .inl ⟨.null, rfl, fun f hf => by cases hf⟩
    · simp only [Timed.value_map, labelAnswer]
      cases (a.sources.askLabel a.callLimit address chainId).value with
      | ok label => exact .inl ⟨label, rfl, fun f hf => by cases hf⟩
      | error f =>
        simp only [labelMishaps]
        cases hprovider : f.isProvider with
        | true =>
          rw [Mishap.ofLookup_of_provider _ f hprovider]
          exact .inl ⟨.null, rfl, fun g hg => by cases hg; exact hprovider⟩
        | false => exact .inr ⟨f, rfl, Mishap.ofLookup_of_not_provider _ f hprovider⟩
  · -- There is nobody to ask about.
    have hnone : a.labelOfCreator creator chainId = none := by
      simp only [labelOfCreator]
    rw [hnone]
    split
    · exact .inr ⟨_, rfl, rfl⟩
    · exact .inl ⟨.null, rfl, fun f hf => by cases hf⟩

/-- `ownership` comes with a warning for each lookup that failed for its provider's sake. If it
fails itself, the record of the creation was not lost that way. -/
theorem ownership_cases (contract : Contract) :
    (∃ o, (a.ownership contract).value =
        .ok (o, (a.controlMishaps contract).map Mishap.warning) ∧
      (∀ f, a.creationAnswer contract.address contract.chainId = .error f →
        f.isProvider = true) ∧
      ∀ f, a.creatorAnswer contract.address contract.chainId = some (.error f) →
        f.isProvider = true) ∨
    ∃ f, (a.ownership contract).value = .error f ∧
      a.controlMishaps contract =
        labelMishaps (a.creatorAnswer contract.address contract.chainId) := by
  have hvalue := a.value_ownership contract
  simp only [controlMishaps, creatorAnswer]
  cases hcreation : a.creationAnswer contract.address contract.chainId with
  | error f =>
    simp only [hcreation] at hvalue
    rw [hvalue]
    cases hprovider : f.isProvider with
    | true =>
      rw [Mishap.ofLookup_of_provider _ f hprovider]
      exact .inl ⟨_, rfl, fun g hg => by cases hg; exact hprovider, fun g hg => by cases hg⟩
    | false =>
      rw [Mishap.ofLookup_of_not_provider _ f hprovider]
      exact .inr ⟨f, rfl, rfl⟩
  | ok creation =>
    simp only [hcreation] at hvalue
    cases creation with
    | none =>
      -- Without a record there is no creator, and no label is asked for.
      exact .inl ⟨_, hvalue, (fun g hg => by cases hg), fun g hg => by cases hg⟩
    | some creation =>
      simp only [] at hvalue
      rcases a.creatorLabel_cases creation.creator contract.chainId with
        ⟨label, hlabel, hproviders⟩ | ⟨f, hlabel, _⟩
      · -- The lookups are over, so what is left to fail is the assessment, which takes the warnings
        -- along.
        rw [hlabel] at hvalue
        cases hassess : Ownership.assess contract creation.creator label with
        | ok o =>
          refine .inl ⟨o, ?_, (fun g hg => by cases hg), hproviders⟩
          rw [hvalue]
          simp only [bind, Except.bind, hassess]
          rfl
        | error f =>
          refine .inr ⟨f, ?_, rfl⟩
          rw [hvalue]
          simp only [bind, Except.bind, hassess]
          rfl
      · rw [hlabel] at hvalue
        exact .inr ⟨f, hvalue, rfl⟩

/-- What is `told` of `ownership`: each mishap once. Only a label that could not be had goes untold,
if `ownership` then fails. -/
theorem ownership_told (contract : Contract) :
    (∀ f, ¬ a.HidesLabel contract f) ∧
        Mishap.told "Ownership analysis" (a.ownership contract).value =
          (a.ownershipMishaps contract).map Mishap.warning ∨
      ∃ f, a.HidesLabel contract f ∧
        Mishap.warning ⟨"Owner label lookup", f⟩ ::
            Mishap.told "Ownership analysis" (a.ownership contract).value =
          (a.ownershipMishaps contract).map Mishap.warning := by
  rw [ownershipMishaps, List.map_append]
  rcases a.ownership_cases contract with ⟨o, hvalue, _⟩ | ⟨g, hvalue, hlookups⟩
  · refine .inl ⟨fun f hhides => ?_, ?_⟩
    · obtain ⟨g, hg⟩ := hhides.ownership
      rw [hvalue] at hg
      cases hg
    · rw [hvalue, Mishap.ofPart_ok, List.map_nil, List.append_nil]
      rfl
  · rw [hvalue, hlookups]
    rcases labelMishaps_cases (a.creatorAnswer contract.address contract.chainId) with
      hnil | ⟨f, hlost, hprovider, hmishap⟩
    · refine .inl ⟨fun f hhides => ?_, by rw [hnil]; rfl⟩
      rw [hhides.label, labelMishaps, Mishap.ofLookup_of_provider _ f hhides.provider] at hnil
      cases hnil
    · exact .inr ⟨f, ⟨hlost, hprovider, g, hvalue⟩, by rw [hmishap]; rfl⟩

/-- `ownershipMishaps` is empty exactly if `ownership` and its lookups were answered. -/
theorem ownershipMishaps_eq_nil_iff (contract : Contract) :
    a.ownershipMishaps contract = [] ↔
      (∃ x, a.creationAnswer contract.address contract.chainId = .ok x) ∧
      (∀ answer, a.creatorAnswer contract.address contract.chainId = some answer →
        ∃ x, answer = .ok x) ∧
      ∃ x, (a.ownership contract).value = .ok x := by
  rw [ownershipMishaps, List.append_eq_nil_iff, Mishap.ofPart_eq_nil_iff, controlMishaps,
    List.append_eq_nil_iff, and_assoc]
  constructor
  · rintro ⟨hcreation, hlabel, hvalue⟩
    rcases a.ownership_cases contract with ⟨o, _, hcreations, hlabels⟩ | ⟨f, herror, _⟩
    · rw [Mishap.ofLookup_eq_nil_iff _ _ hcreations] at hcreation
      refine ⟨hcreation, fun answer hanswer => ?_, hvalue⟩
      rw [hanswer] at hlabel hlabels
      exact (Mishap.ofLookup_eq_nil_iff _ answer fun f hf => hlabels f (congrArg some hf)).mp hlabel
    · obtain ⟨x, hx⟩ := hvalue
      rw [hx] at herror
      cases herror
  · rintro ⟨⟨creation, hcreation⟩, hlabel, hvalue⟩
    refine ⟨by rw [hcreation]; rfl, ?_, hvalue⟩
    cases hanswer : a.creatorAnswer contract.address contract.chainId with
    | none => rfl
    | some answer =>
      obtain ⟨label, rfl⟩ := hlabel answer hanswer
      rfl

/-! ## The holder part -/

/-- What is `told` of `holders`: each mishap once. -/
theorem holders_told (address : String) (chainId : Int) :
    Mishap.told "Holder analysis" (a.holders address chainId).value =
      (a.holderMishaps address chainId).map Mishap.warning := by
  rw [holderMishaps, value_holders]
  cases a.holdersAnswer address chainId with
  | error f =>
    cases hprovider : f.isProvider with
    | true =>
      rw [Mishap.ofLookup_of_provider _ f hprovider]
      simp only [hprovider]
      rfl
    | false =>
      rw [Mishap.ofLookup_of_not_provider _ f hprovider]
      simp only [hprovider]
      rfl
  | ok l =>
    simp only []
    cases Holders.summarize {} (Holders.sample a.sampleSize l) <;> rfl

/-- `holderMishaps` is empty exactly if `holders` and its lookup were answered. -/
theorem holderMishaps_eq_nil_iff (address : String) (chainId : Int) :
    a.holderMishaps address chainId = [] ↔
      (∃ x, a.holdersAnswer address chainId = .ok x) ∧
      ∃ x, (a.holders address chainId).value = .ok x := by
  rw [holderMishaps, List.append_eq_nil_iff, Mishap.ofPart_eq_nil_iff]
  refine and_congr_left fun ⟨x, hvalue⟩ => Mishap.ofLookup_eq_nil_iff _ _ fun f hf => ?_
  -- The look would have failed over any other failure.
  rw [value_holders, hf] at hvalue
  cases hprovider : f.isProvider with
  | true => rfl
  | false =>
    simp only [hprovider] at hvalue
    cases hvalue

/-! ## The whole analysis -/

/-- `failureWarnings` are those of the failed parts, in whatever order they failed. -/
theorem failureWarnings_perm (parts : List (Instant × List String)) :
    (failureWarnings parts).Perm (parts.flatMap (·.2)) :=
  (List.mergeSort_perm _ _).flatMap_right _

/-- The warnings of `parts` are what is `told` of each. -/
theorem parts_told (contract : Contract) :
    (a.parts contract).value.warnings.Perm
      ((Mishap.ofPart "Standard detection" (a.standard contract).value).map Mishap.warning ++
        Mishap.told "Ownership analysis" (a.ownership contract).value ++
        Mishap.told "Holder analysis" (a.holders contract.address contract.chainId).value ++
        (Mishap.ofPart "Risk detection" (a.findings contract).value).map Mishap.warning) := by
  have hperm := failureWarnings_perm [
    ((a.standard contract).spawned.finish,
      warning "Standard detection" (a.standard contract).value),
    ((a.ownership contract).spawned.finish,
      warning "Ownership analysis" (a.ownership contract).value),
    ((a.holders contract.address contract.chainId).spawned.finish,
      warning "Holder analysis" (a.holders contract.address contract.chainId).value),
    ((a.findings contract).spawned.finish,
      warning "Risk detection" (a.findings contract).value)]
  rw [← Mishap.told_eq _ _ { risks := [Ownership.failedRisk] },
    ← Mishap.told_eq _ _ { risks := [Holders.failedRisk] }, ← Mishap.warning_eq,
    ← Mishap.warning_eq]
  simp only [List.flatMap_cons, List.flatMap_nil, List.append_nil] at hperm
  -- The warnings of failed parts come first, so the lists agree up to their order only.
  rw [List.perm_iff_count] at hperm ⊢
  intro s
  have hcount := hperm s
  simp only [parts, Timed.value_spawned, List.count_append] at hcount ⊢
  omega

/-- `warningsOf` an address with code tells each mishap once, and nothing else. Only a label that
could not be had goes untold, if `ownership` then fails. -/
theorem warningsOf_told (address : String) (chainId : Int) (hcode : a.HasCode address chainId)
    (hsource : ∀ f, a.sourceAnswer address chainId = .error f → f.isProvider = true) :
    (∀ f, ¬ a.HidesLabel (a.contractOf address chainId) f) ∧
        (a.warningsOf address chainId).Perm
          ((a.mishaps address chainId).map Mishap.warning) ∨
      ∃ f, a.HidesLabel (a.contractOf address chainId) f ∧
        (Mishap.warning ⟨"Owner label lookup", f⟩ :: a.warningsOf address chainId).Perm
          ((a.mishaps address chainId).map Mishap.warning) := by
  -- The fetch tells of the source, and the parts tell of everything else.
  have hfetched : (snapshot address chainId (a.codeAnswer address chainId)
      (a.sourceAnswer address chainId)).warnings =
      (Mishap.ofLookup "Source lookup" (a.sourceAnswer address chainId)).map Mishap.warning := by
    obtain ⟨code, hanswer, _⟩ := hcode.code
    rw [hanswer]
    cases hlost : a.sourceAnswer address chainId with
    | ok source => rfl
    | error f =>
      rw [Mishap.ofLookup_of_provider _ f (hsource f hlost)]
      rfl
  have hparts := a.parts_told (a.contractOf address chainId)
  have hholders := a.holders_told address chainId
  rw [show (a.contractOf address chainId).address = address from rfl,
    show (a.contractOf address chainId).chainId = chainId from rfl, hholders] at hparts
  simp only [mishaps, warningsOf, hfetched, List.map_append]
  rcases a.ownership_told (a.contractOf address chainId) with ⟨hnone, htold⟩ | ⟨f, hhides, htold⟩
  · refine .inl ⟨hnone, ?_⟩
    rw [htold] at hparts
    rw [List.perm_iff_count] at hparts ⊢
    intro s
    have hcount := hparts s
    simp only [List.count_append] at hcount ⊢
    omega
  · refine .inr ⟨f, hhides, ?_⟩
    rw [← htold]
    rw [List.perm_iff_count] at hparts ⊢
    intro s
    have hcount := hparts s
    simp only [List.count_append, List.count_cons] at hcount ⊢
    omega

/-- `IsUnharmed` holds exactly if there is no mishap: a failure that is not the provider's is one of
the part that made the lookup. -/
theorem isUnharmed_iff (address : String) (chainId : Int)
    (hsource : ∀ f, a.sourceAnswer address chainId = .error f → f.isProvider = true) :
    a.IsUnharmed address chainId ↔ a.mishaps address chainId = [] := by
  simp only [mishaps, List.append_eq_nil_iff, Mishap.ofPart_eq_nil_iff,
    Mishap.ofLookup_eq_nil_iff _ _ hsource, ownershipMishaps_eq_nil_iff, holderMishaps_eq_nil_iff]
  constructor
  · intro h
    exact ⟨⟨⟨⟨h.source, h.standard⟩, h.creation, h.label, h.ownership⟩, h.holders,
      h.concentration⟩, h.findings⟩
  · rintro ⟨⟨⟨⟨hsourced, hstandard⟩, hcreation, hlabel, hownership⟩, hholders, hshares⟩, hfindings⟩
    exact ⟨hsourced, hcreation, hlabel, hholders, hstandard, hownership, hshares, hfindings⟩

/-- `warningsOf` is empty exactly if there is no mishap, as an untold label leaves the failure of
`ownership` to tell. -/
theorem warningsOf_eq_nil_iff (address : String) (chainId : Int)
    (hcode : a.HasCode address chainId)
    (hsource : ∀ f, a.sourceAnswer address chainId = .error f → f.isProvider = true) :
    a.warningsOf address chainId = [] ↔ a.mishaps address chainId = [] := by
  rcases a.warningsOf_told address chainId hcode hsource with ⟨_, htold⟩ | ⟨f, hhides, htold⟩
  · have hlength := htold.length_eq
    rw [List.length_map] at hlength
    rw [← List.length_eq_zero_iff, ← List.length_eq_zero_iff, hlength]
  · -- A label is only untold where the failure of `ownership` is told.
    have hsome : a.warningsOf address chainId ≠ [] := by
      intro hnil
      have hparts := a.parts_told (a.contractOf address chainId)
      obtain ⟨g, hg⟩ := hhides.ownership
      rw [(List.append_eq_nil_iff.mp hnil).2, hg] at hparts
      have hlength := hparts.length_eq
      simp [Mishap.told] at hlength
    refine iff_of_false hsome fun hnil => ?_
    rw [hnil] at htold
    cases htold.length_eq

end Analyzer

/-- An outcome whose analysis has the warnings `told`, after `notes` on the address: it is complete
without any, and else degraded for their sake. -/
structure Outcome.Tells (notes told : List String) (o : Outcome) : Prop where
  warnings : o.analysis.warnings = notes ++ told
  complete : (∃ x, o = .complete x) ↔ told = []
  degraded : told ≠ [] → ∃ x, o = .degraded x (Text.join "; " told)

namespace Analyzer

variable (a : Analyzer)

theorem tells_outcomeOf (contract : Contract) (notes told : List String) (signals : Signals) :
    (a.outcomeOf contract notes told signals).Tells notes told := by
  constructor
  case warnings =>
    rw [analysis_outcomeOf]
    rfl
  case complete =>
    cases told with
    | nil => exact iff_of_true ⟨_, rfl⟩ rfl
    | cons s told =>
      refine iff_of_false ?_ (List.cons_ne_nil s told)
      rintro ⟨x, hx⟩
      cases hx
  case degraded =>
    cases told with
    | nil => exact fun hnil => absurd rfl hnil
    | cons s told => exact fun _ => ⟨_, rfl⟩

/-- What `analyze` tells of a valid address with code on a supported chain, if its source was
answered or lost for its provider's sake: its outcome is complete exactly if nothing went wrong;
else its warnings tell each mishap once, unless `ownership` hides a label that could not be had. -/
theorem warnings_tell (address : Option String) (chainId : Int) (check : Address.Check)
    (hcheck : Address.check a.scheme address = .ok check) (hvalid : check.isValid = true)
    (hsupported : Chain.isSupported chainId = true)
    (hcode : ∃ code, a.codeAnswer (Text.lower (address.getD "")) chainId = .ok code ∧
      Bytecode.digits code ≠ "")
    (hsource : ∀ f, a.sourceAnswer (Text.lower (address.getD "")) chainId = .error f →
      f.isProvider = true) :
    ∃ o told, (a.analyze address chainId).value = .ok o ∧ o.Tells check.warnings told ∧
      ((∃ x, o = .complete x) ↔ a.IsUnharmed (Text.lower (address.getD "")) chainId) ∧
      (told.Perm ((a.mishaps (Text.lower (address.getD "")) chainId).map Mishap.warning) ↔
        ∀ f, ¬ a.HidesLabel (a.contractOf (Text.lower (address.getD "")) chainId) f) ∧
      ∀ f, a.HidesLabel (a.contractOf (Text.lower (address.getD "")) chainId) f →
        (Mishap.warning ⟨"Owner label lookup", f⟩ :: told).Perm
          ((a.mishaps (Text.lower (address.getD "")) chainId).map Mishap.warning) := by
  have hcoded : a.HasCode (Text.lower (address.getD "")) chainId :=
    ⟨hcode, fun f hf => by rw [isRecorded, hsource f hf, Bool.true_or]⟩
  have hvalue := a.value_analyze_of_check address chainId check hcheck
  rw [if_pos hvalid, if_pos hsupported,
    a.value_analyzeValid_eq _ chainId check.warnings hcoded] at hvalue
  have htells := a.tells_outcomeOf (a.contractOf (Text.lower (address.getD "")) chainId)
    check.warnings (a.warningsOf (Text.lower (address.getD "")) chainId)
    (a.signalsOf (a.contractOf (Text.lower (address.getD "")) chainId))
  refine ⟨_, _, hvalue, htells, ?_, ?_⟩
  · rw [a.isUnharmed_iff _ chainId hsource, ← a.warningsOf_eq_nil_iff _ chainId hcoded hsource]
    exact htells.complete
  rcases a.warningsOf_told _ chainId hcoded hsource with ⟨hnone, htold⟩ | ⟨f, hhides, htold⟩
  · exact ⟨iff_of_true htold hnone, fun f hhides => absurd hhides (hnone f)⟩
  · refine ⟨iff_of_false (fun hperm => ?_) fun hnone => hnone f hhides, fun g hg => ?_⟩
    · -- One mishap is untold, so the warnings are too few to tell them all.
      have hlength := htold.length_eq.trans hperm.length_eq.symm
      simp at hlength
    · obtain rfl : f = g := Except.error.inj (Option.some.inj (hhides.label.symm.trans hg.label))
      exact htold

end Analyzer

/-! ## An untold label -/

/-- What is answered about a token whose explorer has no label for its creator, and a number where
the address of an implementation should be. -/
def Sources.garbled : Sources :=
  { Sources.plain (.ok []) with
    source := fun _ _ =>
      { answer := .ok (some { code := "contract Safe {}", implementation := .int 5 }) }
    label := fun _ _ => { answer := .error (.provider explorer (.status 500)) } }

namespace Analyzer

/-- The analyzer that asks `Sources.garbled`. -/
def garbled : Analyzer :=
  (Scene.plain (.ok []) 0).analyzer.asking .garbled

private theorem hidesLabel_garbled :
    garbled.HidesLabel (garbled.contractOf Sources.plainAddress 1)
      (.provider Sources.explorer (.status 500)) :=
  ⟨rfl, rfl, .fault .attribute "'int' object has no attribute 'lower'", rfl⟩

private theorem mishaps_garbled : (garbled.mishaps Sources.plainAddress 1).map Mishap.warning =
    ["Owner label lookup failed: explorer: HTTP 500",
      "Ownership analysis failed: 'int' object has no attribute 'lower'"] := by
  have hownership : garbled.ownershipMishaps (garbled.contractOf Sources.plainAddress 1) =
      [⟨"Owner label lookup", .provider Sources.explorer (.status 500)⟩,
        ⟨"Ownership analysis",
          .fault .attribute "'int' object has no attribute 'lower'"⟩] := by
    rfl
  have hsummary : (garbled.holders Sources.plainAddress 1).value =
      .ok ({ risks := [Holders.noHoldersRisk] }, []) := by
    rw [value_holders, show garbled.holdersAnswer Sources.plainAddress 1 = .ok [] from rfl]
    exact congrArg (Except.map (·, [])) (Holders.summarize_sample_nil _ _)
  have hholders : garbled.holderMishaps Sources.plainAddress 1 = [] :=
    (garbled.holderMishaps_eq_nil_iff _ _).mpr ⟨⟨[], rfl⟩, _, hsummary⟩
  have hfindings : Mishap.ofPart "Risk detection"
      (garbled.findings (garbled.contractOf Sources.plainAddress 1)).value = [] := by
    rfl
  rw [mishaps, hownership, hholders, hfindings]
  decide +kernel

/-- Of the two things that go wrong with the token of `Sources.garbled`, only the failure of
`ownership` is told. -/
theorem warnings_tell_garbled :
    ∃ o, (garbled.analyze (some Sources.plainAddress) 1).value = .ok o ∧
      o.Tells ["Address is not checksummed"]
        ["Ownership analysis failed: 'int' object has no attribute 'lower'"] ∧
      (garbled.mishaps Sources.plainAddress 1).map Mishap.warning =
        ["Owner label lookup failed: explorer: HTTP 500",
          "Ownership analysis failed: 'int' object has no attribute 'lower'"] := by
  have hlower : Text.lower Sources.plainAddress = Sources.plainAddress := by decide +kernel
  have hdigits : Bytecode.digits "0x6080" ≠ "" := by decide +kernel
  obtain ⟨o, told, hvalue, htells, _, _, hhidden⟩ := garbled.warnings_tell
    (some Sources.plainAddress) 1
    { address := Sources.plainAddress, isValid := true,
      warnings := ["Address is not checksummed"] } rfl rfl (by decide)
    ⟨"0x6080", rfl, hdigits⟩ (fun f hf => by cases hf)
  rw [Option.getD_some, hlower] at hhidden
  have htold := hhidden _ hidesLabel_garbled
  rw [mishaps_garbled] at htold
  rw [List.perm_singleton.mp htold.cons_inv] at htells
  exact ⟨o, hvalue, htells, mishaps_garbled⟩

end Analyzer

end TokenRisk
