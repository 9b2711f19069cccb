import TokenRisk.Proofs.Verifier

/-!
# Where the check of an address breaks off

The form of an address leaves room for a line break at its end, which the checksum schemes refuse. A
checksum is only worked out for an address in mixed case. So the check comes to an end for all texts
but addresses in mixed case with a line break after them, and under both schemes it breaks off for
those. The analysis of an address is not started before it is checked, and breaks off with the
check.

## Key results

- `Address.digits?_eq_some_iff`: what is read as an address, with or without a line break
- `Address.checksum_isOk_iff`: an address has a checksummed form exactly if no line break follows
- `Address.check_isOk_iff`: when the check comes to an end
- `Address.IsCanonical.check_isValid`: `0x` and forty digits always pass it
- `Analyzer.analyze_isOk_iff`: when the analysis does
-/

namespace TokenRisk

namespace Address

/-! ## Addresses and line breaks -/

/-- The line break that may follow an address. -/
def ending (broken : Bool) : List Char :=
  if broken then ['\n'] else []

/-- What `digits?` reads is `0x`, forty digits and maybe a line break. -/
theorem digits?_eq_some_iff (s : String) (ds : List Char) (broken : Bool) :
    digits? s = some (ds, broken) ↔
      (ds.length = 40 ∧ ds.all isHexDigit = true) ∧
        s.toList = '0' :: 'x' :: (ds ++ ending broken) := by
  unfold digits?
  constructor
  · intro h
    split at h
    · rename_i l hl
      dsimp only at h
      split at h
      · rename_i hform
        obtain ⟨hlength, hdigits, hrest⟩ := hform
        simp only [Option.some.injEq, Prod.mk.injEq] at h
        obtain ⟨rfl, rfl⟩ := h
        refine ⟨⟨hlength, hdigits⟩, ?_⟩
        -- Of the rest of the text there is nothing, or the line break.
        have hending : l.drop 40 = ending (!(l.drop 40).isEmpty) := by
          rcases hrest with hrest | hrest <;> rw [hrest] <;> rfl
        rw [hl, ← hending, List.take_append_drop]
      · cases h
    · cases h
  · -- A text of this form is cut behind forty digits, and what is left is its ending.
    rintro ⟨⟨hlength, hdigits⟩, hs⟩
    have htake : (ds ++ ending broken).take 40 = ds := by rw [← hlength, List.take_left]
    have hdrop : (ds ++ ending broken).drop 40 = ending broken := by rw [← hlength, List.drop_left]
    rw [hs]
    simp only [htake, hdrop]
    cases broken <;> simp [hlength, hdigits, ending]

/-- `isHexDigit` refuses a line break. -/
private theorem not_isHexDigit_break : isHexDigit '\n' = false := by
  decide

/-- An address has a `checksum`, under either scheme, exactly if no line break follows it. -/
theorem checksum_isOk_iff (scheme : Scheme) (s : String) (ds : List Char) (broken : Bool)
    (h : digits? s = some (ds, broken)) :
    (∃ t, checksum scheme s = .ok t) ↔ broken = false := by
  obtain ⟨⟨hlength, hdigits⟩, hs⟩ := (digits?_eq_some_iff s ds broken).mp h
  cases scheme with
  | legacy =>
    unfold checksum legacyChecksum
    cases broken <;> simp [h]
  | standard =>
    unfold checksum standardChecksum
    cases broken with
    | false =>
      have hread : withoutPrefix s.toList = ds := by simp [hs, withoutPrefix, ending]
      simp [hread, hdigits, hlength]
    | true =>
      -- The line break is read as a digit too many, and is none.
      have hread : withoutPrefix s.toList = ds ++ ['\n'] := by simp [hs, withoutPrefix, ending]
      simp [hread, not_isHexDigit_break]

/-- A `checksum` fails over the value of the text. -/
private theorem fault_of_checksum (scheme : Scheme) (s : String) (f : Failure)
    (h : checksum scheme s = .error f) : ∃ message, f = .fault .value message := by
  -- Each refusal of either scheme is a fault of the value.
  cases scheme with
  | legacy =>
    change legacyChecksum s = .error f at h
    unfold legacyChecksum at h
    split at h
    · exact ⟨_, (Except.error.inj h).symm⟩
    · exact ⟨_, (Except.error.inj h).symm⟩
    · cases h
  | standard =>
    change standardChecksum s = .error f at h
    unfold standardChecksum at h
    dsimp only at h
    split at h
    · exact ⟨_, (Except.error.inj h).symm⟩
    · split at h
      · cases h
      · exact ⟨_, (Except.error.inj h).symm⟩

/-! ## The check -/

/-- A line break takes no part in `isSingleCase`. -/
private theorem isSingleCase_append_ending (ds : List Char) (broken : Bool) :
    isSingleCase (ds ++ ending broken) = isSingleCase ds := by
  cases broken with
  | false => rw [ending, if_neg (by decide), List.append_nil]
  | true =>
    have hlower : '\n'.toLower = '\n' := by decide
    have hupper : '\n'.toUpper = '\n' := by decide
    have hbeq (l : List Char) : (ds ++ ['\n'] == l ++ ['\n']) = (ds == l) := by
      simp
    simp only [isSingleCase, ending, ↓reduceIte, List.map_append, List.map_cons, List.map_nil,
      hlower, hupper, hbeq]

/-- An address in mixed case with a line break after it. -/
def IsMixedBeforeBreak (s : String) : Prop :=
  ∃ ds : List Char, (ds.length = 40 ∧ ds.all isHexDigit = true) ∧
    s.toList = '0' :: 'x' :: (ds ++ ['\n']) ∧
    ds ≠ ds.map Char.toLower ∧ ds ≠ ds.map Char.toUpper

private theorem isMixedBeforeBreak_iff (s : String) :
    IsMixedBeforeBreak s ↔ ∃ ds, digits? s = some (ds, true) ∧ isSingleCase ds = false := by
  have hmixed (ds : List Char) : isSingleCase ds = false ↔
      ds ≠ ds.map Char.toLower ∧ ds ≠ ds.map Char.toUpper := by
    simp [isSingleCase]
  simp only [IsMixedBeforeBreak, digits?_eq_some_iff, hmixed, ending, ↓reduceIte, and_assoc]

/-- The `check` of an address with given digits: a `checksum` is only worked out in mixed case. -/
private theorem check_of_digits? (scheme : Scheme) (address : Option String) (ds : List Char)
    (broken : Bool) (h : digits? (address.getD "") = some (ds, broken)) :
    (∃ found, check scheme address = .ok found) ↔
      (isSingleCase ds = true ∨ ∃ t, checksum scheme (address.getD "") = .ok t) := by
  have haddress : isAddress (address.getD "") = true := by rw [isAddress, h]; rfl
  have hdrop : (address.getD "").toList.drop 2 = ds ++ ending broken := by
    rw [((digits?_eq_some_iff _ ds broken).mp h).2]
    rfl
  unfold check
  split
  · rename_i hempty
    rw [hempty] at h
    cases h
  · -- The line break stands behind the digits, so it takes no part in their case.
    simp only [haddress, hdrop, isSingleCase_append_ending]
    cases isSingleCase ds with
    | true => simp
    | false => cases checksum scheme (address.getD "") <;> simp [Except.map]

/-- The `check` of an address comes to an end, under either scheme, for all texts but those that are
`IsMixedBeforeBreak`. -/
theorem check_isOk_iff (scheme : Scheme) (address : Option String) :
    (∃ found, check scheme address = .ok found) ↔ ¬ IsMixedBeforeBreak (address.getD "") := by
  rw [isMixedBeforeBreak_iff]
  cases hread : digits? (address.getD "") with
  | none =>
    -- Any other text is refused before its case is looked at.
    refine iff_of_true ?_ ?_
    · unfold check
      split
      · exact ⟨_, rfl⟩
      · simp [isAddress, hread]
    · rintro ⟨ds, hds, _⟩
      cases hds
  | some read =>
    obtain ⟨ds, broken⟩ := read
    rw [check_of_digits? scheme address ds broken hread,
      checksum_isOk_iff scheme _ ds broken hread]
    cases broken <;> simp

/-- Where `check` breaks off, it is over the value of the text. -/
private theorem fault_of_check (scheme : Scheme) (address : Option String) (f : Failure)
    (h : check scheme address = .error f) : ∃ message, f = .fault .value message := by
  unfold check at h
  split at h
  · cases h
  · split at h
    · cases h
    · split at h
      · cases h
      · -- Only an address that may be a checksum has its checksum worked out.
        cases hsum : checksum scheme (address.getD "") with
        | ok t =>
          rw [hsum] at h
          cases h
        | error g =>
          rw [hsum] at h
          obtain rfl := Except.error.inj h
          exact fault_of_checksum scheme _ g hsum

/-! ## Canonical addresses -/

/-- The text is `0x` and forty hexadecimal digits. -/
def IsCanonical (s : String) : Prop :=
  ∃ ds : List Char, (ds.length = 40 ∧ ds.all isHexDigit = true) ∧ s.toList = '0' :: 'x' :: ds

/-- The `check` of a canonical address comes to its end and finds it valid. -/
theorem IsCanonical.check_isValid {address : Option String} (h : IsCanonical (address.getD ""))
    (scheme : Scheme) : ∃ found, check scheme address = .ok found ∧ found.isValid = true := by
  obtain ⟨ds, hform, hs⟩ := h
  have hread : digits? (address.getD "") = some (ds, false) :=
    (digits?_eq_some_iff _ ds false).mpr ⟨hform, by rw [hs, ending, if_neg (by decide),
      List.append_nil]⟩
  have hended : ¬ IsMixedBeforeBreak (address.getD "") := by
    -- With a line break the text would be longer.
    rintro ⟨ds', hform', hs', -⟩
    have hlen := congrArg List.length (hs.symm.trans hs')
    simp only [List.length_cons, List.length_append, List.length_nil, hform.1, hform'.1] at hlen
    omega
  obtain ⟨found, hfound⟩ := (check_isOk_iff scheme address).mpr hended
  refine ⟨found, hfound, ?_⟩
  rw [Analyzer.isValid_check scheme address found hfound, isAddress, hread]
  rfl

end Address

/-! ## Analyses -/

namespace Analyzer

variable (a : Analyzer)

/-- `analyze` comes to an outcome for all addresses, null included, but those that are
`IsMixedBeforeBreak`, whatever its sources do. For these it breaks off with the `check`. -/
theorem analyze_isOk_iff (address : Option String) (chainId : Int) :
    ((∃ o, (a.analyze address chainId).value = .ok o) ↔
        ¬ Address.IsMixedBeforeBreak (address.getD "")) ∧
      ((∃ found, Address.check a.scheme address = .ok found) ↔
        ¬ Address.IsMixedBeforeBreak (address.getD "")) ∧
      (Address.IsMixedBeforeBreak (address.getD "") →
        ∃ message, (a.analyze address chainId).value = .error (.fault .value message)) := by
  have hended := Address.check_isOk_iff a.scheme address
  refine ⟨?_, hended, ?_⟩
  · -- Whatever goes wrong after the check becomes an outcome.
    rw [← hended]
    constructor
    · rintro ⟨o, ho⟩
      cases hcheck : Address.check a.scheme address with
      | ok found => exact ⟨found, rfl⟩
      | error f =>
        unfold analyze at ho
        rw [hcheck] at ho
        cases ho
    · rintro ⟨found, hcheck⟩
      exact ⟨_, a.value_analyze_of_check address chainId found hcheck⟩
  · -- A check that fails ends the analysis, as it stands before all that is caught.
    intro hmixed
    cases hcheck : Address.check a.scheme address with
    | ok found => exact absurd hmixed (hended.mp ⟨found, hcheck⟩)
    | error f =>
      obtain ⟨message, rfl⟩ := Address.fault_of_check a.scheme address f hcheck
      refine ⟨message, ?_⟩
      unfold analyze
      rw [hcheck]
      rfl

/-- A contract that answers every question is not analyzed if a line break slips in behind its
address, whichever `Scheme` checks it. -/
theorem break_behind_mixed_case_breaks_off :
    (∃ message, ((Scene.plain (.ok []) 0).analyzer.analyze
        (some "0xAa11111111111111111111111111111111111111\n") 1).value =
          .error (.fault .value message)) ∧
      ∃ message, ({ (Scene.plain (.ok []) 0).analyzer with scheme := .standard }.analyze
        (some "0xAa11111111111111111111111111111111111111\n") 1).value =
          .error (.fault .value message) := by
  have hmixed : Address.IsMixedBeforeBreak "0xAa11111111111111111111111111111111111111\n" :=
    ⟨'A' :: 'a' :: List.replicate 38 '1', by decide⟩
  exact ⟨(analyze_isOk_iff _ (some _) 1).2.2 hmixed, (analyze_isOk_iff _ (some _) 1).2.2 hmixed⟩

end Analyzer

end TokenRisk
