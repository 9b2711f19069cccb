import TokenRisk.Proofs.Canonical

/-!
# Checksums in letter case

A checksum of an address is the address with some of its letters large. Which ones, the lower-case
form decides: under the standard scheme by its hash, under the older one by bits of the address
itself. So two spellings of an address have one checksum, and a checksum is its own. Whether the
check of an address recognizes the checksum that it would have given is another matter, as it looks
for one in mixed case only.

## Key results

- `Address.checksum_eq`: an address has a checksum under either scheme
- `Address.legacyBit_eq`: which bit of an address the older scheme reads
- `Address.legacyChecksum_laws`: checksums of the older scheme are normal forms of addresses
- `Address.check_checksum`: a checksum is recognized where it has letters of both cases
-/

namespace TokenRisk.Address

/-! ## Digits in either case -/

/-- `toUpper` of a digit is a digit, and in lower case the same one as before. -/
private theorem toUpper_spec {c : Char} (h : isHexDigit c = true) :
    isHexDigit c.toUpper = true ∧ c.toUpper.toLower = c.toLower :=
  forall_isHexDigit (p := fun c => isHexDigit c.toUpper = true ∧ c.toUpper.toLower = c.toLower)
    (by decide +kernel) h

/-- Of digits, `toLower` changes those that `isUpper`, and `toUpper` those that `isLower`. -/
private theorem isUpper_iff {c : Char} (h : isHexDigit c = true) :
    (c.toLower = c ↔ c.isUpper = false) ∧ (c.toUpper = c ↔ c.isLower = false) :=
  forall_isHexDigit
    (p := fun c => (c.toLower = c ↔ c.isUpper = false) ∧ (c.toUpper = c ↔ c.isLower = false))
    (by decide +kernel) h

section Large

variable (large : Nat → Bool) {ds : List Char}

theorem length_withLarge (ds : List Char) : (withLarge large ds).length = ds.length :=
  List.length_mapIdx

/-- What `withLarge` writes is written with digits. -/
theorem all_isHexDigit_withLarge (hds : ds.all isHexDigit = true) :
    (withLarge large ds).all isHexDigit = true := by
  rw [List.all_eq_true] at hds ⊢
  intro c hc
  obtain ⟨i, hi, rfl⟩ := List.mem_mapIdx.mp hc
  have hdigit := hds ds[i] (List.getElem_mem hi)
  split
  · exact (toUpper_spec hdigit).1
  · exact hdigit

/-- `toLower` undoes `withLarge`. -/
theorem map_toLower_withLarge (hds : ds.all isHexDigit = true) :
    (withLarge large ds).map Char.toLower = ds.map Char.toLower := by
  -- Whether a letter is large depends on its index, so the lists are compared index by index.
  apply List.ext_getElem
  · rw [List.length_map, List.length_map, length_withLarge]
  · intro i _ hi
    rw [List.length_map] at hi
    have hdigit := List.all_eq_true.mp hds ds[i] (List.getElem_mem hi)
    simp only [withLarge, List.getElem_map, List.getElem_mapIdx]
    split
    · exact (toUpper_spec hdigit).2
    · rfl

end Large

/-! ## The digits of a checksum -/

/-- Whether a scheme writes the letter at index `i` of lower-case digits large. -/
def Scheme.isLarge : Scheme → List Char → Nat → Bool
  | .legacy, ds, i => legacyBit ds i
  | .standard, ds, i => ((List.range 40).map (hashBit ds)).getD i false

/-- The digits of an address in the case that a `Scheme` gives them. -/
def Scheme.digits (scheme : Scheme) (ds : List Char) : List Char :=
  withLarge (scheme.isLarge (ds.map Char.toLower)) (ds.map Char.toLower)

section Digits

variable (scheme : Scheme) {a b : String} {ds es : List Char}

private theorem all_isHexDigit_map_toLower (hds : ds.all isHexDigit = true) :
    (ds.map Char.toLower).all isHexDigit = true := by
  rw [List.all_map, ← hds]
  exact congrArg ds.all (funext isHexDigit_toLower)

/-- In lower case, `Scheme.digits` are those of the address. -/
theorem Scheme.map_toLower_digits (hds : ds.all isHexDigit = true) :
    (scheme.digits ds).map Char.toLower = ds.map Char.toLower := by
  rw [Scheme.digits, map_toLower_withLarge _ (all_isHexDigit_map_toLower hds), List.map_map]
  -- What is left is lower case of lower case.
  apply List.map_congr_left
  intro c hc
  exact (Text.toLower_of_ascii c
    (toNat_lt_of_isHexDigit (List.all_eq_true.mp hds c hc))).2

/-- `Scheme.digits` make an address. -/
theorem Scheme.form_digits (hds : ds.length = 40 ∧ ds.all isHexDigit = true) :
    (scheme.digits ds).length = 40 ∧ (scheme.digits ds).all isHexDigit = true := by
  constructor
  · rw [Scheme.digits, length_withLarge, List.length_map, hds.1]
  · exact all_isHexDigit_withLarge _ (all_isHexDigit_map_toLower hds.2)

/-- `Scheme.digits` do not depend on the case of the digits that they are worked out from. -/
theorem Scheme.digits_congr (h : ds.map Char.toLower = es.map Char.toLower) :
    scheme.digits ds = scheme.digits es := by
  rw [Scheme.digits, Scheme.digits, h]

/-- An address has a `checksum`, under either scheme. -/
theorem checksum_eq (hds : ds.length = 40 ∧ ds.all isHexDigit = true)
    (ha : a.toList = '0' :: 'x' :: ds) :
    checksum scheme a = .ok (String.ofList ('0' :: 'x' :: scheme.digits ds)) := by
  cases scheme with
  | legacy =>
    -- All forty digits are read, and nothing stands behind them.
    have hread : digits? a = some (ds, false) :=
      (digits?_eq_some_iff a ds false).mpr ⟨hds, by simpa [ending] using ha⟩
    rw [checksum, legacyChecksum, hread]
    rfl
  | standard =>
    -- The standard scheme counts the digits after it has put them into lower case.
    have hread : withoutPrefix a.toList = ds := by rw [ha]; rfl
    have hlength : (ds.map Char.toLower).length = 40 := by rw [List.length_map, hds.1]
    rw [checksum, standardChecksum, hread]
    simp only [hds.2, hlength, Bool.not_true, Bool.false_eq_true, ↓reduceIte]
    rfl

/-- `Text.lower` is the same for two addresses if their digits are equal up to letter case. -/
theorem lower_eq_lower_iff (hds : ds.all isHexDigit = true) (ha : a.toList = '0' :: 'x' :: ds)
    (hes : es.all isHexDigit = true) (hb : b.toList = '0' :: 'x' :: es) :
    Text.lower a = Text.lower b ↔ ds.map Char.toLower = es.map Char.toLower := by
  have hlower {s : String} {l : List Char} (hl : l.all isHexDigit = true)
      (hs : s.toList = '0' :: 'x' :: l) :
      (Text.lower s).toList = '0' :: 'x' :: l.map Char.toLower := by
    simpa [ending] using toList_lower false hl (by simpa [ending] using hs)
  rw [← String.toList_inj, hlower hds ha, hlower hes hb, List.cons_inj_right, List.cons_inj_right]

end Digits

/-! ## Checksums -/

section Checksums

variable {a b : String}

/-- The `checksum` of an address is the address in another case, and its own checksum. -/
theorem IsCanonical.exists_checksum (ha : IsCanonical a) (scheme : Scheme) :
    ∃ s, checksum scheme a = .ok s ∧ IsCanonical s ∧ Text.lower s = Text.lower a ∧
      checksum scheme s = .ok s := by
  obtain ⟨ds, hds, ha⟩ := ha
  have hform := scheme.form_digits hds
  have hlower := scheme.map_toLower_digits hds.2
  have hs : (String.ofList ('0' :: 'x' :: scheme.digits ds)).toList =
      '0' :: 'x' :: scheme.digits ds := String.toList_ofList
  refine ⟨_, checksum_eq scheme hds ha, ⟨_, hform, hs⟩, ?_, ?_⟩
  · exact (lower_eq_lower_iff hform.2 hs hds.2 ha).mpr hlower
  · -- A checksum is worked out from lower case, where it is the address again.
    rw [checksum_eq scheme hform hs, scheme.digits_congr hlower]

/-- Addresses share their `checksum` with their other spellings, and with no other address. -/
theorem IsCanonical.checksum_eq_checksum_iff (ha : IsCanonical a) (hb : IsCanonical b)
    (scheme : Scheme) : checksum scheme a = checksum scheme b ↔ Text.lower a = Text.lower b := by
  constructor
  · -- A checksum tells the address that it is of.
    intro h
    obtain ⟨s, hs, _, hlower, _⟩ := ha.exists_checksum scheme
    obtain ⟨t, ht, _, hlower', _⟩ := hb.exists_checksum scheme
    rw [hs, ht] at h
    obtain rfl := Except.ok.inj h
    exact hlower.symm.trans hlower'
  · intro h
    obtain ⟨ds, hds, ha⟩ := ha
    obtain ⟨es, hes, hb⟩ := hb
    rw [checksum_eq scheme hds ha, checksum_eq scheme hes hb,
      scheme.digits_congr ((lower_eq_lower_iff hds.2 ha hes.2 hb).mp h)]

end Checksums

/-! ## The bits that the older scheme reads -/

/-- `byteAt` is a byte, be it written with two digits or with one. -/
theorem byteAt_lt (ds : List Char) (position : Nat) : byteAt ds position < 256 := by
  have hvalue (c : Char) : (Json.hexValue? c).getD 0 < 16 := by
    cases hc : isHexDigit c with
    | true =>
      exact forall_isHexDigit (p := fun c => (Json.hexValue? c).getD 0 < 16) (by decide +kernel) hc
    | false =>
      -- What is no digit counts as zero.
      rw [isHexDigit, Option.isSome_eq_false_iff, Option.isNone_iff_eq_none] at hc
      rw [hc]
      decide
  have hlength : ((ds.drop position).take 2).length ≤ 2 := List.length_take_le ..
  rw [byteAt]
  generalize (ds.drop position).take 2 = l at hlength ⊢
  -- There are two digits at most, as few as the list has left.
  rcases l with _ | ⟨c, _ | ⟨d, _ | ⟨e, l⟩⟩⟩
  · decide
  · have hc := hvalue c
    simp only [List.foldl_cons, List.foldl_nil]
    omega
  · have hc := hvalue c
    have hd := hvalue d
    simp only [List.foldl_cons, List.foldl_nil]
    omega
  · simp only [List.length_cons] at hlength
    omega

/-- Past the last digit, `byteAt` is zero. -/
theorem byteAt_of_length_le {ds : List Char} {position : Nat} (h : ds.length ≤ position) :
    byteAt ds position = 0 := by
  rw [byteAt, List.drop_eq_nil_of_le h]
  rfl

/-- Of the two bytes that it puts together, `legacyBit` reads a bit of the second. Behind the last
index there is no second byte, and there is nothing to be read either. -/
theorem legacyBit_eq {ds : List Char} (hds : ds.length = 40) (i : Nat) :
    legacyBit ds i = (byteAt ds (2 * (i + 1))).testBit (i % 8) := by
  -- Past the end the second byte reads as zero, as it does where the scheme does not read it.
  have hfollowing : (if i < 39 then byteAt ds (2 * (i + 1)) else 0) = byteAt ds (2 * (i + 1)) := by
    split
    · rfl
    · exact (byteAt_of_length_le (by omega)).symm
  -- A bit at an index below eight is one of the lower byte.
  have hbyte : byteAt ds (2 * (i + 1)) < 2 ^ 8 := byteAt_lt ..
  have hlow := Nat.testBit_two_pow_mul_add (byteAt ds (2 * i)) hbyte (i % 8)
  rw [if_pos (Nat.mod_lt i (by decide))] at hlow
  rw [legacyBit, hfollowing, ← hlow, Nat.testBit_eq_decide_div_mod_eq, Nat.shiftRight_eq_div_pow,
    Nat.mul_comm]

/-- From the twentieth digit on, the byte that `legacyBit` reads lies past the last digit. -/
theorem legacyBit_of_le {ds : List Char} (hds : ds.length = 40) {i : Nat} (hi : 19 ≤ i) :
    legacyBit ds i = false := by
  rw [legacyBit_eq hds, byteAt_of_length_le (by omega), Nat.zero_testBit]

/-- What the older scheme is to make of an address: the same address in another case, which is the
small one from the twentieth digit on. Of that the scheme makes nothing else. -/
structure IsLegacyForm (a s : String) : Prop where
  isCanonical : IsCanonical s
  lower : Text.lower s = Text.lower a
  idempotent : legacyChecksum s = .ok s
  small : ∀ i c, 19 ≤ i → (s.toList.drop 2)[i]? = some c → Ownership.isLowerHexDigit c = true

/-- From the twentieth digit on, `legacyChecksum` is in lower case. -/
private theorem IsCanonical.small_legacyChecksum {a s : String} (ha : IsCanonical a)
    (hs : legacyChecksum a = .ok s) {i : Nat} {c : Char} (hi : 19 ≤ i)
    (hc : (s.toList.drop 2)[i]? = some c) : Ownership.isLowerHexDigit c = true := by
  obtain ⟨ds, hds, ha⟩ := ha
  obtain rfl := Except.ok.inj (hs.symm.trans (checksum_eq .legacy hds ha))
  have hlength : (ds.map Char.toLower).length = 40 := by rw [List.length_map, hds.1]
  rw [String.toList_ofList, List.drop_succ_cons, List.drop_succ_cons, List.drop_zero,
    Scheme.digits, withLarge, List.getElem?_mapIdx, List.getElem?_map, Option.map_map,
    Option.map_eq_some_iff] at hc
  obtain ⟨d, hd, rfl⟩ := hc
  -- The digit stays as it is in lower case, for want of a byte that could make it large.
  simp only [Function.comp_apply, Scheme.isLarge, legacyBit_of_le hlength hi, Bool.false_and,
    Bool.false_eq_true, ↓reduceIte]
  exact isLowerHexDigit_toLower (List.all_eq_true.mp hds.2 d (List.mem_of_getElem? hd))

/-- An address has a `legacyChecksum`, which `IsLegacyForm` describes. -/
theorem IsCanonical.exists_isLegacyForm {a : String} (ha : IsCanonical a) :
    ∃ s, legacyChecksum a = .ok s ∧ IsLegacyForm a s := by
  obtain ⟨s, hs, hcanonical, hlower, hidempotent⟩ := ha.exists_checksum .legacy
  exact ⟨s, hs, hcanonical, hlower, hidempotent, fun _ _ hi hc => ha.small_legacyChecksum hs hi hc⟩

/-- Addresses have a `legacyChecksum`, and it is equal for addresses that differ in letter case
only. -/
theorem legacyChecksum_laws {a b : String} (ha : IsCanonical a) (hb : IsCanonical b) :
    ∃ s t, legacyChecksum a = .ok s ∧ legacyChecksum b = .ok t ∧
      IsLegacyForm a s ∧ IsLegacyForm b t ∧ (s = t ↔ Text.lower a = Text.lower b) := by
  obtain ⟨s, hs, hsform⟩ := ha.exists_isLegacyForm
  obtain ⟨t, ht, htform⟩ := hb.exists_isLegacyForm
  refine ⟨s, t, hs, ht, hsform, htform, ?_⟩
  rw [← ha.checksum_eq_checksum_iff hb .legacy, checksum, checksum, hs, ht, Except.ok.injEq]

/-- Two spellings of an address have one `legacyChecksum`, which is neither of the two. -/
theorem legacyChecksum_laws_of_spellings :
    legacyChecksum "0xabcdefabcdefabcdefabcdefabcdefabcdefabcd" =
        .ok "0xABcDeFABCdEFaBcDEFAbcdefabcdefabcdefabcd" ∧
      legacyChecksum "0xABCDEFABCDEFABCDEFABCDEFABCDEFABCDEFABCD" =
        .ok "0xABcDeFABCdEFaBcDEFAbcdefabcdefabcdefabcd" ∧
      IsLegacyForm "0xabcdefabcdefabcdefabcdefabcdefabcdefabcd"
        "0xABcDeFABCdEFaBcDEFAbcdefabcdefabcdefabcd" := by
  -- Both are spellings of one address, in small and in capital letters.
  have hsmall : IsCanonical "0xabcdefabcdefabcdefabcdefabcdefabcdefabcd" :=
    ⟨"abcdefabcdefabcdefabcdefabcdefabcdefabcd".toList, by decide +kernel⟩
  have hlarge : IsCanonical "0xABCDEFABCDEFABCDEFABCDEFABCDEFABCDEFABCD" :=
    ⟨"ABCDEFABCDEFABCDEFABCDEFABCDEFABCDEFABCD".toList, by decide +kernel⟩
  have hsum : legacyChecksum "0xabcdefabcdefabcdefabcdefabcdefabcdefabcd" =
      .ok "0xABcDeFABCdEFaBcDEFAbcdefabcdefabcdefabcd" := by decide +kernel
  obtain ⟨s, t, hs, ht, hform, _, hiff⟩ := legacyChecksum_laws hsmall hlarge
  obtain rfl := Except.ok.inj (hsum.symm.trans hs)
  -- The second law compares the spellings, which differ in letter case only.
  obtain rfl := hiff.mpr (by decide +kernel)
  exact ⟨hs, ht, hform⟩

/-! ## Checksums and the check -/

/-- Letters of both cases are among the digits. -/
def HasBothCases (s : String) : Prop :=
  (∃ c ∈ s.toList.drop 2, c.isUpper = true) ∧ ∃ c ∈ s.toList.drop 2, c.isLower = true

/-- `map f` leaves digits as they are if `p` holds of none of them, where `p` holds of those that
`f` changes. -/
private theorem eq_map_iff {f : Char → Char} {p : Char → Bool} {ds : List Char}
    (hf : ∀ c ∈ ds, (f c = c ↔ p c = false)) : ds = ds.map f ↔ ∀ c ∈ ds, p c = false := by
  induction ds with
  | nil => simp
  | cons c ds ih =>
    obtain ⟨hc, hds⟩ := List.forall_mem_cons.mp hf
    rw [List.map_cons, List.cons.injEq, List.forall_mem_cons, ih hds, eq_comm, hc]

private theorem hasBothCases_iff {s : String} {ds : List Char} (hds : ds.all isHexDigit = true)
    (hs : s.toList = '0' :: 'x' :: ds) : HasBothCases s ↔ isSingleCase ds = false := by
  have hcase (c : Char) (hc : c ∈ ds) := isUpper_iff (List.all_eq_true.mp hds c hc)
  have hdrop : s.toList.drop 2 = ds := by rw [hs]; rfl
  rw [isSingleCase, Bool.or_eq_false_iff, beq_eq_false_iff_ne, beq_eq_false_iff_ne, ne_eq, ne_eq,
    eq_map_iff fun c hc => (hcase c hc).1, eq_map_iff fun c hc => (hcase c hc).2, HasBothCases,
    hdrop]
  simp only [not_forall, Bool.not_eq_false, exists_prop]

/-- `check` compares an address to its `checksum` only if its letters are not of one case. -/
private theorem check_eq {s : String} {ds : List Char}
    (hds : ds.length = 40 ∧ ds.all isHexDigit = true) (hs : s.toList = '0' :: 'x' :: ds)
    (scheme : Scheme) : check scheme (some s) =
      if isSingleCase ds then
        .ok { address := s, isValid := true, warnings := ["Address is not checksummed"] }
      else (checksum scheme s).map fun expected =>
        if s = expected then { address := s, isValid := true, isChecksum := true }
        else { address := s, isValid := true, warnings := ["Address checksum is invalid"] } := by
  have haddress : isAddress s = true := (isAddress_iff s).mpr (.inl ⟨ds, hds, hs⟩)
  have hdrop : s.toList.drop 2 = ds := by rw [hs]; rfl
  unfold check
  split
  · -- An address is not empty.
    rename_i hempty
    rw [Option.getD_some] at hempty
    rw [hempty] at hs
    cases hs
  · simp only [Option.getD_some, haddress, hdrop, Bool.not_true, Bool.false_eq_true, ↓reduceIte]

/-- The `checksum` of an address passes the `check` under its scheme, and it is recognized if it has
letters of both cases. A checksum with letters of one case, or with none, is taken for an address
without a checksum. -/
theorem check_checksum {a : String} (ha : IsCanonical a) (scheme : Scheme) :
    ∃ s, checksum scheme a = .ok s ∧
      (HasBothCases s →
        check scheme (some s) = .ok { address := s, isValid := true, isChecksum := true }) ∧
      (¬ HasBothCases s → check scheme (some s) =
        .ok { address := s, isValid := true, warnings := ["Address is not checksummed"] }) := by
  obtain ⟨s, hs, ⟨ds, hds, htext⟩, _, hidempotent⟩ := ha.exists_checksum scheme
  refine ⟨s, hs, ?_⟩
  rw [hasBothCases_iff hds.2 htext, check_eq hds htext]
  constructor
  · intro hcases
    -- The checksum of a checksum is no other.
    rw [hcases, hidempotent, if_neg (by decide), Except.map, if_pos rfl]
  · intro hcases
    rw [Bool.not_eq_false] at hcases
    rw [if_pos hcases]

/-- An address without letters is its own `checksum`. -/
private theorem checksum_of_not_isAlpha {s : String} {ds : List Char}
    (hds : ds.length = 40 ∧ ds.all isHexDigit = true) (hs : s.toList = '0' :: 'x' :: ds)
    (hletters : ∀ c ∈ ds, c.toLower = c ∧ c.isAlpha = false) (scheme : Scheme) :
    checksum scheme s = .ok s := by
  have hlower : ds.map Char.toLower = ds := by
    rw [List.map_congr_left fun c hc => (hletters c hc).1, List.map_id']
  have hdigits : scheme.digits ds = ds := by
    rw [Scheme.digits, hlower]
    apply List.ext_getElem (length_withLarge _ ds)
    intro i _ hi
    simp [withLarge, (hletters ds[i] (List.getElem_mem hi)).2]
  rw [checksum_eq scheme hds hs, hdigits, ← hs, String.ofList_toList]

/-- The plain address is its own `checksum`, but `check` does not recognize it as such. -/
theorem plain_checksum_is_not_recognized :
    IsCanonical Sources.plainAddress ∧
      checksum .legacy Sources.plainAddress = .ok Sources.plainAddress ∧
      checksum .standard Sources.plainAddress = .ok Sources.plainAddress ∧
      check .legacy (some Sources.plainAddress) =
        .ok { address := Sources.plainAddress, isValid := true, isChecksum := false,
              warnings := ["Address is not checksummed"] } ∧
      check .standard (some Sources.plainAddress) =
        .ok { address := Sources.plainAddress, isValid := true, isChecksum := false,
              warnings := ["Address is not checksummed"] } := by
  have hform : (List.replicate 40 '1').length = 40 ∧
      (List.replicate 40 '1').all isHexDigit = true := by decide
  have htext : Sources.plainAddress.toList = '0' :: 'x' :: List.replicate 40 '1' := by decide
  -- It has no letters that a scheme could write large.
  have hsum (scheme : Scheme) :
      checksum scheme Sources.plainAddress = .ok Sources.plainAddress :=
    checksum_of_not_isAlpha hform htext (fun c hc => by
      rw [List.eq_of_mem_replicate hc]
      decide) scheme
  refine ⟨⟨_, hform, htext⟩, hsum .legacy, hsum .standard, ?_, ?_⟩
  · decide +kernel
  · decide +kernel

/-- The `checksum` of an address with many letters is recognized. -/
theorem letters_checksum_is_recognized :
    checksum .legacy "0xabcdefabcdefabcdefabcdefabcdefabcdefabcd" =
        .ok "0xABcDeFABCdEFaBcDEFAbcdefabcdefabcdefabcd" ∧
      check .legacy (some "0xABcDeFABCdEFaBcDEFAbcdefabcdefabcdefabcd") =
        .ok { address := "0xABcDeFABCdEFaBcDEFAbcdefabcdefabcdefabcd", isValid := true,
              isChecksum := true } := by
  have hcanonical : IsCanonical "0xabcdefabcdefabcdefabcdefabcdefabcdefabcd" :=
    ⟨"abcdefabcdefabcdefabcdefabcdefabcdefabcd".toList, by decide +kernel⟩
  have hsum : checksum .legacy "0xabcdefabcdefabcdefabcdefabcdefabcdefabcd" =
      .ok "0xABcDeFABCdEFaBcDEFAbcdefabcdefabcdefabcd" := by decide +kernel
  obtain ⟨s, hs, hboth, _⟩ := check_checksum hcanonical .legacy
  obtain rfl := Except.ok.inj (hsum.symm.trans hs)
  -- The checksum has letters of either case, so it may be told from a plain address.
  refine ⟨hsum, hboth ⟨⟨'A', ?_⟩, 'c', ?_⟩⟩
  · decide +kernel
  · decide +kernel

end TokenRisk.Address
