import TokenRisk.Proofs.Disassembly
import TokenRisk.Proofs.WellFormed

/-!
# Code that goes on

More digits behind a code text never hide what was found in it: its selectors stay the first ones,
a standard whose flag was set keeps it, and the confidence does not fall. The digits may complete a
byte or the operand of a push at the end of the code, which stood for no selector before.

## Key results

- `Standard.percentage_mono`: of more detected selectors, the rounded percentage is no lower
- `Standard.ofSelectors_extends`: so for the flags and the confidence of a profile
- `Standard.ofBytecode_append`: code that goes on keeps what was found in it
-/

namespace TokenRisk

/-! ## Percentages -/

/-- `Finite.round` is monotone. -/
theorem Binary64.round_mono {x y : Finite} (hx : x.negative = false) (hy : y.negative = false)
    (h : x.units ≤ y.units) : x.round ≤ y.round := by
  have hunits : 0 < unitsPerOne := by decide +kernel
  have hround := roundQuotient_mono hunits h
  rw [Finite.round, Finite.round, hx, hy]
  simp only [Bool.false_eq_true, ↓reduceIte]
  omega

namespace Standard

/-- Of more detected selectors, the rounded `percentage` is no lower. -/
theorem percentage_mono {references m n : Nat} (hpos : 0 < references) (h : m ≤ n) :
    percentage m references ≤ percentage n references := by
  rcases percentage_cases n references with hfull | ⟨share, percent, hshare, hpercent⟩
  · rw [hfull]
    exact (percentage_bounds m references).2
  · -- Both roundings keep the order, first that of the share, then that of the percentage.
    obtain ⟨share', hshare', hsign', hle⟩ :=
      Binary64.exists_finite_of_le hpos (Nat.mul_le_mul_right _ h) hshare
    have hsign := Binary64.negative_of_ofUnits _ _ _ _ hshare
    have hscale : share.scale 100 = Binary64.ofUnits false (share.units * 100) 1 := by
      rw [Binary64.Finite.scale, hsign]
    have hscale' : share'.scale 100 = Binary64.ofUnits false (share'.units * 100) 1 := by
      rw [Binary64.Finite.scale, hsign']
    rw [hscale] at hpercent
    obtain ⟨percent', hpercent', hnegative', hle'⟩ :=
      Binary64.exists_finite_of_le Nat.one_pos (Nat.mul_le_mul_right 100 hle) hpercent
    have hround := Binary64.round_mono hnegative'
      (Binary64.negative_of_ofUnits _ _ _ _ hpercent) hle'
    rw [percentage_of_finite hshare' (hscale'.trans hpercent'),
      percentage_of_finite hshare (hscale.trans hpercent)]
    omega

/-- None of the references have the `percentage` 0. -/
theorem percentage_zero (references : Nat) : percentage 0 references = 0 := by
  have hshare : Binary64.ofRatio false 0 references = .finite (Binary64.Finite.zero false) := by
    rw [Binary64.ofRatio, Nat.zero_mul]
    exact Binary64.ofUnits_zero false references
  have hpercent : (Binary64.Finite.zero false).scale 100 = .finite (Binary64.Finite.zero false) :=
    Binary64.ofUnits_zero false 1
  rw [percentage_of_finite hshare hpercent]
  decide +kernel

theorem confidenceOf_zero (p : Profile) : confidenceOf p 0 = 0 := by
  simp only [confidenceOf, percentage_zero, ite_self]

theorem confidenceOf_mono (p : Profile) {m n : Nat} (h : m ≤ n) :
    confidenceOf p m ≤ confidenceOf p n := by
  simp only [confidenceOf]
  split
  · exact Int.le_refl 0
  · rename_i hreferences
    exact percentage_mono (Nat.pos_of_ne_zero hreferences) h

/-! ## Profiles -/

/-- A standard keeps what another one found: its selectors first, its flags, and at least its
confidence. -/
structure Extends (t s : Standard) : Prop where
  selectors : s.selectors <+: t.selectors
  isERC20 : s.isERC20 = true → t.isERC20 = true
  isERC721 : s.isERC721 = true → t.isERC721 = true
  isERC1155 : s.isERC1155 = true → t.isERC1155 = true
  confidence : s.confidence ≤ t.confidence

/-- Where every reference that is found is found again, there are no fewer `hits`. -/
theorem hits_mono (references : List String) {found found' : List String}
    (h : ∀ s ∈ references, s ∈ found → s ∈ found') :
    Profile.hits references found ≤ Profile.hits references found' := by
  have hle : references.countP found.contains ≤ references.countP found'.contains :=
    List.countP_mono_left fun s hmem hs => by
      simp only [List.contains_iff_mem] at hs ⊢
      exact h s hmem hs
  simp only [Profile.hits, ← List.countP_eq_length_filter]
  omega

/-- A flag of `hits` asks for a `threshold` at least, so it stays when there are more, or fewer are
asked for. -/
theorem flag_mono {threshold threshold' hits hits' : Int} (hthreshold : threshold' ≤ threshold)
    (hhits : hits ≤ hits') (h : decide (threshold ≤ hits) = true) :
    decide (threshold' ≤ hits') = true := by
  simp only [decide_eq_true_eq] at h ⊢
  omega

theorem lowered_subset {found found' : List String} (h : found ⊆ found') :
    lowered found ⊆ lowered found' := by
  intro s hs
  rw [lowered, mem_distinct] at hs ⊢
  exact List.map_subset _ h hs

/-- Among more selectors, `lowered` leaves no fewer. -/
theorem length_lowered_le {reported reported' : List String}
    (h : lowered reported ⊆ lowered reported') :
    (lowered reported).length ≤ (lowered reported').length :=
  (nodup_distinct _).length_le_of_subset h

/-- Of more selectors, `ofSelectors` says no less. -/
theorem ofSelectors_extends (p : Profile) {found found' reported reported' : List String}
    (hfound : found ⊆ found') (hreported : reported <+: reported') :
    (ofSelectors p found' (some reported')).Extends (ofSelectors p found (some reported)) := by
  have hkeeps (threshold : Int) (references : List String) :=
    flag_mono (Int.le_refl threshold)
      (hits_mono references fun _ _ hs => lowered_subset hfound hs)
  exact
    { selectors := distinct_mono hreported
      isERC20 := hkeeps _ _
      isERC721 := hkeeps _ _
      isERC1155 := hkeeps _ _
      confidence :=
        confidenceOf_mono p (length_lowered_le (lowered_subset hreported.subset)) }

/-! ## Code -/

/-- A reference that is `occurring` in a text occurs in every text that goes on. -/
theorem occurring_subset (p : Profile) {code code' : String} (h : code.toList <+: code'.toList) :
    occurring p code ⊆ occurring p code' := by
  intro s hs
  obtain ⟨hmem, hoccurs⟩ := List.mem_filter.mp hs
  refine List.mem_filter.mpr ⟨hmem, ?_⟩
  rw [Text.contains, Text.occurs_iff] at hoccurs ⊢
  exact hoccurs.trans h.isInfix

/-- What `ofBytecode` says of any code extends what it says of none. -/
theorem extends_default (p : Profile) (code : String) : (ofBytecode p code).Extends {} where
  selectors := List.nil_prefix
  isERC20 h := by cases h
  isERC721 h := by cases h
  isERC1155 h := by cases h
  confidence := (isSound_ofBytecode p code).confidence.1

/-- Code that goes on keeps what was found in it: its `selectors` stay the first ones, and so does
what `ofBytecode` says about it. -/
theorem ofBytecode_append (p : Profile) (code more : String) (l : List Char)
    (hcode : Bytecode.HasDigits code l) (hmore : ∀ c ∈ more.toList, isHexDigit c = true) :
    Bytecode.selectors code <+: Bytecode.selectors (code ++ more) ∧
      (ofBytecode p (code ++ more)).Extends (ofBytecode p code) := by
  have hlonger := hcode.append more hmore
  refine ⟨Bytecode.selectors_append hcode hlonger, ?_⟩
  by_cases hempty : (Bytecode.digits code).isEmpty = true
  -- The text has no digits.
  · -- A prefix alone is no code.
    have hdefault : ofBytecode p code = {} := by
      simp only [ofBytecode, hempty, ↓reduceIte]
    rw [hdefault]
    exact extends_default p _
  -- The digits of the code are the first ones of the longer code.
  · -- The digits of the code are the first ones of the longer code.
    have hdigits : (Bytecode.digits code).toList <+: (Bytecode.digits (code ++ more)).toList := by
      rw [Bytecode.toList_digits hcode, Bytecode.toList_digits hlonger, List.map_append]
      exact List.prefix_append _ _
    have hempty' : ¬ (Bytecode.digits (code ++ more)).isEmpty = true := by
      simp only [String.isEmpty_iff, ← String.toList_eq_nil_iff] at hempty ⊢
      exact fun hnil => hempty (List.prefix_nil.mp (hnil ▸ hdigits))
    have hselectors : Bytecode.selectors (Bytecode.digits code) <+:
        Bytecode.selectors (Bytecode.digits (code ++ more)) := by
      apply Bytecode.selectors_append hcode.digits (m := more.toList.map Char.toLower)
      rw [← List.map_append]
      exact hlonger.digits
    simp only [ofBytecode, hempty, hempty', Bool.false_eq_true, ↓reduceIte]
    -- The two ways of matching differ in the selectors that count for flags.
    apply ofSelectors_extends p _ hselectors
    cases p.matching with
    | substring => exact occurring_subset p hdigits
    | dispatcher => exact hselectors.subset

/-- What `ofBytecode` reads goes on where a digit that is cut off and a push that is cut short are
completed by the digits that follow. -/
theorem ofBytecode_append_completing :
    Bytecode.HasDigits "0X6370a0823163A9059CB" "6370a0823163A9059CB".toList ∧
      Bytecode.selectors "0X6370a0823163A9059CB" = ["0x70a08231"] ∧
      Bytecode.selectors "0X6370a0823163A9059CBb14" = ["0x70a08231", "0xa9059cbb"] ∧
      (ofBytecode .loose ("0X6370a0823163A9059CB" ++ "b14")).Extends
        (ofBytecode .loose "0X6370a0823163A9059CB") := by
  have hdigits : Bytecode.HasDigits "0X6370a0823163A9059CB" "6370a0823163A9059CB".toList :=
    ⟨⟨"0X", by decide, by decide⟩, List.all_eq_true.mp (by decide)⟩
  exact ⟨hdigits, by decide +kernel, by decide +kernel,
    (ofBytecode_append .loose _ "b14" _ hdigits (List.all_eq_true.mp (by decide))).2⟩

end Standard

end TokenRisk
