import TokenRisk.Text.LetterCase

/-!
# Letter case

What bringing text to lower case comes to. ASCII text is mapped character by character, beyond ASCII
a table decides. A text in lower case stays as it is, the case of the ASCII letters of a text makes
no difference to its lower-case form, and what is ASCII in that form was ASCII before, up to two
letters.

## Key results

- `Text.lowerAfter_of_ascii`: ASCII text in lower case
- `Text.lower_lower`: text is brought to lower case once and for all
- `Text.lower_asciiLower`: the case of ASCII letters makes no difference
- `Text.lowerAfter_eq_cons`: where an ASCII character of a lower-case text comes from
- `Text.isInfix_lower_append`: what is found in a text is found with any text around it
- `Text.lowerAfter_append_lineBreak`: lines are brought to lower case one by one
-/

namespace TokenRisk.Text

/-! ## ASCII -/

/-- What holds of all ASCII characters, one by one, as elements of `Fin 128`, holds of a character
that is one of them. -/
theorem forall_ascii {p : Char → Prop} (hall : ∀ n : Fin 128, p (Char.ofNat n)) {c : Char}
    (hc : c.toNat < 128) : p c := by
  have h := hall ⟨c.toNat, hc⟩
  rwa [Char.ofNat_toNat] at h

/-- `lowerAfter` brings a text of ASCII characters to lower case character by character. -/
theorem lowerAfter_of_ascii (cased : Bool) (l : List Char) (h : ∀ c ∈ l, c.toNat < 128) :
    lowerAfter cased l = l.map Char.toLower := by
  induction l generalizing cased with
  | nil => rfl
  | cons c l ih =>
    obtain ⟨hc, hl⟩ := List.forall_mem_cons.mp h
    -- Sigma alone depends on the characters around it, and it is not ASCII.
    have hsigma : c.toNat ≠ 0x3A3 := by omega
    simp only [lowerAfter, hsigma, ↓reduceIte, lowerChar, hc, ih _ hl, List.map_cons,
      List.cons_append, List.nil_append]

/-- `toLower` of an ASCII character is one, and changes no more. -/
theorem toLower_of_ascii (c : Char) (h : c.toNat < 128) :
    c.toLower.toNat < 128 ∧ c.toLower.toLower = c.toLower :=
  forall_ascii (p := fun c => c.toLower.toNat < 128 ∧ c.toLower.toLower = c.toLower)
    (by decide) h

/-- `toLower` changes ASCII letters only. -/
theorem toLower_of_not_ascii {c : Char} (h : ¬ c.toNat < 128) : c.toLower = c := by
  apply dif_neg
  rintro ⟨_, hle⟩
  have hlt : c.toNat ≤ 'Z'.toNat := hle
  exact h (Nat.lt_of_le_of_lt hlt (by decide))

/-! ## The case of ASCII letters -/

/-- A text with its ASCII letters in lower case, and all else as it is. -/
def asciiLower (s : String) : String :=
  String.ofList (s.toList.map Char.toLower)

/-- `toLower` of a character looks the same to `lowerChar`, `isCaseIgnorable` and `isCased`. -/
private theorem toLower_spec (c : Char) :
    lowerChar c.toLower = lowerChar c ∧ isCaseIgnorable c.toLower = isCaseIgnorable c ∧
      isCased c.toLower = isCased c ∧ (c.toLower.toNat = 0x3A3 ↔ c.toNat = 0x3A3) := by
  by_cases hascii : c.toNat < 128
  · exact forall_ascii (p := fun c => lowerChar c.toLower = lowerChar c ∧
      isCaseIgnorable c.toLower = isCaseIgnorable c ∧ isCased c.toLower = isCased c ∧
      (c.toLower.toNat = 0x3A3 ↔ c.toNat = 0x3A3)) (by decide) hascii
  · rw [toLower_of_not_ascii hascii]
    exact ⟨rfl, rfl, rfl, Iff.rfl⟩

private theorem lowerAfter_map_toLower (cased : Bool) (l : List Char) :
    lowerAfter cased (l.map Char.toLower) = lowerAfter cased l := by
  induction l generalizing cased with
  | nil => rfl
  | cons c l ih =>
    obtain ⟨hchar, hignorable, hcased, hsigma⟩ := toLower_spec c
    -- A sigma looks ahead to the next character that is not passed over, and sees the same one.
    have hahead : ((l.map Char.toLower).dropWhile isCaseIgnorable).head?.any isCased =
        (l.dropWhile isCaseIgnorable).head?.any isCased := by
      have hpassed : isCaseIgnorable ∘ Char.toLower = isCaseIgnorable :=
        funext fun d => (toLower_spec d).2.1
      rw [List.dropWhile_map, hpassed, List.head?_map]
      cases (l.dropWhile isCaseIgnorable).head? with
      | none => rfl
      | some d => exact (toLower_spec d).2.2.1
    simp only [List.map_cons, lowerAfter, hchar, hignorable, hcased, hsigma, hahead, ih]

/-- The case of ASCII letters makes no difference to `lower`. -/
theorem lower_asciiLower (s : String) : lower (asciiLower s) = lower s := by
  rw [lower, lower, asciiLower, String.toList_ofList, lowerAfter_map_toLower]

/-! ## Once and for all -/

/-- A character that lower case leaves as it is, wherever it stands. -/
def IsLower (c : Char) : Prop :=
  c.toNat ≠ 0x3A3 ∧ lowerChar c = [c]

theorem isLower_of_ascii {c : Char} (h : c.toNat < 128) (hlower : c.toLower = c) : IsLower c := by
  refine ⟨by omega, ?_⟩
  rw [lowerChar, if_pos h, hlower]

/-- The images of a run are characters: the small k, or characters beyond ASCII, none of which has
two characters as its lower-case form. -/
private def isProper (r : Nat × Nat × Nat × Nat) : Bool :=
  let lastImage := r.2.2.2 + (r.2.1 - r.1)
  Nat.beq r.2.2.2 0x6B && Nat.beq r.1 r.2.1 ||
    Nat.ble 128 r.2.2.2 && (Nat.blt lastImage 0x130 || Nat.blt 0x130 r.2.2.2) &&
      (Nat.blt lastImage 0xD800 || Nat.ble 0xE000 r.2.2.2 && Nat.blt lastImage 0x110000)

/-- No image of the run `r` is a member of the run `r'`: it lies outside, or between the members. -/
private def isApart (r r' : Nat × Nat × Nat × Nat) : Bool :=
  Nat.blt r'.2.1 r.2.2.2 || Nat.blt (r.2.2.2 + (r.2.1 - r.1)) r'.1 ||
    Nat.beq r'.2.2.1 2 && (Nat.beq r.2.2.1 2 || Nat.beq r.1 r.2.1) &&
      Nat.beq ((r.2.2.2 + r'.1) % 2) 1

private theorem isProper_of_mem : ∀ r ∈ lowerRuns, isProper r = true :=
  List.all_eq_true.mp (by decide)

private theorem isApart_of_mem : ∀ r ∈ lowerRuns, ∀ r' ∈ lowerRuns, isApart r r' = true := by
  have hall : (lowerRuns.all fun r => lowerRuns.all (isApart r)) = true := by decide +kernel
  exact fun r hr => List.all_eq_true.mp (List.all_eq_true.mp hall r hr)

private theorem lowerRun?_spec {n : Nat} {r : Nat × Nat × Nat × Nat}
    (h : lowerRun? n = some r) :
    r ∈ lowerRuns ∧ r.1 ≤ n ∧ n ≤ r.2.1 ∧ (n - r.1) % r.2.2.1 = 0 := by
  have hmem := List.mem_of_find?_eq_some h
  have hrun := List.find?_some h
  simp only [Bool.and_eq_true, decide_eq_true_eq, beq_iff_eq] at hrun
  exact ⟨hmem, hrun.1.1, hrun.1.2, hrun.2⟩

/-- What `lowerRun?` maps to is in lower case, and not ASCII but for the small k. -/
private theorem isLower_image {n : Nat} {r : Nat × Nat × Nat × Nat} (h : lowerRun? n = some r) :
    IsLower (Char.ofNat (n - r.1 + r.2.2.2)) ∧
      ((Char.ofNat (n - r.1 + r.2.2.2)).toNat < 128 →
        Char.ofNat (n - r.1 + r.2.2.2) = 'k') := by
  obtain ⟨hmem, hfirst, hlast, hstep⟩ := lowerRun?_spec h
  have hproper := isProper_of_mem r hmem
  simp only [isProper, Bool.or_eq_true, Bool.and_eq_true, Nat.beq_eq, Nat.ble_eq,
    Nat.blt_eq] at hproper
  -- A run is mapped either to the small k alone, or to characters beyond ASCII.
  rcases hproper with ⟨himage, hsingle⟩ | ⟨⟨himage, hdotted⟩, hvalid⟩
  · have hk : n - r.1 + r.2.2.2 = 0x6B := by omega
    rw [hk]
    -- The small k maps to itself.
    exact ⟨⟨by decide, by decide⟩, fun _ => rfl⟩
  · have hvalid : (n - r.1 + r.2.2.2).isValidChar := by
      simp only [Nat.isValidChar]
      omega
    have hnat : (Char.ofNat (n - r.1 + r.2.2.2)).toNat = n - r.1 + r.2.2.2 := by
      rw [Char.ofNat, dif_pos hvalid]
      rfl
    -- The image is in no run of the table itself.
    have hnone : lowerRun? (n - r.1 + r.2.2.2) = none := by
      rw [lowerRun?, List.find?_eq_none]
      intro r' hr'
      have hapart := isApart_of_mem r hmem r' hr'
      simp only [isApart, Bool.or_eq_true, Bool.and_eq_true, Nat.beq_eq,
        Nat.blt_eq] at hapart
      simp only [Bool.and_eq_true, decide_eq_true_eq, beq_iff_eq, not_and]
      -- A run lies below the image or above it, or passes it by in its steps.
      intro hle hne
      rcases hapart with (hbelow | habove) | ⟨⟨htwo, hsteps⟩, hodd⟩
      · omega
      · omega
      · rw [htwo] at hne
        rcases hsteps with htwo' | hsingle
        · rw [htwo'] at hstep
          omega
        · omega
    -- No image is a capital sigma, which is the one letter with two small forms.
    have hsigma : n - r.1 + r.2.2.2 ≠ 0x3A3 := by
      intro heq
      rw [heq] at hnone
      exact absurd hnone (by decide)
    refine ⟨⟨by rw [hnat]; exact hsigma, ?_⟩, by rw [hnat]; omega⟩
    rw [lowerChar, hnat, if_neg (by omega), if_neg (by omega), hnone]

/-- The `lowerChar` of a character is in lower case. What is ASCII in it is the form of an ASCII
character, or one of two letters. -/
private theorem isLower_of_mem_lowerChar {c d : Char} (hc : c.toNat ≠ 0x3A3)
    (h : d ∈ lowerChar c) :
    IsLower d ∧ (d.toNat < 128 → d = 'i' ∨ d = 'k' ∨ c.toNat < 128 ∧ d = c.toLower) := by
  -- The cases are those of the definition: ASCII, the dotted I, and what the table says of the
  -- rest.
  by_cases hascii : c.toNat < 128
  · rw [lowerChar, if_pos hascii, List.mem_singleton] at h
    obtain ⟨hstays, hagain⟩ := toLower_of_ascii c hascii
    rw [h]
    exact ⟨isLower_of_ascii hstays hagain, fun _ => .inr (.inr ⟨hascii, rfl⟩)⟩
  · by_cases hdotted : c.toNat = 0x130
    · rw [lowerChar, if_neg hascii, if_pos hdotted] at h
      simp only [List.mem_cons, List.not_mem_nil, or_false] at h
      rcases h with rfl | rfl
      · exact ⟨⟨by decide, by decide⟩, fun _ => .inl rfl⟩
      · exact ⟨⟨by decide, by decide⟩, fun hlt => absurd hlt (by decide)⟩
    · rw [lowerChar, if_neg hascii, if_neg hdotted] at h
      cases hrun : lowerRun? c.toNat with
      | none =>
        rw [hrun, List.mem_singleton] at h
        rw [h]
        refine ⟨⟨hc, ?_⟩, fun hlt => absurd hlt hascii⟩
        rw [lowerChar, if_neg hascii, if_neg hdotted, hrun]
      | some r =>
        rw [hrun, List.mem_singleton] at h
        rw [h]
        obtain ⟨hlower, hk⟩ := isLower_image hrun
        exact ⟨hlower, fun hlt => .inr (.inl (hk hlt))⟩

private theorem isLower_of_mem_lowerAfter {cased : Bool} {l : List Char} {d : Char}
    (h : d ∈ lowerAfter cased l) : IsLower d := by
  induction l generalizing cased with
  | nil => cases h
  | cons c l ih =>
    rw [lowerAfter, List.mem_append] at h
    cases h with
    | inr hrest => exact ih hrest
    | inl himage =>
      by_cases hsigma : c.toNat = 0x3A3
      · -- Both small sigmas are in lower case.
        rw [if_pos hsigma, List.mem_singleton] at himage
        rw [himage]
        split
        · exact ⟨by decide, by decide⟩
        · exact ⟨by decide, by decide⟩
      · rw [if_neg hsigma] at himage
        exact (isLower_of_mem_lowerChar hsigma himage).1

private theorem lowerAfter_eq_self (cased : Bool) (l : List Char) (h : ∀ c ∈ l, IsLower c) :
    lowerAfter cased l = l := by
  induction l generalizing cased with
  | nil => rfl
  | cons c l ih =>
    obtain ⟨⟨hsigma, hchar⟩, hl⟩ := List.forall_mem_cons.mp h
    rw [lowerAfter, if_neg hsigma, hchar, ih _ hl, List.singleton_append]

/-- `lower` leaves a text of characters in lower case as it is. -/
theorem lower_eq_self {s : String} (h : ∀ c ∈ s.toList, IsLower c) : lower s = s := by
  rw [lower, lowerAfter_eq_self false _ h, String.ofList_toList]

/-- `lower` brings a text to lower case once and for all. -/
theorem lower_lower (s : String) : lower (lower s) = lower s := by
  apply lower_eq_self
  rw [lower, String.toList_ofList]
  exact fun c hc => isLower_of_mem_lowerAfter hc

/-! ## The empty text -/

private theorem lowerChar_ne_nil (c : Char) : lowerChar c ≠ [] := by
  rw [lowerChar]
  split
  · simp
  · split
    · simp
    · split <;> simp

/-- Only the empty text has an empty `lower` form. -/
theorem lower_eq_empty_iff (s : String) : lower s = "" ↔ s = "" := by
  constructor
  · intro h
    have hlist : lowerAfter false s.toList = [] := String.ofList_injective h
    cases hs : s.toList with
    | nil => exact String.toList_inj.mp hs
    | cons c l =>
      rw [hs, lowerAfter] at hlist
      have himage := (List.append_eq_nil_iff.mp hlist).1
      split at himage
      · cases himage
      · exact absurd himage (lowerChar_ne_nil c)
  · rintro rfl
    rfl

/-! ## Where ASCII comes from -/

/-- An ASCII character that `lowerAfter` starts with is the form of the first character, unless it
is one of the two letters that have other capitals, too. -/
theorem lowerAfter_eq_cons {cased : Bool} {l m : List Char} {d : Char}
    (h : lowerAfter cased l = d :: m) (hascii : d.toNat < 128) (hi : d ≠ 'i') (hk : d ≠ 'k') :
    ∃ c l', l = c :: l' ∧ c.toNat < 128 ∧ c.toLower = d ∧ ∃ cased', m = lowerAfter cased' l' := by
  cases l with
  | nil => cases h
  | cons c l =>
    rw [lowerAfter] at h
    by_cases hsigma : c.toNat = 0x3A3
    · -- A sigma has no ASCII in its form.
      rw [if_pos hsigma, List.singleton_append] at h
      have hd := (List.cons.inj h).1
      rw [← hd] at hascii
      split at hascii
      · exact absurd hascii (by decide)
      · exact absurd hascii (by decide)
    · rw [if_neg hsigma] at h
      -- The form is not empty, and its first character is this one.
      cases hform : lowerChar c with
      | nil => exact absurd hform (lowerChar_ne_nil c)
      | cons e form =>
        rw [hform, List.cons_append] at h
        obtain ⟨rfl, hm⟩ := List.cons.inj h
        have hmem : e ∈ lowerChar c := by simp [hform]
        rcases (isLower_of_mem_lowerChar hsigma hmem).2 hascii with heq | heq | ⟨hc, heq⟩
        · exact absurd heq hi
        · exact absurd heq hk
        · have hnil : form = [] := by
            rw [lowerChar, if_pos hc] at hform
            exact (List.cons.inj hform).2.symm
          rw [hnil, List.nil_append] at hm
          exact ⟨c, l, rfl, hc, heq.symm, _, hm.symm⟩

/-! ## Texts put together -/

/-- A character, with the sigma at the end of words taken for the plain one. -/
def plainSigma (c : Char) : Char :=
  if c = 'ς' then 'σ' else c

private theorem map_plainSigma_eq_self {l : List Char} (h : ∀ c ∈ l, c ≠ 'ς') :
    l.map plainSigma = l :=
  (List.map_congr_left fun c hc => if_neg (h c hc)).trans (List.map_id l)

private theorem lowerChar_sigma : lowerChar 'Σ' = ['σ'] := by
  decide

/-- But for the form of its sigmas, `lowerAfter` brings a text to lower case character by character,
whatever stands around it. -/
theorem map_plainSigma_lowerAfter (cased : Bool) (l : List Char) :
    (lowerAfter cased l).map plainSigma = l.flatMap fun c => (lowerChar c).map plainSigma := by
  induction l generalizing cased with
  | nil => rfl
  | cons c l ih =>
    rw [lowerAfter, List.map_append, List.flatMap_cons, ih]
    congr 1
    by_cases hsigma : c.toNat = 0x3A3
    · have hc : c = 'Σ' := Char.toNat_inj.mp hsigma
      rw [if_pos hsigma, hc, lowerChar_sigma]
      -- Both forms are taken for the plain one.
      dsimp only
      split
      · decide
      · decide
    · rw [if_neg hsigma]

/-- What has no sigma is found in a text if it is found there with `plainSigma` for all sigmas. -/
private theorem isInfix_of_map_plainSigma {w l : List Char} (hw : ∀ c ∈ w, c ≠ 'σ')
    (h : w <:+: l.map plainSigma) : w <:+: l := by
  obtain ⟨front, rest, hmap⟩ := h
  obtain ⟨frontAndHere, rest', hl, hfront, _⟩ := List.map_eq_append_iff.mp hmap.symm
  obtain ⟨front', here, hsplit, _, hhere⟩ := List.map_eq_append_iff.mp hfront
  -- No character at this place was changed: the final sigma would be a plain one now.
  have hsame : here.map plainSigma = here := by
    apply map_plainSigma_eq_self
    rintro c hc rfl
    have hmem : plainSigma 'ς' ∈ w := hhere ▸ List.mem_map_of_mem hc
    exact hw _ hmem rfl
  rw [← hhere, hsame, hl, hsplit]
  exact ⟨front', rest', rfl⟩

/-- What has no sigma and is found in the `lower` form of a text is found in that of any text around
it. -/
theorem isInfix_lower_append {s : String} {w : List Char} (p q : String)
    (hw : ∀ c ∈ w, c ≠ 'σ' ∧ c ≠ 'ς') (h : w <:+: (lower s).toList) :
    w <:+: (lower (p ++ s ++ q)).toList := by
  rw [lower, String.toList_ofList] at h ⊢
  apply isInfix_of_map_plainSigma fun c hc => (hw c hc).1
  -- With all sigmas in one form, the lower-case form of the whole has that of the part within it.
  have hword : w.map plainSigma = w := map_plainSigma_eq_self fun c hc => (hw c hc).2
  have hpart : w <:+: s.toList.flatMap fun c => (lowerChar c).map plainSigma := by
    rw [← map_plainSigma_lowerAfter false, ← hword]
    exact h.map plainSigma
  rw [map_plainSigma_lowerAfter, String.toList_append, String.toList_append, List.flatMap_append,
    List.flatMap_append]
  exact hpart.trans ⟨_, _, rfl⟩

/-- A line break separates what stands before it from what stands behind: neither decides for
`lowerAfter` the case of a letter of the other. -/
theorem lowerAfter_append_lineBreak (cased : Bool) (l r : List Char) :
    lowerAfter cased (l ++ '\n' :: r) = lowerAfter cased l ++ '\n' :: lowerAfter false r := by
  induction l generalizing cased with
  | nil =>
    have hignorable : isCaseIgnorable '\n' = false := by decide
    have hcased : isCased '\n' = false := by decide
    have himage : lowerChar '\n' = ['\n'] := by decide
    have hsigma : ¬ '\n'.toNat = 0x3A3 := by decide
    simp only [List.nil_append, lowerAfter, hignorable, hcased, himage, if_neg hsigma,
      Bool.false_eq_true, if_false, List.singleton_append]
  | cons c l ih =>
    -- Only a sigma looks ahead, and a line break has no case.
    have hahead : ((l ++ '\n' :: r).dropWhile isCaseIgnorable).head?.any isCased =
        (l.dropWhile isCaseIgnorable).head?.any isCased := by
      rw [List.dropWhile_append]
      split
      next h =>
        have hnil : l.dropWhile isCaseIgnorable = [] := List.isEmpty_iff.mp h
        rw [hnil]
        rfl
      next h =>
        obtain ⟨d, l', hl⟩ := List.exists_cons_of_ne_nil (mt List.isEmpty_iff.mpr h)
        rw [hl]
        rfl
    rw [List.cons_append, lowerAfter, lowerAfter, hahead, ih, List.append_assoc]

end TokenRisk.Text
