import TokenRisk.Proofs.Disassembly
import TokenRisk.Proofs.Selectors

/-!
# Where selectors are looked for

A profile looks for its references in the digits of a code or among the selectors of its dispatcher.
Whatever the dispatcher has stands in the digits, right behind the opcode of a push, so a search in
the digits misses nothing that the dispatcher shows. The selectors that a classification reports are
read from the digits of a text, which is read as a text once more; they are those of the text itself
unless that bears two prefixes.

## Key results

- `Bytecode.exists_digits_of_mem_selectors`: where a selector stands
- `Bytecode.digits_digits`: the digits of a text are read as they are, unless it bears two prefixes
- `Standard.substring_dominates_dispatcher`: a search in the digits misses nothing
- `Standard.agrees_iff`: when a classification agrees with the selectors of a text
-/

namespace TokenRisk

/-! ## Selectors among digits -/

namespace Bytecode

/-- One of the `selectors` stands among the digits of a code, after an even number of them and right
behind the opcode of the push. -/
theorem exists_digits_of_mem_selectors {code : String} {l : List Char} (h : HasDigits code l)
    {s : String} (hs : s ∈ selectors code) :
    ∃ front ds back : List Char, s = "0x" ++ String.ofList ds ∧ ds.length = 8 ∧
      front.length % 2 = 0 ∧ l.map Char.toLower = front ++ '6' :: '3' :: ds ++ back := by
  obtain ⟨bs, hbytes, i, hi, hpush, hlength, rfl⟩ := mem_selectors hs
  obtain ⟨bs', rest, hdigits, _, hbytes'⟩ := h.exists_hexOf
  obtain rfl : bs = bs' := Option.some.inj (hbytes.symm.trans hbytes')
  -- The push stands among the bytes, and each byte before it has two digits.
  obtain ⟨front, back, rfl⟩ := Instruction.exists_append_of_mem_decode hi
  have hencode : hexOf i.encode = '6' :: '3' :: hexOf i.operand := by
    rw [Instruction.encode, hpush, hexOf_cons]
    rfl
  refine ⟨hexOf front, hexOf i.operand, hexOf back ++ rest, ?_, ?_, ?_, ?_⟩
  · apply String.toList_injective
    simp [selectorText]
  · rw [length_hexOf, hlength]
  · rw [length_hexOf]
    omega
  · rw [hdigits, hexOf_append, hexOf_append, hencode, List.append_assoc]

/-- A selector follows the opcode of a four-byte push in a text: behind an even number of
characters, its digits stand right after those of the opcode, in some letter case. -/
def FollowsPush (s code : String) : Prop :=
  ∃ front ds back : List Char, s = "0x" ++ String.ofList ds ∧ ds.length = 8 ∧
    front.length % 2 = 0 ∧ code.toList.map Char.toLower = front ++ '6' :: '3' :: ds ++ back

theorem followsPush_of_mem_selectors {code : String} {l : List Char} (h : HasDigits code l)
    {s : String} (hs : s ∈ selectors code) : FollowsPush s code := by
  obtain ⟨front, ds, back, htext, hlength, heven, hdigits⟩ := exists_digits_of_mem_selectors h hs
  obtain ⟨mark, hmark, hcode⟩ := h.marked
  refine ⟨mark.toList.map Char.toLower ++ front, ds, back, htext, hlength, ?_, ?_⟩
  · -- A prefix has two characters, if there is one.
    have hall : ∀ m ∈ marks, m.toList.length % 2 = 0 := by decide
    have heven' := hall mark hmark
    rw [List.length_append, List.length_map]
    omega
  · rw [hcode, String.toList_append, String.toList_ofList, List.map_append, hdigits]
    simp only [List.append_assoc]

/-! ## Texts with two prefixes -/

/-- A text has a prefix `0x` or `0X` in front of the rest. -/
def IsMarked (l rest : List Char) : Prop :=
  l = '0' :: 'x' :: rest ∨ l = '0' :: 'X' :: rest

/-- A text has a prefix, and what is behind it has another one. -/
def IsMarkedTwice (code : String) : Prop :=
  ∃ l rest, IsMarked code.toList l ∧ IsMarked l rest

theorem IsMarked.rest_eq {l rest : List Char} (h : IsMarked l rest) : rest = l.drop 2 := by
  rcases h with rfl | rfl
  · rfl
  · rfl

/-- `lowerAfter` leaves a prefix a prefix. -/
private theorem lowerAfter_of_isMarked {l rest : List Char} (h : IsMarked l rest) :
    ∃ m, Text.lowerAfter false l = '0' :: 'x' :: m := by
  rcases h with rfl | rfl
  · exact ⟨_, rfl⟩
  · exact ⟨_, rfl⟩

/-- What starts with a prefix after `lowerAfter` starts with a prefix. -/
private theorem isMarked_of_lowerAfter {l m : List Char}
    (h : Text.lowerAfter false l = '0' :: 'x' :: m) : ∃ rest, IsMarked l rest := by
  obtain ⟨c, l, rfl, hc, hzero, _, h⟩ :=
    Text.lowerAfter_eq_cons h (by decide) (by decide) (by decide)
  obtain ⟨d, l, rfl, hd, hx, _⟩ :=
    Text.lowerAfter_eq_cons h.symm (by decide) (by decide) (by decide)
  have hc' : c = '0' := Text.forall_ascii (p := fun c => c.toLower = '0' → c = '0')
    (by decide) hc hzero
  have hd' : d = 'x' ∨ d = 'X' :=
    Text.forall_ascii (p := fun c => c.toLower = 'x' → c = 'x' ∨ c = 'X')
      (by decide) hd hx
  refine ⟨l, ?_⟩
  rw [hc']
  exact hd'.imp (congrArg fun d => '0' :: d :: l) (congrArg fun d => '0' :: d :: l)

/-- The `digits` of a text are what is behind its prefix, or all of it, in lower case. -/
private theorem digits_cases (code : String) :
    (∃ l, IsMarked code.toList l ∧ digits code = Text.lower (String.ofList l)) ∨
    (∀ l, ¬ IsMarked code.toList l) ∧ digits code = Text.lower code := by
  rw [digits]
  split
  · rename_i l hl
    exact .inl ⟨l, .inl hl, rfl⟩
  · rename_i l hl
    exact .inl ⟨l, .inr hl, rfl⟩
  · rename_i hsmall hlarge
    exact .inr ⟨fun l hl => hl.elim (hsmall l) (hlarge l), rfl⟩

theorem lower_digits (code : String) : Text.lower (digits code) = digits code := by
  rcases digits_cases code with ⟨l, _, hdigits⟩ | ⟨_, hdigits⟩
  · rw [hdigits, Text.lower_lower]
  · rw [hdigits, Text.lower_lower]

/-- `IsMarkedTwice` holds of a text when its `digits` still start with a prefix. -/
theorem isMarkedTwice_iff (code : String) :
    IsMarkedTwice code ↔ ∃ m, (digits code).toList = '0' :: 'x' :: m := by
  rcases digits_cases code with ⟨l, hl, hdigits⟩ | ⟨hunmarked, hdigits⟩
  · rw [hdigits, Text.lower, String.toList_ofList, String.toList_ofList]
    constructor
    · rintro ⟨l', rest, hl', hrest⟩
      -- There is only one way to take the first prefix off.
      rw [hl.rest_eq, ← hl'.rest_eq]
      exact lowerAfter_of_isMarked hrest
    · rintro ⟨m, hm⟩
      obtain ⟨rest, hrest⟩ := isMarked_of_lowerAfter hm
      exact ⟨l, rest, hl, hrest⟩
  · rw [hdigits, Text.lower, String.toList_ofList]
    constructor
    · rintro ⟨l, _, hl, _⟩
      exact absurd hl (hunmarked l)
    · rintro ⟨m, hm⟩
      obtain ⟨rest, hrest⟩ := isMarked_of_lowerAfter hm
      exact absurd hrest (hunmarked rest)

/-- The `digits` of a text are read as they are, unless `IsMarkedTwice` holds of it. -/
theorem digits_digits {code : String} (h : ¬ IsMarkedTwice code) :
    digits (digits code) = digits code := by
  rcases digits_cases (digits code) with ⟨l, hl, _⟩ | ⟨_, hdigits⟩
  · -- A prefix in front of the digits is one in lower case, so it is a second one.
    obtain ⟨m, hm⟩ := lowerAfter_of_isMarked hl
    have htwice : (digits code).toList = '0' :: 'x' :: m := by
      rw [← lower_digits code, Text.lower, String.toList_ofList, hm]
    exact absurd ((isMarkedTwice_iff code).mpr ⟨m, htwice⟩) h
  · rw [hdigits, lower_digits]

/-- A text of which `IsMarkedTwice` holds has no `selectors`. -/
theorem selectors_of_isMarkedTwice {code : String} (h : IsMarkedTwice code) :
    selectors code = [] := by
  obtain ⟨m, hm⟩ := (isMarkedTwice_iff code).mp h
  -- The second prefix is left in front of the digits, and an x is no digit.
  have hnone : decode? code = none := by
    obtain ⟨n, hn⟩ : ∃ n, ('0' :: 'x' :: m).length - ('0' :: 'x' :: m).length % 2 = n + 2 := by
      refine ⟨m.length - m.length % 2, ?_⟩
      simp only [List.length_cons]
      omega
    rw [decode?, hm, hn]
    rfl
  rw [selectors, hnone]

/-- The `selectors` of the digits of a text are those of the text, unless `IsMarkedTwice` holds of
it. -/
theorem selectors_digits {code : String} (h : ¬ IsMarkedTwice code) :
    selectors (digits code) = selectors code := by
  rw [selectors, selectors, decode?, digits_digits h]
  rfl

end Bytecode

/-! ## Classifications -/

/-- All that a profile looks for is among its `references`. -/
theorem Profile.subset_references (p : Profile) :
    p.erc20 ⊆ p.references ∧ p.erc721 ⊆ p.references ∧ p.erc1155 ⊆ p.references := by
  refine ⟨?_, ?_, ?_⟩ <;> intro s hs <;> simp [references, mem_distinct, hs]

namespace Standard

/-- The selectors that count for the flags of a profile: the references that occur in the digits of
a code, or the selectors of its dispatcher. -/
def found (p : Profile) (code : String) : List String :=
  match p.matching with
  | .substring => occurring p (Bytecode.digits code)
  | .dispatcher => Bytecode.selectors (Bytecode.digits code)

theorem ofBytecode_eq (p : Profile) (code : String) :
    ofBytecode p code = if (Bytecode.digits code).isEmpty = true then {}
      else ofSelectors p (found p code) (some (Bytecode.selectors (Bytecode.digits code))) := by
  cases hmatching : p.matching with
  | substring => simp only [ofBytecode, found, hmatching]
  | dispatcher => simp only [ofBytecode, found, hmatching]

theorem ofBytecode_of_isEmpty (p : Profile) {code : String}
    (h : (Bytecode.digits code).isEmpty = true) : ofBytecode p code = {} := by
  rw [ofBytecode_eq, if_pos h]

/-- A text without digits has no `selectors`. -/
theorem selectors_of_isEmpty {code : String} (h : (Bytecode.digits code).isEmpty = true) :
    Bytecode.selectors (Bytecode.digits code) = [] := by
  rw [String.isEmpty_iff.mp h]
  decide +kernel

/-- `ofBytecode` reports the `selectors` of the digits. -/
theorem selectors_ofBytecode (p : Profile) (code : String) :
    (ofBytecode p code).selectors = Bytecode.selectors (Bytecode.digits code) := by
  by_cases hempty : (Bytecode.digits code).isEmpty = true
  · rw [ofBytecode_of_isEmpty p hempty, selectors_of_isEmpty hempty]
  · rw [ofBytecode_eq, if_neg hempty]
    simp only [ofSelectors, Option.getD_some]
    exact distinct_of_nodup _ (Bytecode.nodup_selectors _)

/-- The confidence of `ofBytecode` is in the number of these selectors. -/
theorem confidence_ofBytecode (p : Profile) (code : String) :
    (ofBytecode p code).confidence =
      confidenceOf p (lowered (Bytecode.selectors (Bytecode.digits code))).length := by
  by_cases hempty : (Bytecode.digits code).isEmpty = true
  · rw [ofBytecode_of_isEmpty p hempty, selectors_of_isEmpty hempty]
    exact (confidenceOf_zero p).symm
  · rw [ofBytecode_eq, if_neg hempty]
    simp only [ofSelectors, Option.getD_some]

/-! ## Two ways of matching -/

/-- A reference that the dispatcher has is `occurring` in the digits, too. -/
theorem mem_lowered_occurring (p : Profile) {code : String} {l : List Char}
    (h : Bytecode.HasDigits code l) {s : String} (hreference : s ∈ p.references)
    (hs : s ∈ lowered (Bytecode.selectors (Bytecode.digits code))) :
    s ∈ lowered (occurring p (Bytecode.digits code)) := by
  rw [lowered, mem_distinct] at hs ⊢
  obtain ⟨t, ht, heq⟩ := List.mem_map.mp hs
  -- The selectors of a dispatcher are in lower case already.
  obtain ⟨_, _, i, _, _, _, htext⟩ := Bytecode.mem_selectors ht
  rw [htext, Bytecode.lower_selectorText, ← htext] at heq
  rw [← heq] at hreference ⊢
  obtain ⟨front, ds, back, hdigits, _, _, hsplit⟩ :=
    Bytecode.exists_digits_of_mem_selectors h.digits ht
  have hlower : (l.map Char.toLower).map Char.toLower = l.map Char.toLower :=
    (List.map_congr_left h.toLower_eq_self).trans (List.map_id _)
  refine List.mem_map.mpr ⟨t, List.mem_filter.mpr ⟨hreference, ?_⟩, ?_⟩
  · -- Its digits stand among those of the code.
    have hdrop : (Text.drop 2 t).toList = ds := by
      rw [hdigits]
      simp [Text.drop]
    rw [Text.contains, Text.occurs_iff, hdrop, Bytecode.toList_digits h, ← hlower, hsplit]
    exact ⟨front ++ ['6', '3'], back, by simp⟩
  · rw [htext, Bytecode.lower_selectorText]

/-- A search in the digits misses nothing that the dispatcher shows: with the same references and
thresholds, it `Dominates` the dispatcher, as every flag is set by it, and the selectors and the
confidence are the same. The `selectors` of a code follow a push in its text. -/
theorem substring_dominates_dispatcher (p : Profile) (code : String) (l : List Char)
    (h : Bytecode.HasDigits code l) :
    (ofBytecode { p with matching := .substring } code).Dominates
      (ofBytecode { p with matching := .dispatcher } code) ∧
    ∀ s ∈ Bytecode.selectors code, Bytecode.FollowsPush s code := by
  refine ⟨?_, fun s hs => Bytecode.followsPush_of_mem_selectors h hs⟩
  -- How references are matched touches neither the selectors nor the confidence.
  have hselectors : (ofBytecode { p with matching := .substring } code).selectors =
      (ofBytecode { p with matching := .dispatcher } code).selectors := by
    rw [selectors_ofBytecode, selectors_ofBytecode]
  have hconfidence : (ofBytecode { p with matching := .substring } code).confidence =
      (ofBytecode { p with matching := .dispatcher } code).confidence := by
    rw [confidence_ofBytecode, confidence_ofBytecode]
    rfl
  by_cases hempty : (Bytecode.digits code).isEmpty = true
  · rw [ofBytecode_of_isEmpty _ hempty, ofBytecode_of_isEmpty _ hempty]
    exact ⟨id, id, id, rfl, rfl⟩
  · -- What is found among the selectors of the dispatcher is found among the digits.
    have hkeeps (threshold : Int) (references : List String)
        (hsubset : references ⊆ p.references) :=
      flag_mono (Int.le_refl threshold)
        (hits_mono references fun s hmem => mem_lowered_occurring p h (hsubset hmem))
    obtain ⟨herc20, herc721, herc1155⟩ := p.subset_references
    rw [ofBytecode_eq, ofBytecode_eq, if_neg hempty, if_neg hempty] at hselectors hconfidence ⊢
    exact ⟨hkeeps p.erc20Threshold p.erc20 herc20, hkeeps p.erc721Threshold p.erc721 herc721,
      hkeeps p.erc1155Threshold p.erc1155 herc1155, hselectors, hconfidence⟩

/-- `Dominates` holds for a code with a prefix, letters in upper case and an odd digit at its
end. -/
theorem substring_dominates_dispatcher_odd :
    Bytecode.HasDigits "0X6318160DDD146370a082311463A9059cbb146323b872dd1"
        "6318160DDD146370a082311463A9059cbb146323b872dd1".toList ∧
      (ofBytecode { Profile.loose with matching := .dispatcher }
        "0X6318160DDD146370a082311463A9059cbb146323b872dd1").isERC20 = true ∧
      (ofBytecode { Profile.loose with matching := .substring }
        "0X6318160DDD146370a082311463A9059cbb146323b872dd1").isERC20 = true ∧
      Bytecode.FollowsPush "0xa9059cbb" "0X6318160DDD146370a082311463A9059cbb146323b872dd1" := by
  have hdigits : Bytecode.HasDigits "0X6318160DDD146370a082311463A9059cbb146323b872dd1"
      "6318160DDD146370a082311463A9059cbb146323b872dd1".toList :=
    ⟨⟨"0X", by decide, by decide⟩, List.all_eq_true.mp (by decide)⟩
  -- The digits are odd in number, so the code ends within a byte.
  obtain ⟨hdominates, hfollows⟩ := substring_dominates_dispatcher .loose _ _ hdigits
  have hdispatcher : (ofBytecode { Profile.loose with matching := .dispatcher }
      "0X6318160DDD146370a082311463A9059cbb146323b872dd1").isERC20 = true := by decide +kernel
  exact ⟨hdigits, hdispatcher, hdominates.isERC20 hdispatcher, hfollows _ (by decide +kernel)⟩

/-! ## Agreement with the selectors of a text -/

/-- `ofBytecode` agrees with the `selectors` of a text: it reports them, and where there are none it
is not confident, and a profile that looks among them sets no flag that asks for any. -/
structure Agrees (p : Profile) (code : String) : Prop where
  selectors : (ofBytecode p code).selectors = Bytecode.selectors code
  confidence : Bytecode.selectors code = [] → (ofBytecode p code).confidence = 0
  isERC20 : Bytecode.selectors code = [] → p.matching = .dispatcher → 0 < p.erc20Threshold →
    (ofBytecode p code).isERC20 = false
  isERC721 : Bytecode.selectors code = [] → p.matching = .dispatcher → 0 < p.erc721Threshold →
    (ofBytecode p code).isERC721 = false
  isERC1155 : Bytecode.selectors code = [] → p.matching = .dispatcher → 0 < p.erc1155Threshold →
    (ofBytecode p code).isERC1155 = false

theorem hits_lowered_nil (references : List String) :
    Profile.hits references (lowered []) = 0 := by
  have hnone : references.filter (lowered []).contains = [] :=
    List.filter_eq_nil_iff.mpr fun s _ hs => by cases hs
  rw [Profile.hits, hnone]
  rfl

/-- Where a profile has `found` nothing, `ofBytecode` sets no flag that asks for anything. -/
theorem flags_of_found_eq_nil (p : Profile) {code : String} (h : found p code = []) :
    (0 < p.erc20Threshold → (ofBytecode p code).isERC20 = false) ∧
      (0 < p.erc721Threshold → (ofBytecode p code).isERC721 = false) ∧
      (0 < p.erc1155Threshold → (ofBytecode p code).isERC1155 = false) := by
  by_cases hempty : (Bytecode.digits code).isEmpty = true
  · rw [ofBytecode_of_isEmpty p hempty]
    exact ⟨fun _ => rfl, fun _ => rfl, fun _ => rfl⟩
  · rw [ofBytecode_eq, if_neg hempty]
    simp only [ofSelectors, h, hits_lowered_nil, decide_eq_false_iff_not, Int.not_le]
    exact ⟨id, id, id⟩

/-- `Agrees` holds of a text unless `IsMarkedTwice` does and, read without its first prefix, the
text has selectors. -/
theorem agrees_iff (p : Profile) (code : String) :
    Agrees p code ↔
      ¬ (Bytecode.IsMarkedTwice code ∧ Bytecode.selectors (Bytecode.digits code) ≠ []) := by
  constructor
  · rintro hagrees ⟨htwice, hselectors⟩
    -- Reported are the selectors of the digits, while the text itself has none.
    apply hselectors
    rw [← selectors_ofBytecode p code, hagrees.selectors,
      Bytecode.selectors_of_isMarkedTwice htwice]
  · intro h
    -- Otherwise text and digits have the same selectors: one prefix is taken off, or there is none.
    have hdigits : Bytecode.selectors (Bytecode.digits code) = Bytecode.selectors code := by
      by_cases htwice : Bytecode.IsMarkedTwice code
      · rw [Bytecode.selectors_of_isMarkedTwice htwice]
        exact Decidable.not_not.mp fun hne => h ⟨htwice, hne⟩
      · exact Bytecode.selectors_digits htwice
    have hfound (hnone : Bytecode.selectors code = []) (hmatching : p.matching = .dispatcher) :
        found p code = [] := by
      rw [found, hmatching]
      exact hdigits.trans hnone
    constructor
    · rw [selectors_ofBytecode, hdigits]
    · intro hnone
      rw [confidence_ofBytecode, hdigits, hnone]
      exact confidenceOf_zero p
    · exact fun hnone hmatching => (flags_of_found_eq_nil p (hfound hnone hmatching)).1
    · exact fun hnone hmatching => (flags_of_found_eq_nil p (hfound hnone hmatching)).2.1
    · exact fun hnone hmatching => (flags_of_found_eq_nil p (hfound hnone hmatching)).2.2

/-- Behind two prefixes, `ofBytecode` reports a selector that the text does not have. -/
theorem not_agrees_behind_two_marks :
    Bytecode.selectors "0x0x63a9059cbb" = [] ∧
      (ofBytecode .strict "0x0x63a9059cbb").selectors = ["0xa9059cbb"] ∧
      ¬ Agrees .strict "0x0x63a9059cbb" := by
  have htwice : Bytecode.IsMarkedTwice "0x0x63a9059cbb" :=
    ⟨"0x63a9059cbb".toList, "63a9059cbb".toList, .inl (by decide), .inl (by decide)⟩
  refine ⟨by decide +kernel, by decide +kernel, fun hagrees => ?_⟩
  exact (agrees_iff .strict _).mp hagrees ⟨htwice, by decide +kernel⟩

end Standard

end TokenRisk
