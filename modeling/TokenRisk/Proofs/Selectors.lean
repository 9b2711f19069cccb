import TokenRisk.Proofs.Extension

/-!
# What selectors say

A profile looks at which selectors there are. Their order, repeats and letter case make no
difference to its verdict, and more selectors never make it less sure. A profile that asks for less
sets every flag that a stricter one sets, as the loose profile does beside the strict one.

## Key results

- `Standard.ofSelectors_among`: what more selectors do to a verdict
- `Standard.ofSelectors_dominates`: what a looser profile does to it
- `Standard.ofSelectors_laws`: verdicts depend on the set of selectors, and confidence is a
  percentage that grows with it
-/

namespace TokenRisk

namespace Standard

/-! ## Selectors up to letter case -/

/-- Every selector of one list is in the other, up to the case of ASCII letters. -/
def Among (found found' : List String) : Prop :=
  found.map Text.asciiLower ⊆ found'.map Text.asciiLower

/-- Two lists have the same selectors, up to order, repeats and the case of ASCII letters. -/
def Alike (found found' : List String) : Prop :=
  Among found found' ∧ Among found' found

instance (found found' : List String) : Decidable (Among found found') :=
  inferInstanceAs (Decidable (found.map Text.asciiLower ⊆ found'.map Text.asciiLower))

instance (found found' : List String) : Decidable (Alike found found') :=
  inferInstanceAs (Decidable (_ ∧ _))

/-- What is `Among` other selectors is among them when both are `lowered`. -/
theorem Among.lowered_subset {found found' : List String} (h : Among found found') :
    lowered found ⊆ lowered found' := by
  intro s hs
  rw [lowered, mem_distinct] at hs ⊢
  obtain ⟨t, ht, rfl⟩ := List.mem_map.mp hs
  -- The other list has this selector, maybe with other letters in upper case.
  obtain ⟨t', ht', heq⟩ := List.mem_map.mp (h (List.mem_map_of_mem ht))
  have hlower : Text.lower t' = Text.lower t := by
    rw [← Text.lower_asciiLower t', heq, Text.lower_asciiLower]
  exact List.mem_map.mpr ⟨t', ht', hlower⟩

/-! ## Verdicts -/

/-- One standard says no less than the other: it has every flag of the other one, and all else in
common with it but the type on display. -/
structure Dominates (t s : Standard) : Prop where
  isERC20 : s.isERC20 = true → t.isERC20 = true
  isERC721 : s.isERC721 = true → t.isERC721 = true
  isERC1155 : s.isERC1155 = true → t.isERC1155 = true
  selectors : t.selectors = s.selectors
  confidence : t.confidence = s.confidence

/-- Two standards say the same, up to the list of selectors. -/
structure SameVerdict (s t : Standard) : Prop where
  isERC20 : s.isERC20 = t.isERC20
  isERC721 : s.isERC721 = t.isERC721
  isERC1155 : s.isERC1155 = t.isERC1155
  detectedType : s.detectedType = t.detectedType
  confidence : s.confidence = t.confidence

theorem hits_eq_of_alike (references : List String) {found found' : List String}
    (h : Alike found found') :
    Profile.hits references (lowered found) = Profile.hits references (lowered found') := by
  obtain ⟨hthere, hback⟩ := h
  apply Int.le_antisymm
  · exact hits_mono references fun s _ hs => hthere.lowered_subset hs
  · exact hits_mono references fun s _ hs => hback.lowered_subset hs

/-- Of more selectors, `ofSelectors` has no lower confidence. -/
theorem confidence_mono (p : Profile) {found found' : List String}
    {reported reported' : Option (List String)}
    (h : Among (reported.getD found) (reported'.getD found')) :
    (ofSelectors p found reported).confidence ≤ (ofSelectors p found' reported').confidence :=
  confidenceOf_mono p (length_lowered_le h.lowered_subset)

/-- Selectors that are `Alike` are given the same verdict. -/
theorem sameVerdict_of_alike (p : Profile) {found found' : List String}
    {reported reported' : Option (List String)} (hfound : Alike found found')
    (hreported : Alike (reported.getD found) (reported'.getD found')) :
    (ofSelectors p found reported).SameVerdict (ofSelectors p found' reported') := by
  obtain ⟨hthere, hback⟩ := hreported
  constructor
  · simp only [ofSelectors, hits_eq_of_alike _ hfound]
  · simp only [ofSelectors, hits_eq_of_alike _ hfound]
  · simp only [ofSelectors, hits_eq_of_alike _ hfound]
  · simp only [ofSelectors, hits_eq_of_alike _ hfound]
  · exact Int.le_antisymm (confidence_mono p hthere) (confidence_mono p hback)

/-! ## Looser profiles -/

end Standard

/-- A profile asks for less: of no fewer references it wants no more, and it measures confidence
against as many. -/
structure Profile.IsLooser (q p : Profile) : Prop where
  erc20 : p.erc20.Sublist q.erc20 ∧ q.erc20Threshold ≤ p.erc20Threshold
  erc721 : p.erc721.Sublist q.erc721 ∧ q.erc721Threshold ≤ p.erc721Threshold
  erc1155 : p.erc1155.Sublist q.erc1155 ∧ q.erc1155Threshold ≤ p.erc1155Threshold
  references : q.references.length = p.references.length

theorem Profile.isLooser_loose : loose.IsLooser strict := by
  constructor <;> decide

namespace Standard

/-- Among more references, there are no fewer `hits`. -/
theorem hits_sublist {references references' : List String} (h : references.Sublist references')
    (found : List String) : Profile.hits references found ≤ Profile.hits references' found := by
  have hle := (h.filter found.contains).length_le
  simp only [Profile.hits]
  omega

/-- With a profile that `IsLooser`, `ofSelectors` sets every flag that it sets with the other
one. -/
theorem ofSelectors_dominates {q p : Profile} (h : q.IsLooser p) (found : List String)
    (reported : Option (List String)) :
    (ofSelectors q found reported).Dominates (ofSelectors p found reported) where
  isERC20 := flag_mono h.erc20.2 (hits_sublist h.erc20.1 _)
  isERC721 := flag_mono h.erc721.2 (hits_sublist h.erc721.1 _)
  isERC1155 := flag_mono h.erc1155.2 (hits_sublist h.erc1155.1 _)
  selectors := rfl
  confidence := by simp only [ofSelectors, confidenceOf, h.references]

/-- Verdicts of `ofSelectors` depend on the set of selectors alone. What the strict profile finds,
the loose one finds with the same confidence. Confidence grows with the selectors, from 0 to 100. -/
theorem ofSelectors_laws (p : Profile) (found found' : List String)
    (reported reported' : Option (List String)) :
    (Alike found found' → Alike (reported.getD found) (reported'.getD found') →
      (ofSelectors p found reported).SameVerdict (ofSelectors p found' reported')) ∧
    (ofSelectors .loose found reported).Dominates (ofSelectors .strict found reported) ∧
    (Among (reported.getD found) (reported'.getD found') →
      (ofSelectors p found reported).confidence ≤ (ofSelectors p found' reported').confidence) ∧
    0 ≤ (ofSelectors p found reported).confidence ∧
    (ofSelectors p found reported).confidence ≤ 100 := by
  refine ⟨sameVerdict_of_alike p, ofSelectors_dominates Profile.isLooser_loose found reported,
    confidence_mono p, ?_⟩
  exact confidenceOf_bounds p _

/-- `ofSelectors` does not see a repeat, another order and letters in upper case. -/
theorem ofSelectors_laws_mixed_case :
    Alike ["0xA9059CBB", "0x70a08231"] ["0x70A08231", "0xa9059cbb", "0xA9059cbb"] ∧
      (ofSelectors .loose ["0xA9059CBB", "0x70a08231"] none).SameVerdict
        (ofSelectors .loose ["0x70A08231", "0xa9059cbb", "0xA9059cbb"] none) ∧
      (ofSelectors .loose ["0xA9059CBB", "0x70a08231"] none).confidence ≤
        (ofSelectors .loose ["0x70A08231", "0xa9059cbb", "0xA9059cbb"] none).confidence := by
  have halike : Alike ["0xA9059CBB", "0x70a08231"] ["0x70A08231", "0xa9059cbb", "0xA9059cbb"] := by
    decide
  have hlaws := ofSelectors_laws .loose ["0xA9059CBB", "0x70a08231"]
    ["0x70A08231", "0xa9059cbb", "0xA9059cbb"] none none
  exact ⟨halike, hlaws.1 halike halike, hlaws.2.2.1 halike.1⟩

end Standard

end TokenRisk
