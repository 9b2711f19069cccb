import Mathlib.Algebra.Order.Ring.Unbundled.Rat
import TokenRisk.ForStd.Except
import TokenRisk.ForStd.List
import TokenRisk.Holders
import TokenRisk.Proofs.Rounding
import TokenRisk.Proofs.Score

/-!
# Laws of holder concentration

The shares that a summary of holders gives are brought between bounds, so they are percentages
whatever the shares of the holders are. When those are finite, the summary depends on the multiset
of shares alone: in every ranking of the holders the same ranks of shares follow each other, equal
doubles of different signs are zeros, and the bounds leave no negative zero.

## Key results

- `Holders.isPercentage_clamp`, `Holders.isClampOf_clamp`: a share that is brought between bounds
- `Holders.ranked_perm`, `Holders.isRanking_ranked`: the ranking, also of what cannot be compared
- `Holders.IsRanking.shareOfFirst_eq`: all rankings give the first holders the same share
- `Holders.summarize_keepsLaws`: what a summary of holders with any shares promises
-/

namespace TokenRisk

/-! ## Percentages -/

namespace Binary64

/-- A finite double from 0 to 100. -/
def IsPercentage (x : Binary64) : Prop :=
  ∃ y : Finite, x = .finite y ∧ 0 ≤ y.toRat ∧ y.toRat ≤ 100

theorem IsPercentage.ne_nan {x : Binary64} (h : x.IsPercentage) : x ≠ .nan := by
  obtain ⟨y, rfl, _⟩ := h
  simp

private theorem hundred_eq :
    hundred = .finite ⟨false, 25 * twoTo 48, 1028, by decide⟩ := by
  decide +kernel

private theorem rank_hundred : rank .hundred = 100 * unitsPerOne := by
  rw [hundred_eq]
  decide +kernel

/-- What lies between zero and a hundred `IsPercentage`. -/
theorem isPercentage_of_le {x : Binary64} (hzero : Binary64.le .zero x = true)
    (hhundred : x.le .hundred = true) : x.IsPercentage := by
  cases x with
  | nan => cases hzero
  | infinite negative =>
    cases negative with
    | true => cases hzero
    | false =>
      rw [hundred_eq] at hhundred
      cases hhundred
  -- The order is that of the ranks, and a rank is a number of units.
  | finite x =>
    obtain ⟨_, _, hlow⟩ := le_iff_rank_le.mp hzero
    obtain ⟨_, _, hhigh⟩ := le_iff_rank_le.mp hhundred
    rw [rank_hundred] at hhigh
    have hpos : (0 : Int) < unitsPerOne := by decide +kernel
    refine ⟨x, rfl, Rat.mkRat_nonneg hlow _, ?_⟩
    rw [Finite.toRat, Rat.mkRat_eq_divInt, show (100 : Rat) = Rat.divInt 100 1 from rfl,
      Rat.divInt_le_divInt hpos (by decide), Int.mul_one]
    exact hhigh

private theorem zero_lt_hundred : zero.lt hundred = true := by
  decide +kernel

theorem isPercentage_zero : IsPercentage .zero :=
  isPercentage_of_le (by decide) (le_of_lt zero_lt_hundred)

theorem isPercentage_hundred : IsPercentage .hundred :=
  isPercentage_of_le (le_of_lt zero_lt_hundred) (le_refl (ne_nan_of_lt zero_lt_hundred).2)

end Binary64

namespace Holders

/-! ## Shares between bounds -/

/-- What is left of a share between 0 and 100: the share itself if it lies there, else the bound
that it lies beyond. -/
structure IsClampOf (y x : Binary64) : Prop where
  below : x.le .zero = true → y = .zero
  within : Binary64.lt .zero x = true → x.lt .hundred = true → y = x
  above : Binary64.le .hundred x = true → y = .hundred

theorem isClampOf_clamp (x : Binary64) : IsClampOf (clamp x) x := by
  unfold clamp
  constructor
  case below =>
    -- Each case is the condition of one branch, so the others are ruled out by the order.
    intro hbelow
    have hlt : x.lt .hundred = true := Binary64.lt_of_le_of_lt hbelow Binary64.zero_lt_hundred
    rw [if_pos hlt]
    exact if_neg (Binary64.not_lt_of_le hbelow)
  case within =>
    intro hpos hlt
    rw [if_pos hlt]
    exact if_pos hpos
  case above =>
    intro habove
    rw [if_neg (Binary64.not_lt_of_le habove)]
    exact if_pos Binary64.zero_lt_hundred

theorem clamp_nan : clamp .nan = .hundred := by
  decide +kernel

/-- A number lies below the bounds of `clamp`, within them or above them. -/
theorem IsClampOf.cases {y x : Binary64} (h : IsClampOf y x) (hx : x ≠ .nan) :
    (x.le .zero = true ∧ y = .zero) ∨
      (Binary64.lt .zero x = true ∧ x.lt .hundred = true ∧ y = x) ∨
      (Binary64.le .hundred x = true ∧ y = .hundred) := by
  have hhundred := (Binary64.ne_nan_of_lt Binary64.zero_lt_hundred).2
  cases Binary64.le_or_lt hx (y := .zero) (by decide) with
  | inl hbelow => exact .inl ⟨hbelow, h.below hbelow⟩
  | inr hpos =>
    cases Binary64.le_or_lt hhundred hx with
    | inl habove => exact .inr (.inr ⟨habove, h.above habove⟩)
    | inr hlt => exact .inr (.inl ⟨hpos, hlt, h.within hpos hlt⟩)

/-- A share under `clamp` is a percentage. -/
theorem isPercentage_clamp (x : Binary64) : (clamp x).IsPercentage := by
  by_cases hx : x = .nan
  · rw [hx, clamp_nan]
    exact Binary64.isPercentage_hundred
  · rcases (isClampOf_clamp x).cases hx with ⟨_, hclamp⟩ | ⟨hpos, hlt, hclamp⟩ | ⟨_, hclamp⟩
    · rw [hclamp]
      exact Binary64.isPercentage_zero
    · rw [hclamp]
      exact Binary64.isPercentage_of_le (Binary64.le_of_lt hpos) (Binary64.le_of_lt hlt)
    · rw [hclamp]
      exact Binary64.isPercentage_hundred

/-- Shares that are `eqv` are the same under `clamp`, as there is but one zero there. -/
theorem clamp_congr {x y : Binary64} (h : x.eqv y = true) : clamp x = clamp y := by
  obtain ⟨hxy, hyx⟩ := Binary64.le_of_eqv h
  have hx := (Binary64.eqv_iff.mp h).1
  rcases (isClampOf_clamp x).cases hx with ⟨hbelow, hclamp⟩ | ⟨hpos, _, _⟩ | ⟨habove, hclamp⟩
  · rw [hclamp, (isClampOf_clamp y).below (Binary64.le_trans hyx hbelow)]
  · rw [Binary64.eq_of_eqv_of_pos h hpos]
  · rw [hclamp, (isClampOf_clamp y).above (Binary64.le_trans habove hxy)]

theorem rank_clamp {x : Binary64} (hx : x ≠ .nan) :
    (clamp x).rank = max 0 (min x.rank Binary64.hundred.rank) := by
  have hzero : Binary64.zero.rank = 0 := rfl
  have hhundred : 0 < Binary64.hundred.rank := by
    rw [Binary64.rank_hundred]
    decide +kernel
  -- Below, within or above the bounds, the rank is cut as the share is.
  rcases (isClampOf_clamp x).cases hx with ⟨hbelow, hclamp⟩ | ⟨hpos, hlt, hclamp⟩ |
    ⟨habove, hclamp⟩
  · have hle := (Binary64.le_iff_rank_le.mp hbelow).2.2
    rw [hclamp]
    omega
  · have hle := (Binary64.le_iff_rank_le.mp (Binary64.le_of_lt hpos)).2.2
    have hle' := (Binary64.le_iff_rank_le.mp (Binary64.le_of_lt hlt)).2.2
    rw [hclamp]
    omega
  · have hle := (Binary64.le_iff_rank_le.mp habove).2.2
    rw [hclamp]
    omega

/-- `clamp` keeps the order. -/
theorem clamp_mono {x y : Binary64} (h : x.le y = true) : (clamp x).le (clamp y) = true := by
  obtain ⟨hx, hy, hrank⟩ := Binary64.le_iff_rank_le.mp h
  have hx' := (isPercentage_clamp x).ne_nan
  have hy' := (isPercentage_clamp y).ne_nan
  refine Binary64.le_iff_rank_le.mpr ⟨hx', hy', ?_⟩
  rw [rank_clamp hx, rank_clamp hy]
  omega

/-- `clamp` leaves what lies within the bounds as it is. -/
theorem clamp_clamp (x : Binary64) : clamp (clamp x) = clamp x := by
  by_cases hx : x = .nan
  · rw [hx, clamp_nan]
    decide +kernel
  · rcases (isClampOf_clamp x).cases hx with ⟨_, hclamp⟩ | ⟨_, _, hclamp⟩ | ⟨_, hclamp⟩
    · rw [hclamp]
      decide +kernel
    · rw [hclamp, hclamp]
    · rw [hclamp]
      decide +kernel

/-- `clamp` is the same for two shares if neither is larger within the bounds. -/
theorem clamp_antisymm {x y : Binary64} (hxy : (clamp x).le (clamp y) = true)
    (hyx : (clamp y).le (clamp x) = true) : clamp x = clamp y := by
  have heqv : (clamp x).eqv (clamp y) = true := by rw [Binary64.eqv, hxy, hyx]; rfl
  rw [← clamp_clamp x, ← clamp_clamp y, clamp_congr heqv]

/-- The shares of the first, the first five and the first ten are percentages. -/
structure IsSound (h : Holders) : Prop where
  topShare : h.topShare.IsPercentage
  top5Share : h.top5Share.IsPercentage
  top10Share : h.top10Share.IsPercentage

/-- `Holders` of whom nothing is known have no shares. -/
theorem isSound_of_risks (risks : List String) : IsSound { risks := risks } :=
  ⟨Binary64.isPercentage_zero, Binary64.isPercentage_zero, Binary64.isPercentage_zero⟩

theorem isSound_summarize (limits : ConcentrationLimits) (l : List Holder) (h : Holders)
    (hs : summarize limits l = .ok h) : h.IsSound := by
  simp only [summarize] at hs
  split at hs
  · rw [← Except.ok.inj hs]
    exact isSound_of_risks _
  · obtain ⟨_, _, hpure⟩ := Except.bind_eq_ok_iff.mp hs
    cases hpure
    exact ⟨isPercentage_clamp _, isPercentage_clamp _, isPercentage_clamp _⟩

/-! ## Rankings -/

/-- A list of holders put in an order in which no share is below a later one. -/
structure IsRanking (r l : List Holder) : Prop where
  perm : r.Perm l
  falling : r.Pairwise fun a b => Binary64.le b.share a.share = true

/-- `insertHolder` adds a holder to a row. -/
private theorem insertHolder_perm (row : List Holder) (h : Holder) :
    (insertHolder row h).Perm (h :: row) := by
  unfold insertHolder
  refine List.perm_middle.trans ?_
  rw [List.take_append_drop]

private theorem arranged_perm (l : List Holder) : (arranged l).Perm l := by
  obtain ⟨n, falling, hrun⟩ : ∃ n falling, runLength l = (n, falling) := ⟨_, _, rfl⟩
  -- An insertion adds one holder, so the row takes in the rest.
  have hstep (row : List Holder) (h : Holder) : (insertHolder row h).Perm (row ++ [h]) :=
    (insertHolder_perm row h).trans (List.perm_append_singleton h row).symm
  have hfold (row rest : List Holder) : (rest.foldl insertHolder row).Perm (row ++ rest) := by
    have hcollected := (List.perm_foldl (f := id) (fun _ => True) id
      (fun row h _ => ⟨trivial, hstep row h⟩) rest row trivial).2
    rwa [List.map_id] at hcollected
  -- The first run may be turned around, which loses nobody.
  have hstart : (if falling then (l.take n).reverse else l.take n).Perm (l.take n) := by
    split
    · exact List.reverse_perm _
    · exact List.Perm.refl _
  simp only [arranged, hrun]
  refine (hfold _ _).trans ((hstart.append_right _).trans ?_)
  rw [List.take_append_drop]

/-- `ranked` loses no holder and adds none, however their shares compare. -/
theorem ranked_perm (l : List Holder) : (ranked l).Perm l := by
  unfold ranked
  split
  · exact (List.reverse_perm _).trans ((arranged_perm _).trans (List.reverse_perm _))
  · exact List.mergeSort_perm _ _

/-- `ranked` is a ranking where the shares can be compared. -/
theorem isRanking_ranked {l : List Holder} (hl : ∀ x ∈ l, x.share ≠ .nan) :
    IsRanking (ranked l) l := by
  have hany : ¬ l.any (·.share == .nan) = true := by
    rw [List.any_eq_true]
    intro ⟨x, hx, hnan⟩
    exact hl x hx (eq_of_beq hnan)
  -- The order of the ranks is total also on holders that are not in the list.
  have hsort : ranked l = l.mergeSort fun a b => decide (b.share.rank ≤ a.share.rank) := by
    rw [ranked, if_neg hany]
    have hle : ∀ a ∈ l, ∀ b ∈ l,
        Binary64.le b.share a.share = decide (b.share.rank ≤ a.share.rank) := by
      intro a ha b hb
      rw [Bool.eq_iff_iff, Binary64.le_iff_rank_le, decide_eq_true_eq]
      exact ⟨fun h => h.2.2, fun h => ⟨hl b hb, hl a ha, h⟩⟩
    have hmap := List.map_mergeSort (f := @id Holder)
      (s := fun a b => decide (b.share.rank ≤ a.share.rank)) hle
    rwa [List.map_id, List.map_id] at hmap
  have hperm := ranked_perm l
  -- Sorted by rank, the list is falling, as ranks are compared by a total order.
  have hfalling : (ranked l).Pairwise fun a b =>
      decide (b.share.rank ≤ a.share.rank) = true := by
    rw [hsort]
    apply List.pairwise_mergeSort
    · intro a b c hab hbc
      rw [decide_eq_true_eq] at hab hbc ⊢
      omega
    · intro a b
      rw [Bool.or_eq_true, decide_eq_true_eq, decide_eq_true_eq]
      omega
  refine ⟨hperm, hfalling.imp_of_mem ?_⟩
  -- Among shares that are numbers, ranks agree with their own order.
  intro a b ha hb hrank
  rw [decide_eq_true_eq] at hrank
  exact Binary64.le_iff_rank_le.mpr
    ⟨hl b (hperm.mem_iff.mp hb), hl a (hperm.mem_iff.mp ha), hrank⟩

/-- All lists that are an `IsRanking` of one list have the same ranks in their places. -/
theorem IsRanking.map_rank_eq {r r' l : List Holder} (h : IsRanking r l) (h' : IsRanking r' l) :
    r.map (·.share.rank) = r'.map (·.share.rank) := by
  have hsorted {r : List Holder} (h : IsRanking r l) :
      (r.map (·.share.rank)).Pairwise fun a b => b ≤ a :=
    h.falling.map _ fun _ _ hle => (Binary64.le_iff_rank_le.mp hle).2.2
  have hperm := (h.perm.trans h'.perm.symm).map (·.share.rank)
  exact hperm.eq_of_pairwise (fun a b _ _ hab hba => Int.le_antisymm hba hab) (hsorted h)
    (hsorted h')

/-- A holder than whom nobody has a larger share. -/
structure IsLargest (x : Holder) (l : List Holder) : Prop where
  mem : x ∈ l
  le : ∀ y ∈ l, Binary64.le y.share x.share = true

/-- Under `clamp`, all largest holders have the same share. -/
theorem IsLargest.clamp_eq {x y : Holder} {l : List Holder} (hx : IsLargest x l)
    (hy : IsLargest y l) : clamp x.share = clamp y.share := by
  apply clamp_congr
  rw [Binary64.eqv, hy.le x hx.mem, hx.le y hy.mem]
  rfl

/-- An `IsRanking` starts with a largest holder. -/
theorem IsRanking.isLargest_head {top : Holder} {rest l : List Holder}
    (h : IsRanking (top :: rest) l) (htop : top.share ≠ .nan) : IsLargest top l := by
  refine ⟨h.perm.mem_iff.mp List.mem_cons_self, ?_⟩
  intro y hy
  cases List.mem_cons.mp (h.perm.mem_iff.mpr hy) with
  | inl heq =>
    rw [heq]
    exact Binary64.le_refl htop
  | inr hrest => exact List.rel_of_pairwise_cons h.falling hrest

/-! ## What the first holders own -/

/-- All rankings have the same `shareOfFirst`. -/
theorem IsRanking.shareOfFirst_eq {r r' l : List Holder} (h : IsRanking r l) (h' : IsRanking r' l)
    (hl : ∀ x ∈ l, x.share.IsFinite) (n : Nat) : shareOfFirst n r = shareOfFirst n r' := by
  have hfinite {r : List Holder} (h : IsRanking r l) :
      ∀ y ∈ (r.take n).map Holder.share, y.IsFinite :=
    List.forall_mem_map.mpr fun x hx => hl x (h.perm.mem_iff.mp (List.mem_of_mem_take hx))
  have hranks : ((r.take n).map Holder.share).map Binary64.rank =
      ((r'.take n).map Holder.share).map Binary64.rank := by
    rw [List.map_map, List.map_map, List.map_take, List.map_take]
    exact congrArg (List.take n) (h.map_rank_eq h')
  exact clamp_congr
    (Binary64.eqv_foldl_add (hfinite h) (hfinite h') hranks (Binary64.eqv_refl (by decide)))

theorem IsRanking.shareOfFirst_ranked {r l : List Holder} (h : IsRanking r l)
    (hl : ∀ x ∈ l, x.share.IsFinite) (n : Nat) :
    shareOfFirst n (ranked l) = shareOfFirst n r :=
  (isRanking_ranked fun x hx => (hl x hx).ne_nan).shareOfFirst_eq h hl n

/-- `shareOfFirst 1` is the share of the first one. -/
theorem shareOfFirst_one {top : Holder} (rest : List Holder) (h : top.share.IsFinite) :
    shareOfFirst 1 (top :: rest) = clamp top.share :=
  clamp_congr (Binary64.eqv_zero_add h)

/-- If nobody's share is negative, `shareOfFirst` grows with the number of holders. -/
theorem shareOfFirst_mono {r : List Holder} (hfinite : ∀ x ∈ r, x.share.IsFinite)
    (hnonneg : ∀ x ∈ r, Binary64.le .zero x.share = true) {n m : Nat} (h : n ≤ m) :
    Binary64.le (shareOfFirst n r) (shareOfFirst m r) = true := by
  obtain ⟨k, rfl⟩ := Nat.exists_eq_add_of_le h
  apply clamp_mono
  rw [List.take_add, List.map_append, Binary64.sum, Binary64.sum, List.foldl_append]
  -- The sum of the first ones goes on, and what is added to it is not negative.
  have hstart : ((r.take n).map Holder.share).foldl Binary64.add .zero ≠ .nan := by
    apply Binary64.foldl_add_ne_nan
    · exact List.forall_mem_map.mpr fun x hx => hfinite x (List.mem_of_mem_take hx)
    · decide
  have hlater : ∀ x ∈ (r.drop n).take k, x ∈ r := fun x hx =>
    List.mem_of_mem_drop (List.mem_of_mem_take hx)
  apply Binary64.le_foldl_add _ _ _ hstart
  · exact List.forall_mem_map.mpr fun x hx => hfinite x (hlater x hx)
  · exact List.forall_mem_map.mpr fun x hx => hnonneg x (hlater x hx)

/-! ## Summaries -/

/-- The fields of a summary of ranked holders, but for the address of the first. -/
structure IsSummary (limits : ConcentrationLimits) (r : List Holder) (h : Holders) : Prop where
  total : h.total = r.length
  topShare : ∃ top ∈ r.head?, h.topShare = clamp top.share
  top5Share : h.top5Share = shareOfFirst 5 r
  top10Share : h.top10Share = shareOfFirst 10 r
  found : ⟨h.risks, h.isConcentrated⟩ =
    Concentration.ofShares limits h.topShare h.top5Share h.top10Share

/-- `summarize` comes to a summary for holders whose addresses are texts. -/
theorem exists_isSummary (limits : ConcentrationLimits) {l : List Holder} (hne : l ≠ [])
    (htext : ∀ x ∈ l, ∃ s, x.address = .string s) :
    ∃ h, summarize limits l = .ok h ∧ IsSummary limits (ranked l) h := by
  have hperm := ranked_perm l
  unfold summarize
  cases hranked : ranked l with
  | nil =>
    rw [hranked] at hperm
    exact absurd hperm.nil_eq.symm hne
  | cons top rest =>
    rw [hranked] at hperm
    obtain ⟨s, hs⟩ := htext top (hperm.mem_iff.mp List.mem_cons_self)
    simp only [hs]
    exact ⟨_, rfl, rfl, ⟨top, rfl, rfl⟩, rfl, rfl, rfl⟩

namespace IsSummary

variable {limits : ConcentrationLimits} {r : List Holder} {h : Holders}

/-- `isConcentrated` is set exactly if there are `risks`. -/
theorem isConcentrated_iff_risks (hs : IsSummary limits r h) :
    h.isConcentrated = true ↔ h.risks ≠ [] := by
  have hmarked := Concentration.isMarked_ofShares limits h.topShare h.top5Share h.top10Share
  rwa [← hs.found] at hmarked

/-- Holdings are concentrated exactly if one of the `ConcentrationLimits` is exceeded. -/
theorem isConcentrated_iff (hs : IsSummary limits r h) : h.isConcentrated = true ↔
    limits.topExtreme.lt h.topShare = true ∨ limits.topHigh.lt h.topShare = true ∨
      limits.top5.lt h.top5Share = true ∨ limits.top10.lt h.top10Share = true := by
  have hmark : h.isConcentrated =
      (Concentration.ofShares limits h.topShare h.top5Share h.top10Share).isConcentrated :=
    congrArg Concentration.isConcentrated hs.found
  rw [hmark]
  -- Each comparison sets `isConcentrated`, or leaves it as the comparisons before have set it.
  unfold Concentration.ofShares Concentration.checkTop10 Concentration.checkTop5
    Concentration.checkTop Concentration.found
  cases limits.topExtreme.lt h.topShare <;> cases limits.topHigh.lt h.topShare <;>
    cases limits.top5.lt h.top5Share <;> cases limits.top10.lt h.top10Share <;> simp

end IsSummary

/-- The shares are those of a largest holder, of the five and of the ten largest ones, brought
between bounds. It does not matter which ones of equal holders come first. -/
structure Measures (h : Holders) (l : List Holder) : Prop where
  exists_largest : ∃ x, IsLargest x l
  exists_ranking : ∃ r, IsRanking r l
  topShare : ∀ x, IsLargest x l → IsClampOf h.topShare x.share
  top5Share : ∀ r, IsRanking r l → IsClampOf h.top5Share (.sum ((r.take 5).map Holder.share))
  top10Share : ∀ r, IsRanking r l → IsClampOf h.top10Share (.sum ((r.take 10).map Holder.share))

section Finite

variable {limits : ConcentrationLimits} {l m : List Holder} {h h' : Holders}

/-- The shares of a summary are what the first one, the first five and the first ten own. -/
structure Shows (h : Holders) (r : List Holder) : Prop where
  topShare : h.topShare = shareOfFirst 1 r
  top5Share : h.top5Share = shareOfFirst 5 r
  top10Share : h.top10Share = shareOfFirst 10 r

theorem IsSummary.shows {r : List Holder} (hs : IsSummary limits r h)
    (hr : ∀ x ∈ r, x.share.IsFinite) : h.Shows r := by
  refine ⟨?_, hs.top5Share, hs.top10Share⟩
  obtain ⟨top, hhead, htop⟩ := hs.topShare
  obtain ⟨rest, rfl⟩ := List.head?_eq_some_iff.mp hhead
  rw [htop, shareOfFirst_one rest (hr top List.mem_cons_self)]

/-- An `IsSummary` of equally many holders with the same shares differs in the address on display at
most. -/
theorem IsSummary.eq_of_shares {r r' : List Holder} (hs : IsSummary limits r h)
    (hs' : IsSummary limits r' h') (hr : ∀ x ∈ r, x.share.IsFinite)
    (hr' : ∀ x ∈ r', x.share.IsFinite) (hlength : r'.length = r.length)
    (hshares : ∀ n ∈ [1, 5, 10], shareOfFirst n r' = shareOfFirst n r) :
    h' = { h with topAddress := h'.topAddress } := by
  have htop : h'.topShare = h.topShare := by
    rw [(hs.shows hr).topShare, (hs'.shows hr').topShare, hshares 1 (by decide)]
  have htop5 : h'.top5Share = h.top5Share := by
    rw [hs.top5Share, hs'.top5Share, hshares 5 (by decide)]
  have htop10 : h'.top10Share = h.top10Share := by
    rw [hs.top10Share, hs'.top10Share, hshares 10 (by decide)]
  have htotal : h'.total = h.total := by
    rw [hs.total, hs'.total, hlength]
  -- The findings are read off the shares.
  have hfound : (⟨h'.risks, h'.isConcentrated⟩ : Concentration) =
      ⟨h.risks, h.isConcentrated⟩ := by
    rw [hs.found, hs'.found, htop, htop5, htop10]
  obtain ⟨hrisks, hconcentrated⟩ := Concentration.mk.inj hfound
  rw [← htop, ← htop5, ← htop10, ← htotal, ← hrisks, ← hconcentrated]

/-- An `IsSummary` starts with a largest holder. -/
theorem IsSummary.exists_largest (hs : IsSummary limits (ranked l) h)
    (hl : ∀ x ∈ l, x.share.IsFinite) : ∃ x, IsLargest x l ∧ h.topShare = clamp x.share := by
  have hranking := isRanking_ranked fun x hx => (hl x hx).ne_nan
  obtain ⟨top, hhead, htop⟩ := hs.topShare
  obtain ⟨rest, hrest⟩ := List.head?_eq_some_iff.mp hhead
  rw [hrest] at hranking
  have hmem := hranking.perm.mem_iff.mp List.mem_cons_self
  exact ⟨top, hranking.isLargest_head (hl top hmem).ne_nan, htop⟩

theorem IsSummary.measures (hs : IsSummary limits (ranked l) h)
    (hl : ∀ x ∈ l, x.share.IsFinite) : h.Measures l := by
  have hranking := isRanking_ranked fun x hx => (hl x hx).ne_nan
  obtain ⟨x, hx, htop⟩ := hs.exists_largest hl
  constructor
  case exists_largest => exact ⟨x, hx⟩
  case exists_ranking => exact ⟨_, hranking⟩
  case topShare =>
    intro y hy
    rw [htop, hx.clamp_eq hy]
    exact isClampOf_clamp _
  -- Any other ranking gives the first holders the same share.
  case top5Share =>
    intro r hr
    rw [hs.top5Share, hranking.shareOfFirst_eq hr hl]
    exact isClampOf_clamp _
  case top10Share =>
    intro r hr
    rw [hs.top10Share, hranking.shareOfFirst_eq hr hl]
    exact isClampOf_clamp _

/-- The order of a list can change the `topAddress` of its summary, but nothing else. -/
theorem IsSummary.eq_of_perm (hs : IsSummary limits (ranked l) h)
    (hs' : IsSummary limits (ranked m) h') (hl : ∀ x ∈ l, x.share.IsFinite) (hperm : l.Perm m) :
    h' = { h with topAddress := h'.topAddress } := by
  have hm : ∀ x ∈ m, x.share.IsFinite := fun x hx => hl x (hperm.mem_iff.mpr hx)
  have hranking := isRanking_ranked fun x hx => (hl x hx).ne_nan
  have hranking' := isRanking_ranked fun x hx => (hm x hx).ne_nan
  apply hs.eq_of_shares hs'
  · exact fun x hx => hl x (hranking.perm.mem_iff.mp hx)
  · exact fun x hx => hm x (hranking'.perm.mem_iff.mp hx)
  · rw [hranking.perm.length_eq, hranking'.perm.length_eq, hperm.length_eq]
  · exact fun n _ =>
      hranking'.shareOfFirst_eq ⟨hranking.perm.trans hperm, hranking.falling⟩ hm n

theorem IsSummary.shares_le (hs : IsSummary limits (ranked l) h)
    (hl : ∀ x ∈ l, x.share.IsFinite) (hnonneg : ∀ x ∈ l, Binary64.le .zero x.share = true) :
    h.topShare.le h.top5Share = true ∧ h.top5Share.le h.top10Share = true := by
  have hperm := ranked_perm l
  have hfinite : ∀ x ∈ ranked l, x.share.IsFinite := fun x hx => hl x (hperm.mem_iff.mp hx)
  have hmono {n k : Nat} (hle : n ≤ k) := shareOfFirst_mono hfinite
    (fun x hx => hnonneg x (hperm.mem_iff.mp hx)) hle
  rw [(hs.shows hfinite).topShare, hs.top5Share, hs.top10Share]
  exact ⟨hmono (by decide), hmono (by decide)⟩

end Finite

/-- What a summary promises about a list of holders: some of it for whatever shares, the rest for
finite ones. -/
structure KeepsLaws (limits : ConcentrationLimits) (l : List Holder) (h : Holders) : Prop where
  isSound : h.IsSound
  concentrated_iff : h.isConcentrated = true ↔ h.risks ≠ []
  exceeded_iff : h.isConcentrated = true ↔ limits.topExtreme.lt h.topShare = true ∨
    limits.topHigh.lt h.topShare = true ∨ limits.top5.lt h.top5Share = true ∨
    limits.top10.lt h.top10Share = true
  measures : (∀ x ∈ l, x.share.IsFinite) → h.Measures l
  reordered : (∀ x ∈ l, x.share.IsFinite) → ∀ m, l.Perm m →
    ∃ h', summarize limits m = .ok h' ∧ h' = { h with topAddress := h'.topAddress }
  shares_le : (∀ x ∈ l, x.share.IsFinite) → (∀ x ∈ l, Binary64.le .zero x.share = true) →
    h.topShare.le h.top5Share = true ∧ h.top5Share.le h.top10Share = true

/-- Whatever the limits are, `summarize` comes to a summary for holders with addresses, and the
summary keeps the laws. -/
theorem summarize_keepsLaws (limits : ConcentrationLimits) (l : List Holder) (hne : l ≠ [])
    (htext : ∀ x ∈ l, ∃ s, x.address = .string s) :
    ∃ h, summarize limits l = .ok h ∧ KeepsLaws limits l h := by
  obtain ⟨h, hok, hs⟩ := exists_isSummary limits hne htext
  refine ⟨h, hok, ?_⟩
  constructor
  case isSound => exact isSound_summarize limits l h hok
  case concentrated_iff => exact hs.isConcentrated_iff_risks
  case exceeded_iff => exact hs.isConcentrated_iff
  case measures => exact hs.measures
  case reordered =>
    intro hl m hperm
    -- The same holders in any other order have a summary of their own, and it is the same.
    have hne' : m ≠ [] := fun hnil => hne (by rw [hnil] at hperm; exact hperm.eq_nil)
    obtain ⟨h', hok', hs'⟩ := exists_isSummary limits hne' fun x hx =>
      htext x (hperm.mem_iff.mpr hx)
    exact ⟨h', hok', hs.eq_of_perm hs' hl hperm⟩
  case shares_le => exact hs.shares_le

/-- Five holders in no order: two are equally large, and two have nothing, with either sign. -/
def unrankedHolders : List Holder :=
  [⟨.string "0xA", .ofInt 40⟩, ⟨.string "0xB", .finite (.zero true)⟩, ⟨.string "0xC", .ofInt 4⟩,
    ⟨.string "0xD", .zero⟩, ⟨.string "0xE", .ofInt 40⟩]

/-- Two shares that are no percentages. -/
def oddHolders : List Holder :=
  [⟨.string "0xA", .nan⟩, ⟨.string "0xB", .infinite true⟩]

theorem summarize_keepsLaws_unranked :
    (∃ h h', summarize {} unrankedHolders = .ok h ∧
      summarize {} unrankedHolders.reverse = .ok h' ∧ h.Measures unrankedHolders ∧
      h.topShare = .ofInt 40 ∧ h' = { h with topAddress := h'.topAddress } ∧
      h.isConcentrated = true ∧ h.topShare.le h.top5Share = true ∧
      h.top5Share.le h.top10Share = true) ∧
    ∃ h, summarize {} oddHolders = .ok h ∧ h.IsSound := by
  have hfinite : ∀ x ∈ unrankedHolders, x.share.IsFinite := by decide +kernel
  have hnonneg : ∀ x ∈ unrankedHolders, Binary64.le .zero x.share = true := by decide +kernel
  obtain ⟨h, hok, hlaws⟩ := summarize_keepsLaws {} unrankedHolders (by simp [unrankedHolders])
    (by simp [unrankedHolders])
  -- Laws of any order apply to this one and to its reverse.
  obtain ⟨h', hok', hreversed⟩ := hlaws.reordered hfinite _ (List.reverse_perm _).symm
  -- The largest share is 40, which no bound cuts.
  obtain ⟨x, hx, hshare⟩ : ∃ x, IsLargest x unrankedHolders ∧ x.share = .ofInt 40 :=
    ⟨⟨.string "0xA", .ofInt 40⟩, ⟨List.mem_cons_self, by decide +kernel⟩, by dsimp only⟩
  have hmeasures := hlaws.measures hfinite
  have hpos : Binary64.lt .zero (.ofInt 40) = true := by decide +kernel
  have hlow : Binary64.lt (.ofInt 40) .hundred = true := by decide +kernel
  have hclamp := hmeasures.topShare x hx
  rw [hshare] at hclamp
  have htop : h.topShare = .ofInt 40 := hclamp.within hpos hlow
  -- A share of 40 is beyond the limit for a single holder.
  have hhigh : ({} : ConcentrationLimits).topHigh.lt h.topShare = true := by
    rw [htop]
    decide +kernel
  have hconcentrated := hlaws.exceeded_iff.mpr (.inr (.inl hhigh))
  obtain ⟨odd, hodd, hoddLaws⟩ := summarize_keepsLaws {} oddHolders (by simp [oddHolders])
    (by simp [oddHolders])
  exact ⟨⟨h, h', hok, hok', hmeasures, htop, hreversed, hconcentrated,
    hlaws.shares_le hfinite hnonneg⟩, odd, hodd, hoddLaws.isSound⟩

end Holders

end TokenRisk
