import TokenRisk.Proofs.Growth
import TokenRisk.Proofs.Verifier

/-!
# Samples of holders

Of the holders that an explorer sends, a sample from the front of the list is looked at, and the
sample is taken before the holders are ranked. So of a list that is longer than the sample it
depends on the order who is looked at. Every sample is outdone by that of the largest holders and
outdoes that of the smallest ones. So the order makes no difference exactly where these two show
the same shares, as they do where the list is no longer than the sample.

## Key results

- `Holders.isOutdoneBy_largest`, `Holders.smallest_isOutdoneBy`: what a sample can show
- `Analyzer.exists_found`: what is found about the holders that are sent
- `Analyzer.ignoresOrder_iff`: when the order of the holders makes no difference
-/

namespace TokenRisk

namespace Holders

/-! ## The largest and the smallest holders -/

/-- In falling order, those who are `reaching` a share come first. -/
private theorem reaching_take {r : List Holder}
    (hr : r.Pairwise fun a b => b.share.rank ≤ a.share.rank) (t : Int) (n : Nat) :
    reaching t (r.take n) = min n (reaching t r) := by
  induction r generalizing n with
  | nil => simp [reaching]
  | cons x r ih =>
    obtain ⟨hxr, hr⟩ := List.pairwise_cons.mp hr
    cases n with
    | zero => simp [reaching]
    | succ n =>
      have hrest := ih hr n
      simp only [reaching, List.take_succ_cons, List.countP_cons, decide_eq_true_eq] at hrest ⊢
      by_cases htx : t ≤ x.share.rank
      · rw [if_pos htx]
        omega
      · -- If the first one does not reach the rank, nobody behind does.
        have hnone : r.countP (fun w => decide (t ≤ w.share.rank)) = 0 :=
          reaching_eq_zero hxr htx
        rw [if_neg htx]
        omega

private theorem reaching_take_add_drop (t : Int) (n : Nat) (l : List Holder) :
    reaching t (l.take n) + reaching t (l.drop n) = reaching t l := by
  rw [reaching, reaching, ← List.countP_append, List.take_append_drop, reaching]

variable {r l m : List Holder}

/-- Any other sample `IsOutdoneBy` the largest holders. -/
theorem isOutdoneBy_largest (hr : IsRanking r l) (hm : m.Perm l) (n : Nat) :
    IsOutdoneBy (m.take n) (r.take n) := by
  intro t
  rw [reaching_take hr.rank_falling, reaching_perm t hr.perm, ← reaching_perm t hm]
  have hsample : reaching t (m.take n) ≤ (m.take n).length := List.countP_le_length
  have hall : reaching t (m.take n) ≤ reaching t m := (List.take_sublist n m).countP_le
  rw [List.length_take] at hsample
  omega

/-- The smallest holders are a list that `IsOutdoneBy` any other sample. -/
theorem smallest_isOutdoneBy (hr : IsRanking r l) (hm : m.Perm l) (n : Nat) :
    IsOutdoneBy (r.drop (r.length - n)) (m.take n) := by
  intro t
  have hlength := hr.perm.length_eq
  have hlength' := hm.length_eq
  have hsplit := reaching_take_add_drop t n m
  have hsplit' := reaching_take_add_drop t (r.length - n) r
  have hothers : reaching t (m.drop n) ≤ (m.drop n).length := List.countP_le_length
  rw [List.length_drop] at hothers
  rw [reaching_take hr.rank_falling, reaching_perm t hr.perm, ← reaching_perm t hm] at hsplit'
  omega

/-- Of equally many holders, those who outdo the others have no smaller `shareOfFirst`. -/
theorem shareOfFirst_le_of_isOutdoneBy {r' : List Holder} (hr : IsRanking r l)
    (hr' : IsRanking r' m) (hl : ∀ x ∈ l, x.share.IsFinite) (hm : ∀ x ∈ m, x.share.IsFinite)
    (h : IsOutdoneBy l m) (hlength : m.length = l.length) (n : Nat) :
    (shareOfFirst n r).le (shareOfFirst n r') = true := by
  rw [shareOfFirst_eq_foldl, shareOfFirst_eq_foldl]
  apply clamp_mono
  exact keepsOrder_add.foldl (by decide)
    (hr.forall₂_take hr' hl hm h (.inr (Nat.le_of_eq hlength)))

/-- The shares that `take` leaves are finite where all are. -/
theorem isFinite_take (hm : m.Perm l) (hl : ∀ x ∈ l, x.share.IsFinite) (n : Nat) :
    ∀ x ∈ m.take n, x.share.IsFinite :=
  fun x hx => hm.forall_mem hl x (List.mem_of_mem_take hx)

/-- What is cut out of an `IsRanking` is ranked. -/
theorem IsRanking.of_sublist {part : List Holder} (hr : IsRanking r l) (h : part.Sublist r) :
    IsRanking part part :=
  ⟨List.Perm.refl part, hr.falling.sublist h⟩

/-- Summaries that differ in the `topAddress` at most tell the same of those they were made of. -/
theorem Shows.shareOfFirst_eq {h h' : Holders} (hs : h.Shows r) (hs' : h'.Shows m)
    (halike : h' = { h with topAddress := h'.topAddress }) :
    ∀ k ∈ [1, 5, 10], shareOfFirst k r = shareOfFirst k m := by
  have htop : h'.topShare = h.topShare := by rw [halike]
  have htop5 : h'.top5Share = h.top5Share := by rw [halike]
  have htop10 : h'.top10Share = h.top10Share := by rw [halike]
  rw [hs.topShare, hs'.topShare] at htop
  rw [hs.top5Share, hs'.top5Share] at htop5
  rw [hs.top10Share, hs'.top10Share] at htop10
  simp [htop, htop5, htop10]

/-- Where the smallest holders own what the largest ones do, `shareOfFirst` is the same for any
sample. -/
theorem shareOfFirst_sample (hr : IsRanking r l) (hm : m.Perm l)
    (hl : ∀ x ∈ l, x.share.IsFinite) (n k : Nat)
    (h : shareOfFirst k (r.take n) = shareOfFirst k (r.drop (r.length - n))) :
    shareOfFirst k (ranked (m.take n)) = shareOfFirst k (r.take n) := by
  have hlength := hr.perm.length_eq
  have hlength' := hm.length_eq
  have hsample := isFinite_take hm hl n
  have hranked := isRanking_ranked fun x hx => (hsample x hx).ne_nan
  -- The sample lies between the two, and they are equal.
  have hsmallest : ∀ x ∈ r.drop (r.length - n), x.share.IsFinite :=
    fun x hx => hr.perm.forall_mem hl x (List.mem_of_mem_drop hx)
  have hbelow := shareOfFirst_le_of_isOutdoneBy hranked (hr.of_sublist (List.take_sublist n r))
    hsample (isFinite_take hr.perm hl n) (isOutdoneBy_largest hr hm n)
    (by rw [List.length_take, List.length_take]; omega) k
  have habove := shareOfFirst_le_of_isOutdoneBy (hr.of_sublist (List.drop_sublist _ r)) hranked
    hsmallest hsample (smallest_isOutdoneBy hr hm n)
    (by rw [List.length_take, List.length_drop]; omega) k
  rw [← h] at habove
  exact clamp_antisymm hbelow habove

end Holders

namespace Analyzer

open Holders

/-! ## What is found about the holders that are sent -/

/-- What `holders` come to is the summary of the sample. -/
theorem exists_found (a : Analyzer) (address : String) (chainId : Int) {m : List Holder}
    (hsize : 1 ≤ a.sampleSize) (hm : ∀ x ∈ m, x.share.IsFinite) (htyped : ∀ x ∈ m, x.IsTyped)
    (hanswer : a.holdersAnswer address chainId = .ok m) :
    ∃ h, (a.holders address chainId).value = .ok (h, []) ∧
      h.Shows (ranked (m.take a.sampleSize.toNat)) ∧
      (m ≠ [] → IsSummary {} (ranked (m.take a.sampleSize.toNat)) h) ∧
      (m = [] → h = { risks := [noHoldersRisk] }) := by
  have hsample : sample a.sampleSize m = m.take a.sampleSize.toNat :=
    if_pos (Int.le_trans (by decide) hsize)
  obtain ⟨h, hok, hshows, hs⟩ := exists_shows {}
    (fun x hx => hm x (List.mem_of_mem_take hx))
    (fun x hx => htyped x (List.mem_of_mem_take (i := a.sampleSize.toNat) hx))
  have hfound : (a.holders address chainId).value = .ok (h, []) := by
    rw [value_holders, hanswer]
    simp only [hsample, hok]
    rfl
  -- A sample of a list that is not empty is not empty, so the summary is one of its holders.
  refine ⟨h, hfound, hshows, fun hne => ?_, fun hnil => ?_⟩
  · refine hs.resolve_right fun ⟨hnone, _⟩ => ?_
    rcases List.take_eq_nil_iff.mp hnone with hzero | hnil
    · omega
    · exact hne hnil
  · rcases hs with hs | ⟨_, hnone⟩
    · -- Nobody is ranked in an empty list.
      obtain ⟨top, hhead, _⟩ := hs.topShare
      rw [hnil, List.take_nil, (ranked_perm []).eq_nil] at hhead
      cases hhead
    · exact hnone

/-- Whatever order the holders of a list are sent in, what is found about a sample of `n` of them is
the same but for the address on display, and the share of the first one is that of a largest holder
of the whole list. -/
def IgnoresOrder (n : Int) (l : List Holder) : Prop :=
  ∀ (a b : Analyzer) (address : String) (chainId : Int) (m m' : List Holder),
    a.sampleSize = n → b.sampleSize = n → m.Perm l → m'.Perm l →
    a.holdersAnswer address chainId = .ok m → b.holdersAnswer address chainId = .ok m' →
    ∃ h h', (a.holders address chainId).value = .ok (h, []) ∧
      (b.holders address chainId).value = .ok (h', []) ∧
      h' = { h with topAddress := h'.topAddress } ∧
      ∀ x, IsLargest x l → h.topShare = clamp x.share

section Order

variable {n : Int} {l r : List Holder}

/-- An analyzer that is sent the given holders, whoever is asked about. -/
private def sent (n : Int) (m : List Holder) : Analyzer :=
  { (Scene.plain (.ok m) 0).analyzer with sampleSize := n }

/-- If `IgnoresOrder` holds, the smallest holders show the same shares as the largest. -/
private theorem shares_eq_of_ignoresOrder (hn : 1 ≤ n) (hr : IsRanking r l)
    (hl : ∀ x ∈ l, x.share.IsFinite) (htyped : ∀ x ∈ l, x.IsTyped) (h : IgnoresOrder n l) :
    ∀ k ∈ [1, 5, 10],
      shareOfFirst k (r.take n.toNat) = shareOfFirst k (r.drop (r.length - n.toNat)) := by
  -- In falling order the largest holders are sampled, in rising order the smallest ones.
  have hrising : r.reverse.Perm l := (List.reverse_perm r).trans hr.perm
  obtain ⟨g, hfound, hshows, _⟩ := (sent n r).exists_found "" 0 hn (hr.perm.forall_mem hl)
    (hr.perm.forall_mem htyped) rfl
  obtain ⟨g', hfound', hshows', _⟩ := (sent n r.reverse).exists_found "" 0 hn
    (hrising.forall_mem hl) (hrising.forall_mem htyped) rfl
  obtain ⟨f, f', hf, hf', halike, _⟩ := h (sent n r) (sent n r.reverse) "" 0 r r.reverse
    rfl rfl hr.perm hrising rfl rfl
  obtain rfl : f = g := congrArg Prod.fst (Except.ok.inj (hf.symm.trans hfound))
  obtain rfl : f' = g' := congrArg Prod.fst (Except.ok.inj (hf'.symm.trans hfound'))
  intro k hk
  -- What two orders agree on are the three shares of their samples.
  have heq := hshows.shareOfFirst_eq hshows' halike k hk
  have hlargest := hr.of_sublist (List.take_sublist n.toNat r)
  -- In rising order the sample is what stands last in the ranking, turned around.
  have hsmallest : IsRanking (r.drop (r.length - n.toNat)) (r.reverse.take n.toNat) := by
    refine ⟨?_, hr.falling.sublist (List.drop_sublist _ r)⟩
    rw [List.take_reverse]
    exact (List.reverse_perm _).symm
  rw [← hlargest.shareOfFirst_ranked (isFinite_take hr.perm hl _),
    ← hsmallest.shareOfFirst_ranked (isFinite_take hrising hl _)]
  exact heq

/-- `IgnoresOrder` holds exactly where the smallest holders that make up a sample show the same
shares as the largest ones. -/
theorem ignoresOrder_iff (n : Int) (hn : 1 ≤ n) (l r : List Holder) (hr : IsRanking r l)
    (hl : ∀ x ∈ l, x.share.IsFinite) (htyped : ∀ x ∈ l, x.IsTyped) :
    IgnoresOrder n l ↔ ∀ k ∈ [1, 5, 10],
      shareOfFirst k (r.take n.toNat) = shareOfFirst k (r.drop (r.length - n.toNat)) := by
  refine ⟨shares_eq_of_ignoresOrder hn hr hl htyped, ?_⟩
  intro hshares a b address chainId m m' ha hb hm hm' hanswer hanswer'
  obtain ⟨h, hfound, hshows, hs, hnone⟩ := a.exists_found address chainId (by rw [ha]; exact hn)
    (hm.forall_mem hl) (hm.forall_mem htyped) hanswer
  obtain ⟨h', hfound', hshows', hs', hnone'⟩ := b.exists_found address chainId
    (by rw [hb]; exact hn) (hm'.forall_mem hl) (hm'.forall_mem htyped) hanswer'
  rw [ha] at hshows hs
  rw [hb] at hshows' hs'
  have hsample {m : List Holder} (hm : m.Perm l) (k : Nat) (hk : k ∈ [1, 5, 10]) :=
    shareOfFirst_sample hr hm hl n.toNat k (hshares k hk)
  -- All measures are functions of the three shares, and of how many are sampled.
  refine ⟨h, h', hfound, hfound', ?_, ?_⟩
  · -- Without holders nothing is sampled in any order.
    by_cases hnil : l = []
    · rw [hnil] at hm hm'
      rw [hnone hm.eq_nil, hnone' hm'.eq_nil]
    · have hne {m : List Holder} (hm : m.Perm l) : m ≠ [] := by
        intro h
        rw [h] at hm
        exact hnil hm.nil_eq.symm
      have hpart {m : List Holder} (hm : m.Perm l) :
          ∀ x ∈ ranked (m.take n.toNat), x.share.IsFinite :=
        (ranked_perm _).forall_mem (isFinite_take hm hl _)
      apply (hs (hne hm)).eq_of_shares (hs' (hne hm')) (hpart hm) (hpart hm')
      · rw [(ranked_perm _).length_eq, (ranked_perm _).length_eq, List.length_take,
          List.length_take, hm.length_eq, hm'.length_eq]
      · intro k hk
        rw [hsample hm' k hk, hsample hm k hk]
  · -- The share that is displayed is that of the first holder in the ranking.
    intro x hx
    obtain ⟨N, hN⟩ : ∃ N, n.toNat = N + 1 := ⟨n.toNat - 1, by omega⟩
    rw [hshows.topShare, hsample hm 1 (by decide), hN]
    cases r with
    | nil => cases hr.perm.mem_iff.mpr hx.mem
    | cons top rest =>
      have htop := hl top (hr.perm.mem_iff.mp List.mem_cons_self)
      rw [List.take_succ_cons, shareOfFirst_one _ htop]
      exact (hr.isLargest_head htop.ne_nan).clamp_eq hx

/-- Ten small holders and, behind them, one who owns more than all of them. -/
def hiddenWhale : List Holder :=
  List.replicate 10 ⟨.string "0xA", .ofInt 1⟩ ++ [⟨.string "0xB", .ofInt 60⟩]

theorem isRanking_hiddenWhale : IsRanking hiddenWhale.reverse hiddenWhale :=
  ⟨List.reverse_perm _, by decide +kernel⟩

/-- A sample of ten may miss the large holder of `hiddenWhale`, one of eleven does not. -/
theorem whale_hides_behind_sample :
    ¬ IgnoresOrder 10 hiddenWhale ∧ IgnoresOrder 11 hiddenWhale := by
  have hfinite : ∀ x ∈ hiddenWhale, x.share.IsFinite := by decide +kernel
  have htyped : ∀ x ∈ hiddenWhale, x.IsTyped := by
    simp [hiddenWhale, Holder.IsTyped, Json.IsText]
  rw [ignoresOrder_iff 10 (by decide) _ _ isRanking_hiddenWhale hfinite htyped,
    ignoresOrder_iff 11 (by decide) _ _ isRanking_hiddenWhale hfinite htyped]
  exact ⟨by decide +kernel, by decide +kernel⟩

end Order

end Analyzer

end TokenRisk
