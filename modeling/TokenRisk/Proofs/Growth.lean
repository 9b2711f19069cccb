import Mathlib.Data.List.Forall2
import TokenRisk.Proofs.Answers

/-!
# Growing holdings

A list of holders grows when holders get larger shares and when further holders come in who own
nothing negative. A larger share can put others among the first holders. But each share is then
reached by at least as many holders as before, so the ranking holds no smaller share in any place,
and sums of what stands in corresponding places keep their order, whether they are rounded at each
step or not.

## Key results

- `Holders.IsRanking.forall₂_take`: rankings compared place by place
- `Holders.KeepsOrder.foldl_take_of_isGrown`: sums over the first holders of a grown list
- `Holders.summarize_isGrown`: growth is never reported as less concentration
-/

namespace TokenRisk

/-- Two finite doubles of which the first is no larger. -/
structure Binary64.IsUpTo (x y : Binary64) : Prop where
  left : x.IsFinite
  right : y.IsFinite
  le : x.le y = true

namespace Holders

/-! ## Rankings in corresponding places -/

/-- The number of holders with at least a share. -/
def reaching (t : Int) (l : List Holder) : Nat :=
  l.countP fun x => decide (t ≤ x.share.rank)

/-- No share is reached by fewer holders of the second list. -/
def IsOutdoneBy (l m : List Holder) : Prop :=
  ∀ t, reaching t l ≤ reaching t m

theorem reaching_perm (t : Int) {l m : List Holder} (h : l.Perm m) :
    reaching t l = reaching t m :=
  h.countP_eq _

/-- `reaching` counts nobody beyond a holder who has no less than the others. -/
theorem reaching_eq_zero {t : Int} {x : Holder} {l : List Holder}
    (hl : ∀ y ∈ l, y.share.rank ≤ x.share.rank) (hx : ¬ t ≤ x.share.rank) :
    reaching t l = 0 := by
  apply List.countP_eq_zero.mpr
  intro y hy
  have hyx := hl y hy
  rw [decide_eq_true_eq]
  omega

theorem IsRanking.rank_falling {r l : List Holder} (h : IsRanking r l) :
    r.Pairwise fun a b => b.share.rank ≤ a.share.rank :=
  h.falling.imp fun hle => (Binary64.le_iff_rank_le.mp hle).2.2

/-- In falling order, the shares of a list that `IsOutdoneBy` another are no larger in any place. -/
private theorem forall₂_of_isOutdoneBy {r r' : List Holder}
    (hr : r.Pairwise fun a b => b.share.rank ≤ a.share.rank)
    (hr' : r'.Pairwise fun a b => b.share.rank ≤ a.share.rank)
    (hfinite : ∀ x ∈ r, x.share.IsFinite) (hfinite' : ∀ x ∈ r', x.share.IsFinite)
    (h : IsOutdoneBy r r') :
    List.Forall₂ (fun x y => x.share.IsUpTo y.share) r (r'.take r.length) := by
  induction r generalizing r' with
  | nil => exact .nil
  | cons x r ih =>
    obtain ⟨hxr, hr⟩ := List.pairwise_cons.mp hr
    obtain ⟨hx, hfinite⟩ := List.forall_mem_cons.mp hfinite
    -- The first share is reached in the other list, so the first one there reaches it.
    have hpos : 0 < reaching x.share.rank r' := by
      refine Nat.lt_of_lt_of_le ?_ (h x.share.rank)
      exact List.countP_pos_iff.mpr ⟨x, List.mem_cons_self, decide_eq_true (Int.le_refl _)⟩
    obtain ⟨z, hz, hxz⟩ := List.countP_pos_iff.mp hpos
    rw [decide_eq_true_eq] at hxz
    cases r' with
    | nil => cases hz
    | cons y r' =>
      obtain ⟨hyr, hr'⟩ := List.pairwise_cons.mp hr'
      obtain ⟨hy, hfinite'⟩ := List.forall_mem_cons.mp hfinite'
      -- The share that reaches `x` is in front, or not before one that is.
      have hxy : x.share.rank ≤ y.share.rank := by
        cases List.mem_cons.mp hz with
        | inl heq => rwa [← heq]
        | inr hrest => exact Int.le_trans hxz (hyr z hrest)
      have hrest : IsOutdoneBy r r' := by
        -- Above the rank of `x` nobody is left in the first list, and below it both lose one.
        intro t
        have ht := h t
        simp only [reaching, List.countP_cons, decide_eq_true_eq] at ht ⊢
        by_cases htx : t ≤ x.share.rank
        · rw [if_pos htx, if_pos (Int.le_trans htx hxy)] at ht
          omega
        · have hnone : r.countP (fun w => decide (t ≤ w.share.rank)) = 0 :=
            reaching_eq_zero hxr htx
          omega
      have hle := Binary64.le_iff_rank_le.mpr ⟨hx.ne_nan, hy.ne_nan, hxy⟩
      exact .cons ⟨hx, hy, hle⟩ (ih hr hr' hfinite hfinite' hrest)

/-- An `IsRanking` of a list that `IsOutdoneBy` another is compared place by place with one of the
other: as far as the first one goes, or throughout if the second one is no longer. -/
theorem IsRanking.forall₂_take {r r' l m : List Holder} (hr : IsRanking r l)
    (hr' : IsRanking r' m) (hl : ∀ x ∈ l, x.share.IsFinite) (hm : ∀ x ∈ m, x.share.IsFinite)
    (h : IsOutdoneBy l m) {n : Nat} (hn : n ≤ l.length ∨ m.length ≤ l.length) :
    List.Forall₂ (fun x y => x.share.IsUpTo y.share) (r.take n) (r'.take n) := by
  -- Counts depend on the members only, so the rankings outdo each other as the lists do.
  have hlength := hr.perm.length_eq
  have hlength' := hr'.perm.length_eq
  have hout : IsOutdoneBy r r' := fun t => by
    rw [reaching_perm t hr.perm, reaching_perm t hr'.perm]
    exact h t
  -- Only as many are compared as the first list has, or the second list has no more.
  have htake : (r'.take r.length).take n = r'.take n := by
    rw [List.take_take, List.take_eq_take_iff]
    omega
  rw [← htake]
  apply List.forall₂_take
  exact forall₂_of_isOutdoneBy hr.rank_falling hr'.rank_falling (hr.perm.forall_mem hl)
    (hr'.perm.forall_mem hm) hout

/-- An `IsRanking` shows the same shares in each place as any other of the same list. -/
theorem IsRanking.forall₂ {r r' l : List Holder} (hr : IsRanking r l) (hr' : IsRanking r' l)
    (hl : ∀ x ∈ l, x.share.IsFinite) :
    List.Forall₂ (fun x y => x.share.IsUpTo y.share) r r' := by
  have hplaces := hr.forall₂_take hr' hl hl (fun _ => Nat.le_refl _)
    (.inr (Nat.le_refl l.length)) (n := l.length)
  rwa [List.take_of_length_le (by rw [hr.perm.length_eq]),
    List.take_of_length_le (by rw [hr'.perm.length_eq])] at hplaces

/-- Finite shares are `IsUpTo` themselves. -/
theorem forall₂_self {l : List Holder} (hl : ∀ x ∈ l, x.share.IsFinite) :
    List.Forall₂ (fun x y => x.share.IsUpTo y.share) l l :=
  List.forall₂_same.mpr fun x hx => ⟨hl x hx, hl x hx, Binary64.le_refl (hl x hx).ne_nan⟩

/-! ## Sums that keep their order -/

/-- A way to add shares up that keeps an order of the sums: from a sum that is no larger, a share
that is no larger leads to a sum that is no larger, and a share that is not negative makes no sum
smaller. -/
structure KeepsOrder {β : Type} (le : β → β → Prop) (add : β → Binary64 → β) : Prop where
  trans : ∀ {s t u}, le s t → le t u → le s u
  mono : ∀ {s t x y}, le s t → x.IsUpTo y → le (add s x) (add t y)
  grow : ∀ {s x}, le s s → x.IsFinite → Binary64.le .zero x = true → le s (add s x)

/-- Rounded sums, by `Binary64.add`, keep the order of doubles. -/
theorem keepsOrder_add : KeepsOrder (fun s t : Binary64 => s.le t = true) Binary64.add where
  trans := Binary64.le_trans
  mono hst hxy := Binary64.add_mono hst hxy.le hxy.left hxy.right
  grow hs hx hnonneg := Binary64.le_add_of_nonneg (Binary64.le_iff_rank_le.mp hs).1 hx hnonneg

/-- `KeepsOrder` holds of exact sums of ranks. -/
theorem keepsOrder_exact : KeepsOrder (fun s t : Int => s ≤ t) fun s x => s + x.rank where
  trans := Int.le_trans
  mono hst hxy := Int.add_le_add hst (Binary64.le_iff_rank_le.mp hxy.le).2.2
  grow _ _ hnonneg := Int.le_add_of_nonneg_right (Binary64.le_iff_rank_le.mp hnonneg).2.2

/-- The holders of `m` are those of `l`, none of them with a smaller share, and others who own
nothing negative. -/
def IsGrown (l m : List Holder) : Prop :=
  ∃ raised added, m.Perm (added ++ raised) ∧
    List.Forall₂ (fun x y => x.share.le y.share = true) l raised ∧
    ∀ y ∈ added, Binary64.le .zero y.share = true

section Sums

variable {β : Type} {le : β → β → Prop} {add : β → Binary64 → β} {s t : β}

/-- `foldl` over corresponding places keeps the order of sums. -/
theorem KeepsOrder.foldl (h : KeepsOrder le add) {r r' : List Holder} (hst : le s t)
    (hr : List.Forall₂ (fun x y => x.share.IsUpTo y.share) r r') :
    le (r.foldl (fun s x => add s x.share) s) (r'.foldl (fun s x => add s x.share) t) := by
  induction hr generalizing s t with
  | nil => exact hst
  | cons hxy _ ih => exact ih (h.mono hst hxy)

/-- Who comes in and owns nothing negative leaves `foldl` over the first holders with no less. -/
private theorem KeepsOrder.foldl_take_of_cons (h : KeepsOrder le add) (hs : le s s)
    {r r' l : List Holder} {y : Holder} (hr : IsRanking r l) (hr' : IsRanking r' (y :: l))
    (hfinite : ∀ x ∈ y :: l, x.share.IsFinite) (hnonneg : Binary64.le .zero y.share = true)
    (n : Nat) :
    le ((r.take n).foldl (fun s x => add s x.share) s)
      ((r'.take n).foldl (fun s x => add s x.share) s) := by
  obtain ⟨hy, hl⟩ := List.forall_mem_cons.mp hfinite
  by_cases hn : n ≤ l.length
  · have hout : IsOutdoneBy l (y :: l) := fun t =>
      (List.sublist_cons_self y l).countP_le
    exact h.foldl hs (hr.forall₂_take hr' hl hfinite hout (.inl hn))
  · -- All are among the first ones, and somewhere among them is the new one.
    have hlength := hr.perm.length_eq
    have hlength' := hr'.perm.length_eq
    rw [List.length_cons] at hlength'
    rw [List.take_of_length_le (by omega), List.take_of_length_le (by omega)]
    obtain ⟨front, rest, rfl⟩ := List.append_of_mem (hr'.perm.mem_iff.mpr List.mem_cons_self)
    have hothers : IsRanking (front ++ rest) l :=
      ⟨(List.perm_middle.symm.trans hr'.perm).cons_inv,
        hr'.falling.sublist ((List.sublist_cons_self y rest).append_left front)⟩
    obtain ⟨hfront, hrest⟩ := List.forall_mem_append.mp (hothers.perm.forall_mem hl)
    -- Without the new one the sums keep their order, and with it the second one gets no smaller.
    refine h.trans (h.foldl hs (hr.forall₂ hothers hl)) ?_
    rw [List.foldl_append, List.foldl_append, List.foldl_cons]
    exact h.foldl (h.grow (h.foldl hs (forall₂_self hfront)) hy hnonneg) (forall₂_self hrest)

/-- Raised shares are reached by no fewer holders: `IsOutdoneBy` holds. -/
private theorem isOutdoneBy_of_raised {l raised : List Holder}
    (h : List.Forall₂ (fun x y => x.share.le y.share = true) l raised) :
    IsOutdoneBy l raised := by
  intro t
  induction h with
  | nil => exact Nat.le_refl _
  | cons hxy _ ih =>
    have hrank := (Binary64.le_iff_rank_le.mp hxy).2.2
    simp only [reaching, List.countP_cons, decide_eq_true_eq] at ih ⊢
    split <;> split <;> omega

/-- The first holders of a list that `IsGrown` own no less. -/
theorem KeepsOrder.foldl_take_of_isGrown (h : KeepsOrder le add) (hs : le s s)
    {r r' l m : List Holder} (hgrown : IsGrown l m) (hr : IsRanking r l) (hr' : IsRanking r' m)
    (hl : ∀ x ∈ l, x.share.IsFinite) (hm : ∀ x ∈ m, x.share.IsFinite) (n : Nat) :
    le ((r.take n).foldl (fun s x => add s x.share) s)
      ((r'.take n).foldl (fun s x => add s x.share) s) := by
  obtain ⟨raised, added, hperm, hraised, hadded⟩ := hgrown
  have hfinite := hperm.symm.forall_mem hm
  replace hr' : IsRanking r' (added ++ raised) := ⟨hr'.perm.trans hperm, hr'.falling⟩
  clear hperm hm
  -- First shares are raised, then holders come in one after the other.
  induction added generalizing r' with
  | nil =>
    have hlength := hraised.length_eq
    exact h.foldl hs (hr.forall₂_take hr' hl hfinite (isOutdoneBy_of_raised hraised)
      (.inr (by rw [List.nil_append, hlength])))
  | cons y added ih =>
    obtain ⟨hy, hadded⟩ := List.forall_mem_cons.mp hadded
    obtain ⟨_, hrest⟩ := List.forall_mem_cons.mp hfinite
    have hranking := isRanking_ranked fun x hx => (hrest x hx).ne_nan
    exact h.trans (ih hadded hrest hranking)
      (h.foldl_take_of_cons hs hranking hr' hfinite hy n)

end Sums

/-! ## Summaries of grown lists -/

theorem shareOfFirst_eq_foldl (n : Nat) (r : List Holder) :
    shareOfFirst n r = clamp ((r.take n).foldl (fun s x => s.add x.share) .zero) := by
  rw [shareOfFirst, Binary64.sum, List.foldl_map]

/-- The `shareOfFirst` holders, in units, if sums were not rounded. -/
def exactShareOfFirst (n : Nat) (r : List Holder) : Int :=
  max 0 (min Binary64.hundred.rank ((r.take n).foldl (fun s x => s + x.share.rank) 0))

section Grown

variable {l m r r' : List Holder} (hgrown : IsGrown l m)
  (hl : ∀ x ∈ l, x.share.IsFinite) (hm : ∀ x ∈ m, x.share.IsFinite)

include hgrown hl hm

theorem shareOfFirst_le_of_isGrown (hr : IsRanking r l) (hr' : IsRanking r' m) (n : Nat) :
    (shareOfFirst n r).le (shareOfFirst n r') = true := by
  rw [shareOfFirst_eq_foldl, shareOfFirst_eq_foldl]
  apply clamp_mono
  exact keepsOrder_add.foldl_take_of_isGrown (s := .zero) (by decide) hgrown hr hr' hl hm n

theorem exactShareOfFirst_le_of_isGrown (hr : IsRanking r l) (hr' : IsRanking r' m) (n : Nat) :
    exactShareOfFirst n r ≤ exactShareOfFirst n r' := by
  have hsum := keepsOrder_exact.foldl_take_of_isGrown (s := 0) (Int.le_refl 0) hgrown hr hr'
    hl hm n
  unfold exactShareOfFirst
  omega

end Grown

/-- `summarize` comes to a summary of holders with addresses and finite shares, also if there are
none. -/
theorem exists_shows (limits : ConcentrationLimits) {l : List Holder}
    (hl : ∀ x ∈ l, x.share.IsFinite) (htyped : ∀ x ∈ l, x.IsTyped) :
    ∃ h, summarize limits l = .ok h ∧ h.Shows (ranked l) ∧
      (IsSummary limits (ranked l) h ∨ l = [] ∧ h = { risks := [noHoldersRisk] }) := by
  by_cases hne : l = []
  · subst hne
    have hnil : ranked [] = [] := (ranked_perm []).eq_nil
    refine ⟨{ risks := [noHoldersRisk] }, by rw [summarize, hnil], ?_, .inr ⟨rfl, rfl⟩⟩
    rw [hnil]
    constructor <;> decide +kernel
  · obtain ⟨h, hok, hs⟩ := exists_isSummary limits hne htyped
    exact ⟨h, hok, hs.shows ((ranked_perm l).forall_mem hl), .inl hs⟩

/-- No share of the second summary is smaller, and where the first one tells of concentration, the
second one does. -/
structure IsNoMoreThan (h h' : Holders) : Prop where
  topShare : h.topShare.le h'.topShare = true
  top5Share : h.top5Share.le h'.top5Share = true
  top10Share : h.top10Share.le h'.top10Share = true
  isConcentrated : h.isConcentrated = true → h'.isConcentrated = true

/-- A limit that is exceeded stays so when no share gets smaller, and `isConcentrated` with it. -/
private theorem isConcentrated_mono {limits : ConcentrationLimits} {r r' : List Holder}
    {h h' : Holders} (hs : IsSummary limits r h) (hs' : IsSummary limits r' h')
    (htop : h.topShare.le h'.topShare = true) (htop5 : h.top5Share.le h'.top5Share = true)
    (htop10 : h.top10Share.le h'.top10Share = true) (hconcentrated : h.isConcentrated = true) :
    h'.isConcentrated = true := by
  rw [hs.isConcentrated_iff] at hconcentrated
  rw [hs'.isConcentrated_iff]
  rcases hconcentrated with hextreme | hhigh | hfive | hten
  · exact .inl (Binary64.lt_of_lt_of_le hextreme htop)
  · exact .inr (.inl (Binary64.lt_of_lt_of_le hhigh htop))
  · exact .inr (.inr (.inl (Binary64.lt_of_lt_of_le hfive htop5)))
  · exact .inr (.inr (.inr (Binary64.lt_of_lt_of_le hten htop10)))

/-- A list that `IsGrown` to an empty one was empty. -/
theorem IsGrown.eq_nil {l : List Holder} (h : IsGrown l []) : l = [] := by
  obtain ⟨raised, added, hperm, hraised, _⟩ := h
  have hnil : raised = [] := (List.append_eq_nil_iff.mp hperm.nil_eq.symm).2
  rw [hnil] at hraised
  exact List.forall₂_nil_right_iff.mp hraised

/-- However the limits are set, when a list of holders `IsGrown`, `summarize` tells of no less
concentration. Nor would it if sums were not rounded. -/
theorem summarize_isGrown (limits : ConcentrationLimits) (l m : List Holder)
    (hgrown : IsGrown l m) (hl : ∀ x ∈ l, x.share.IsFinite) (hm : ∀ x ∈ m, x.share.IsFinite)
    (htyped : ∀ x ∈ l, x.IsTyped) (htyped' : ∀ x ∈ m, x.IsTyped) :
    ∃ h h', summarize limits l = .ok h ∧ summarize limits m = .ok h' ∧ IsNoMoreThan h h' ∧
      ∀ n, exactShareOfFirst n (ranked l) ≤ exactShareOfFirst n (ranked m) := by
  have hr := isRanking_ranked fun x hx => (hl x hx).ne_nan
  have hr' := isRanking_ranked fun x hx => (hm x hx).ne_nan
  have hshares := shareOfFirst_le_of_isGrown hgrown hl hm hr hr'
  obtain ⟨h, hok, hshows, hs⟩ := exists_shows limits hl htyped
  obtain ⟨h', hok', hshows', hs'⟩ := exists_shows limits hm htyped'
  -- Each share is that of the first few, and these only grow.
  have htop : h.topShare.le h'.topShare = true := by
    rw [hshows.topShare, hshows'.topShare]
    exact hshares 1
  have htop5 : h.top5Share.le h'.top5Share = true := by
    rw [hshows.top5Share, hshows'.top5Share]
    exact hshares 5
  have htop10 : h.top10Share.le h'.top10Share = true := by
    rw [hshows.top10Share, hshows'.top10Share]
    exact hshares 10
  refine ⟨h, h', hok, hok', ⟨htop, htop5, htop10, fun hconcentrated => ?_⟩,
    exactShareOfFirst_le_of_isGrown hgrown hl hm hr hr'⟩
  rcases hs with hs | ⟨_, rfl⟩
  · rcases hs' with hs' | ⟨rfl, _⟩
    · -- A limit that was exceeded is exceeded by what is no smaller.
      exact isConcentrated_mono hs hs' htop htop5 htop10 hconcentrated
    · -- Where nobody is left in the end, nobody was there.
      rw [hgrown.eq_nil] at hs
      obtain ⟨top, hhead, _⟩ := hs.topShare
      rw [(ranked_perm []).eq_nil] at hhead
      cases hhead
  · cases hconcentrated

/-- Three holders, one of them with a negative share. -/
def threeHolders : List Holder :=
  [⟨.string "0xA", .ofInt 40⟩, ⟨.string "0xB", .ofInt (-5)⟩, ⟨.string "0xC", .ofInt 30⟩]

/-- `threeHolders` after the last one has overtaken the first one and another one has come in. -/
def fourHolders : List Holder :=
  [⟨.string "0xC", .ofInt 45⟩, ⟨.string "0xB", .ofInt (-2)⟩, ⟨.string "0xA", .ofInt 40⟩,
    ⟨.string "0xD", .ofInt 3⟩]

theorem isGrown_fourHolders : IsGrown threeHolders fourHolders := by
  refine ⟨fourHolders.reverse.tail, [⟨.string "0xD", .ofInt 3⟩], List.reverse_perm _ |>.symm,
    .cons ?_ (.cons ?_ (.cons ?_ .nil)), ?_⟩ <;> decide +kernel

theorem summarize_isGrown_overtaken :
    IsGrown threeHolders fourHolders ∧ ∃ h h', summarize {} threeHolders = .ok h ∧
      summarize {} fourHolders = .ok h' ∧ IsNoMoreThan h h' := by
  obtain ⟨h, h', hok, hok', hle, _⟩ := summarize_isGrown {} threeHolders fourHolders
    isGrown_fourHolders (by decide +kernel) (by decide +kernel)
    (by simp [threeHolders, Holder.IsTyped, Json.IsText])
    (by simp [fourHolders, Holder.IsTyped, Json.IsText])
  exact ⟨isGrown_fourHolders, h, h', hok, hok', hle⟩

end Holders

end TokenRisk
