/-!
# List lemmas for the standard library

Cutting a list where a property ends, where a number of elements is reached, and at the last place
of an element; rearrangements, and lists that are too short for one; what a fold collects.
-/

namespace List

variable {α β γ : Type}

/-- If `p` passes from each element to all that precede it, then `takeWhile p` takes what `filter p`
keeps. -/
theorem takeWhile_eq_filter {p : α → Bool} {l : List α}
    (h : l.Pairwise fun a b => p b = true → p a = true) : l.takeWhile p = l.filter p := by
  induction l with
  | nil => rfl
  | cons a l ih =>
    obtain ⟨hhead, htail⟩ := pairwise_cons.mp h
    cases hp : p a with
    | true => rw [takeWhile_cons_of_pos hp, filter_cons_of_pos hp, ih htail]
    | false =>
      have hnone : l.filter p = [] := filter_eq_nil_iff.mpr fun b hb hpb => by
        rw [hhead b hb hpb] at hp
        cases hp
      have hneg : ¬ p a = true := by simp [hp]
      rw [takeWhile_cons_of_neg hneg, filter_cons_of_neg hneg, hnone]

/-- Under the same assumption, `dropWhile p` leaves what `filter` keeps for the negation of `p`. -/
theorem dropWhile_eq_filter {p : α → Bool} {l : List α}
    (h : l.Pairwise fun a b => p b = true → p a = true) :
    l.dropWhile p = l.filter fun a => !p a := by
  induction l with
  | nil => rfl
  | cons a l ih =>
    -- The first element with `p` ends the prefix that is dropped.
    obtain ⟨hhead, htail⟩ := pairwise_cons.mp h
    cases hp : p a with
    | true => rw [dropWhile_cons_of_pos hp, filter_cons_of_neg (by simp [hp]), ih htail]
    | false =>
      have hall : (a :: l).filter (fun a => !p a) = a :: l := filter_eq_self.mpr fun b hb => by
        rcases mem_cons.mp hb with rfl | hb
        · simp [hp]
        · cases hpb : p b with
          | false => rfl
          | true =>
            rw [hhead b hb hpb] at hp
            cases hp
      rw [dropWhile_cons_of_neg (by simp [hp]), hall]

/-- If `p` fails on `l.take n`, then `filter p` keeps no more than `l.drop n` has. -/
theorem length_filter_le_of_take (p : α → Bool) (l : List α) (n : Nat)
    (h : ∀ a ∈ l.take n, p a = false) : (l.filter p).length ≤ l.length - n := by
  have hsplit : l.filter p = (l.take n).filter p ++ (l.drop n).filter p := by
    rw [← filter_append, take_append_drop]
  have hnil : (l.take n).filter p = [] := filter_eq_nil_iff.mpr fun a ha => by simp [h a ha]
  rw [hsplit, hnil, nil_append, ← length_drop]
  exact length_filter_le ..

/-- A list can be cut at the last place of `a` in one way only: neither `rest` nor `rest'` has `a`
in it. -/
theorem eq_of_append_cons_eq {a : α} {front front' rest rest' : List α} (hrest : a ∉ rest)
    (hrest' : a ∉ rest') (h : front ++ a :: rest = front' ++ a :: rest') :
    front = front' ∧ rest = rest' := by
  induction front generalizing front' with
  | nil =>
    cases front' with
    | nil => exact ⟨rfl, (List.cons.inj h).2⟩
    | cons b front' =>
      -- A longer front on the right would put `a` into `rest`.
      have hmem : a ∈ rest := by
        rw [(List.cons.inj h).2]
        simp
      exact absurd hmem hrest
  | cons b front ih =>
    cases front' with
    | nil =>
      -- A longer front on the left would put `a` into `rest'`.
      have hmem : a ∈ rest' := by
        rw [← (List.cons.inj h).2]
        simp
      exact absurd hmem hrest'
    | cons b' front' =>
      obtain ⟨hb, htail⟩ := List.cons.inj h
      obtain ⟨hfront, heq⟩ := ih htail
      exact ⟨by rw [hb, hfront], heq⟩

/-- `countP` on a list with one more element. -/
theorem countP_concat_toNat (p : α → Bool) (l : List α) (a : α) :
    (l ++ [a]).countP p = l.countP p + (p a).toNat := by
  cases hp : p a <;> simp [countP_append, hp]

/-- What holds of all elements of `l` holds of all elements of a permutation of `l`. -/
theorem Perm.forall_mem {p : α → Prop} {l m : List α} (h : m.Perm l) (hl : ∀ a ∈ l, p a) :
    ∀ a ∈ m, p a :=
  fun a ha => hl a (h.mem_iff.mp ha)

/-- A list of at most one element has no `Perm` but itself. -/
theorem Perm.eq_of_length_le_one {l m : List α} (h : l.Perm m) (hlen : m.length ≤ 1) : l = m := by
  cases m with
  | nil => exact h.eq_nil
  | cons a m =>
    have hnil : m = [] := List.length_eq_zero_iff.mp (by rw [length_cons] at hlen; omega)
    rw [hnil] at h ⊢
    exact perm_singleton.mp h

/-- If each `step` collects the image under `f` of one element, then `foldl` collects the images of
all, in some order. A step may fail to, but then it is not `kept`, and no later step restores
that. -/
theorem perm_foldl {step : β → α → β} {f : α → γ} (kept : β → Prop) (collected : β → List γ)
    (hstep : ∀ b a, kept (step b a) → kept b ∧ (collected (step b a)).Perm (collected b ++ [f a]))
    (l : List α) (b : β) (h : kept (l.foldl step b)) :
    kept b ∧ (collected (l.foldl step b)).Perm (collected b ++ l.map f) := by
  induction l generalizing b with
  | nil => exact ⟨h, by simp⟩
  | cons a l ih =>
    obtain ⟨hkept, hrest⟩ := ih (step b a) h
    obtain ⟨hb, hone⟩ := hstep b a hkept
    refine ⟨hb, hrest.trans ?_⟩
    rw [map_cons, append_cons]
    exact hone.append_right _

/-- `splitOnP` gives what stands in front of the first separator to the first piece. -/
theorem splitOnP_append_of_forall_mem {α : Type} {p : α → Bool} {xs : List α}
    (h : ∀ x ∈ xs, p x = false) (as : List α) :
    (xs ++ as).splitOnP p = (as.splitOnP p).modifyHead (xs ++ ·) := by
  induction xs with
  | nil => cases hsplit : as.splitOnP p <;> simp [hsplit]
  | cons x xs ih =>
    have hx : p x = false := h x mem_cons_self
    rw [cons_append, splitOnP_cons_eq_if_modifyHead, hx, if_neg Bool.false_ne_true,
      ih fun y hy => h y (mem_cons_of_mem x hy), modifyHead_modifyHead]
    rfl

end List
