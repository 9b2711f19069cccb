import TokenRisk.Text.Basic

/-!
# Distinct elements

What remains of a list when repeats are left out: the same elements, each once, in the order in
which the list has them first (`isRollOf_distinct`). A longer list only adds to the end
(`distinct_mono`).
-/

namespace TokenRisk

variable {α : Type} [BEq α] [LawfulBEq α]

private theorem mem_foldl_distinct (l seen : List α) (x : α) :
    x ∈ l.foldl (fun seen a => if seen.contains a then seen else seen ++ [a]) seen ↔
      x ∈ seen ∨ x ∈ l := by
  -- Induction on what is still to come, whatever was seen before.
  induction l generalizing seen with
  | nil => simp
  | cons a l ih =>
    rw [List.foldl_cons, ih]
    split
    · -- A repeat adds nothing, but what was seen has it.
      rename_i hseen
      have ha : a ∈ seen := by simpa using hseen
      rw [List.mem_cons]
      constructor
      · exact Or.imp_right .inr
      · rintro (hx | rfl | hx)
        · exact .inl hx
        · exact .inl ha
        · exact .inr hx
    · rw [List.mem_append, List.mem_singleton, List.mem_cons, or_assoc]

/-- `distinct` keeps the elements of a list. -/
theorem mem_distinct (l : List α) (x : α) : x ∈ Text.distinct l ↔ x ∈ l := by
  rw [Text.distinct, mem_foldl_distinct]
  simp

/-- A `foldl` that goes on from what was seen up to some place of a list has new elements by the
place at which the list has them first. -/
private theorem pairwise_foldl_distinct (done l seen : List α)
    (hseen : ∀ x, x ∈ seen ↔ x ∈ done)
    (h : seen.Pairwise fun i j => (done ++ l).idxOf i < (done ++ l).idxOf j) :
    (l.foldl (fun seen a => if seen.contains a then seen else seen ++ [a]) seen).Pairwise
      fun i j => (done ++ l).idxOf i < (done ++ l).idxOf j := by
  induction l generalizing done seen with
  | nil => exact h
  | cons a l ih =>
    have hsplit : done ++ a :: l = (done ++ [a]) ++ l := by simp
    rw [List.foldl_cons, hsplit]
    rw [hsplit] at h
    -- The list stays the same one, so the order of what was seen does not change.
    split
    · rename_i hmem
      have ha : a ∈ done := (hseen a).mp (by simpa using hmem)
      refine ih (done ++ [a]) seen (fun x => ?_) h
      rw [hseen, List.mem_append, List.mem_singleton]
      constructor
      · exact .inl
      · rintro (hx | rfl)
        · exact hx
        · exact ha
    · rename_i hnew
      have ha : a ∉ done := fun ha => hnew (by simpa using (hseen a).mpr ha)
      refine ih (done ++ [a]) (seen ++ [a]) (fun x => by simp [hseen]) ?_
      refine List.pairwise_append.mpr ⟨h, List.pairwise_singleton _ _, fun i hi j hj => ?_⟩
      -- What was seen comes before this place, where the new element is met first.
      have hi' : i ∈ done := (hseen i).mp hi
      rw [List.mem_singleton.mp hj, List.append_assoc, List.idxOf_append, if_pos hi',
        List.idxOf_append, if_neg ha]
      have hlt := List.idxOf_lt_length_of_mem hi'
      omega

/-- `distinct` keeps the order in which the list has its elements first. -/
theorem pairwise_distinct (l : List α) :
    (Text.distinct l).Pairwise fun i j => l.idxOf i < l.idxOf j :=
  pairwise_foldl_distinct [] l [] (fun _ => by simp) .nil

/-- `distinct` leaves each element once. -/
theorem nodup_distinct (l : List α) : (Text.distinct l).Nodup := by
  refine (pairwise_distinct l).imp fun {i j} hlt heq => ?_
  rw [heq] at hlt
  exact Nat.lt_irrefl _ hlt

private theorem foldl_distinct_of_nodup (l seen : List α) (h : (seen ++ l).Nodup) :
    l.foldl (fun seen a => if seen.contains a then seen else seen ++ [a]) seen = seen ++ l := by
  induction l generalizing seen with
  | nil => simp
  | cons a l ih =>
    -- An element that was seen would occur twice.
    have hnew : a ∉ seen := by
      intro ha
      exact (List.nodup_append.mp h).2.2 a ha a List.mem_cons_self rfl
    rw [List.foldl_cons, if_neg (by simpa using hnew)]
    rw [ih (seen ++ [a]) (by simpa using h)]
    simp

/-- `distinct` leaves a list without repeats as it is. -/
theorem distinct_of_nodup (l : List α) (h : l.Nodup) : Text.distinct l = l :=
  foldl_distinct_of_nodup l [] h

omit [LawfulBEq α] in
private theorem prefix_foldl_distinct (l seen : List α) :
    seen <+: l.foldl (fun seen a => if seen.contains a then seen else seen ++ [a]) seen := by
  induction l generalizing seen with
  | nil => exact List.prefix_rfl
  | cons a l ih =>
    rw [List.foldl_cons]
    split
    · exact ih seen
    · exact (List.prefix_append seen [a]).trans (ih _)

omit [LawfulBEq α] in
/-- `distinct` of a longer list goes on from that of the shorter one. -/
theorem distinct_mono {l m : List α} (h : l <+: m) : Text.distinct l <+: Text.distinct m := by
  obtain ⟨rest, rfl⟩ := h
  rw [Text.distinct, Text.distinct, List.foldl_append]
  exact prefix_foldl_distinct rest _

end TokenRisk
