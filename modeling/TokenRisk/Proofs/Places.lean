import TokenRisk.ForStd.Except
import TokenRisk.ForStd.List
import TokenRisk.Verifier

/-!
# The places of a batch

The requests of a batch complete in the order in which their work ends, and each answer carries the
place of its request. Beginning all requests puts every place down once, among the answers or among
what is still at work; completing the work moves places from there to the answers, unless an answer
is refused. So the answers of a batch, put in order of their places, are those of its requests one
by one: `answers_of_verifyAll`.
-/

namespace TokenRisk.Verifier

variable (v : Verifier)

/-- The places that a batch has come to: those of its answers and of what is still at work. -/
def Progress.places (p : Progress) : List Nat :=
  p.answers.map Prod.fst ++ p.pending.map Pending.place

/-- One more answer adds its place to the `places`. -/
private theorem places_answer (p : Progress) (s : Session) (place : Nat)
    (answer : Except Failure Verification) :
    (Progress.places { p with session := s, answers := p.answers ++ [(place, answer)] }).Perm
      (p.places ++ [place]) := by
  simp only [Progress.places, List.map_append, List.append_assoc]
  exact List.perm_append_comm.append_left _

/-- After `beginAll` each place of a batch has been put down once. -/
theorem places_beginAll (rs : List Request) (s : Session) :
    (v.beginAll rs s).places.Perm (List.range rs.length) := by
  have hrange : rs.zipIdx.map Prod.snd = List.range rs.length := by
    rw [List.zipIdx_map_snd, List.range_eq_range']
  rw [← hrange]
  refine (List.perm_foldl (fun _ => True) Progress.places ?_ rs.zipIdx { session := s } trivial).2
  rintro p ⟨r, place⟩ -
  refine ⟨trivial, ?_⟩
  simp only []
  -- A request is answered from the cache, answered by work that takes no time, or still at work.
  split
  · exact places_answer p _ place _
  · split
    · exact places_answer p _ place _
    · simp [Progress.places]

/-- None of the answers of a batch `isRefused`. -/
def Progress.IsAccepted (p : Progress) : Prop :=
  ∀ x ∈ p.answers, isRefused x = false

/-- Where `completeAll` refused no answer in the end, the answers have the places of all requests
that had begun. -/
theorem places_completeAll (p : Progress) (h : (v.completeAll p).IsAccepted) :
    ((v.completeAll p).answers.map Prod.fst).Perm p.places := by
  -- The work is completed in another order than that of the places, which is why they are permuted.
  let sorted := p.pending.mergeSort fun a b => a.work.finish.ble b.work.finish
  have hsorted : (sorted.map Pending.place).Perm (p.pending.map Pending.place) :=
    (List.mergeSort_perm _ _).map _
  refine (List.perm_foldl Progress.IsAccepted (fun q => q.answers.map Prod.fst) ?_ sorted p
    h).2.trans (hsorted.append_left _)
  intro q w hkept
  split at hkept
  · -- An answer that was refused stays among the answers.
    rename_i hrefused
    obtain ⟨x, hx, hrefuse⟩ := List.any_eq_true.mp hrefused
    rw [hkept x hx] at hrefuse
    cases hrefuse
  · rename_i hnone
    rw [if_neg hnone]
    exact ⟨fun x hx => hkept x (List.mem_append_left _ hx), by simp⟩

/-- `mergeSort` brings a list of as many answers as there are places, each place once, into the
order of places. -/
private theorem map_fst_mergeSort {α : Type} (l : List (Nat × α)) (n : Nat)
    (h : (l.map Prod.fst).Perm (List.range n)) :
    (l.mergeSort fun a b => a.1 ≤ b.1).map Prod.fst = List.range n := by
  have hperm : ((l.mergeSort fun a b => a.1 ≤ b.1).map Prod.fst).Perm (List.range n) :=
    ((List.mergeSort_perm _ _).map _).trans h
  have hsorted : ((l.mergeSort fun a b => a.1 ≤ b.1).map Prod.fst).Pairwise (· ≤ ·) := by
    rw [List.pairwise_map]
    refine (List.pairwise_mergeSort ?_ ?_ l).imp fun hab => of_decide_eq_true hab
    · -- The places are compared as numbers, so their order is total.
      intro a b c hab hbc
      simp only [decide_eq_true_eq] at hab hbc ⊢
      omega
    · intro a b
      simp only [Bool.or_eq_true, decide_eq_true_eq]
      omega
  -- There is only one list in order with these places.
  exact hperm.eq_of_pairwise (fun a b _ _ hab hba => Nat.le_antisymm hab hba) hsorted
    List.pairwise_le_range

/-- A batch that `verifyAll` answers has an answer for each request, and the one in a place is the
one that was put down for it. -/
theorem answers_of_verifyAll (rs : List Request) (s : Session) (answers : List Verification)
    (h : (v.verifyAll rs s).1.value = .ok answers) :
    answers.length = rs.length ∧ ∀ i a, answers[i]? = some a →
      (i, .ok a) ∈ (v.completeAll (v.beginAll rs s)).answers := by
  let ended := v.completeAll (v.beginAll rs s)
  let sorted := ended.answers.mergeSort fun a b => a.1 ≤ b.1
  have hvalues : sorted.map Prod.snd = answers.map .ok := Except.mapM_eq_ok_iff.mp h
  -- An answer that was refused would stand in the list as a failure.
  have haccepted : ended.IsAccepted := fun x hx => by
    have hmem : x.2 ∈ sorted.map Prod.snd := List.mem_map_of_mem (List.mem_mergeSort.mpr hx)
    rw [hvalues] at hmem
    obtain ⟨a, _, ha⟩ := List.mem_map.mp hmem
    rw [isRefused, ← ha]
  have hplaces : sorted.map Prod.fst = List.range rs.length :=
    map_fst_mergeSort _ _ ((v.places_completeAll _ haccepted).trans (v.places_beginAll rs s))
  have hlen : answers.length = rs.length := by
    have hvaluesLen := congrArg List.length hvalues
    have hplacesLen := congrArg List.length hplaces
    simp only [List.length_map, List.length_range] at hvaluesLen hplacesLen
    rw [← hvaluesLen, hplacesLen]
  refine ⟨hlen, fun i a ha => ?_⟩
  -- What stands in a place of the sorted list has that place and that answer.
  have hlt : i < rs.length := hlen ▸ (List.getElem?_eq_some_iff.mp ha).1
  have hplace := congrArg (·[i]?) hplaces
  have hvalue := congrArg (·[i]?) hvalues
  simp only [List.getElem?_map, ha, List.getElem?_range hlt, Option.map_eq_some_iff,
    Option.map_some] at hplace hvalue
  obtain ⟨x, hx, hxi⟩ := hplace
  obtain ⟨y, hy, hya⟩ := hvalue
  obtain rfl : x = y := Option.some.inj (hx.symm.trans hy)
  rw [← hxi, ← hya]
  exact List.mem_mergeSort.mp (List.mem_of_getElem? hx)

end TokenRisk.Verifier
