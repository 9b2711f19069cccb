/-!
# Except lemmas for the standard library

When a computation that may fail comes to a value: its parts did, one after the other. When it
fails: the first of its parts did that came to no value.
-/

namespace Except

variable {ε α β : Type}

/-- `map f` comes to a value if `f` makes it of the value of `x`. -/
theorem map_eq_ok_iff {f : α → β} {x : Except ε α} {b : β} :
    x.map f = .ok b ↔ ∃ a, x = .ok a ∧ f a = b := by
  cases x <;> simp [Except.map]

/-- `x >>= f` comes to a value if `f` does on the value of `x`. -/
theorem bind_eq_ok_iff {f : α → Except ε β} {x : Except ε α} {b : β} :
    x >>= f = .ok b ↔ ∃ a, x = .ok a ∧ f a = .ok b := by
  cases x <;> simp [bind, Except.bind]

/-- `mapM` over a list of computations comes to values exactly if each computation does, to its
own. -/
theorem mapM_eq_ok_iff {l : List (Except ε α)} {vs : List α} :
    l.mapM id = .ok vs ↔ l = vs.map .ok := by
  induction l generalizing vs with
  | nil =>
    rw [List.mapM_nil]
    cases vs <;> simp [pure, Except.pure]
  | cons x l ih =>
    rw [List.mapM_cons]
    constructor
    · -- The head comes to a value, and so does the rest of the list.
      intro h
      obtain ⟨a, ha, hrest⟩ := bind_eq_ok_iff.mp h
      obtain ⟨as, has, hpure⟩ := bind_eq_ok_iff.mp hrest
      cases hpure
      rw [List.map_cons, ← ih.mp has, ← ha, id]
    · intro h
      obtain ⟨a, as, rfl, ha, has⟩ := List.map_eq_cons_iff.mp h.symm
      rw [ih.mpr has.symm, ← ha]
      rfl

/-- If each computation of a list comes to a value, `mapM` comes to as many values. -/
theorem mapM_isOk {l : List (Except ε α)} (h : ∀ x ∈ l, ∃ v, x = .ok v) :
    ∃ vs, l.mapM id = .ok vs ∧ vs.length = l.length := by
  induction l with
  | nil => exact ⟨[], rfl, rfl⟩
  | cons x l ih =>
    obtain ⟨v, hv⟩ := h x List.mem_cons_self
    obtain ⟨vs, hvs, hlen⟩ := ih fun y hy => h y (List.mem_cons_of_mem _ hy)
    refine ⟨v :: vs, ?_, by rw [List.length_cons, List.length_cons, hlen]⟩
    rw [List.mapM_cons, hvs, hv]
    rfl

end Except
