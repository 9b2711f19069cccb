import TokenRisk.Timed.Basic

/-!
# What timed work comes to

The value of combined work follows from the values of its parts, and so do the questions that it
asks, whatever the time. The lemmas of this file take work apart that way, so that facts about
answers need no reasoning about instants. Only a limit brings time in: `within_cases` says that work
under a limit either runs out or comes to the value, and asks the questions, of the work itself, and
`value_call_within` says for a single call when it runs out.
-/

namespace TokenRisk

/-- What is counted `after` a moment adds its time to it. -/
theorem Instant.time_after (i j : Instant) : (i.after j).time = i.time + j.time := by
  simp only [after]
  split
  · rename_i hzero
    rw [hzero, Rat.add_zero]
  · rfl

namespace Timed

variable {κ α β γ δ ε : Type}

/-- The calls of a piece of work without their times, in the order of `calls`. -/
def asked (x : Timed κ α) : List κ :=
  x.calls.map (·.2)

/-! ## Values -/

@[simp] theorem value_pure (a : α) : (pure a : Timed κ α).value = a := rfl

@[simp] theorem value_map (f : α → β) (x : Timed κ α) : (x.map f).value = f x.value := rfl

@[simp] theorem finish_map (f : α → β) (x : Timed κ α) : (x.map f).finish = x.finish := rfl

@[simp] theorem value_bind (x : Timed κ α) (f : α → Timed κ β) :
    (x.bind f).value = (f x.value).value := rfl

@[simp] theorem value_call (k : κ) (delay : Rat) (answer : α) :
    (call k delay answer).value = answer := rfl

@[simp] theorem value_spawned (x : Timed κ α) : x.spawned.value = x.value := rfl

@[simp] theorem value_all (xs : List (Timed κ α)) : (all xs).value = xs.map value := by
  simp [all]

/-- `both` pieces side by side come to a pair exactly when each comes to something. -/
theorem value_both_eq_ok (x : Timed κ (Except ε α)) (y : Timed κ (Except ε β)) (a : α) (b : β) :
    (both x y).value = .ok (a, b) ↔ x.value = .ok a ∧ y.value = .ok b := by
  simp only [both, value_spawned]
  cases x.value <;> cases y.value <;> simp only [] <;> try split
  all_goals simp

theorem map_map (x : Timed κ α) (f : α → β) (g : β → γ) :
    (x.map f).map g = x.map fun a => g (f a) := rfl

/-- `map` makes something of the `value` of work only. -/
theorem map_congr (x : Timed κ α) (f g : α → β) (h : f x.value = g x.value) :
    x.map f = x.map g := by
  simp only [Timed.map, h]

/-- A `wait` for nothing does not hold up work that is over at once. -/
theorem wait_zero_bind_pure (a : α) :
    ((wait .zero).bind fun _ => pure a : Timed κ α) = pure a := by
  have houtlasts : ((wait .zero).bind fun _ => pure a : Timed κ α).outlasts = fun _ => false :=
    funext fun _ => Bool.and_false _
  exact congrArg (Timed.mk _ _ _) houtlasts

theorem bind_map (x : Timed κ α) (f : α → β) (g : β → Timed κ γ) :
    (x.map f).bind g = x.bind fun a => g (f a) := rfl

/-- `bind` goes on with the `value` of work only. -/
theorem bind_congr (x : Timed κ α) (f g : α → Timed κ β) (h : f x.value = g x.value) :
    x.bind f = x.bind g := by
  simp only [Timed.bind, h]

/-- `map` after a `bind` is `map` on its last piece. -/
theorem map_bind (x : Timed κ α) (f : α → Timed κ β) (g : β → γ) :
    (x.bind f).map g = x.bind fun a => (f a).map g := rfl

theorem all_map (f : α → β) (xs : List (Timed κ α)) :
    all (xs.map (Timed.map f)) = (all xs).map (List.map f) := by
  simp only [all, Timed.map, List.map_map, List.flatMap_map, List.isEmpty_map]
  rfl

theorem both_map (f : α → γ) (g : β → δ) (x : Timed κ (Except ε α)) (y : Timed κ (Except ε β)) :
    both (x.map (Except.map f)) (y.map (Except.map g)) =
      (both x y).map (Except.map (Prod.map f g)) := by
  have hx : (x.map (Except.map f)).spawned = x.spawned.map (Except.map f) := rfl
  have hy : (y.map (Except.map g)).spawned = y.spawned.map (Except.map g) := rfl
  simp only [both, hx, hy, value_map]
  cases x.spawned.value <;> cases y.spawned.value <;> simp only [Except.map] <;> try rfl
  -- Both fail, and the sooner failure counts.
  by_cases hlate : y.spawned.finish.blt x.spawned.finish = true
  · rw [if_pos hlate, if_pos (show (y.spawned.map _).finish.blt (x.spawned.map _).finish = true
      from hlate)]
    rfl
  · rw [if_neg hlate, if_neg (show ¬ (y.spawned.map _).finish.blt (x.spawned.map _).finish = true
      from hlate)]
    rfl

/-! ## Questions -/

private theorem map_snd_shift (start : Instant) (calls : List (Instant × κ)) :
    (shift start calls).map (·.2) = calls.map (·.2) := by
  simp [shift, Function.comp_def]

@[simp] theorem asked_pure (a : α) : (pure a : Timed κ α).asked = [] := rfl

@[simp] theorem asked_map (f : α → β) (x : Timed κ α) : (x.map f).asked = x.asked := rfl

@[simp] theorem asked_bind (x : Timed κ α) (f : α → Timed κ β) :
    (x.bind f).asked = x.asked ++ (f x.value).asked := by
  simp only [asked, Timed.bind, List.map_append, map_snd_shift]

@[simp] theorem asked_wait (i : Instant) : (wait i : Timed κ Unit).asked = [] := rfl

@[simp] theorem asked_call (k : κ) (delay : Rat) (answer : α) :
    (call k delay answer).asked = [k] := rfl

@[simp] theorem asked_spawned (x : Timed κ α) : x.spawned.asked = x.asked := by
  simp [spawned]

@[simp] theorem asked_all (xs : List (Timed κ α)) : (all xs).asked = xs.flatMap asked := by
  simp only [asked, all, List.map_flatMap, List.flatMap_map]
  induction xs with
  | nil => rfl
  | cons x xs ih => rw [List.flatMap_cons, List.flatMap_cons, ih]; congr 1; exact asked_spawned x

@[simp] theorem asked_both (x : Timed κ (Except ε α)) (y : Timed κ (Except ε β)) :
    (both x y).asked = x.asked ++ y.asked := by
  rw [← asked_spawned x, ← asked_spawned y]
  simp only [asked, both, ← List.map_append]
  cases x.spawned.value <;> cases y.spawned.value <;> try rfl
  -- Both fail, and the failure that comes first is the one that counts.
  simp only []
  split <;> rfl

/-! ## Limits -/

@[simp] theorem value_awaited (task : Timed κ α) : task.awaited.value = task.value := rfl

@[simp] theorem finish_awaited (task : Timed κ α) :
    task.awaited.finish = task.finish.after (.rounds 2) := rfl

@[simp] theorem asked_awaited (task : Timed κ α) : task.awaited.asked = task.asked := rfl

private theorem limited_map (f : α → β) (limit : Binary64) (expired : α) (task : Timed κ α) :
    limited limit (f expired) (task.map f) = (limited limit expired task).map f := by
  cases limit with
  | infinite negative => rfl
  | finite x =>
    simp only [limited]
    by_cases hin : task.finish.time < 1000 * x.toRat
    · rw [if_pos hin, if_pos (show (task.map f).finish.time < _ from hin)]
      rfl
    · rw [if_neg hin, if_neg (show ¬ (task.map f).finish.time < _ from hin)]
      by_cases hkept : task.finish.time = 1000 * x.toRat ∧ task.outlasts ⟨1000 * x.toRat, 0⟩ = true
      · rw [if_pos hkept, if_pos (show (task.map f).finish.time = _ ∧
          (task.map f).outlasts _ = true from hkept)]
        rfl
      · rw [if_neg hkept, if_neg (show ¬ ((task.map f).finish.time = _ ∧
          (task.map f).outlasts _ = true) from hkept)]
        rfl
  | nan =>
    simp only [limited]
    by_cases hin : task.finish.ble (.rounds 1) = true
    · rw [if_pos hin, if_pos (show (task.map f).finish.ble _ = true from hin)]
      rfl
    · rw [if_neg hin, if_neg (show ¬ (task.map f).finish.ble _ = true from hin)]
      by_cases hkept : task.outlasts (.rounds 2) = true ∧ task.outlasts (.rounds 3) = true
      · rw [if_pos hkept, if_pos (show (task.map f).outlasts _ = true ∧
          (task.map f).outlasts _ = true from hkept)]
        rfl
      · rw [if_neg hkept, if_neg (show ¬ ((task.map f).outlasts _ = true ∧
          (task.map f).outlasts _ = true) from hkept)]
        rfl

/-- `within` does not look at what work comes to. -/
theorem within_map (f : α → β) (limit : Option Binary64) (expired : α) (x : Timed κ α) :
    (x.map f).within limit (f expired) = (x.within limit expired).map f := by
  cases limit with
  | none => rfl
  | some limit =>
    simp only [within]
    split
    · rfl
    · exact limited_map f limit expired x.spawned

/-- A task that is `limited` runs out, or is as it was. -/
private theorem limited_cases (limit : Binary64) (expired : α) (task : Timed κ α) :
    (limited limit expired task).value = expired ∨
      (limited limit expired task).value = task.value ∧
        (limited limit expired task).asked = task.asked := by
  cases limit with
  | infinite negative => exact .inr ⟨rfl, rfl⟩
  | finite x =>
    simp only [limited]
    split
    · exact .inr ⟨rfl, rfl⟩
    · split
      · exact .inr ⟨rfl, rfl⟩
      · exact .inl rfl
  | nan =>
    simp only [limited]
    -- A limit that is no number lets work end in its first round only, or hand on its failure.
    split
    · exact .inr ⟨rfl, rfl⟩
    · split
      · exact .inr ⟨rfl, rfl⟩
      · exact .inl rfl

/-- Work `within` a limit runs out, or comes to its own value and asks its own questions. -/
theorem within_cases (limit : Option Binary64) (expired : α) (x : Timed κ α) :
    (x.within limit expired).value = expired ∨
      (x.within limit expired).value = x.value ∧ (x.within limit expired).asked = x.asked := by
  cases limit with
  | none => exact .inr ⟨rfl, rfl⟩
  | some limit =>
    simp only [within]
    split
    · exact .inl rfl
    · simpa using limited_cases limit expired x.spawned

/-- Whether a limit in seconds runs out on a call that is answered after a delay in milliseconds. A
limit that is no number runs out on every call that takes any time. -/
def runsOut (limit : Option Binary64) (delay : Rat) : Bool :=
  match limit with
  | none => false
  | some limit => limit.le .zero || match limit with
    | .infinite _ => false
    | .finite x => decide (1000 * x.toRat ≤ (Instant.ofWait delay).time)
    | .nan => delay != 0

/-- A `spawned` task takes as much time as its work. -/
theorem time_spawned (x : Timed κ α) : x.spawned.finish.time = x.finish.time := by
  show (Instant.after (.rounds 1) x.finish).time = x.finish.time
  rw [Instant.time_after]
  exact Rat.zero_add _

/-- `spawned` work outlasts being told to stop as the work does, one round later. -/
theorem outlasts_spawned (x : Timed κ α) (told : Instant) :
    x.spawned.outlasts told =
      ((Instant.rounds 1).ble told && x.outlasts (told.since (.rounds 1))) := rfl

/-- A `call` is always cut off. -/
@[simp] theorem outlasts_spawned_call (k : κ) (delay : Rat) (answer : α) (told : Instant) :
    (call k delay answer).spawned.outlasts told = false := by
  rw [outlasts_spawned]
  exact Bool.and_false _

/-- Work that takes longer than its limit runs out `within` it. -/
theorem value_within_of_lt (limit : Binary64.Finite) (expired : α) (x : Timed κ α)
    (h : 1000 * limit.toRat < x.finish.time) :
    (x.within (some (.finite limit)) expired).value = expired := by
  simp only [within]
  split
  · rfl
  · -- Only what ends at the limit could still be handed on.
    have hlate : ¬ x.finish.time < 1000 * limit.toRat := Rat.not_lt.mpr (Rat.le_of_lt h)
    have hlater : ¬ x.finish.time = 1000 * limit.toRat := (Std.ne_of_lt h).symm
    simp [limited, time_spawned, hlate, hlater, givenUp]

/-- The first turn of a `spawned` call is over in the same round only if the call takes no time. -/
private theorem ble_spawned_call_iff (k : κ) (delay : Rat) (answer : α) :
    (call k delay answer).spawned.finish.ble (.rounds 1) = true ↔ delay = 0 := by
  show (Instant.after (.rounds 1) (Instant.ofWait delay)).ble (.rounds 1) = true ↔ delay = 0
  unfold Instant.ofWait
  by_cases hzero : delay = 0
  · simp [hzero, Instant.after, Instant.zero, Instant.rounds, Instant.ble]
  · by_cases hneg : delay < 0
    · simp [hzero, hneg, Instant.after, Instant.rounds, Instant.ble]
    · -- An answer after some time comes later than any round of the present.
      have hafter : Instant.after (.rounds 1) ⟨delay, 1⟩ = ⟨delay, 1⟩ := by
        rw [Instant.after, if_neg hzero]
        exact congrArg (Instant.mk · 1) (Rat.zero_add delay)
      rw [if_neg hzero, if_neg hneg, hafter]
      simp [Instant.ble, Instant.rounds, hzero, hneg]

/-- A `call` comes to its answer `within` a limit that does not run out on it. -/
theorem value_call_within (limit : Option Binary64) (expired : α) (k : κ) (delay : Rat)
    (answer : α) :
    ((call k delay answer).within limit expired).value =
      if runsOut limit delay then expired else answer := by
  cases limit with
  | none => rfl
  | some limit =>
    unfold within runsOut
    -- A limit that is not positive runs out on every call, as it never starts.
    by_cases hpos : limit.le .zero = true
    · simp [hpos]
    · simp only [hpos, Bool.false_eq_true, ↓reduceIte, Bool.false_or]
      cases limit with
      | infinite negative => rfl
      | finite x =>
        have htime : (call k delay answer).spawned.finish.time = (Instant.ofWait delay).time :=
          time_spawned _
        -- A call that is answered at its very limit is late, as `spawned` work is not told at once.
        by_cases hlate : 1000 * x.toRat ≤ (Instant.ofWait delay).time
        · simp [limited, htime, hlate, Rat.not_lt.mpr hlate, givenUp]
        · simp [limited, htime, hlate, Rat.not_le.mp hlate]
      | nan =>
        by_cases hzero : delay = 0
        · subst hzero
          have hfirst := (ble_spawned_call_iff k 0 answer).mpr rfl
          simp [limited, hfirst]
        · have hlater := mt (ble_spawned_call_iff k delay answer).mp hzero
          simp [limited, hlater, hzero, givenUp]

end Timed

end TokenRisk
