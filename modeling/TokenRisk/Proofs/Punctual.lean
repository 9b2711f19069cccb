import TokenRisk.Proofs.Timed

/-!
# When calls are made

A call counts as made in time if it starts before the work ends that makes it. Work that a limit
cuts off keeps the calls that had started by then, and work that nobody waits for any more goes on
by itself. The lemmas of this file carry two facts about the calls of one kind along the composition
of work: that they all start before the work ends, and that they all start in its first rounds, so
that no positive limit comes before them.

## Key results

- `countP_callsMade`: what is asked in time is all that is asked, where the calls are punctual
- `isPunctual_bind`, `isPunctual_all`, `isPunctual_within`, `isPunctual_both_of_ok`: punctual work
  is put together from punctual work
- `filter_asked_within`: no positive limit cuts off a call that is made promptly
-/

namespace TokenRisk

/-! ## Moments -/

namespace Instant

theorem ble_iff (i j : Instant) : i.ble j = true ↔
    i.time < j.time ∨ i.time = j.time ∧ i.round ≤ j.round := by
  simp only [ble]
  grind

theorem blt_iff (i j : Instant) : i.blt j = true ↔
    i.time < j.time ∨ i.time = j.time ∧ i.round < j.round := by
  simp only [blt, ble]
  grind

theorem blt_of_ble_of_blt {i j k : Instant} (hij : i.ble j = true) (hjk : j.blt k = true) :
    i.blt k = true := by
  rw [ble_iff] at hij
  rw [blt_iff] at hjk ⊢
  grind

theorem blt_trans {i j k : Instant} (hij : i.blt j = true) (hjk : j.blt k = true) :
    i.blt k = true := by
  rw [blt_iff] at hij hjk ⊢
  grind

theorem ble_refl (i : Instant) : i.ble i = true :=
  (ble_iff i i).mpr (.inr ⟨rfl, Nat.le_refl _⟩)

theorem ble_trans {i j k : Instant} (hij : i.ble j = true) (hjk : j.ble k = true) :
    i.ble k = true := by
  rw [ble_iff] at hij hjk ⊢
  grind

/-- Counting from a moment by `after` keeps the order. -/
theorem after_blt_after (i : Instant) {j k : Instant} (h : j.blt k = true) :
    (i.after j).blt (i.after k) = true := by
  rw [blt_iff] at h ⊢
  simp only [after]
  split <;> split <;> grind

theorem after_ble_after (i : Instant) {j k : Instant} (h : j.ble k = true) :
    (i.after j).ble (i.after k) = true := by
  rw [ble_iff] at h ⊢
  simp only [after]
  split <;> split <;> grind

/-- What takes time does not end by `after` before it starts. -/
theorem ble_after (i j : Instant) (h : 0 ≤ j.time) : i.ble (i.after j) = true := by
  rw [ble_iff]
  simp only [after]
  split <;> grind

/-- A moment `after` some rounds is later. -/
theorem blt_after_rounds (i : Instant) (n : Nat) (h : 0 < n) :
    i.blt (i.after (.rounds n)) = true := by
  rw [blt_iff]
  simp [after, rounds, h]

theorem rounds_after_rounds (m n : Nat) : (rounds m).after (rounds n) = rounds (m + n) := by
  simp [after, rounds]

/-- What takes time does not take it back by `after`. -/
theorem time_le_time_after (i j : Instant) (h : 0 ≤ j.time) : i.time ≤ (i.after j).time := by
  rw [time_after]
  grind

/-- A moment keeps its time `after` rounds. -/
theorem time_after_of_time_eq_zero (i j : Instant) (h : j.time = 0) :
    (i.after j).time = i.time := by
  rw [time_after, h, Rat.add_zero]

/-- No wait of `ofWait` ends before it starts. -/
theorem zero_ble_ofWait (ms : Rat) : zero.ble (ofWait ms) = true := by
  rw [ble_iff, ofWait]
  split
  · simp
  · split
    · simp [zero, rounds]
    · simp only [zero]
      grind

private theorem ble_foldl_later (l : List Instant) (start : Instant) :
    start.ble (l.foldl later start) = true ∧ ∀ i ∈ l, i.ble (l.foldl later start) = true := by
  induction l generalizing start with
  | nil => exact ⟨ble_refl _, by simp⟩
  | cons i l ih =>
    obtain ⟨hstart, hrest⟩ := ih (later start i)
    -- Of the two moments the later one is taken, so it is no earlier than either.
    have hlater : start.ble (later start i) = true ∧ i.ble (later start i) = true := by
      simp only [later]
      split
      · rename_i hle
        exact ⟨hle, ble_refl _⟩
      · rename_i hnot
        rw [ble_iff] at hnot
        constructor <;> rw [ble_iff] <;> grind
    -- The rest of the list only makes the moment later.
    refine ⟨ble_trans hlater.1 hstart, fun j hj => ?_⟩
    rcases List.mem_cons.mp hj with rfl | hj
    · exact ble_trans hlater.2 hstart
    · exact hrest j hj

/-- The `latest` moment is no earlier than the start and no earlier than any of the moments. -/
theorem ble_latest (l : List Instant) :
    0 ≤ (latest l).time ∧ ∀ i ∈ l, i.ble (latest l) = true := by
  obtain ⟨hzero, hall⟩ := ble_foldl_later l zero
  rw [ble_iff, show zero.time = 0 from rfl] at hzero
  refine ⟨?_, hall⟩
  show 0 ≤ (l.foldl later zero).time
  grind

end Instant

namespace Timed

variable {κ α β ε : Type}

/-- Whoever waits for tasks goes on after each of them, as `joinAt` says. -/
theorem blt_joinAt (l : List Instant) (i : Instant) (hi : i ∈ l) : i.blt (joinAt l) = true :=
  Instant.blt_of_ble_of_blt ((Instant.ble_latest l).2 i hi)
    (Instant.blt_after_rounds _ 2 (by decide))

/-- `joinAt` is two rounds after the start at least. -/
theorem rounds_ble_joinAt (l : List Instant) : (Instant.rounds 2).ble (joinAt l) = true := by
  have hlatest := (Instant.ble_latest l).1
  rw [Instant.ble_iff]
  simp only [joinAt, Instant.after, Instant.rounds, ↓reduceIte]
  grind

theorem time_joinAt_nonneg (l : List Instant) : 0 ≤ (joinAt l).time := by
  rw [joinAt, Instant.time_after_of_time_eq_zero _ _ rfl]
  exact (Instant.ble_latest l).1

theorem time_both_nonneg (x : Timed κ (Except ε α)) (y : Timed κ (Except ε β)) :
    0 ≤ (both x y).finish.time := by
  simp only [both]
  split
  · exact time_joinAt_nonneg _
  · exact time_joinAt_nonneg _
  · exact time_joinAt_nonneg _
  · split <;> exact time_joinAt_nonneg _

/-- `both` pieces of work make their calls, each in its task. -/
private theorem calls_both (x : Timed κ (Except ε α)) (y : Timed κ (Except ε β)) :
    (both x y).calls = x.spawned.calls ++ y.spawned.calls := by
  simp only [both]
  cases x.spawned.value <;> cases y.spawned.value <;> try rfl
  -- Both fail, and the failure that comes first is the one that counts.
  simp only []
  split <;> rfl

/-! ## Work under a limit -/

/-- `toRat` of a positive double is positive. -/
theorem toRat_pos (x : Binary64.Finite) (h : Binary64.zero.lt (.finite x) = true) :
    0 < x.toRat := by
  have hzero : (Binary64.Finite.zero false).signedUnits = 0 := by decide
  have hpos : 0 < x.signedUnits := by
    simpa [Binary64.zero, Binary64.lt, hzero] using h
  have hunits : 0 < Binary64.unitsPerOne := by decide +kernel
  rw [Binary64.Finite.toRat, Rat.mkRat_eq_div, Rat.lt_div_iff (Rat.natCast_pos.mpr hunits),
    Rat.zero_mul]
  exact Rat.intCast_pos.mpr hpos

/-- An `awaited` task takes as much time as it does by itself. -/
theorem time_awaited (task : Timed κ α) : task.awaited.finish.time = task.finish.time := by
  rw [finish_awaited, Instant.time_after_of_time_eq_zero _ _ rfl]

/-- So does a task that is `handedOn`. -/
theorem time_handedOn (task : Timed κ α) : task.handedOn.finish.time = task.finish.time :=
  time_awaited task

/-- Work under a limit does not start, is `awaited` in a task of its own, or is `givenUp` at a
moment after the first turn of its task, with the calls that started before. What it outlasts
depends on whether it was told to stop at its limit. -/
private theorem within_forms {motive : Timed κ α → Prop} (limit : Binary64) (expired : α)
    (x : Timed κ α) (closed : motive { finish := .rounds 3, value := expired, calls := [] })
    (ended : ∀ outlasts, motive { x.spawned.awaited with outlasts })
    (givenUp : ∀ (finish : Instant) (inTime : Instant → Bool),
      (Instant.rounds 1).ble finish = true → (∀ i, inTime i = true → i.blt finish = true) →
        motive (x.spawned.givenUp finish expired inTime)) :
    motive (x.within (some limit) expired) := by
  simp only [within]
  split
  · exact closed
  · rename_i hpos
    -- What is given up has had its first turn, since a limit that lets work start is positive.
    cases limit with
    | infinite negative => exact ended _
    | finite limit =>
      have hexpiry : (0 : Rat) < 1000 * limit.toRat :=
        Rat.mul_pos (by decide) (toRat_pos limit (by
          simpa [Binary64.le, Binary64.zero] using hpos))
      simp only [limited]
      split
      · exact ended _
      · split
        · exact ended _
        · refine givenUp _ _ ((Instant.ble_iff _ _).mpr (.inl hexpiry)) fun i hi => ?_
          exact (Instant.blt_iff _ _).mpr (.inl (by simpa using hi))
    | nan =>
      simp only [limited]
      split
      · exact ended _
      · split
        · exact ended _
        · refine givenUp _ _ (by decide) fun i hi => ?_
          exact Instant.blt_of_ble_of_blt hi
            (show (Instant.rounds 2).blt (.rounds 5) = true by decide)

/-- `within` a limit work takes no negative time if it takes none without. -/
theorem time_within_nonneg (limit : Option Binary64) (expired : α) {x : Timed κ α}
    (h : 0 ≤ x.finish.time) : 0 ≤ (x.within limit expired).finish.time := by
  cases limit with
  | none => exact h
  | some limit =>
    refine within_forms (motive := fun y => 0 ≤ y.finish.time) limit expired x ?closed ?ended
      ?givenUp
    -- However the work ends under the limit, it ends no earlier than zero.
    case closed => exact Rat.le_refl
    case ended =>
      intro outlasts
      rw [time_awaited, time_spawned]
      exact h
    case givenUp =>
      intro finish _ hfinish _
      rw [Instant.ble_iff] at hfinish
      show 0 ≤ finish.time
      simp only [Instant.rounds] at hfinish
      grind

/-- `within` a limit of so many seconds work takes no longer. -/
theorem time_within_le (limit : Binary64.Finite) (expired : α) (x : Timed κ α) :
    (x.within (some (.finite limit)) expired).finish.time ≤ 0 ∨
      (x.within (some (.finite limit)) expired).finish.time ≤ 1000 * limit.toRat := by
  simp only [within]
  split
  · exact .inl Rat.le_refl
  · simp only [limited]
    split
    · rename_i hended
      rw [time_awaited]
      exact .inr (Rat.le_of_lt hended)
    · split
      · -- What outlasts its limit ends at that very time.
        rename_i hkept
        rw [time_handedOn]
        exact .inr (hkept.1 ▸ Rat.le_refl)
      · exact .inr Rat.le_refl

/-- `within` a limit work makes no other calls. -/
theorem mem_asked_of_within (limit : Option Binary64) (expired : α) (x : Timed κ α) (k : κ)
    (h : k ∈ (x.within limit expired).asked) : k ∈ x.asked := by
  cases limit with
  | none => exact h
  | some limit =>
    revert h
    refine within_forms (motive := fun y => k ∈ y.asked → k ∈ x.asked) limit expired x ?closed
      ?ended ?givenUp
    case closed => exact fun h => absurd h List.not_mem_nil
    case ended => exact fun _ h => by rwa [← asked_spawned]
    -- What is given up has asked no more than it would have asked.
    case givenUp =>
      intro finish inTime _ _ h
      obtain ⟨c, hc, rfl⟩ := List.mem_map.mp h
      rw [← asked_spawned]
      exact List.mem_map_of_mem (List.mem_filter.mp hc).1

/-! ## Prompt calls -/

/-- The calls of some kind that work makes all start in its first rounds, at the very time of its
start. -/
def IsPrompt (p : κ → Bool) (n : Nat) (x : Timed κ α) : Prop :=
  ∀ c ∈ x.calls, p c.2 = true → c.1.ble (.rounds n) = true

variable {p : κ → Bool} {n : Nat}

theorem isPrompt_call (k : κ) (delay : Rat) (answer : α) :
    (call k delay answer).IsPrompt p 0 := by
  intro c hc _
  rw [List.mem_singleton.mp hc]
  exact Instant.ble_refl .zero

/-- Work that makes no call of a kind `IsPrompt`. -/
theorem isPrompt_of_forall_not {x : Timed κ α} (h : ∀ k ∈ x.asked, p k = false) :
    x.IsPrompt p n := by
  intro c hc hp
  rw [h c.2 (List.mem_map_of_mem hc)] at hp
  cases hp

theorem IsPrompt.map {x : Timed κ α} (h : x.IsPrompt p n) (f : α → β) : (x.map f).IsPrompt p n :=
  h

/-- A `spawned` task gets its turn a round later. -/
theorem IsPrompt.spawned {x : Timed κ α} (h : x.IsPrompt p n) :
    x.spawned.IsPrompt p (n + 1) := by
  intro c hc hp
  obtain ⟨c', hc', rfl⟩ := List.mem_map.mp (show c ∈ shift (.rounds 1) x.calls from hc)
  have hlater := Instant.after_ble_after (.rounds 1) (h c' hc' hp)
  rwa [Instant.rounds_after_rounds, Nat.add_comm] at hlater

/-- The rounds that pass before work under a limit starts. -/
def turnsUnder : Option Binary64 → Nat
  | none => 0
  | some _ => 1

/-- `within` a limit calls may be left out, and the others are postponed to the turn of a task. -/
theorem IsPrompt.within {x : Timed κ α} (h : x.IsPrompt p n) (limit : Option Binary64)
    (expired : α) : (x.within limit expired).IsPrompt p (n + turnsUnder limit) := by
  cases limit with
  | none => exact h
  | some limit =>
    refine within_forms (motive := IsPrompt p (n + 1)) limit expired x ?closed ?ended ?givenUp
    case closed => exact fun c hc => absurd hc List.not_mem_nil
    case ended => exact fun _ => h.spawned
    case givenUp => exact fun _ _ _ _ c hc => h.spawned c (List.mem_filter.mp hc).1

/-- `both` pieces of work side by side start in tasks of their own. -/
theorem isPrompt_both {x : Timed κ (Except ε α)} {y : Timed κ (Except ε β)}
    (hx : x.IsPrompt p n) (hy : y.IsPrompt p n) : (both x y).IsPrompt p (n + 1) := by
  intro c hc hp
  rw [calls_both] at hc
  rcases List.mem_append.mp hc with hc | hc
  · exact hx.spawned c hc hp
  · exact hy.spawned c hc hp

/-- A `spawned` task ends a round later. -/
private theorem ble_finish_spawned {x : Timed κ α} (h : (Instant.rounds n).ble x.finish = true) :
    (Instant.rounds (n + 1)).ble x.spawned.finish = true := by
  have hlater := Instant.after_ble_after (.rounds 1) h
  rwa [Instant.rounds_after_rounds, Nat.add_comm] at hlater

/-- Work that makes no such call may come after work that `IsPrompt`. -/
theorem IsPrompt.bind {x : Timed κ α} {f : α → Timed κ β} (hx : x.IsPrompt p n)
    (hf : ∀ k ∈ (f x.value).asked, p k = false) : (x.bind f).IsPrompt p n := by
  intro c hc hp
  rcases List.mem_append.mp (show c ∈ x.calls ++ shift x.finish (f x.value).calls from hc) with
    hc | hc
  · exact hx c hc hp
  · obtain ⟨c', hc', rfl⟩ := List.mem_map.mp hc
    rw [hf c'.2 (List.mem_map_of_mem hc')] at hp
    cases hp

/-- A `call` under a limit is made in the turn of its task and does not end before it. -/
theorem isPrompt_call_within (k : κ) (delay : Rat) (answer : α) (limit : Option Binary64)
    (expired : α) : ((call k delay answer).within limit expired).IsPrompt p (turnsUnder limit) := by
  simpa using (isPrompt_call (p := p) k delay answer).within limit expired

theorem ble_finish_call_within (k : κ) (delay : Rat) (answer : α) (limit : Option Binary64)
    (expired : α) : (Instant.rounds (turnsUnder limit)).ble
      ((call k delay answer).within limit expired).finish = true := by
  cases limit with
  | none => exact Instant.zero_ble_ofWait delay
  | some limit =>
    have hturn := ble_finish_spawned (x := call k delay answer) (Instant.zero_ble_ofWait delay)
    refine within_forms (motive := fun x => (Instant.rounds 1).ble x.finish = true) limit expired
      (call k delay answer) ?closed ?ended ?givenUp
    case closed => exact show (Instant.rounds 1).ble (.rounds 3) = true by decide
    case ended =>
      exact fun _ => Instant.ble_trans hturn (Instant.ble_after _ _ (by simp [Instant.rounds]))
    case givenUp => exact fun _ _ hlater _ => hlater

/-- A limit in seconds that is positive, or none. -/
def IsOpen (limit : Option Binary64) : Prop :=
  ∀ x, limit = some x → Binary64.zero.lt x = true

/-- No limit that `IsOpen` cuts off a call that is made promptly. -/
theorem filter_asked_within {x : Timed κ α} (h : x.IsPrompt p n) (limit : Option Binary64)
    (hlimit : IsOpen limit) (expired : α) :
    (x.within limit expired).asked.filter p = x.asked.filter p := by
  cases limit with
  | none => rfl
  | some limit =>
    have hpos := hlimit limit rfl
    have hspawned : x.spawned.asked.filter p = x.asked.filter p := by rw [asked_spawned]
    -- A limit that is open is positive, and a positive one that is infinite never runs out.
    cases limit with
    | nan => cases hpos
    | infinite negative =>
      cases negative with
      | true => cases hpos
      | false => exact hspawned
    | finite limit =>
      have hle : (Binary64.finite limit).le .zero = false := by
        simp [Binary64.le, Binary64.zero] at hpos ⊢
        exact hpos
      simp only [within, hle, Bool.false_eq_true, ↓reduceIte, limited]
      split
      · exact hspawned
      · split
        · exact hspawned
        · -- The calls start at time zero, and the limit runs out later.
          have hexpiry : (0 : Rat) < 1000 * limit.toRat :=
            Rat.mul_pos (by decide) (toRat_pos limit hpos)
          rw [← hspawned]
          simp only [asked, givenUp, List.filter_map, List.filter_filter]
          refine congrArg _ (List.filter_congr fun c hc => ?_)
          cases hp : p c.2 with
          | false => simp [hp]
          | true =>
            have hearly := (Instant.ble_iff _ _).mp (h.spawned c hc hp)
            simp only [Instant.rounds] at hearly
            have htime : c.1.time < 1000 * limit.toRat := by grind
            simp [hp, htime]

/-! ## Punctual calls -/

/-- The calls of some kind that work makes all start before it ends. -/
def IsPunctual (p : κ → Bool) (x : Timed κ α) : Prop :=
  ∀ c ∈ x.calls, p c.2 = true → c.1.blt x.finish = true

/-- Where the calls of a kind are punctual, all of them are among `callsMade`. -/
theorem countP_callsMade {x : Timed κ α} (h : x.IsPunctual p) :
    x.callsMade.countP p = x.asked.countP p := by
  -- The calls made are those in time, sorted, and neither step leaves out a punctual call.
  have hsorted : (sortedCalls (x.calls.filter fun c => c.1.blt x.finish)).Perm
      (x.calls.filter fun c => c.1.blt x.finish) := List.mergeSort_perm _ _
  rw [callsMade, asked, (hsorted.map _).countP_eq, List.countP_map, List.countP_map,
    List.countP_filter]
  refine List.countP_congr fun c hc => ?_
  cases hp : p c.2 with
  | false => simp [hp]
  | true => simp [hp, h c hc hp]

/-- Work that `IsPunctual` for a kind of calls is so for a narrower kind. -/
theorem IsPunctual.mono {q : κ → Bool} {x : Timed κ α} (h : x.IsPunctual p)
    (hpq : ∀ k, q k = true → p k = true) : x.IsPunctual q :=
  fun c hc hq => h c hc (hpq c.2 hq)

/-- Work that makes no call of a kind `IsPunctual`. -/
theorem isPunctual_of_forall_not {x : Timed κ α} (h : ∀ k ∈ x.asked, p k = false) :
    x.IsPunctual p := by
  intro c hc hp
  rw [h c.2 (List.mem_map_of_mem hc)] at hp
  cases hp

theorem isPunctual_pure (a : α) : (pure a : Timed κ α).IsPunctual p :=
  fun _ hc => absurd hc List.not_mem_nil

theorem IsPunctual.map {x : Timed κ α} (h : x.IsPunctual p) (f : α → β) : (x.map f).IsPunctual p :=
  h

/-- Work after a `wait` is as punctual as it is. -/
theorem isPunctual_wait_bind (start : Instant) {x : Timed κ α} (h : x.IsPunctual p) :
    ((wait start).bind fun _ => x).IsPunctual p := by
  intro c hc hp
  obtain ⟨c', hc', rfl⟩ := List.mem_map.mp (show c ∈ shift start x.calls from hc)
  exact Instant.after_blt_after start (h c' hc' hp)

theorem IsPunctual.spawned {x : Timed κ α} (h : x.IsPunctual p) : x.spawned.IsPunctual p :=
  isPunctual_wait_bind (.rounds 1) h

/-- Work that `IsPunctual` is so if it ends later. -/
private theorem IsPunctual.later {x : Timed κ α} (h : x.IsPunctual p) (finish : Instant)
    (hfinish : x.finish.ble finish = true) (a : β) (outlasts : Instant → Bool) :
    (⟨finish, a, x.calls, outlasts⟩ : Timed κ β).IsPunctual p := by
  intro c hc hp
  have hlt := h c hc hp
  rw [Instant.blt_iff] at hlt ⊢
  rw [Instant.ble_iff] at hfinish
  grind

/-- `bind` of work that `IsPunctual` to more of it is punctual. -/
theorem isPunctual_bind {x : Timed κ α} {f : α → Timed κ β} (hx : x.IsPunctual p)
    (hf : (f x.value).IsPunctual p) (hfinish : 0 ≤ (f x.value).finish.time) :
    (x.bind f).IsPunctual p := by
  intro c hc hp
  rcases List.mem_append.mp (show c ∈ x.calls ++ shift x.finish (f x.value).calls from hc) with
    hc | hc
  · -- The first piece ends no later than both.
    exact hx.later _ (Instant.ble_after x.finish _ hfinish) () (fun _ => false) c hc hp
  · obtain ⟨c', hc', rfl⟩ := List.mem_map.mp hc
    exact Instant.after_blt_after x.finish (hf c' hc' hp)

/-- Punctual work side by side is punctual if `all` is waited for. -/
theorem isPunctual_all {xs : List (Timed κ α)} (h : ∀ x ∈ xs, x.IsPunctual p) :
    (all xs).IsPunctual p := by
  intro c hc hp
  obtain ⟨task, htask, hc⟩ := List.mem_flatMap.mp hc
  obtain ⟨x, hx, rfl⟩ := List.mem_map.mp htask
  have hfinish : (all xs).finish = joinAt ((xs.map Timed.spawned).map Timed.finish) := by
    have hne : ¬ xs.isEmpty = true := by
      rw [List.isEmpty_iff]
      exact List.ne_nil_of_mem hx
    simp only [all, if_neg hne]
  rw [hfinish]
  exact Instant.blt_trans ((h x hx).spawned c hc hp)
    (blt_joinAt _ _ (List.mem_map_of_mem htask))

/-- Punctual work that comes to something is punctual side by side, as `both` pieces are waited
for. -/
theorem isPunctual_both_of_ok {x : Timed κ (Except ε α)} {y : Timed κ (Except ε β)} {a : α} {b : β}
    (hx : x.IsPunctual p) (hy : y.IsPunctual p) (ha : x.value = .ok a) (hb : y.value = .ok b) :
    (both x y).IsPunctual p := by
  have hfinish : (both x y).finish = joinAt [x.spawned.finish, y.spawned.finish] := by
    simp only [both, value_spawned, ha, hb]
  intro c hc hp
  rw [hfinish]
  rw [calls_both] at hc
  rcases List.mem_append.mp hc with hc | hc
  · exact Instant.blt_trans (hx.spawned c hc hp) (blt_joinAt _ _ (by simp))
  · exact Instant.blt_trans (hy.spawned c hc hp) (blt_joinAt _ _ (by simp))

/-- Whatever they come to, `both` pieces of work side by side are punctual if none of them ends
before a round by which the calls of both have started. -/
theorem isPunctual_both_of_isPrompt {x : Timed κ (Except ε α)} {y : Timed κ (Except ε β)}
    (hx : x.IsPrompt p n) (hy : y.IsPrompt p n) (hxn : (Instant.rounds n).ble x.finish = true)
    (hyn : (Instant.rounds n).ble y.finish = true) : (both x y).IsPunctual p := by
  -- The wait ends after one of the two tasks, or after both.
  have hfinish : x.spawned.finish.blt (both x y).finish = true ∨
      y.spawned.finish.blt (both x y).finish = true := by
    simp only [both]
    cases x.spawned.value <;> cases y.spawned.value
    · simp only []
      split
      · exact .inr (blt_joinAt _ _ (by simp))
      · exact .inl (blt_joinAt _ _ (by simp))
    · exact .inl (blt_joinAt _ _ (by simp))
    · exact .inr (blt_joinAt _ _ (by simp))
    · exact .inl (blt_joinAt _ _ (by simp))
  -- Neither task ends before both have had their turns.
  have hturn : (Instant.rounds (n + 1)).blt (both x y).finish = true := by
    rcases hfinish with hfinish | hfinish
    · exact Instant.blt_of_ble_of_blt (ble_finish_spawned hxn) hfinish
    · exact Instant.blt_of_ble_of_blt (ble_finish_spawned hyn) hfinish
  exact fun c hc hp => Instant.blt_of_ble_of_blt (isPrompt_both hx hy c hc hp) hturn

/-- `within` a limit no call is left behind that has not started before the limit runs out. -/
theorem isPunctual_within {x : Timed κ α} (h : x.IsPunctual p) (limit : Option Binary64)
    (expired : α) : (x.within limit expired).IsPunctual p := by
  cases limit with
  | none => exact h
  | some limit =>
    refine within_forms (motive := IsPunctual p) limit expired x ?closed ?ended ?givenUp
    case closed => exact fun c hc => absurd hc List.not_mem_nil
    case ended =>
      exact h.spawned.later _ (Instant.ble_after _ _ (by simp [Instant.rounds])) x.value
    case givenUp =>
      intro finish inTime _ hearly c hc _
      exact hearly c.1 (List.mem_filter.mp hc).2

/-- With `both` pieces of work side by side, the wait goes on until the punctual one fails, and they
are punctual if the calls of the other one have started by some round and the failure does not come
before it. -/
theorem isPunctual_both_of_error {x : Timed κ (Except ε α)} {y : Timed κ (Except ε β)} {a : α}
    {e : ε} (hx : x.IsPrompt p n) (hy : y.IsPunctual p)
    (hyn : (Instant.rounds n).ble y.finish = true) (ha : x.value = .ok a)
    (he : y.value = .error e) : (both x y).IsPunctual p := by
  have hfinish : (both x y).finish = joinAt [y.spawned.finish] := by
    simp only [both, value_spawned, ha, he]
  intro c hc hp
  rw [hfinish]
  rw [calls_both] at hc
  rcases List.mem_append.mp hc with hc | hc
  · exact Instant.blt_of_ble_of_blt
      (Instant.ble_trans (hx.spawned c hc hp) (ble_finish_spawned hyn))
      (blt_joinAt _ _ (by simp))
  · exact Instant.blt_trans (hy.spawned c hc hp) (blt_joinAt _ _ (by simp))

end Timed

end TokenRisk
