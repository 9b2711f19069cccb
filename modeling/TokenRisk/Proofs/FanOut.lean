import TokenRisk.Proofs.Lookups

/-!
# Bounded fan-out

At no time more chains of a survey are analyzed than there are slots, and no chain waits while a
slot could be taken: a slot that an analysis gives back, whatever the analysis came to, can be taken
in the next round.

The slots' schedule is looked at first, for any work. A piece of work holds its slot from its start
until the slot can be taken again. At any moment no more slots are held than could be taken by then
(`countP_isHeld_le`), and just as many as long as a piece is still to start (`countP_isHeld_eq`).

## Key results

- `Slots.countP_schedule_le`, `Slots.countP_schedule_eq`: how many slots are held at a moment
- `Surveyor.stops_filter`: chains that are not supported take no slot
- `Surveyor.fans_out_within_limit`: the fan-out of a survey
-/

namespace TokenRisk

namespace Slots

/-! ## Slots in use -/

/-- A piece of work, given by its start and its duration, has the slot that it took. -/
def isHeld (t : Instant) (piece : Instant × Instant) : Bool :=
  piece.1.ble t && t.blt (reopened (piece.1.after piece.2))

/-- A slot is `reopened` no sooner than it is given back. -/
theorem ble_reopened (i : Instant) : i.ble (reopened i) = true := by
  rw [reopened]
  split
  · rename_i hzero
    rw [hzero]
    exact Instant.ble_refl _
  · exact Instant.ble_after i _ (by simp [Instant.rounds])

theorem insertFree_perm (i : Instant) (free : List Instant) :
    (insertFree i free).Perm (i :: free) := by
  induction free with
  | nil => exact .refl _
  | cons j free ih =>
    simp only [insertFree]
    split
    · exact (ih.cons j).trans (.swap i j free)
    · exact .refl _

/-- The slots come in the order in which they can be taken. -/
def IsRising (free : List Instant) : Prop :=
  free.Pairwise fun i j => i.ble j = true

theorem IsRising.insertFree {free : List Instant} (h : IsRising free) (i : Instant) :
    IsRising (insertFree i free) := by
  induction free with
  | nil => exact List.pairwise_singleton _ _
  | cons j free ih =>
    obtain ⟨hfirst, hrest⟩ := List.pairwise_cons.mp h
    simp only [Slots.insertFree]
    split
    · -- The slot is put somewhere behind the first one.
      rename_i hle
      refine List.pairwise_cons.mpr ⟨fun k hk => ?_, ih hrest⟩
      rcases List.mem_cons.mp ((insertFree_perm i free).mem_iff.mp hk) with rfl | hk
      · exact hle
      · exact hfirst k hk
    · rename_i hlater
      have hij : i.ble j = true := by
        rw [Instant.ble_iff] at hlater ⊢
        grind
      refine List.pairwise_cons.mpr ⟨fun k hk => ?_, h⟩
      rcases List.mem_cons.mp hk with rfl | hk
      · exact hij
      · exact Instant.ble_trans hij (hfirst k hk)

/-- If no slot can be taken before the zero of time, `starts` has no earlier start. -/
theorem time_starts_nonneg (free durations : List Instant) (hfree : ∀ i ∈ free, 0 ≤ i.time)
    (h : ∀ d ∈ durations, 0 ≤ d.time) : ∀ i ∈ starts free durations, 0 ≤ i.time := by
  induction durations generalizing free with
  | nil => simp [starts]
  | cons duration durations ih =>
    obtain ⟨hfirst, hrest⟩ := List.forall_mem_cons.mp h
    cases free with
    | nil => simp [starts]
    | cons start free =>
      obtain ⟨hstart, hlater⟩ := List.forall_mem_cons.mp hfree
      -- The slot that is taken is free again when the piece ends, which is no earlier.
      have hends := Instant.time_le_time_after start duration hfirst
      have hreopened : 0 ≤ (reopened (start.after duration)).time := by
        have hle := (Instant.ble_iff _ _).mp (ble_reopened (start.after duration))
        grind
      refine List.forall_mem_cons.mpr ⟨hstart, ih _ (fun i hi => ?_) hrest⟩
      -- So the free slots are all at times that are not negative, whichever comes next.
      rcases List.mem_cons.mp ((insertFree_perm _ free).mem_iff.mp hi) with rfl | hi
      · exact hreopened
      · exact hlater i hi

/-- What a piece of work adds to the slots that are held, by `isHeld`, and to those that can be
taken again is the slot that it took. -/
private theorem held_add_free (t start : Instant) {duration : Instant} (h : 0 ≤ duration.time) :
    (if isHeld t (start, duration) then 1 else 0) +
      (if (reopened (start.after duration)).ble t then 1 else 0) =
      if start.ble t then 1 else 0 := by
  have hle : start.ble (reopened (start.after duration)) = true :=
    Instant.ble_trans (Instant.ble_after start duration h) (ble_reopened _)
  cases hpassed : (reopened (start.after duration)).ble t with
  | true => simp [isHeld, Instant.blt, hpassed, Instant.ble_trans hle hpassed]
  | false => simp [isHeld, Instant.blt, hpassed]

/-- No more slots are held at a moment than could be taken by then: `isHeld` counts at most the free
ones. -/
theorem countP_isHeld_le (t : Instant) (free durations : List Instant)
    (h : ∀ d ∈ durations, 0 ≤ d.time) :
    ((starts free durations).zip durations).countP (isHeld t) ≤ free.countP (·.ble t) := by
  -- Induction on the pieces: each takes a slot out of those that are free and puts one back.
  induction durations generalizing free with
  | nil => simp [starts]
  | cons duration durations ih =>
    obtain ⟨hfirst, hrest⟩ := List.forall_mem_cons.mp h
    cases free with
    | nil => simp [starts]
    | cons start free =>
      have hadd := held_add_free t start hfirst
      have hlater := ih (insertFree (reopened (start.after duration)) free) hrest
      rw [(insertFree_perm _ _).countP_eq, List.countP_cons] at hlater
      rw [starts, List.zip_cons_cons, List.countP_cons, List.countP_cons]
      omega

/-- Just as many are held as long as one of the `starts` is still to come. -/
theorem countP_isHeld_eq (t i : Instant) (free durations : List Instant) (hfree : IsRising free)
    (h : ∀ d ∈ durations, 0 ≤ d.time) (hi : i ∈ starts free durations) (hwaits : t.blt i = true) :
    ((starts free durations).zip durations).countP (isHeld t) = free.countP (·.ble t) := by
  -- The same induction, down to the piece that is still to start. It takes the slot that can be
  -- taken first, so by then none can.
  induction durations generalizing free with
  | nil => simp [starts] at hi
  | cons duration durations ih =>
    obtain ⟨hfirst, hrest⟩ := List.forall_mem_cons.mp h
    cases free with
    | nil => simp [starts] at hi
    | cons start free =>
      by_cases hstarted : start.ble t = true
      · -- The piece that is still to start is a later one.
        have hi : i ∈ starts (insertFree (reopened (start.after duration)) free) durations := by
          rcases List.mem_cons.mp hi with rfl | hi
          · simp [Instant.blt, hstarted] at hwaits
          · exact hi
        have hadd := held_add_free t start hfirst
        have hrising : IsRising free := (List.pairwise_cons.mp hfree).2
        have hlater := ih _ (hrising.insertFree _) hrest hi
        rw [(insertFree_perm _ _).countP_eq, List.countP_cons] at hlater
        rw [starts, List.zip_cons_cons, List.countP_cons, List.countP_cons]
        omega
      · -- No slot can be taken by then, as the first one cannot.
        have hnone : (start :: free).countP (·.ble t) = 0 := by
          refine List.countP_eq_zero.mpr fun j hj hjt => hstarted ?_
          rcases List.mem_cons.mp hj with rfl | hj
          · exact hjt
          · exact Instant.ble_trans ((List.pairwise_cons.mp hfree).1 j hj) hjt
        have hle := countP_isHeld_le t (start :: free) (duration :: durations) h
        omega

/-- A `schedule` never holds more slots than there are. -/
theorem countP_schedule_le (slots : Nat) (durations : List Instant) (t : Instant)
    (h : ∀ d ∈ durations, 0 ≤ d.time) :
    ((schedule slots durations).zip durations).countP (isHeld t) ≤ slots := by
  have hle := countP_isHeld_le t (List.replicate (min slots durations.length) .zero) durations h
  have hlength := List.countP_le_length (p := (Instant.ble · t))
    (l := List.replicate (min slots durations.length) Instant.zero)
  rw [List.length_replicate] at hlength
  rw [schedule]
  omega

/-- A `schedule` holds all slots as long as a piece of work is still to start. -/
theorem countP_schedule_eq (slots : Nat) (durations : List Instant) (t i : Instant)
    (h : ∀ d ∈ durations, 0 ≤ d.time) (hi : i ∈ schedule slots durations)
    (hbegun : Instant.zero.ble t = true) (hwaits : t.blt i = true) :
    ((schedule slots durations).zip durations).countP (isHeld t) = slots := by
  -- At the start all slots are free at once, so they are in order.
  have hrising : IsRising (List.replicate (min slots durations.length) .zero) :=
    List.pairwise_replicate.mpr (.inr (Instant.ble_refl _))
  have heq := countP_isHeld_eq t i _ durations hrising h hi hwaits
  rw [List.countP_replicate, if_pos hbegun] at heq
  -- With a slot for each piece, the one that is still to start would hold one already.
  have hpos : 0 < slots := by
    rcases Nat.eq_zero_or_pos slots with rfl | hpos
    · cases durations <;> simp [schedule, starts] at hi
    · exact hpos
  have hlength := length_schedule slots durations hpos
  -- The piece that waits does not hold a slot itself.
  rw [← List.map_fst_zip (Nat.le_of_eq hlength)] at hi
  obtain ⟨piece, hpiece, rfl⟩ := List.mem_map.mp hi
  have hfew : ((schedule slots durations).zip durations).countP (isHeld t) <
      ((schedule slots durations).zip durations).length := by
    refine Nat.lt_of_le_of_ne List.countP_le_length fun hall => ?_
    have hheld := List.countP_eq_length.mp hall piece hpiece
    simp only [Instant.blt, Bool.not_eq_true'] at hwaits
    simp [isHeld, hwaits] at hheld
  rw [List.length_zip, hlength, Nat.min_self] at hfew
  rw [schedule] at hfew ⊢
  omega

end Slots

namespace Surveyor

variable (s : Surveyor)

/-! ## Chains under analysis -/

namespace Stop

/-- When a visit ends, be it with an analysis, in a failure or by running out of time. -/
def ends (v : Stop) : Instant :=
  v.start.after v.visit.finish

/-- The analysis of a supported chain has started, and has neither ended nor been given up. -/
def isActiveAt (t : Instant) (v : Stop) : Bool :=
  Chain.isSupported v.chainId && (v.start.ble t && t.blt v.ends)

/-- A supported chain has the slot that it took. -/
def holdsSlotAt (t : Instant) (v : Stop) : Bool :=
  Chain.isSupported v.chainId && (v.start.ble t && t.blt (Slots.reopened v.ends))

theorem holdsSlotAt_of_isActiveAt {t : Instant} {v : Stop} (h : v.isActiveAt t = true) :
    v.holdsSlotAt t = true := by
  simp only [isActiveAt, holdsSlotAt, Bool.and_eq_true] at h ⊢
  obtain ⟨hsupported, hstart, hends⟩ := h
  refine ⟨hsupported, hstart, ?_⟩
  have hle := Slots.ble_reopened v.ends
  rw [Instant.blt_iff] at hends ⊢
  rw [Instant.ble_iff] at hle
  grind

end Stop

/-- How long the visits of the supported targets take. -/
def durations (address : String) (targets : List Int) : List Instant :=
  (targets.filter Chain.isSupported).map fun id => (s.visit address id).finish

/-- The supported chains of `stopsFrom` take the starts in order. -/
private theorem spans_stopsFrom (address : String) (starts : List Instant) (targets : List Int) :
    ((s.stopsFrom address starts targets).filter fun v => Chain.isSupported v.chainId).map
        (fun v => (v.start, v.visit.finish)) =
      starts.zip (s.durations address targets) := by
  -- Both sides go through the targets; only a supported one takes a start.
  induction targets generalizing starts with
  | nil => simp [stopsFrom, durations]
  | cons id targets ih =>
    cases hsupported : Chain.isSupported id with
    | true =>
      cases starts with
      | nil => simpa [stopsFrom, hsupported] using ih []
      | cons start starts =>
        have hrest := ih starts
        simp only [durations] at hrest ⊢
        simp [stopsFrom, stopAt, hsupported, hrest]
    | false =>
      have hrest := ih starts
      simp only [durations] at hrest ⊢
      simp [stopsFrom, stopAt, hsupported, hrest]

/-- The supported chains of `stops` run by the `schedule` of their visits. -/
private theorem spans_stops (address : String) (targets : List Int) :
    ((s.stops address targets).filter fun v => Chain.isSupported v.chainId).map
        (fun v => (v.start, v.visit.finish)) =
      (Slots.schedule s.slots.toNat (s.durations address targets)).zip
        (s.durations address targets) :=
  s.spans_stopsFrom address _ targets

/-- The slots that are held in a survey are those of its `schedule`. -/
private theorem countP_holdsSlotAt (address : String) (targets : List Int) (t : Instant) :
    (s.stops address targets).countP (·.holdsSlotAt t) =
      ((Slots.schedule s.slots.toNat (s.durations address targets)).zip
        (s.durations address targets)).countP (Slots.isHeld t) := by
  rw [← s.spans_stops, List.countP_map, List.countP_filter]
  refine List.countP_congr fun v _ => ?_
  simp [Stop.holdsSlotAt, Stop.ends, Slots.isHeld, and_comm]

/-- The starts of supported chains are those of the `schedule`. -/
private theorem start_mem_schedule (address : String) (targets : List Int) (v : Stop)
    (hv : v ∈ s.stops address targets) (hsupported : Chain.isSupported v.chainId = true) :
    v.start ∈ Slots.schedule s.slots.toNat (s.durations address targets) := by
  have hspan : (v.start, v.visit.finish) ∈
      ((s.stops address targets).filter fun v => Chain.isSupported v.chainId).map
        (fun v => (v.start, v.visit.finish)) :=
    List.mem_map.mpr ⟨v, List.mem_filter.mpr ⟨hv, hsupported⟩, rfl⟩
  rw [s.spans_stops] at hspan
  exact (List.of_mem_zip hspan).1

/-- A chain that is not supported has its record at once, so `stopsFrom` starts it at zero. -/
private theorem start_stopsFrom_of_unsupported (address : String) (starts : List Instant)
    (targets : List Int) (v : Stop) (hv : v ∈ s.stopsFrom address starts targets)
    (h : Chain.isSupported v.chainId = false) : v.start = .zero := by
  induction targets generalizing starts with
  | nil => cases hv
  | cons id targets ih =>
    simp only [stopsFrom] at hv
    split at hv
    · rename_i hsupported
      split at hv
      · exact ih _ hv
      · -- A supported chain took its start from the slots, and is not the one in question.
        rcases List.mem_cons.mp hv with rfl | hv
        · rw [stopAt, hsupported] at h
          cases h
        · exact ih _ hv
    · -- Any other chain starts at once.
      rcases List.mem_cons.mp hv with rfl | hv
      · rfl
      · exact ih _ hv

private theorem stopsFrom_filter (address : String) (starts : List Instant) (targets : List Int) :
    s.stopsFrom address starts (targets.filter Chain.isSupported) =
      (s.stopsFrom address starts targets).filter fun v => Chain.isSupported v.chainId := by
  induction targets generalizing starts with
  | nil => simp [stopsFrom]
  | cons id targets ih =>
    cases hsupported : Chain.isSupported id with
    | true =>
      cases starts with
      | nil => simpa [stopsFrom, hsupported] using ih []
      | cons start starts => simp [stopsFrom, stopAt, hsupported, ih]
    | false => simp [stopsFrom, stopAt, hsupported, ih]

/-- Chains that are not supported take no slot: without them, the other `stops` start when they
do. -/
theorem stops_filter (address : String) (targets : List Int) :
    s.stops address (targets.filter Chain.isSupported) =
      (s.stops address targets).filter fun v => Chain.isSupported v.chainId := by
  rw [stops, stops, List.filter_filter, stopsFrom_filter]
  simp

theorem time_visit_nonneg (address : String) (chainId : Int)
    (h : 0 ≤ (s.analyze (some address) chainId).finish.time) :
    0 ≤ (s.visit address chainId).finish.time :=
  Timed.time_within_nonneg (x := (s.analyze (some address) chainId).map some) _ _ h

theorem time_durations_nonneg (address : String) (targets : List Int)
    (h : ∀ id, 0 ≤ (s.analyze (some address) id).finish.time) :
    ∀ d ∈ s.durations address targets, 0 ≤ d.time := by
  intro d hd
  obtain ⟨id, _, rfl⟩ := List.mem_map.mp hd
  exact s.time_visit_nonneg address id (h id)

/-- No stop of `stops` starts before zero, as the survey does. -/
theorem time_start_nonneg (address : String) (targets : List Int)
    (h : ∀ id, 0 ≤ (s.analyze (some address) id).finish.time) :
    ∀ v ∈ s.stops address targets, 0 ≤ v.start.time := by
  intro v hv
  cases hsupported : Chain.isSupported v.chainId with
  | false =>
    rw [s.start_stopsFrom_of_unsupported address _ targets v hv hsupported]
    exact Rat.le_refl
  | true =>
    apply Slots.time_starts_nonneg _ _ _ (s.time_durations_nonneg address targets h) v.start
      (s.start_mem_schedule address targets v hv hsupported)
    intro i hi
    rw [(List.mem_replicate.mp hi).2]
    exact Rat.le_refl

/-! ## Surveys -/

/-- The fan-out of a survey over targets. -/
structure FansOut (address : String) (targets : List Int) : Prop where
  /-- At no time more chains are analyzed than there are slots. -/
  active : ∀ t, ((s.stops address targets).countP (·.isActiveAt t) : Int) ≤ s.slots
  /-- A chain waits only while each slot is held by one whose visit has not ended a round ago. -/
  waiting : ∀ v ∈ s.stops address targets, ∀ t, Instant.zero.ble t = true →
    t.blt v.start = true → ((s.stops address targets).countP (·.holdsSlotAt t) : Int) = s.slots
  /-- No chain has its slot for longer than the limit for a chain. -/
  limited : ∀ limit, s.chainLimit.map Number.toBinary64 = some (.finite limit) →
    ∀ v ∈ s.stops address targets, v.visit.finish.time ≤ 0 ∨
      v.visit.finish.time ≤ 1000 * limit.toRat
  /-- Chains that are not supported have their records at once, and leave the others their slots. -/
  unsupported : (∀ v ∈ s.stops address targets, Chain.isSupported v.chainId = false →
      v.run = pure (visitUnsupported address v.chainId)) ∧
    s.stops address (targets.filter Chain.isSupported) =
      (s.stops address targets).filter fun v => Chain.isSupported v.chainId
  /-- Each target has its record in the end, in order. -/
  recorded : (Timed.all (s.visits address targets)).value = targets.map (s.visitOn address) ∧
    (Timed.all (s.visits address targets)).value.map (·.1.chainId) = targets

/-- `FansOut` holds of every survey with slots, whatever the analyses come to and however long they
take, as no time is negative: it keeps within the number of slots, leaves none unused while a chain
waits, and has a record for each target. -/
theorem fans_out_within_limit (address : String) (targets : List Int) (hslots : 0 < s.slots)
    (htime : ∀ id, 0 ≤ (s.analyze (some address) id).finish.time) :
    s.FansOut address targets := by
  have hdurations := s.time_durations_nonneg address targets htime
  -- With slots, every target is visited, and the visits are side by side.
  have hrecords : (Timed.all (s.visits address targets)).value =
      targets.map (s.visitOn address) := by
    rw [Timed.value_all, s.value_visits address targets (.inl hslots)]
  constructor
  case active =>
    intro t
    -- A chain under analysis holds its slot.
    have hle := Slots.countP_schedule_le s.slots.toNat (s.durations address targets) t hdurations
    have hheld : (s.stops address targets).countP (·.isActiveAt t) ≤
        (s.stops address targets).countP (·.holdsSlotAt t) :=
      List.countP_mono_left fun v _ => Stop.holdsSlotAt_of_isActiveAt
    rw [s.countP_holdsSlotAt] at hheld
    omega
  case waiting =>
    intro v hv t hbegun hwaits
    cases hsupported : Chain.isSupported v.chainId with
    | false =>
      -- Such a chain does not wait.
      have hstart := s.start_stopsFrom_of_unsupported address _ targets v hv hsupported
      rw [hstart, Instant.blt, hbegun] at hwaits
      cases hwaits
    | true =>
      -- A supported chain takes a start of the schedule, and while it waits all slots are held.
      have hstart := s.start_mem_schedule address targets v hv hsupported
      rw [s.countP_holdsSlotAt, Slots.countP_schedule_eq _ _ t v.start hdurations hstart hbegun
        hwaits]
      omega
  case limited =>
    intro limit hlimit v hv
    obtain ⟨id, _, start, rfl⟩ := s.mem_stops address targets v hv
    rw [stopAt]
    split
    · rw [visit, hlimit]
      -- What is visited is `within` the limit, and what is not takes no time.
      exact Timed.time_within_le limit none _
    · exact .inl Rat.le_refl
  case unsupported =>
    refine ⟨fun v hv hsupported => ?_, s.stops_filter address targets⟩
    have hstart := s.start_stopsFrom_of_unsupported address _ targets v hv hsupported
    obtain ⟨id, _, start, rfl⟩ := s.mem_stops address targets v hv
    -- A chain without support takes no start, so it has its record at once.
    have hzero : start = .zero := hstart
    have hvisit : (if Chain.isSupported id then s.visit address id
        else pure (visitUnsupported address id)) = pure (visitUnsupported address id) :=
      if_neg (by simpa [stopAt] using hsupported)
    rw [run_stopAt, hzero, hvisit]
    exact Timed.wait_zero_bind_pure _
  case recorded =>
    refine ⟨hrecords, ?_⟩
    rw [hrecords, List.map_map]
    exact (List.map_congr_left fun id _ => s.chainId_visitOn address id).trans (List.map_id _)

/-- One slot and a limit of a second. The analysis of one chain fails after a tenth of a second, the
others take too long. -/
def narrow : Surveyor where
  analyze _ chainId := {
    finish := ⟨if chainId = 1 then 100 else 5000, 1⟩
    value := .error (.fault .runtime "out of reach")
    calls := [] }
  chainLimit := some (.whole 1)
  slots := 1
  now := ""

/-- The slot of `narrow` is passed on by a chain that fails and by chains that run out of time, and
taken a second time by a target that is named twice. -/
theorem fans_out_within_limit_narrow :
    narrow.FansOut "" [1, 999, 56, 137, 1] ∧
      (narrow.stops "" [1, 999, 56, 137, 1]).map (·.start) =
        [.zero, .zero, ⟨100, 4⟩, ⟨1100, 5⟩, ⟨2100, 5⟩] := by
  refine ⟨narrow.fans_out_within_limit "" _ (by decide) fun id => ?_, by decide +kernel⟩
  simp only [narrow]
  split <;> decide

end Surveyor

end TokenRisk
