import TokenRisk.Proofs.Ledger

/-!
# What a ledger owes

A key is owed the result that stands under it, as long as that is younger than the lifetime and has
fewer rivals than the ledger has room. The ledger holds it that long: whatever is used after it is a
rival of its key, so that among the results that give way it never comes to be the first.

## Key results

- `Ledger.Holds`: a result is present, and only rivals were used after it
- `Ledger.Serves.perform`: each operation keeps a ledger true to the history
-/

namespace TokenRisk

namespace Ledger

open Cache

variable {κ ν : Type} [DecidableEq κ] {l : Ledger κ ν}

/-! ## What is owed -/

/-- A result is present, and whatever was used after it is among some keys. -/
def Holds (l : Ledger κ ν) (key : κ) (value : ν) (since : Binary64) (rivals : List κ) : Prop :=
  ∃ front d back, l.present = front ++ d :: back ∧ d.key = key ∧ d.value = value ∧
    d.since = since ∧ ∀ e ∈ back, e.key ∈ rivals

section Holds

variable {key : κ} {value : ν} {since : Binary64} {rivals rivals' : List κ}

omit [DecidableEq κ] in
theorem Holds.mem (h : l.Holds key value since rivals) :
    ∃ d ∈ l.present, d.key = key ∧ d.value = value ∧ d.since = since := by
  obtain ⟨front, d, back, hpresent, hkey, hvalue, hsince, _⟩ := h
  exact ⟨d, by simp [hpresent], hkey, hvalue, hsince⟩

/-- Where other keys `leave`, a result is held as before. -/
theorem Holds.leave (h : l.Holds key value since rivals) (keys : List κ) (why : Departure)
    (hkey : key ∉ keys) : (l.leave keys why).Holds key value since rivals := by
  obtain ⟨front, d, back, hpresent, rfl, hvalue, hsince, hback⟩ := h
  refine ⟨front.filter fun e => e.key ∉ keys, d, back.filter fun e => e.key ∉ keys, ?_, rfl, hvalue,
    hsince, fun e he => hback e (List.mem_of_mem_filter he)⟩
  simp [Ledger.leave, hpresent, List.filter_append, hkey]

/-- `expire` leaves what is younger than the lifetime. -/
theorem Holds.expire (h : l.Holds key value since rivals) (hl : l.IsSound) (now : Binary64)
    (hlive : now.lt (since.add l.lifetime.toBinary64) = true) :
    (l.expire now).Holds key value since rivals := by
  obtain ⟨d, hd, rfl, _, rfl⟩ := h.mem
  refine h.leave _ _ fun hmem => ?_
  have hdead := (hl.key_mem_iff _ (List.Perm.refl _) hd).mp hmem
  rw [isLive, hlive] at hdead
  cases hdead

/-- To `use` another key puts it behind a result. -/
theorem Holds.use (h : l.Holds key value since rivals) {d : Deposit κ ν} (hkey : d.key ≠ key)
    (hrivals : ∀ k ∈ rivals, k ∈ rivals') (hused : d.key ∈ rivals') :
    (l.use d).Holds key value since rivals' := by
  obtain ⟨front, e, back, hpresent, rfl, hvalue, hsince, hback⟩ := h
  refine ⟨front.filter fun x => x.key ≠ d.key, e, (back.filter fun x => x.key ≠ d.key) ++ [d], ?_,
    rfl, hvalue, hsince, ?_⟩
  · have hne : ¬ e.key = d.key := fun h' => hkey h'.symm
    simp [Ledger.use, hpresent, List.filter_append, hne]
  · intro x hx
    rcases List.mem_append.mp hx with hx | hx
    · exact hrivals _ (hback x (List.mem_of_mem_filter hx))
    · rwa [List.mem_singleton.mp hx]

/-- To `use` a result leaves nothing behind it. -/
theorem holds_use (d : Deposit κ ν) (rivals : List κ) :
    (l.use d).Holds d.key d.value d.since rivals :=
  ⟨_, d, [], rfl, rfl, rfl, rfl, by simp⟩

/-- `makeRoom` takes nothing away that is followed by few enough others. -/
theorem Holds.makeRoom (h : l.Holds key value since rivals) (hl : l.IsSound) {new : κ}
    (hkey : new ≠ key) (hrivals : ∀ k ∈ rivals, k ∈ rivals') (hnew : new ∈ rivals')
    (hroom : rivals'.length < l.capacity) : (l.makeRoom new).Holds key value since rivals := by
  simp only [Ledger.makeRoom]
  split
  · exact h.leave _ _ (by simpa using fun h' : key = new => hkey h'.symm)
  · rename_i hnone
    have habsent := (find?_eq_none_iff new).mp (by simpa using hnone)
    obtain ⟨front, d, back, hpresent, hd⟩ := h
    obtain ⟨rfl, hvalue, hsince, hback⟩ := hd
    -- The rivals bound what is behind the result, with one more place for the new key.
    have hnodup : (new :: back.map Deposit.key).Nodup := by
      refine List.nodup_cons.mpr ⟨fun hmem => ?_, ?_⟩
      · obtain ⟨e, he, hkey'⟩ := List.mem_map.mp hmem
        exact habsent e (by simp [hpresent, he]) hkey'
      · refine List.Nodup.sublist (List.Sublist.map _ ?_) hl.nodup
        rw [hpresent]
        exact (List.sublist_cons_self d back).trans (List.sublist_append_right front _)
    have hbehind : (new :: back.map Deposit.key).length ≤ rivals'.length := by
      refine hnodup.length_le_of_subset fun k hk => ?_
      rcases List.mem_cons.mp hk with rfl | hk
      · exact hnew
      · obtain ⟨e, he, rfl⟩ := List.mem_map.mp hk
        exact hrivals _ (hback e he)
    have hlength : l.present.length = front.length + 1 + back.length := by
      rw [hpresent, List.length_append, List.length_cons]
      omega
    have hsurplus : l.present.length + 1 - l.capacity ≤ front.length := by
      rw [List.length_cons, List.length_map] at hbehind
      omega
    -- So only results before it give way.
    refine Holds.leave ⟨front, d, back, hpresent, rfl, hvalue, hsince, hback⟩ _ _ fun hmem => ?_
    obtain ⟨e, he, hkey'⟩ := List.mem_map.mp hmem
    rw [hpresent] at hsurplus he
    rw [List.take_append_of_le_length hsurplus] at he
    exact hl.split hpresent e (List.mem_append_left _ (List.mem_of_mem_take he)) hkey'

omit [DecidableEq κ] in
/-- To `enter` a new result puts it behind the others. -/
theorem Holds.enter (h : l.Holds key value since rivals) (now : Binary64) (new : κ) (value' : ν)
    (hrivals : ∀ k ∈ rivals, k ∈ rivals') (hnew : new ∈ rivals') :
    (l.enter now new value').Holds key value since rivals' := by
  obtain ⟨front, d, back, hpresent, hkey, hvalue, hsince, hback⟩ := h
  refine ⟨front, d, back ++ [⟨l.puts, new, value', now⟩], ?_, hkey, hvalue, hsince, ?_⟩
  · simp [Ledger.enter, hpresent]
  · intro e he
    rcases List.mem_append.mp he with he | he
    · exact hrivals _ (hback e he)
    · rwa [List.mem_singleton.mp he]

omit [DecidableEq κ] in
/-- Nothing is behind a result that is put by `enter`. -/
theorem holds_enter (l : Ledger κ ν) (now : Binary64) (key : κ) (value : ν) (rivals : List κ) :
    (l.enter now key value).Holds key value now rivals :=
  ⟨_, _, [], rfl, rfl, rfl, rfl, by simp⟩

end Holds

/-! ## Serving a history -/

/-- What is true of a ledger that served a history: what it holds and has not reached the lifetime
is what stands under its key, and what stands under a key is held as long as it is young enough and
has few enough rivals. -/
structure Follows (past : List (Exchange κ ν)) (l : Ledger κ ν) : Prop where
  sound : l.IsSound
  room : l.present.length ≤ l.capacity
  dated : ∀ d ∈ l.present, ∀ later, IsAfter past later → d.since.le later = true
  owed : ∀ d ∈ l.present, ∀ later, IsAfter past later → l.isLive later d = true →
    standing d.key past = some (d.since, d.value)
  kept : ∀ key since value later, standing key past = some (since, value) → IsAfter past later →
    later.lt (since.add l.lifetime.toBinary64) = true → (rivals key past).length < l.capacity →
    l.Holds key value since (rivals key past)

/-- What is true of such a ledger after a sweep at a moment. -/
private structure IsSwept (past : List (Exchange κ ν)) (now : Binary64) (l : Ledger κ ν) :
    Prop where
  sound : l.IsSound
  room : l.present.length ≤ l.capacity
  dated : ∀ d ∈ l.present, d.since.le now = true
  owed : ∀ d ∈ l.present, standing d.key past = some (d.since, d.value)
  kept : ∀ key since value later, standing key past = some (since, value) → IsAfter past later →
    now.le later = true → later.lt (since.add l.lifetime.toBinary64) = true →
    (rivals key past).length < l.capacity → l.Holds key value since (rivals key past)

private theorem Follows.swept {past : List (Exchange κ ν)} (h : l.Follows past) (now : Binary64)
    (hnow : IsAfter past now) : (l.expire now).IsSwept past now := by
  constructor
  case sound => exact h.sound.expire now
  case room =>
    rw [h.sound.present_expire now]
    exact Nat.le_trans (List.length_filter_le ..) h.room
  case dated =>
    intro d hd
    exact h.dated d ((mem_present_leave ..).mp hd).1 now hnow
  -- What the sweep has left is alive, so it is still owed.
  case owed =>
    intro d hd
    rw [h.sound.present_expire now] at hd
    obtain ⟨hd, hlive⟩ := List.mem_filter.mp hd
    exact h.owed d hd now hnow hlive
  case kept =>
    -- A result that stands and is alive stays, as the sweep takes away the dead ones only.
    intro key since value later hstanding hafter hle hlive hrivals
    exact (h.kept key since value later hstanding hafter hlive hrivals).expire h.sound now
      (Binary64.lt_of_le_of_lt hle hlive)

/-- After a sweep alone a ledger `Follows` the history. -/
private theorem IsSwept.follows {past : List (Exchange κ ν)} {now : Binary64}
    (h : l.IsSwept past now) (x : Exchange κ ν) (hnow : x.now = now) (hused : x.used? = none)
    (hstanding : ∀ key standing, standingAfter key x standing = standing) :
    l.Follows (past ++ [x]) := by
  constructor
  case sound => exact h.sound
  case room => exact h.room
  case dated =>
    intro d hd later hafter
    obtain ⟨_, hle⟩ := (isAfter_append ..).mp hafter
    exact Binary64.le_trans (h.dated d hd) (hnow ▸ hle)
  -- Neither what stands nor the rivals change.
  case owed =>
    intro d hd later _ _
    rw [standing_append, hstanding]
    exact h.owed d hd
  case kept =>
    intro key since value later hstands hafter hlive hrivals
    obtain ⟨hafter, hle⟩ := (isAfter_append ..).mp hafter
    have hsame : rivalsAfter key x (rivals key past) = rivals key past := by
      simp only [rivalsAfter, hused]
    rw [standing_append, hstanding] at hstands
    rw [rivals_append, hsame] at hrivals ⊢
    exact h.kept key since value later hstands hafter (hnow ▸ hle) hlive hrivals

/-- After a sweep and the use of a result a ledger `Follows` the history. -/
private theorem IsSwept.follows_use {past : List (Exchange κ ν)} {now : Binary64}
    (h : l.IsSwept past now) {d : Deposit κ ν} (hd : d ∈ l.present) :
    (l.use d).Follows (past ++ [⟨now, .get d.key, .found (some d.value)⟩]) := by
  have hperm := h.sound.perm_use hd
  constructor
  case sound => exact h.sound.use hd
  case room => exact Nat.le_trans (Nat.le_of_eq hperm.length_eq) h.room
  case dated =>
    intro e he later hafter
    obtain ⟨_, hle⟩ := (isAfter_append ..).mp hafter
    exact Binary64.le_trans (h.dated e (hperm.mem_iff.mp he)) hle
  -- A use puts the result behind all others, so it becomes a rival of every other key.
  case owed =>
    intro e he later _ _
    rw [standing_append]
    exact h.owed e (hperm.mem_iff.mp he)
  case kept =>
    intro key since value later hstands hafter hlive hrivals
    obtain ⟨hafter, hle⟩ := (isAfter_append ..).mp hafter
    rw [standing_append] at hstands
    rw [rivals_append] at hrivals ⊢
    simp only [rivalsAfter, Exchange.used?] at hrivals ⊢
    by_cases hkey : d.key = key
    · -- What stands under the key that is used is what is present there.
      subst hkey
      obtain ⟨rfl, rfl⟩ := Prod.mk.inj (Option.some.inj ((h.owed d hd).symm.trans hstands))
      exact holds_use d _
    · rw [if_neg hkey] at hrivals ⊢
      have hlength : (rivals key past).length < l.capacity :=
        Nat.lt_of_le_of_lt List.length_le_length_insert hrivals
      exact (h.kept key since value later hstands hafter hle hlive hlength).use hkey
        (fun k hk => List.mem_insert_of_mem hk) List.mem_insert_self

/-- After a sweep and a new result, for which there is room, a ledger `Follows` the history. -/
private theorem IsSwept.follows_enter {past : List (Exchange κ ν)} {now : Binary64}
    (h : l.IsSwept past now) (hcapacity : 0 < l.capacity) (new : κ) (value' : ν)
    (answer : Answer κ ν) :
    ((l.makeRoom new).enter now new value').Follows (past ++ [⟨now, .put new value', answer⟩]) := by
  constructor
  -- The new result is under a key that is not there any more, and it is dated now.
  case sound =>
    exact (h.sound.makeRoom new).enter now new value'
      (fun d hd => (mem_present_makeRoom new d hd).2)
      fun d hd => h.dated d (mem_present_makeRoom new d hd).1
  case room =>
    have hlength := length_makeRoom_lt new hcapacity h.room
    simp only [enter, List.length_append, List.length_singleton, capacity_makeRoom]
    omega
  case dated =>
    intro d hd later hafter
    obtain ⟨_, hle⟩ := (isAfter_append ..).mp hafter
    rcases (mem_present_enter ..).mp hd with hd | rfl
    · exact Binary64.le_trans (h.dated d (mem_present_makeRoom new d hd).1) hle
    · exact hle
  case owed =>
    intro d hd later _ _
    rw [standing_append]
    -- What is present is the new result, or what it did not replace.
    rcases (mem_present_enter ..).mp hd with hd | rfl
    · obtain ⟨hd, hkey⟩ := mem_present_makeRoom new d hd
      simp only [standingAfter, if_neg (Ne.symm hkey)]
      exact h.owed d hd
    · simp [standingAfter]
  case kept =>
    intro key since value later hstands hafter hlive hrivals
    obtain ⟨hafter, hle⟩ := (isAfter_append ..).mp hafter
    rw [standing_append] at hstands
    rw [rivals_append] at hrivals ⊢
    simp only [standingAfter, rivalsAfter, Exchange.used?] at hstands hrivals ⊢
    simp only [enter, lifetime_makeRoom, capacity_makeRoom] at hlive hrivals
    by_cases hkey : new = key
    · -- What was put last stands, and nothing is behind it yet.
      subst hkey
      rw [if_pos rfl] at hstands
      obtain ⟨rfl, rfl⟩ := Prod.mk.inj (Option.some.inj hstands)
      exact holds_enter _ now new value' _
    · -- For any other key, the new one is a rival that still fits in.
      rw [if_neg hkey] at hstands hrivals ⊢
      have hmem : ∀ k ∈ rivals key past, k ∈ (rivals key past).insert new :=
        fun k hk => List.mem_insert_of_mem hk
      have hlength : (rivals key past).length < l.capacity :=
        Nat.lt_of_le_of_lt List.length_le_length_insert hrivals
      have hholds := h.kept key since value later hstands hafter hle hlive hlength
      exact (hholds.makeRoom h.sound hkey hmem List.mem_insert_self hrivals).enter now new value'
        hmem List.mem_insert_self

/-- After a key was invalidated a ledger `Follows` the history: what is there leaves, unless it has
already reached the lifetime, and then it does not come back. -/
private theorem Follows.follows_leave {past : List (Exchange κ ν)} (h : l.Follows past)
    (now : Binary64) (gone : κ) (answer : Answer κ ν) (keys : List κ) (hkeys : ∀ k ∈ keys, k = gone)
    (hdead : ∀ d ∈ l.present, d.key = gone → d.key ∈ keys ∨ l.isLive now d = false) :
    (l.leave keys .invalidated).Follows (past ++ [⟨now, .invalidate gone, answer⟩]) := by
  constructor
  case sound => exact h.sound.leave _ _
  case room => exact Nat.le_trans (List.length_filter_le ..) h.room
  case dated =>
    intro d hd later hafter
    exact h.dated d ((mem_present_leave ..).mp hd).1 later ((isAfter_append ..).mp hafter).1
  case owed =>
    intro d hd later hafter hlive
    obtain ⟨hd, hkey⟩ := (mem_present_leave ..).mp hd
    obtain ⟨hafter, hle⟩ := (isAfter_append ..).mp hafter
    have hne : ¬ gone = d.key := by
      intro hgone
      -- It would be alive later but dead now, and the clock does not run back.
      have hnow : l.isLive now d = true := Binary64.lt_of_le_of_lt hle hlive
      rw [(hdead d hd hgone.symm).resolve_left hkey] at hnow
      cases hnow
    rw [standing_append]
    simp only [standingAfter, if_neg hne]
    exact h.owed d hd later hafter hlive
  case kept =>
    intro key since value later hstands hafter hlive hrivals
    rw [standing_append] at hstands
    simp only [standingAfter] at hstands
    -- Under the key itself nothing stands any more.
    split at hstands
    · cases hstands
    · rename_i hne
      rw [rivals_append] at hrivals ⊢
      exact (h.kept key since value later hstands ((isAfter_append ..).mp hafter).1 hlive
        hrivals).leave _ _ fun hmem => hne (hkeys key hmem).symm

private theorem Follows.follows_clear {past : List (Exchange κ ν)} (h : l.Follows past)
    (now : Binary64) (answer : Answer κ ν) :
    (l.leave (l.present.map Deposit.key) .cleared).Follows (past ++ [⟨now, .clear, answer⟩]) := by
  -- All keys that are present are among those that leave.
  have hnone : (l.leave (l.present.map Deposit.key) .cleared).present = [] := by
    refine List.filter_eq_nil_iff.mpr fun d hd => ?_
    simpa using ⟨d, hd, rfl⟩
  constructor
  case sound => exact h.sound.leave _ _
  case room => simp [hnone]
  case dated => simp [hnone]
  case owed => simp [hnone]
  case kept =>
    intro key since value later hstands
    rw [standing_append] at hstands
    cases hstands

/-- `Follows` does not depend on how often a result was read. -/
private theorem Follows.counted {past : List (Exchange κ ν)} (h : l.Follows past)
    (hits misses : Nat) : { l with hits, misses }.Follows past where
  sound := ⟨h.sound.nodup, h.sound.ordered, h.sound.once⟩
  room := h.room
  dated := h.dated
  owed := h.owed
  kept := h.kept

/-- Each `perform` keeps the ledger true to the history. -/
theorem Follows.perform {past : List (Exchange κ ν)} (h : l.Follows past)
    (hcapacity : 0 < l.capacity) (now : Binary64) (hnow : IsAfter past now)
    (operation : Operation κ ν) : (l.perform now operation).2.Follows
      (past ++ [⟨now, operation, (l.perform now operation).1⟩]) := by
  -- Every operation that sweeps begins with a ledger that is swept.
  have hswept := h.swept now hnow
  cases operation with
  | put key value => exact hswept.follows_enter hcapacity key value _
  | get key =>
    simp only [Ledger.perform]
    cases hfind : (l.expire now).find? key with
    | none =>
      exact (hswept.follows ⟨now, .get key, .found none⟩ rfl rfl fun _ _ => rfl).counted _ _
    | some d =>
      obtain ⟨hd, rfl⟩ := (hswept.sound.find?_eq_some_iff key d).mp hfind
      exact (hswept.follows_use hd).counted _ _
  | invalidate key =>
    simp only [Ledger.perform]
    split
    · exact h.follows_leave now key _ [key] (by simp) fun d _ hkey => .inl (by simp [hkey])
    · -- Nothing alive is under the key: nobody leaves, although the key does not stand any more.
      rename_i hnone
      rw [← leave_nil l .invalidated]
      refine h.follows_leave now key _ [] (by simp) fun d hd hkey => .inr ?_
      rw [(h.sound.find?_eq_some_iff key d).mpr ⟨hd, hkey⟩] at hnone
      simpa using hnone
  | clear => exact h.follows_clear now _
  | size => exact hswept.follows _ rfl rfl fun _ _ => rfl
  | stats => exact hswept.follows _ rfl rfl fun _ _ => rfl

@[simp] theorem lifetime_perform (now : Binary64) (operation : Operation κ ν) (l : Ledger κ ν) :
    (l.perform now operation).2.lifetime = l.lifetime := by
  cases operation with
  | put key value => exact lifetime_makeRoom key (l.expire now)
  | get key => simp only [perform]; split <;> rfl
  | invalidate key => simp only [perform]; split <;> rfl
  | clear => rfl
  | size => rfl
  | stats => rfl

@[simp] theorem capacity_perform (now : Binary64) (operation : Operation κ ν) (l : Ledger κ ν) :
    (l.perform now operation).2.capacity = l.capacity := by
  cases operation with
  | put key value => exact capacity_makeRoom key (l.expire now)
  | get key => simp only [perform]; split <;> rfl
  | invalidate key => simp only [perform]; split <;> rfl
  | clear => rfl
  | size => rfl
  | stats => rfl

/-- What a ledger counts. -/
structure Counts (past : List (Exchange κ ν)) (l : Ledger κ ν) : Prop where
  puts : l.puts = past.countP Exchange.isPut
  hits : l.hits = past.countP Exchange.isHit
  reads : l.hits + l.misses = past.countP Exchange.isGet

private theorem counters_makeRoom (key : κ) (l : Ledger κ ν) :
    (l.makeRoom key).puts = l.puts ∧ (l.makeRoom key).hits = l.hits ∧
      (l.makeRoom key).misses = l.misses := by
  simp only [makeRoom]
  split <;> exact ⟨rfl, rfl, rfl⟩

/-- Each `perform` counts itself. -/
private theorem counters_perform (now : Binary64) (operation : Operation κ ν) (l : Ledger κ ν) :
    let x : Exchange κ ν := ⟨now, operation, (l.perform now operation).1⟩
    (l.perform now operation).2.puts = l.puts + x.isPut.toNat ∧
      (l.perform now operation).2.hits = l.hits + x.isHit.toNat ∧
      (l.perform now operation).2.misses + x.isHit.toNat = l.misses + x.isGet.toNat := by
  cases operation with
  | put key value =>
    -- Making room changes none of the counters.
    obtain ⟨hputs, hhits, hmisses⟩ := counters_makeRoom key (l.expire now)
    exact ⟨congrArg (· + 1) hputs, hhits, hmisses⟩
  | get key =>
    simp only [perform]
    split <;> exact ⟨rfl, rfl, rfl⟩
  | invalidate key =>
    simp only [perform]
    split <;> exact ⟨rfl, rfl, rfl⟩
  | clear => exact ⟨rfl, rfl, rfl⟩
  | size => exact ⟨rfl, rfl, rfl⟩
  | stats => exact ⟨rfl, rfl, rfl⟩

theorem Counts.perform {past : List (Exchange κ ν)} (h : l.Counts past) (now : Binary64)
    (operation : Operation κ ν) : (l.perform now operation).2.Counts
      (past ++ [⟨now, operation, (l.perform now operation).1⟩]) := by
  obtain ⟨hputs, hhits, hmisses⟩ := counters_perform now operation l
  constructor
  case puts => rw [List.countP_concat_toNat, ← h.puts, hputs]
  case hits => rw [List.countP_concat_toNat, ← h.hits, hhits]
  case reads =>
    rw [List.countP_concat_toNat, ← h.reads, hhits]
    omega

/-- What left for its age had reached the lifetime when a sweep came upon it. -/
def IsAged (past : List (Exchange κ ν)) (l : Ledger κ ν) : Prop :=
  ∀ x ∈ l.departed, x.2 = .expired →
    ∃ e ∈ past, e.operation.sweeps = true ∧ l.isLive e.now x.1 = false

theorem mem_departed_leave (keys : List κ) (why : Departure) (x : Deposit κ ν × Departure) :
    x ∈ (l.leave keys why).departed ↔
      x ∈ l.departed ∨ (x.1 ∈ l.present ∧ x.1.key ∈ keys) ∧ x.2 = why := by
  simp only [leave, List.mem_append, List.mem_map, List.mem_filter, decide_eq_true_eq]
  refine or_congr_right ⟨?_, ?_⟩
  · rintro ⟨d, hd, rfl⟩
    exact ⟨hd, rfl⟩
  · rintro ⟨hd, rfl⟩
    exact ⟨x.1, hd, rfl⟩

/-- `expire` lets nothing leave but what has reached the lifetime. -/
theorem IsSound.mem_departed_expire (hl : l.IsSound) (now : Binary64) (x : Deposit κ ν × Departure)
    (h : x ∈ (l.expire now).departed) : x ∈ l.departed ∨ l.isLive now x.1 = false := by
  refine ((mem_departed_leave ..).mp h).imp_right fun ⟨⟨hd, hkey⟩, _⟩ => ?_
  simpa using (hl.key_mem_iff _ (List.Perm.refl _) hd).mp hkey

/-- What leaves for another reason than `expired` does not leave for its age. -/
private theorem mem_departed_of_expired (keys : List κ) (why : Departure) (hother : why ≠ .expired)
    (x : Deposit κ ν × Departure) (h : x ∈ (l.leave keys why).departed) (hwhy : x.2 = .expired) :
    x ∈ l.departed :=
  ((mem_departed_leave ..).mp h).resolve_right fun hnew => hother (hnew.2.symm.trans hwhy)

private theorem mem_departed_makeRoom (key : κ) (x : Deposit κ ν × Departure)
    (h : x ∈ (l.makeRoom key).departed) (hwhy : x.2 = .expired) : x ∈ l.departed := by
  simp only [makeRoom] at h
  split at h
  · exact mem_departed_of_expired [key] .replaced (by decide) x h hwhy
  · exact mem_departed_of_expired _ .displaced (by decide) x h hwhy

/-- `perform` lets results leave for their age by a sweep only. -/
private theorem IsSound.mem_departed_perform (hl : l.IsSound) (now : Binary64)
    (operation : Operation κ ν) (x : Deposit κ ν × Departure)
    (h : x ∈ (l.perform now operation).2.departed) (hwhy : x.2 = .expired) :
    x ∈ l.departed ∨ operation.sweeps = true ∧ l.isLive now x.1 = false := by
  have hswept (h : x ∈ (l.expire now).departed) :
      x ∈ l.departed ∨ true ∧ l.isLive now x.1 = false :=
    (hl.mem_departed_expire now x h).imp_right fun hdead => ⟨rfl, hdead⟩
  -- Three of the operations sweep first; the others let results leave for reasons of their own.
  cases operation with
  | put key value => exact hswept (mem_departed_makeRoom key x h hwhy)
  | get key =>
    simp only [Ledger.perform] at h
    split at h <;> exact hswept h
  | invalidate key =>
    simp only [Ledger.perform] at h
    split at h
    · exact .inl (mem_departed_of_expired [key] .invalidated (by decide) x h hwhy)
    · exact .inl h
  | clear => exact .inl (mem_departed_of_expired _ .cleared (by decide) x h hwhy)
  | size => exact hswept h
  | stats => exact hswept h

theorem IsAged.perform {past : List (Exchange κ ν)} (h : l.IsAged past) (hl : l.IsSound)
    (now : Binary64) (operation : Operation κ ν) : (l.perform now operation).2.IsAged
      (past ++ [⟨now, operation, (l.perform now operation).1⟩]) := by
  intro x hx hwhy
  have hlive (e : Exchange κ ν) :
      (l.perform now operation).2.isLive e.now x.1 = l.isLive e.now x.1 := by
    simp only [isLive, lifetime_perform]
  rcases hl.mem_departed_perform now operation x hx hwhy with hmem | ⟨hsweeps, hdead⟩
  · -- What had left before was dead at an earlier sweep.
    obtain ⟨e, he, hsweeps, hdead⟩ := h x hmem hwhy
    exact ⟨e, List.mem_append_left _ he, hsweeps, (hlive e).trans hdead⟩
  · exact ⟨_, List.mem_append_right _ List.mem_cons_self, hsweeps, (hlive _).trans hdead⟩

/-- A ledger with room serves a history if it `Follows` it, counts it, and lets results leave for
their age only when they have reached the lifetime. -/
structure Serves (past : List (Exchange κ ν)) (l : Ledger κ ν) : Prop where
  hasRoom : 0 < l.capacity
  follows : l.Follows past
  counts : l.Counts past
  aged : l.IsAged past

/-- Each `perform` that is not earlier than the history is served. -/
theorem Serves.perform {past : List (Exchange κ ν)} (h : l.Serves past) (now : Binary64)
    (hnow : IsAfter past now) (operation : Operation κ ν) :
    (l.perform now operation).2.Serves
      (past ++ [⟨now, operation, (l.perform now operation).1⟩]) where
  hasRoom := capacity_perform now operation l ▸ h.hasRoom
  follows := h.follows.perform h.hasRoom now hnow operation
  counts := h.counts.perform now operation
  aged := h.aged.perform h.follows.sound now operation

/-- A ledger in which nothing has been entered yet. -/
def blank (lifetime : Number) (capacity : Nat) : Ledger κ ν := { lifetime, capacity }

/-- With room, a `blank` ledger serves the history in which nothing has happened. -/
theorem serves_blank (lifetime : Number) (capacity : Nat) (hcapacity : 0 < capacity) :
    (blank lifetime capacity : Ledger κ ν).Serves [] where
  hasRoom := hcapacity
  follows := by
    refine ⟨⟨?_, ?_, ?_⟩, ?_, ?_, ?_, ?_⟩ <;> simp [blank, standing]
  counts := ⟨rfl, rfl, rfl⟩
  aged := by simp [IsAged, blank]

end Ledger

end TokenRisk
