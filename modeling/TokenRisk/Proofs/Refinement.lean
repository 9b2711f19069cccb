import TokenRisk.Proofs.Recency

/-!
# A cache keeps its ledger

A cache has two orders, that of the writes and that of the uses, and sweeps only the front of the
first. Beside the ledger that serves the same history it has the same results, in both orders, and
it counts as evicted exactly those that left for their age.

## Key results

- `Cache.Matches`: a cache and a ledger have the same results
- `Cache.matches_perform`: an operation on both is answered alike, and they go on to match
- `Cache.keepsPromises`: what a cache promises over all histories with a clock that never runs back
-/

namespace TokenRisk

namespace Ledger

variable {κ ν : Type} {l : Ledger κ ν}

/-! ## The order of the writes -/

theorem inOrder_perm (l : Ledger κ ν) : l.inOrder.Perm l.present :=
  List.mergeSort_perm ..

theorem mem_inOrder (d : Deposit κ ν) : d ∈ l.inOrder ↔ d ∈ l.present :=
  l.inOrder_perm.mem_iff

private theorem IsSound.nodup_number (hl : l.IsSound) : (l.present.map Deposit.number).Nodup :=
  (List.nodup_append.mp (hl.once.nodup_iff.mpr List.nodup_range)).2.1

theorem IsSound.pairwise_inOrder (hl : l.IsSound) :
    l.inOrder.Pairwise fun d e => d.number < e.number := by
  have hsorted := @List.pairwise_mergeSort _ (fun d e : Deposit κ ν => d.number ≤ e.number)
    (fun a b c => by simpa using Nat.le_trans) (fun a b => by simpa using Nat.le_total ..) l.present
  have hdistinct : l.inOrder.Pairwise fun d e => d.number ≠ e.number :=
    List.pairwise_map.mp ((l.inOrder_perm.map Deposit.number).nodup_iff.mpr hl.nodup_number)
  refine (hsorted.and hdistinct).imp fun ⟨hle, hne⟩ => ?_
  have hle' := of_decide_eq_true hle
  omega

/-- `inOrder` is the only order of the writes. -/
theorem IsSound.inOrder_eq (hl : l.IsSound) {ds : List (Deposit κ ν)} (hperm : ds.Perm l.present)
    (hpairwise : ds.Pairwise fun d e => d.number < e.number) : l.inOrder = ds := by
  refine List.Perm.eq_of_pairwise ?_ hl.pairwise_inOrder hpairwise
    (l.inOrder_perm.trans hperm.symm)
  intro d e _ _ hde hed
  omega

variable [DecidableEq κ]

theorem IsSound.inOrder_leave (hl : l.IsSound) (keys : List κ) (why : Departure) :
    (l.leave keys why).inOrder = l.inOrder.filter fun d => d.key ∉ keys :=
  (hl.leave keys why).inOrder_eq (l.inOrder_perm.filter _)
    (hl.pairwise_inOrder.sublist List.filter_sublist)

theorem IsSound.inOrder_use (hl : l.IsSound) {d : Deposit κ ν} (hd : d ∈ l.present) :
    (l.use d).inOrder = l.inOrder :=
  (hl.use hd).inOrder_eq (l.inOrder_perm.trans (hl.perm_use hd).symm) hl.pairwise_inOrder

omit [DecidableEq κ] in
/-- A new result is the last one `inOrder`. -/
theorem IsSound.inOrder_enter (hl : l.IsSound) (now : Binary64) (key : κ) (value : ν)
    (henter : (l.enter now key value).IsSound) :
    (l.enter now key value).inOrder = l.inOrder ++ [⟨l.puts, key, value, now⟩] := by
  refine henter.inOrder_eq (l.inOrder_perm.append_right _) ?_
  refine List.pairwise_append.mpr ⟨hl.pairwise_inOrder, by simp, fun d hd e he => ?_⟩
  rw [List.mem_singleton.mp he]
  exact hl.number_lt ((mem_inOrder d).mp hd)

/-- `expire` keeps the order of what it keeps. -/
theorem IsSound.inOrder_expire (hl : l.IsSound) (now : Binary64) :
    (l.expire now).inOrder = l.inOrder.filter fun d => l.isLive now d := by
  refine (hl.expire now).inOrder_eq ?_ (hl.pairwise_inOrder.sublist List.filter_sublist)
  rw [hl.present_expire now]
  exact l.inOrder_perm.filter _

omit [DecidableEq κ] in
/-- `inOrder` of the writes, what has reached the lifetime comes first. -/
theorem IsSound.pairwise_isLive (hl : l.IsSound) (now : Binary64) :
    l.inOrder.Pairwise fun d e => (!l.isLive now e) = true → (!l.isLive now d) = true := by
  refine hl.pairwise_inOrder.imp_of_mem fun hd he hlt hdead => ?_
  have hle := hl.ordered _ ((mem_inOrder _).mp hd) _ ((mem_inOrder _).mp he) hlt
  cases hlive : l.isLive now _ with
  | false => rfl
  | true =>
    rw [isLive, Binary64.lt_add_of_le hle hlive] at hdead
    cases hdead

/-- The entry of a cache for a result. -/
def entry (l : Ledger κ ν) (d : Deposit κ ν) : Entry κ ν where
  key := d.key
  value := some d.value
  expires := d.since.add l.lifetime.toBinary64

end Ledger

namespace Cache

variable {κ ν : Type} [DecidableEq κ] {l : Ledger κ ν} {c : Cache κ ν}

/-! ## The same results -/

/-- A cache has the results of a ledger, in the orders of their writes and of their uses, and the
same counts. -/
structure Matches (l : Ledger κ ν) (c : Cache κ ν) : Prop where
  lifetime : c.lifetime = l.lifetime
  capacity : c.capacity = l.capacity
  entries : c.entries = l.inOrder.map l.entry
  uses : c.uses = l.present.map Deposit.key
  hits : c.hits = l.hits
  misses : c.misses = l.misses
  evictions : c.evictions = l.expirations

/-- The cache without some keys. -/
def without (keys : List κ) (c : Cache κ ν) : Cache κ ν :=
  { c with
    entries := c.entries.filter fun e => e.key ∉ keys
    uses := c.uses.filter fun k => k ∉ keys }

/-- To `remove` keys one after the other is to be `without` them all. -/
theorem foldl_remove_eq (keys : List κ) (c : Cache κ ν) : keys.foldl remove c = c.without keys := by
  induction keys generalizing c with
  | nil => simp [without]
  | cons key keys ih =>
    rw [List.foldl_cons, ih]
    simp [without, remove, List.filter_filter, Bool.and_comm]

/-- What leaves for another reason than its age is not counted among `expirations`. -/
private theorem expirations_leave (keys : List κ) (why : Departure) (hwhy : why ≠ .expired) :
    (l.leave keys why).expirations = l.expirations := by
  simp [Ledger.expirations, Ledger.leave, List.countP_append, List.countP_map, hwhy]

/-- `Matches` lasts where keys leave both, for another reason than their age. -/
theorem Matches.leave_of_ne (h : Matches l c) (hl : l.IsSound) (keys : List κ) (why : Departure)
    (hwhy : why ≠ .expired) : Matches (l.leave keys why) (c.without keys) where
  lifetime := h.lifetime
  capacity := h.capacity
  entries := by
    rw [hl.inOrder_leave keys why]
    simp only [without, h.entries, List.filter_map]
    rfl
  uses := by
    simp only [without, h.uses, List.filter_map]
    rfl
  hits := h.hits
  misses := h.misses
  evictions := h.evictions.trans (expirations_leave keys why hwhy).symm

/-- `expire` lets leave what has reached the lifetime, and counts it. -/
private theorem expirations_expire (hl : l.IsSound) (now : Binary64) :
    (l.expire now).expirations =
      l.expirations + (l.inOrder.filter fun d => !l.isLive now d).length := by
  let dead (d : Deposit κ ν) : Bool := !l.isLive now d
  -- Results leave by their keys, and a key is that of one result only.
  have hgone : (l.present.filter fun d => d.key ∈ (l.present.filter dead).map Deposit.key) =
      l.present.filter dead := by
    refine List.filter_congr fun d hd => ?_
    simp only [hl.key_mem_iff dead (List.Perm.refl _) hd, Bool.decide_eq_true]
  have hlength := (l.inOrder_perm.filter dead).length_eq
  have hcount (ds : List (Deposit κ ν)) :
      (ds.map fun d => (d, Departure.expired)).countP (fun x => x.2 = .expired) = ds.length := by
    simp [List.countP_map, Function.comp_def]
  show List.countP _ (l.departed ++ _) = _
  rw [List.countP_append, hcount, hgone, ← hlength]
  rfl

theorem Matches.sweep (h : Matches l c) (hl : l.IsSound) (now : Binary64) :
    Matches (l.expire now) (c.sweep now) := by
  have hdead : (fun e => !isLive now e) ∘ l.entry = fun d => !l.isLive now d := rfl
  -- What is dead comes first, so the front that the cache sweeps is all of it.
  have htake : c.entries.takeWhile (fun e => !isLive now e) =
      (l.inOrder.filter fun d => !l.isLive now d).map l.entry := by
    rw [h.entries, List.takeWhile_map, hdead, List.takeWhile_eq_filter (hl.pairwise_isLive now)]
  have hdrop : c.entries.dropWhile (fun e => !isLive now e) =
      (l.inOrder.filter fun d => l.isLive now d).map l.entry := by
    rw [h.entries, List.dropWhile_map, hdead, List.dropWhile_eq_filter (hl.pairwise_isLive now)]
    simp only [Bool.not_not]
  constructor
  case lifetime => exact h.lifetime
  case capacity => exact h.capacity
  case hits => exact h.hits
  case misses => exact h.misses
  case entries =>
    rw [hl.inOrder_expire now]
    exact hdrop
  -- The uses lose the keys of the dead, as those of the front are the only ones.
  case uses =>
    rw [hl.present_expire now]
    simp only [Cache.sweep, htake, h.uses, List.map_map, List.filter_map]
    refine congrArg (List.map Deposit.key) (List.filter_congr fun d hd => ?_)
    have hkey := hl.key_mem_iff (fun d => !l.isLive now d) l.inOrder_perm hd
    have hcontains := List.contains_eq_mem d.key
      ((l.inOrder.filter fun d => !l.isLive now d).map Deposit.key)
    show (!List.contains ((l.inOrder.filter fun d => !l.isLive now d).map Deposit.key) d.key) = _
    simp only [hcontains, hkey, Bool.decide_eq_true, Bool.not_not]
  case evictions =>
    rw [expirations_expire hl now, ← h.evictions]
    simp only [Cache.sweep, htake, List.length_map]

/-- What `find?` finds under a key it finds in both. -/
theorem Matches.find?_eq (h : Matches l c) (hl : l.IsSound) (key : κ) :
    c.find? key = (l.find? key).map l.entry := by
  -- Keys differ in a sound ledger, so the order in which it is searched does not matter.
  have hsame : (l.inOrder.find? fun d => d.key = key) = l.find? key := by
    cases hfind : l.find? key with
    | none =>
      have habsent := (Ledger.find?_eq_none_iff key).mp hfind
      simpa [Ledger.mem_inOrder] using habsent
    | some d =>
      obtain ⟨hd, rfl⟩ := (hl.find?_eq_some_iff key d).mp hfind
      have hsome : (l.inOrder.find? fun e => e.key = d.key).isSome = true :=
        List.find?_isSome.mpr ⟨d, (Ledger.mem_inOrder d).mpr hd, by simp⟩
      obtain ⟨e, he⟩ := Option.isSome_iff_exists.mp hsome
      have hkey : e.key = d.key := by simpa using List.find?_some he
      rw [he, hl.eq_of_key_eq ((Ledger.mem_inOrder e).mp (List.mem_of_find?_eq_some he)) hd hkey]
  rw [Cache.find?, h.entries, List.find?_map, ← hsame]
  rfl

/-! ## The same answers -/

/-- `Matches` lasts where what is found in both is used in both. -/
theorem Matches.touch (h : Matches l c) (hl : l.IsSound) {d : Deposit κ ν} (hd : d ∈ l.present) :
    Matches (l.use d) (c.touch d.key) where
  lifetime := h.lifetime
  capacity := h.capacity
  entries := by
    rw [hl.inOrder_use hd]
    exact h.entries
  uses := by
    simp only [Cache.touch, Ledger.use, h.uses, List.filter_map, List.map_append]
    rfl
  hits := h.hits
  misses := h.misses
  evictions := h.evictions

/-- A cache `without` a key that is not there is the same. -/
theorem Matches.without_eq (h : Matches l c) (key : κ) (hkey : ∀ d ∈ l.present, d.key ≠ key) :
    c.without [key] = c := by
  have hentries : c.entries.filter (fun e => e.key ∉ [key]) = c.entries := by
    refine List.filter_eq_self.mpr fun e he => ?_
    rw [h.entries] at he
    obtain ⟨d, hd, rfl⟩ := List.mem_map.mp he
    simpa [Ledger.entry] using hkey d ((Ledger.mem_inOrder d).mp hd)
  have huses : c.uses.filter (fun k => k ∉ [key]) = c.uses := by
    refine List.filter_eq_self.mpr fun k hk => ?_
    rw [h.uses] at hk
    obtain ⟨d, hd, rfl⟩ := List.mem_map.mp hk
    simpa using hkey d hd
  rw [without, hentries, huses]

/-- `Matches` lasts where room for a key is made in both, and a result in the cache is only replaced
as it is written. -/
theorem Matches.makeRoom (h : Matches l c) (hl : l.IsSound) (key : κ) :
    Matches (l.makeRoom key)
      ((if (c.find? key).isSome then c else c.makeRoom).without [key]) := by
  have hfind := h.find?_eq hl key
  simp only [Ledger.makeRoom]
  cases hfound : l.find? key with
  | some d =>
    -- The key is there, so its result is replaced and no other has to go.
    rw [hfound] at hfind
    rw [hfind]
    exact h.leave_of_ne hl [key] .replaced (by decide)
  | none =>
    rw [hfound] at hfind
    rw [hfind]
    -- As many leave as are too many, and those used longest ago leave first.
    have hsurplus : c.uses.take (c.entries.length + 1 - c.capacity) =
        (l.present.take (l.present.length + 1 - l.capacity)).map Deposit.key := by
      rw [h.uses, h.entries, h.capacity, List.length_map, l.inOrder_perm.length_eq, List.map_take]
    have hroom := h.leave_of_ne hl
      ((l.present.take (l.present.length + 1 - l.capacity)).map Deposit.key) .displaced (by decide)
    -- The key is not there, so taking it out as well changes nothing.
    have habsent (d : Deposit κ ν) (hd : d ∈ l.displace.present) : d.key ≠ key :=
      (Ledger.find?_eq_none_iff key).mp hfound d ((Ledger.mem_present_leave ..).mp hd).1
    have hsame := hroom.without_eq key habsent
    simp only [Option.map_none, Option.isSome_none, Bool.false_eq_true, ↓reduceIte, Cache.makeRoom,
      hsurplus, foldl_remove_eq]
    exact hsame.symm ▸ hroom

omit [DecidableEq κ] in
/-- `Matches` lasts where a new result is written in both. -/
theorem Matches.enter (h : Matches l c) (hl : l.IsSound) (now : Binary64) (key : κ) (value : ν)
    (henter : (l.enter now key value).IsSound) :
    Matches (l.enter now key value) { c with
      entries := c.entries ++ [⟨key, some value, now.add c.lifetime.toBinary64⟩]
      uses := c.uses ++ [key] } where
  lifetime := h.lifetime
  capacity := h.capacity
  entries := by
    rw [hl.inOrder_enter now key value henter, h.entries, h.lifetime, List.map_append]
    rfl
  uses := by
    rw [h.uses]
    simp [Ledger.enter]
  hits := h.hits
  misses := h.misses
  evictions := h.evictions

/-- `put` is a sweep, room for the key, and a new entry. -/
theorem put_eq_without (now : Binary64) (key : κ) (value : ν) (c : Cache κ ν)
    (hcapacity : c.capacity ≠ 0) :
    c.put now key (some value) = (.ok (),
      let room := (if ((c.sweep now).find? key).isSome then c.sweep now
        else (c.sweep now).makeRoom).without [key]
      { room with
        entries := room.entries ++ [⟨key, some value, now.add room.lifetime.toBinary64⟩]
        uses := room.uses ++ [key] }) := by
  simp only [put]
  rw [if_neg (show ¬ (c.sweep now).capacity = 0 from hcapacity)]
  simp only [touch, without, List.mem_singleton]

omit [DecidableEq κ] in
private theorem Matches.hit (h : Matches l c) :
    Matches { l with hits := l.hits + 1 } { c with hits := c.hits + 1 } :=
  ⟨h.lifetime, h.capacity, h.entries, h.uses, congrArg (· + 1) h.hits, h.misses, h.evictions⟩

omit [DecidableEq κ] in
private theorem Matches.missed (h : Matches l c) :
    Matches { l with misses := l.misses + 1 } { c with misses := c.misses + 1 } :=
  ⟨h.lifetime, h.capacity, h.entries, h.uses, h.hits, congrArg (· + 1) h.misses, h.evictions⟩

/-- `get` finds the same in both. -/
private theorem Matches.get (h : Matches l c) (hl : l.IsSound) (now : Binary64) (key : κ) :
    (c.perform now (.get key)).1 = (l.perform now (.get key)).1 ∧
      Matches (l.perform now (.get key)).2 (c.perform now (.get key)).2 := by
  have hswept := h.sweep hl now
  have hsound := hl.expire now
  have hfind := hswept.find?_eq hsound key
  cases hfound : (l.expire now).find? key with
  | none =>
    rw [hfound] at hfind
    -- A key that is not there is a miss, and the cache has been swept all the same.
    have hget : c.get now key =
        (none, { c.sweep now with misses := (c.sweep now).misses + 1 }) := by
      simp only [Cache.get, hfind, Option.map_none, Option.filter_none]
    simp only [perform, Ledger.perform, hget, hfound]
    exact ⟨trivial, hswept.missed⟩
  | some d =>
    obtain ⟨hd, rfl⟩ := (hsound.find?_eq_some_iff key d).mp hfound
    rw [hfound] at hfind
    -- What the sweep has left is alive.
    have hlive : isLive now ((l.expire now).entry d) = true := by
      rw [hl.present_expire now] at hd
      exact (List.mem_filter.mp hd).2
    have hfilter : ((c.sweep now).find? d.key).filter (isLive now) =
        some ((l.expire now).entry d) := by
      rw [hfind, Option.map_some, Option.filter_some, if_pos hlive]
    -- A hit moves the key behind all others in the order of use.
    have hget : c.get now d.key = (some d.value,
        { (c.sweep now).touch d.key with hits := (c.sweep now).hits + 1 }) := by
      simp only [Cache.get, hfilter]
      rfl
    simp only [perform, Ledger.perform, hget, hfound]
    exact ⟨trivial, (hswept.touch hsound hd).hit⟩

/-- What `get` finds is what the swept ledger has under the key. -/
theorem Matches.get_eq (h : Matches l c) (hl : l.IsSound) (now : Binary64) (key : κ) :
    (c.get now key).1 = ((l.expire now).find? key).map Deposit.value := by
  have hfound : Answer.found (c.get now key).1 = (l.perform now (.get key)).1 :=
    (h.get hl now key).1
  rw [← Answer.found.injEq, hfound]
  simp only [Ledger.perform]
  cases (l.expire now).find? key <;> rfl

/-- `invalidate` takes the same out of both. -/
private theorem Matches.invalidate (h : Matches l c) (hl : l.IsSound) (now : Binary64) (key : κ) :
    (c.perform now (.invalidate key)).1 = (l.perform now (.invalidate key)).1 ∧
      Matches (l.perform now (.invalidate key)).2 (c.perform now (.invalidate key)).2 := by
  have hfind := h.find?_eq hl key
  cases hfound : l.find? key with
  | none =>
    rw [hfound] at hfind
    -- Nothing is under the key, and nothing changes on either side.
    simpa [perform, Cache.invalidate, Ledger.perform, hfind, hfound] using h
  | some d =>
    rw [hfound] at hfind
    have hfilter : (c.find? key).filter (isLive now) =
        if l.isLive now d then some (l.entry d) else none := by
      rw [hfind, Option.map_some, Option.filter_some]
      rfl
    cases hlive : l.isLive now d with
    | false =>
      -- A dead entry is left where it is.
      rw [hlive, if_neg Bool.false_ne_true] at hfilter
      simpa [perform, Cache.invalidate, Ledger.perform, hfilter, hfound, hlive] using h
    | true =>
      -- A live entry is taken out, and its key with it.
      rw [hlive, if_pos rfl] at hfilter
      have hremove : c.remove key = c.without [key] := by
        simp only [remove, without, List.mem_singleton]
      have hleft := h.leave_of_ne hl [key] .invalidated (by decide)
      rw [← hremove] at hleft
      simpa [perform, Cache.invalidate, Ledger.perform, hfilter, hfound, hlive, Ledger.entry]
        using hleft

/-- After `clear` nothing is left in either. -/
private theorem Matches.clear (h : Matches l c) (hl : l.IsSound) :
    Matches (l.leave (l.present.map Deposit.key) .cleared) c.clear := by
  -- To take out all keys that are there is to leave nothing.
  have hleft := h.leave_of_ne hl (l.present.map Deposit.key) .cleared (by decide)
  have hentries : (c.without (l.present.map Deposit.key)).entries = [] := by
    refine List.filter_eq_nil_iff.mpr fun e he => ?_
    rw [h.entries] at he
    obtain ⟨d, hd, rfl⟩ := List.mem_map.mp he
    simpa [Ledger.entry] using ⟨d, (Ledger.mem_inOrder d).mp hd, rfl⟩
  have huses : (c.without (l.present.map Deposit.key)).uses = [] := by
    refine List.filter_eq_nil_iff.mpr fun k hk => ?_
    rw [h.uses] at hk
    simpa using hk
  have hclear : c.without (l.present.map Deposit.key) = c.clear := by
    rw [Cache.clear, ← hentries, ← huses]
    rfl
  exact hclear ▸ hleft

/-- The `stats` of both are told alike. -/
private theorem Matches.stats_eq (h : Matches l c) (hl : l.IsSound) (now : Binary64) :
    (c.stats now).1 = (l.expire now).stats := by
  have hswept := h.sweep hl now
  -- What the sweep has left is alive, so none of it is filtered out.
  have hlive : (c.sweep now).entries.filter (isLive now) = (c.sweep now).entries := by
    refine List.filter_eq_self.mpr fun e he => ?_
    rw [hswept.entries] at he
    obtain ⟨d, hd, rfl⟩ := List.mem_map.mp he
    rw [Ledger.mem_inOrder, hl.present_expire now] at hd
    exact (List.mem_filter.mp hd).2
  have hkeys : (c.sweep now).entries.map Entry.key = (l.expire now).inOrder.map Deposit.key := by
    rw [hswept.entries, List.map_map]
    rfl
  have hlength : (c.sweep now).entries.length = (l.expire now).present.length := by
    rw [hswept.entries, List.length_map, (Ledger.inOrder_perm _).length_eq]
  simp only [Cache.stats, Ledger.stats, hlive, hkeys, hlength, hswept.hits, hswept.misses,
    hswept.evictions, hswept.capacity, hswept.lifetime]

/-- `perform` answers an operation on both alike, and they go on to match. -/
theorem matches_perform {past : List (Exchange κ ν)} (h : Matches l c) (hl : l.Serves past)
    (now : Binary64) (hnow : IsAfter past now) (operation : Operation κ ν) :
    (c.perform now operation).1 = (l.perform now operation).1 ∧
      Matches (l.perform now operation).2 (c.perform now operation).2 := by
  have hsound := hl.follows.sound
  have hswept := h.sweep hsound now
  cases operation with
  | put key value =>
    -- The cache replaces or makes room and then enters, as the ledger does.
    have hentered := (hl.perform now hnow (.put key value)).follows.sound
    have hcapacity : c.capacity ≠ 0 := by
      have hroom := hl.hasRoom
      rw [h.capacity]
      omega
    simp only [perform, put_eq_without now key value c hcapacity]
    exact ⟨rfl, (hswept.makeRoom (hsound.expire now) key).enter
      ((hsound.expire now).makeRoom key) now key value hentered⟩
  | get key => exact h.get hsound now key
  | invalidate key => exact h.invalidate hsound now key
  | clear => exact ⟨rfl, h.clear hsound⟩
  | size =>
    have hlength : (c.sweep now).entries.length = (l.expire now).present.length := by
      rw [hswept.entries, List.length_map, (Ledger.inOrder_perm _).length_eq]
    exact ⟨congrArg Answer.counted hlength, hswept⟩
  | stats => exact ⟨congrArg Answer.described (h.stats_eq hsound now), hswept⟩

/-! ## Histories -/

/-- The exchanges in which a cache serves operations. -/
def served (c : Cache κ ν) (operations : List (Binary64 × Operation κ ν)) :
    List (Exchange κ ν) :=
  (serve perform operations c).1

/-- The cache after it served operations. -/
def after (c : Cache κ ν) (operations : List (Binary64 × Operation κ ν)) : Cache κ ν :=
  (serve perform operations c).2

/-- The ledger of the operations, from the beginning. -/
def ledger (c : Cache κ ν) (operations : List (Binary64 × Operation κ ν)) : Ledger κ ν :=
  (serve Ledger.perform operations (.blank c.lifetime c.capacity)).2

/-- A cache has served operations as its ledger, and has the same results afterwards. -/
structure IsServed (c : Cache κ ν) (operations : List (Binary64 × Operation κ ν)) : Prop where
  answers : c.served operations =
    (serve Ledger.perform operations (.blank c.lifetime c.capacity)).1
  matching : Matches (c.ledger operations) (c.after operations)
  serves : (c.ledger operations).Serves (c.served operations)
  lifetime : (c.ledger operations).lifetime = c.lifetime
  capacity : (c.ledger operations).capacity = c.capacity

/-- A cache that matches a `blank` ledger goes on to match it, whatever it serves. -/
private theorem isServed_of_matches (c : Cache κ ν)
    (hblank : Matches (.blank c.lifetime c.capacity) c) (hcapacity : 0 < c.capacity)
    (operations : List (Binary64 × Operation κ ν)) (htimely : IsTimely operations) :
    c.IsServed operations := by
  -- The invariant: the two match, and the ledger is true to what was exchanged.
  let R (past : List (Exchange κ ν)) (c' : Cache κ ν) (l : Ledger κ ν) : Prop :=
    Matches l c' ∧ l.Serves past ∧ l.lifetime = c.lifetime ∧ l.capacity = c.capacity
  have hstep (past : List (Exchange κ ν)) (c' : Cache κ ν) (l : Ledger κ ν) (now : Binary64)
      (operation : Operation κ ν) (hR : R past c' l) (hafter : IsAfter past now) :
      (c'.perform now operation).1 = (l.perform now operation).1 ∧
        R (past ++ [⟨now, operation, (l.perform now operation).1⟩])
          (c'.perform now operation).2 (l.perform now operation).2 := by
    obtain ⟨hmatches, hserves, hlifetime, hroom⟩ := hR
    obtain ⟨hanswer, hnext⟩ := matches_perform hmatches hserves now hafter operation
    exact ⟨hanswer, hnext, hserves.perform now hafter operation,
      (Ledger.lifetime_perform now operation l).trans hlifetime,
      (Ledger.capacity_perform now operation l).trans hroom⟩
  obtain ⟨hanswers, hmatches, hserves, hlifetime, hroom⟩ := serve_simulates perform Ledger.perform R
    hstep operations [] c _ ⟨hblank, Ledger.serves_blank _ _ hcapacity, rfl, rfl⟩ htimely
    (by simp [IsAfter])
  refine ⟨hanswers, hmatches, ?_, hlifetime, hroom⟩
  rw [served, hanswers]
  exact hserves

section Empty

variable (lifetime : Number) (capacity : Int) (c : Cache κ ν)

omit [DecidableEq κ] in
/-- An `empty` cache of some capacity has room. -/
theorem capacity_pos_of_empty (hempty : empty lifetime capacity = .ok c)
    (hcapacity : 0 < capacity) : 0 < c.capacity := by
  simp only [empty] at hempty
  rw [if_neg (by omega)] at hempty
  cases hempty
  show 0 < capacity.toNat
  omega

omit [DecidableEq κ] in
/-- An `empty` cache matches a `blank` ledger. -/
private theorem matches_blank (hempty : empty lifetime capacity = .ok c)
    (hcapacity : 0 < capacity) : Matches (.blank c.lifetime c.capacity) c := by
  simp only [empty] at hempty
  rw [if_neg (by omega)] at hempty
  cases hempty
  refine ⟨rfl, rfl, ?_, rfl, rfl, rfl, rfl⟩
  simp [Ledger.inOrder, Ledger.blank]

/-- An `empty` cache with room serves operations as its `ledger`, if the clock never runs back. -/
theorem isServed_of_empty (hempty : empty lifetime capacity = .ok c) (hcapacity : 0 < capacity)
    (operations : List (Binary64 × Operation κ ν)) (htimely : IsTimely operations) :
    c.IsServed operations :=
  isServed_of_matches c (matches_blank lifetime capacity c hempty hcapacity)
    (capacity_pos_of_empty lifetime capacity c hempty hcapacity) operations htimely

end Empty

omit [DecidableEq κ] in
/-- `serve` makes its exchanges at the moments of the operations. -/
private theorem map_now_serve {σ : Type} (perform : Binary64 → Operation κ ν → σ → Answer κ ν × σ)
    (operations : List (Binary64 × Operation κ ν)) (s : σ) :
    (serve perform operations s).1.map Exchange.now = operations.map Prod.fst := by
  induction operations generalizing s with
  | nil => rfl
  | cons x operations ih => simp [serve, ih]

theorem isAfter_served (c : Cache κ ν) (operations : List (Binary64 × Operation κ ν))
    (now : Binary64) (hnow : ∀ x ∈ operations, x.1.le now = true) :
    IsAfter (c.served operations) now := by
  intro x hx
  have hmoment : x.now ∈ operations.map Prod.fst := by
    rw [← map_now_serve perform operations c]
    exact List.mem_map_of_mem hx
  obtain ⟨y, hy, hxy⟩ := List.mem_map.mp hmoment
  exact hxy ▸ hnow y hy

namespace IsServed

variable {operations : List (Binary64 × Operation κ ν)} (h : c.IsServed operations)
  (now : Binary64)

include h

theorem isSound : (c.ledger operations).IsSound :=
  h.serves.follows.sound

/-- What `get` finds is what the swept ledger has under the key. -/
theorem get_eq (key : κ) : ((c.after operations).get now key).1 =
    (((c.ledger operations).expire now).find? key).map Deposit.value :=
  h.matching.get_eq h.isSound now key

variable (hafter : IsAfter (c.served operations) now)

include hafter

/-- What `expire` leaves is young enough, and so it is what stands under its key. -/
theorem owed (d : Deposit κ ν) (hd : d ∈ ((c.ledger operations).expire now).present) :
    standing d.key (c.served operations) = some (d.since, d.value) ∧
      now.lt (d.since.add c.lifetime.toBinary64) = true := by
  rw [h.isSound.present_expire now] at hd
  obtain ⟨hd, hlive⟩ := List.mem_filter.mp hd
  exact ⟨h.serves.follows.owed d hd now hafter hlive, h.lifetime ▸ hlive⟩

/-- Only what is `standing` under a key is read, and only as long as it is younger than the
lifetime. -/
theorem fresh (key : κ) (value : ν) (hread : ((c.after operations).get now key).1 = some value) :
    ∃ since, standing key (c.served operations) = some (since, value) ∧
      now.lt (since.add c.lifetime.toBinary64) = true := by
  rw [h.get_eq now key] at hread
  obtain ⟨d, hfind, rfl⟩ := Option.map_eq_some_iff.mp hread
  obtain ⟨hd, rfl⟩ := ((h.isSound.expire now).find?_eq_some_iff key d).mp hfind
  exact ⟨d.since, h.owed now hafter d hd⟩

/-- What is `standing` under a key is read as long as it is younger than the lifetime, if fewer
other keys were used since than fit in. -/
theorem kept (key : κ) (since : Binary64) (value : ν)
    (hstands : standing key (c.served operations) = some (since, value))
    (hlive : now.lt (since.add c.lifetime.toBinary64) = true)
    (hrivals : (rivals key (c.served operations)).length < c.capacity) :
    ((c.after operations).get now key).1 = some value := by
  have hholds := h.serves.follows.kept key since value now hstands hafter (h.lifetime.symm ▸ hlive)
    (h.capacity.symm ▸ hrivals)
  obtain ⟨d, hd, hkey, hvalue, _⟩ :=
    (hholds.expire h.isSound now (h.lifetime.symm ▸ hlive)).mem
  rw [h.get_eq now key, ((h.isSound.expire now).find?_eq_some_iff key d).mpr ⟨hd, hkey⟩,
    Option.map_some, hvalue]

end IsServed

/-! ## What a cache promises -/

/-- What a cache promises at a moment after operations that it served. -/
structure KeepsPromises (c : Cache κ ν) (operations : List (Binary64 × Operation κ ν))
    (now : Binary64) : Prop where
  /-- All of the answers were those of the ledger. -/
  answers : c.served operations =
    (serve Ledger.perform operations (.blank c.lifetime c.capacity)).1
  /-- Only what stands under a key is read, and only as long as it is younger than the lifetime. -/
  fresh : ∀ key value, ((c.after operations).get now key).1 = some value →
    ∃ since, standing key (c.served operations) = some (since, value) ∧
      now.lt (since.add c.lifetime.toBinary64) = true
  /-- That long it is read, if fewer other keys were used since than fit in. -/
  kept : ∀ key since value, standing key (c.served operations) = some (since, value) →
    now.lt (since.add c.lifetime.toBinary64) = true →
    (rivals key (c.served operations)).length < c.capacity →
    ((c.after operations).get now key).1 = some value
  bounded : ((c.after operations).size now).1 ≤ c.capacity
  sized : ((c.after operations).stats now).1.size = ((c.after operations).size now).1 ∧
    ((c.after operations).stats now).1.keys.length = ((c.after operations).size now).1
  distinct : ((c.after operations).stats now).1.keys.Nodup
  alive : ∀ key ∈ ((c.after operations).stats now).1.keys, ∃ since value,
    standing key (c.served operations) = some (since, value) ∧
      now.lt (since.add c.lifetime.toBinary64) = true
  /-- Each read is a hit or a miss, and a hit if it found something. -/
  reads : ((c.after operations).stats now).1.hits + ((c.after operations).stats now).1.misses =
    (c.served operations).countP Exchange.isGet
  hits : ((c.after operations).stats now).1.hits = (c.served operations).countP Exchange.isHit
  /-- What was evicted is what left for its age. -/
  evictions : ((c.after operations).stats now).1.evictions =
    ((c.ledger operations).expire now).expirations
  /-- It had reached the lifetime when a sweep came upon it. -/
  aged : ∀ x ∈ ((c.ledger operations).expire now).departed, x.2 = .expired →
    now.lt (x.1.since.add c.lifetime.toBinary64) = false ∨
    ∃ e ∈ c.served operations, e.operation.sweeps = true ∧
      e.now.lt (x.1.since.add c.lifetime.toBinary64) = false
  /-- Each result that was put left once, or is there. -/
  once : (((c.ledger operations).expire now).departed.map (fun x => x.1.number) ++
    ((c.ledger operations).expire now).present.map Deposit.number).Perm
      (List.range ((c.served operations).countP Exchange.isPut))

/-- `KeepsPromises` holds at all times: whatever was done with the cache from the beginning, as long
as the clock never ran back, it answered as its ledger, and keeps no less and no more than that. -/
theorem keepsPromises (lifetime : Number) (capacity : Int) (c : Cache κ ν)
    (hempty : empty lifetime capacity = .ok c) (hcapacity : 0 < capacity)
    (operations : List (Binary64 × Operation κ ν)) (now : Binary64)
    (htimely : IsTimely operations) (hnow : ∀ x ∈ operations, x.1.le now = true) :
    c.KeepsPromises operations now := by
  have h := isServed_of_empty lifetime capacity c hempty hcapacity operations htimely
  have hafter := isAfter_served c operations now hnow
  -- The cache matches its ledger at all times, so what it tells is what the swept ledger tells, and
  -- of that the history has been counted.
  have hswept := h.isSound.expire now
  have hstats := h.matching.stats_eq h.isSound now
  have hsize : ((c.after operations).size now).1 =
      ((c.ledger operations).expire now).present.length := by
    simp only [Cache.size, (h.matching.sweep h.isSound now).entries, List.length_map,
      (Ledger.inOrder_perm _).length_eq]
  constructor
  case answers => exact h.answers
  case fresh => exact h.fresh now hafter
  case kept => exact h.kept now hafter
  -- The sweep only lets results leave, and the ledger was within its capacity before.
  case bounded =>
    rw [hsize, h.isSound.present_expire now, ← h.capacity]
    exact Nat.le_trans (List.length_filter_le ..) h.serves.follows.room
  case sized =>
    rw [hstats, hsize]
    exact ⟨rfl, by simp [Ledger.stats, (Ledger.inOrder_perm _).length_eq]⟩
  case distinct =>
    rw [hstats]
    exact ((Ledger.inOrder_perm _).map Deposit.key).nodup_iff.mpr hswept.nodup
  case alive =>
    intro key hkey
    rw [hstats] at hkey
    obtain ⟨d, hd, rfl⟩ := List.mem_map.mp hkey
    exact ⟨d.since, d.value, h.owed now hafter d ((Ledger.mem_inOrder d).mp hd)⟩
  case reads =>
    rw [hstats]
    exact h.serves.counts.reads
  case hits =>
    rw [hstats]
    exact h.serves.counts.hits
  case evictions =>
    rw [hstats]
    rfl
  -- What left for its age did so at this sweep, or at an earlier one of the history.
  case aged =>
    intro x hx hwhy
    have hage := h.isSound.mem_departed_expire now x hx
    rw [← h.lifetime]
    exact hage.symm.imp_right fun hmem => h.serves.aged x hmem hwhy
  case once =>
    rw [← h.serves.counts.puts]
    exact hswept.once

/-- A key is written, written over and read in a cache of one entry, which another key then takes.
-/
def contest : List (Binary64 × Operation String Nat) :=
  [(.ofInt 0, .put "a" 1), (.ofInt 5, .put "a" 2), (.ofInt 9, .get "a"), (.ofInt 12, .put "b" 3)]

/-- At the moment at which its result dies, the cache of `contest` still keeps its promises. -/
theorem keepsPromises_contest :
    ∃ c : Cache String Nat, empty (.whole 10) 1 = .ok c ∧ c.KeepsPromises contest (.ofInt 22) := by
  have htimely : IsTimely contest := by
    unfold IsTimely
    decide +kernel
  have hnow : ∀ x ∈ contest, x.1.le (.ofInt 22) = true := by decide +kernel
  exact ⟨_, rfl, keepsPromises (.whole 10) 1 _ rfl (by decide) contest (.ofInt 22) htimely hnow⟩

end Cache

end TokenRisk
