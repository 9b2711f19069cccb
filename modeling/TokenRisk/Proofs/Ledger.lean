import Mathlib.Data.List.Nodup
import TokenRisk.ForStd.List
import TokenRisk.Proofs.Cache
import TokenRisk.Proofs.Rounding

/-!
# A ledger of a cache

What a cache ought to do, apart from how it is done. The operations on a cache form a history, and
the history alone tells what is owed to a key: the result that stands under it, and the other keys
that were used since it was last used itself. The ledger is the plain model of a cache that grants
it. It numbers the results that are put into it, keeps those that are present in a single order,
that of their last uses, and writes down of every result that left why it did.

## Key results

- `Cache.serve_simulates`: two ways of serving that no operation tells apart
- `Ledger.IsSound`: there is one result under a key at most, and none is lost or left twice
-/

namespace TokenRisk

namespace Cache

/-! ## Histories of a cache -/

/-- What can be asked of a cache. -/
inductive Operation (κ ν : Type) where
  | put (key : κ) (value : ν)
  | get (key : κ)
  | invalidate (key : κ)
  | clear
  | size
  | stats

/-- What a cache answers. -/
inductive Answer (κ ν : Type) where
  | stored (result : Except Failure Unit)
  | found (value : Option ν)
  | removed (held : Bool)
  | cleared
  | counted (size : Nat)
  | described (stats : Stats κ)

/-- An operation at a moment, and the answer. -/
structure Exchange (κ ν : Type) where
  now : Binary64
  operation : Operation κ ν
  answer : Answer κ ν

variable {κ ν σ τ : Type}

/-- Serves operations one after the other. -/
def serve (perform : Binary64 → Operation κ ν → σ → Answer κ ν × σ) :
    List (Binary64 × Operation κ ν) → σ → List (Exchange κ ν) × σ
  | [], s => ([], s)
  | (now, operation) :: rest, s =>
    let (answer, s) := perform now operation s
    let (exchanges, s) := serve perform rest s
    (⟨now, operation, answer⟩ :: exchanges, s)

/-- No exchange of the past is later than a moment. -/
def IsAfter (past : List (Exchange κ ν)) (later : Binary64) : Prop :=
  ∀ x ∈ past, x.now.le later = true

/-- The key that an exchange put something under or read something from. -/
def Exchange.used? (x : Exchange κ ν) : Option κ :=
  match x.operation, x.answer with
  | .put key _, _ => some key
  | .get key, .found (some _) => some key
  | _, _ => none

/-- The moments of some operations follow one another. -/
def IsTimely (operations : List (Binary64 × Operation κ ν)) : Prop :=
  operations.Pairwise fun x y => x.1.le y.1 = true

/-- Two ways to `perform` operations come to the same exchanges, and to states that belong together,
if on states that belong together no operation tells them apart. -/
theorem serve_simulates (perform : Binary64 → Operation κ ν → σ → Answer κ ν × σ)
    (perform' : Binary64 → Operation κ ν → τ → Answer κ ν × τ)
    (R : List (Exchange κ ν) → σ → τ → Prop)
    (hstep : ∀ past s t now operation, R past s t → IsAfter past now →
      (perform now operation s).1 = (perform' now operation t).1 ∧
        R (past ++ [⟨now, operation, (perform' now operation t).1⟩])
          (perform now operation s).2 (perform' now operation t).2)
    (operations : List (Binary64 × Operation κ ν)) (past : List (Exchange κ ν)) (s : σ) (t : τ)
    (h : R past s t) (htimely : IsTimely operations) (hafter : ∀ x ∈ operations, IsAfter past x.1) :
    (serve perform operations s).1 = (serve perform' operations t).1 ∧
      R (past ++ (serve perform' operations t).1)
        (serve perform operations s).2 (serve perform' operations t).2 := by
  -- The relation depends on what was served so far, so the past grows with every operation.
  induction operations generalizing past s t with
  | nil => exact ⟨rfl, by simpa [serve] using h⟩
  | cons x operations ih =>
    obtain ⟨now, operation⟩ := x
    obtain ⟨hlater, htimely⟩ := List.pairwise_cons.mp htimely
    obtain ⟨hanswer, hnext⟩ := hstep past s t now operation h (hafter _ List.mem_cons_self)
    -- The times of the operations rise, so what comes next comes after what was served.
    obtain ⟨hexchanges, hrest⟩ := ih _ _ _ hnext htimely fun y hy z hz => by
      rcases List.mem_append.mp hz with hz | hz
      · exact hafter y (List.mem_cons_of_mem _ hy) z hz
      · rw [List.mem_singleton.mp hz]
        exact hlater y hy
    refine ⟨by simp only [serve, hanswer, hexchanges], ?_⟩
    simpa [serve, List.append_assoc] using hrest

/-- Every read, every write and every question for the state starts with a sweep. -/
def Operation.sweeps : Operation κ ν → Bool
  | .put .. | .get _ | .size | .stats => true
  | .invalidate _ | .clear => false

/-- Something was put. -/
def Exchange.isPut (x : Exchange κ ν) : Bool :=
  match x.operation with
  | .put .. => true
  | _ => false

/-- Something was asked for. -/
def Exchange.isGet (x : Exchange κ ν) : Bool :=
  match x.operation with
  | .get _ => true
  | _ => false

/-- Something was found. -/
def Exchange.isHit (x : Exchange κ ν) : Bool :=
  match x.answer with
  | .found (some _) => true
  | _ => false

variable [DecidableEq κ]

/-- Performs an operation. -/
def perform (now : Binary64) (operation : Operation κ ν) (c : Cache κ ν) :
    Answer κ ν × Cache κ ν :=
  match operation with
  | .put key value => (.stored (c.put now key (some value)).1, (c.put now key (some value)).2)
  | .get key => (.found (c.get now key).1, (c.get now key).2)
  | .invalidate key => (.removed (c.invalidate now key).1, (c.invalidate now key).2)
  | .clear => (.cleared, c.clear)
  | .size => (.counted (c.size now).1, (c.size now).2)
  | .stats => (.described (c.stats now).1, (c.stats now).2)

/-- What stands under a key after an exchange. -/
def standingAfter (key : κ) (x : Exchange κ ν) (standing : Option (Binary64 × ν)) :
    Option (Binary64 × ν) :=
  match x.operation with
  | .put k value => if k = key then some (x.now, value) else standing
  | .invalidate k => if k = key then none else standing
  | .clear => none
  | .get _ | .size | .stats => standing

/-- The last result that was put under a key and was not taken out again, and when it was put. -/
def standing (key : κ) (past : List (Exchange κ ν)) : Option (Binary64 × ν) :=
  past.foldl (fun standing x => standingAfter key x standing) none

/-- The rivals of a key after an exchange. -/
def rivalsAfter (key : κ) (x : Exchange κ ν) (rivals : List κ) : List κ :=
  match x.used? with
  | none => rivals
  | some k => if k = key then [] else rivals.insert k

/-- The other keys that were used since a key was last used itself, each once. -/
def rivals (key : κ) (past : List (Exchange κ ν)) : List κ :=
  past.foldl (fun rivals x => rivalsAfter key x rivals) []

section Append

variable (past : List (Exchange κ ν)) (x : Exchange κ ν)

omit [DecidableEq κ] in
theorem isAfter_append (later : Binary64) :
    IsAfter (past ++ [x]) later ↔ IsAfter past later ∧ x.now.le later = true := by
  simp [IsAfter, or_imp, forall_and]

/-- `standing` under a key, exchange by exchange. -/
theorem standing_append (key : κ) :
    standing key (past ++ [x]) = standingAfter key x (standing key past) := by
  simp [standing]

/-- The `rivals` of a key, exchange by exchange. -/
theorem rivals_append (key : κ) :
    rivals key (past ++ [x]) = rivalsAfter key x (rivals key past) := by
  simp [rivals]

end Append

end Cache

/-! ## The ledger -/

/-- A result that was put under a key, with its number among all results. -/
structure Deposit (κ ν : Type) where
  number : Nat
  key : κ
  value : ν
  since : Binary64

/-- Why a result left. -/
inductive Departure where
  | expired
  | displaced
  | replaced
  | invalidated
  | cleared
  deriving DecidableEq

/-- The record of a bounded store. -/
structure Ledger (κ ν : Type) where
  lifetime : Number
  capacity : Nat
  puts : Nat := 0
  /-- The results that are present, the longest unused first. -/
  present : List (Deposit κ ν) := []
  departed : List (Deposit κ ν × Departure) := []
  hits : Nat := 0
  misses : Nat := 0

namespace Ledger

open Cache

variable {κ ν : Type}

/-- Whether a result is younger than the lifetime. -/
def isLive (l : Ledger κ ν) (now : Binary64) (d : Deposit κ ν) : Bool :=
  now.lt (d.since.add l.lifetime.toBinary64)

/-- The number of results that left because they had reached the lifetime. -/
def expirations (l : Ledger κ ν) : Nat :=
  l.departed.countP fun x => x.2 = .expired

/-- The results that are present in the order in which they were put. -/
def inOrder (l : Ledger κ ν) : List (Deposit κ ν) :=
  l.present.mergeSort fun a b => a.number ≤ b.number

/-- Enters a new result. -/
def enter (now : Binary64) (key : κ) (value : ν) (l : Ledger κ ν) : Ledger κ ν :=
  { l with
    puts := l.puts + 1
    present := l.present ++ [⟨l.puts, key, value, now⟩] }

variable [DecidableEq κ]

/-- The result that is present under a key. -/
def find? (l : Ledger κ ν) (key : κ) : Option (Deposit κ ν) :=
  l.present.find? fun d => d.key = key

/-- Lets the results under some keys leave. -/
def leave (keys : List κ) (why : Departure) (l : Ledger κ ν) : Ledger κ ν :=
  { l with
    present := l.present.filter fun d => d.key ∉ keys
    departed := l.departed ++ (l.present.filter fun d => d.key ∈ keys).map fun d => (d, why) }

/-- Lets the results leave that are not `isLive` any more. -/
def expire (now : Binary64) (l : Ledger κ ν) : Ledger κ ν :=
  l.leave ((l.present.filter fun d => !l.isLive now d).map Deposit.key) .expired

/-- Lets the longest unused results leave until another one fits in. -/
def displace (l : Ledger κ ν) : Ledger κ ν :=
  l.leave ((l.present.take (l.present.length + 1 - l.capacity)).map Deposit.key) .displaced

/-- Makes a result the last one used. -/
def use (d : Deposit κ ν) (l : Ledger κ ν) : Ledger κ ν :=
  { l with present := (l.present.filter fun e => e.key ≠ d.key) ++ [d] }

/-- Room for a result under a key: what is there is replaced, or else something gives way if there
is no room. -/
def makeRoom (key : κ) (l : Ledger κ ν) : Ledger κ ν :=
  if (l.find? key).isSome then l.leave [key] .replaced else l.displace

/-- The state of the ledger. -/
def stats (l : Ledger κ ν) : Stats κ where
  size := l.present.length
  capacity := l.capacity
  keys := l.inOrder.map Deposit.key
  hits := l.hits
  misses := l.misses
  evictions := l.expirations
  lifetime := l.lifetime

/-- Performs an operation on the ledger. -/
def perform (now : Binary64) (operation : Operation κ ν) (l : Ledger κ ν) :
    Answer κ ν × Ledger κ ν :=
  match operation with
  | .put key value => (.stored (.ok ()), ((l.expire now).makeRoom key).enter now key value)
  | .get key =>
    let l := l.expire now
    match l.find? key with
    | none => (.found none, { l with misses := l.misses + 1 })
    | some d => (.found (some d.value), { l.use d with hits := l.hits + 1 })
  | .invalidate key =>
    if (l.find? key).any (l.isLive now) then (.removed true, l.leave [key] .invalidated)
    else (.removed false, l)
  | .clear => (.cleared, l.leave (l.present.map Deposit.key) .cleared)
  | .size => (.counted (l.expire now).present.length, l.expire now)
  | .stats => (.described (l.expire now).stats, l.expire now)

/-! ## What is present -/

variable {l : Ledger κ ν}

@[simp] theorem mem_present_leave (keys : List κ) (why : Departure) (d : Deposit κ ν) :
    d ∈ (l.leave keys why).present ↔ d ∈ l.present ∧ d.key ∉ keys := by
  simp [leave]

/-- If there is no key to `leave`, nothing changes. -/
theorem leave_nil (l : Ledger κ ν) (why : Departure) : l.leave [] why = l := by
  simp [leave]

omit [DecidableEq κ] in
@[simp] theorem mem_present_enter (now : Binary64) (key : κ) (value : ν) (d : Deposit κ ν) :
    d ∈ (l.enter now key value).present ↔ d ∈ l.present ∨ d = ⟨l.puts, key, value, now⟩ := by
  simp [enter]

/-- There is at most one result under a key, results that were put earlier are no younger, and every
result that was ever put is present or left once. -/
structure IsSound (l : Ledger κ ν) : Prop where
  nodup : (l.present.map Deposit.key).Nodup
  ordered : ∀ d ∈ l.present, ∀ e ∈ l.present, d.number < e.number → d.since.le e.since = true
  once : (l.departed.map (fun x => x.1.number) ++ l.present.map Deposit.number).Perm
    (List.range l.puts)

omit [DecidableEq κ] in
theorem IsSound.eq_of_key_eq (hl : l.IsSound) {d e : Deposit κ ν} (hd : d ∈ l.present)
    (he : e ∈ l.present) (h : d.key = e.key) : d = e :=
  List.inj_on_of_nodup_map hl.nodup hd he h

omit [DecidableEq κ] in
/-- A key is that of a result of which `p` holds if `p` holds of the result under the key. -/
theorem IsSound.key_mem_iff (hl : l.IsSound) (p : Deposit κ ν → Bool) {ds : List (Deposit κ ν)}
    (hperm : ds.Perm l.present) {d : Deposit κ ν} (hd : d ∈ l.present) :
    d.key ∈ (ds.filter p).map Deposit.key ↔ p d = true := by
  constructor
  · intro h
    obtain ⟨e, he, hkey⟩ := List.mem_map.mp h
    obtain ⟨he, hp⟩ := List.mem_filter.mp he
    rwa [← hl.eq_of_key_eq (hperm.mem_iff.mp he) hd hkey]
  · intro hp
    exact List.mem_map_of_mem (List.mem_filter.mpr ⟨hperm.mem_iff.mpr hd, hp⟩)

omit [DecidableEq κ] in
/-- The numbers of results are below the number of `puts`. -/
theorem IsSound.number_lt (hl : l.IsSound) {d : Deposit κ ν} (hd : d ∈ l.present) :
    d.number < l.puts :=
  List.mem_range.mp (hl.once.mem_iff.mp
    (List.mem_append_right _ (List.mem_map_of_mem hd)))

theorem IsSound.find?_eq_some_iff (hl : l.IsSound) (key : κ) (d : Deposit κ ν) :
    l.find? key = some d ↔ d ∈ l.present ∧ d.key = key := by
  constructor
  · intro h
    exact ⟨List.mem_of_find?_eq_some h, by simpa using List.find?_some h⟩
  · rintro ⟨hd, rfl⟩
    have hsome : (l.find? d.key).isSome = true :=
      List.find?_isSome.mpr ⟨d, hd, by simp⟩
    obtain ⟨e, he⟩ := Option.isSome_iff_exists.mp hsome
    have hkey : e.key = d.key := by simpa using List.find?_some he
    rw [he, hl.eq_of_key_eq (List.mem_of_find?_eq_some he) hd hkey]

theorem find?_eq_none_iff (key : κ) : l.find? key = none ↔ ∀ d ∈ l.present, d.key ≠ key := by
  simp [find?]

/-- `expire` keeps what `isLive`. -/
theorem IsSound.present_expire (hl : l.IsSound) (now : Binary64) :
    (l.expire now).present = l.present.filter (l.isLive now) := by
  refine List.filter_congr fun d hd => ?_
  have hkey := hl.key_mem_iff (fun d => !l.isLive now d) (List.Perm.refl _) hd
  simp only [hkey]
  cases l.isLive now d <;> rfl

/-- `makeRoom` keeps only results under other keys. -/
theorem mem_present_makeRoom (key : κ) (d : Deposit κ ν) (h : d ∈ (l.makeRoom key).present) :
    d ∈ l.present ∧ d.key ≠ key := by
  simp only [makeRoom] at h
  split at h
  · simpa using h
  · rename_i hnone
    have habsent := (find?_eq_none_iff key).mp (by simpa using hnone)
    have hd := (mem_present_leave ..).mp h
    exact ⟨hd.1, habsent d hd.1⟩

@[simp] theorem lifetime_makeRoom (key : κ) (l : Ledger κ ν) :
    (l.makeRoom key).lifetime = l.lifetime := by
  simp only [makeRoom]
  split <;> rfl

@[simp] theorem capacity_makeRoom (key : κ) (l : Ledger κ ν) :
    (l.makeRoom key).capacity = l.capacity := by
  simp only [makeRoom]
  split <;> rfl

/-- After `makeRoom` there is room. -/
theorem length_makeRoom_lt (key : κ) (hcapacity : 0 < l.capacity)
    (hroom : l.present.length ≤ l.capacity) : (l.makeRoom key).present.length < l.capacity := by
  simp only [makeRoom]
  split
  · -- The result under the key makes room itself.
    rename_i hsome
    obtain ⟨d, hd⟩ := Option.isSome_iff_exists.mp hsome
    have hkey : d.key = key := by simpa using List.find?_some hd
    have hless : (l.leave [key] .replaced).present.length < l.present.length :=
      List.length_filter_lt_length_iff_exists.mpr
        ⟨d, List.mem_of_find?_eq_some hd, by simp [hkey]⟩
    omega
  · -- Otherwise no fewer leave than are too many.
    have hless := List.length_filter_le_of_take (fun d : Deposit κ ν => d.key ∉
        (l.present.take (l.present.length + 1 - l.capacity)).map Deposit.key) l.present _
      fun d hd => decide_eq_false (not_not_intro (List.mem_map_of_mem hd))
    simp only [displace, leave]
    omega

/-! ## Soundness -/

/-- Who leaves and who stays by `leave` were both present. -/
private theorem perm_leave (keys : List κ) (l : Ledger κ ν) :
    ((l.present.filter fun d => d.key ∈ keys) ++ (l.present.filter fun d => d.key ∉ keys)).Perm
      l.present := by
  simpa using List.filter_append_perm (fun d : Deposit κ ν => decide (d.key ∈ keys)) l.present

theorem IsSound.leave (hl : l.IsSound) (keys : List κ) (why : Departure) :
    (l.leave keys why).IsSound := by
  constructor
  case nodup =>
    exact List.Nodup.sublist (List.Sublist.map _ List.filter_sublist) hl.nodup
  case ordered =>
    intro d hd e he
    exact hl.ordered d ((mem_present_leave ..).mp hd).1 e ((mem_present_leave ..).mp he).1
  case once =>
    refine List.Perm.trans ?_ hl.once
    simp only [Ledger.leave, List.map_append, List.map_map, List.append_assoc]
    refine List.Perm.append_left _ ?_
    have hperm := (perm_leave keys l).map Deposit.number
    rwa [List.map_append] at hperm

theorem IsSound.expire (hl : l.IsSound) (now : Binary64) : (l.expire now).IsSound :=
  hl.leave _ _

theorem IsSound.makeRoom (hl : l.IsSound) (key : κ) : (l.makeRoom key).IsSound := by
  simp only [Ledger.makeRoom]
  split <;> exact hl.leave _ _

omit [DecidableEq κ] in
/-- Beside a result of an `IsSound` ledger that is present, there are only results under other
keys. -/
theorem IsSound.split (hl : l.IsSound) {front back : List (Deposit κ ν)} {d : Deposit κ ν}
    (h : l.present = front ++ d :: back) : ∀ e ∈ front ++ back, e.key ≠ d.key := by
  have hnodup := hl.nodup
  rw [h, List.perm_middle.map _ |>.nodup_iff, List.map_cons, List.nodup_cons] at hnodup
  intro e he hkey
  exact hnodup.1 (hkey ▸ List.mem_map_of_mem he)

theorem IsSound.present_use (hl : l.IsSound) {front back : List (Deposit κ ν)} {d : Deposit κ ν}
    (h : l.present = front ++ d :: back) : (l.use d).present = front ++ back ++ [d] := by
  have hothers := hl.split h
  have hfilter : (front ++ back).filter (fun e => e.key ≠ d.key) = front ++ back :=
    List.filter_eq_self.mpr fun e he => by simpa using hothers e he
  simp only [use, h]
  rw [List.filter_append, List.filter_cons_of_neg (by simp), ← List.filter_append, hfilter]

/-- `use` only changes the order of uses. -/
theorem IsSound.perm_use (hl : l.IsSound) {d : Deposit κ ν} (hd : d ∈ l.present) :
    (l.use d).present.Perm l.present := by
  obtain ⟨front, back, h⟩ := List.append_of_mem hd
  rw [hl.present_use h, h]
  exact (List.perm_append_singleton d (front ++ back)).trans List.perm_middle.symm

theorem IsSound.use (hl : l.IsSound) {d : Deposit κ ν} (hd : d ∈ l.present) :
    (l.use d).IsSound := by
  have hperm := hl.perm_use hd
  constructor
  case nodup => exact (hperm.map _).nodup_iff.mpr hl.nodup
  case ordered =>
    intro e he f hf
    exact hl.ordered e (hperm.mem_iff.mp he) f (hperm.mem_iff.mp hf)
  case once =>
    exact ((hperm.map Deposit.number).append_left _).trans hl.once

omit [DecidableEq κ] in
theorem IsSound.enter (hl : l.IsSound) (now : Binary64) (key : κ) (value : ν)
    (hkey : ∀ d ∈ l.present, d.key ≠ key) (hnow : ∀ d ∈ l.present, d.since.le now = true) :
    (l.enter now key value).IsSound := by
  constructor
  case nodup =>
    -- The new result is under a key that is not present.
    simp only [Ledger.enter, List.map_append, List.map_cons, List.map_nil]
    refine List.nodup_append.mpr ⟨hl.nodup, by simp, ?_⟩
    intro k hk k' hk'
    obtain ⟨d, hd, rfl⟩ := List.mem_map.mp hk
    rw [List.mem_singleton.mp hk']
    exact hkey d hd
  case ordered =>
    intro d hd e he hlt
    rcases (mem_present_enter ..).mp hd with hd | rfl
    · rcases (mem_present_enter ..).mp he with he | rfl
      · exact hl.ordered d hd e he hlt
      · exact hnow d hd
    · -- Nothing has a higher number than the new result.
      rcases (mem_present_enter ..).mp he with he | rfl
      · have hlt' := hl.number_lt he
        simp only at hlt
        omega
      · simp at hlt
  case once =>
    -- The number of the new result is the next one.
    have honce := hl.once.append_right [l.puts]
    simpa [Ledger.enter, List.range_succ, List.append_assoc] using honce

end Ledger

end TokenRisk
