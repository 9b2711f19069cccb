import TokenRisk.ForStd.Except
import TokenRisk.History
import TokenRisk.Proofs.Cache
import TokenRisk.Proofs.Places
import TokenRisk.Proofs.Timed

/-!
# Where answers come from

An answer is worked out for the request that it answers, was worked out for an earlier request under
the same key and kept, or says that the work failed. Let `P` be any relation between keys and
answers that the settled work of all requests has, as far as there is a cache to keep it. Then a
memory that keeps `P` goes on keeping it whatever is done (`keeps_perform`), and what comes out of
it for a request has `P` (`answered_in_place`). Over a history that starts from nothing kept, `P`
can be taken to be that the answer was worked out in an earlier event (`answers_run_in_place`).
-/

namespace TokenRisk

/-- Every answer that a session remembers stands in a relation to its key. -/
def Session.Keeps (P : String → Verification → Prop) (s : Session) : Prop :=
  ∀ c, s.cache = some c → c.Keeps P

/-- Nothing is remembered. -/
def Session.IsFresh (s : Session) : Prop :=
  ∀ c, s.cache = some c → c.entries = []

theorem Session.IsFresh.keeps {P : String → Verification → Prop} {s : Session} (h : s.IsFresh) :
    s.Keeps P := by
  intro c hc e he
  rw [h c hc] at he
  cases he

/-- There is no cache, or one with room. -/
def Session.CanStore (s : Session) : Prop :=
  ∀ c, s.cache = some c → c.capacity ≠ 0

/-- The lifetime and the capacity of the cache, if there is one. -/
def Session.bounds (s : Session) : Option (Number × Nat) :=
  s.cache.map Cache.bounds

/-- Whether there is a cache does not change as long as the `bounds` do not. -/
theorem Session.cache_ne_none_congr {s s' : Session} (h : s'.bounds = s.bounds) :
    s'.cache ≠ none ↔ s.cache ≠ none := by
  have hnone := congrArg (· = none) h
  simp only [bounds, Option.map_eq_none_iff] at hnone
  rw [ne_eq, ne_eq, hnone]

/-- Whether there is room depends on the `bounds` alone. -/
theorem Session.canStore_congr {s s' : Session} (h : s'.bounds = s.bounds) :
    s'.CanStore ↔ s.CanStore := by
  simp only [Session.bounds] at h
  simp only [Session.CanStore]
  cases hcache : s.cache <;> cases hcache' : s'.cache <;> simp_all [Cache.bounds]

/-- A session without a cache `IsFresh`: it remembers nothing and lacks no room. -/
theorem Session.isFresh_default : ({} : Session).IsFresh := by
  intro c hc
  cases hc

theorem Session.canStore_default : ({} : Session).CanStore := by
  intro c hc
  cases hc

namespace Verifier

variable (v : Verifier) {P : String → Verification → Prop}

/-- The answers that are kept for a request have a relation to its key. -/
def Upholds (P : String → Verification → Prop) (r : Request) : Prop :=
  ∀ id a o, (v.work id r).value = .ok (a, o) → o.isSettled = true → P (v.keyOf r) a

/-- The ways in which a request is answered. -/
inductive Answered (P : String → Verification → Prop) (r : Request) : Verification → Prop where
  | kept (id : String) (a : Verification) (h : P (v.keyOf r) a) :
      Answered P r { a with requestId := id }
  | worked (id : String) (a : Verification) (o : Outcome)
      (h : (v.work id r).value = .ok (a, o)) : Answered P r a
  | failed (id id' : String) (f : Failure) (h : (v.work id r).value = .error f) :
      Answered P r (v.failedAnswer id' r f.description)

/-- `Answered` by a wider relation allows more answers. -/
theorem Answered.mono {v : Verifier} {P Q : String → Verification → Prop} {r : Request}
    {a : Verification} (h : v.Answered P r a) (hPQ : ∀ key b, P key b → Q key b) :
    v.Answered Q r a := by
  cases h with
  | kept id b hb => exact .kept id b (hPQ _ _ hb)
  | worked id _ o hwork => exact .worked id a o hwork
  | failed id id' f hwork => exact .failed id id' f hwork

/-- The requests that an action begins, also if it gives them up. -/
def begunBy : Action → List Request
  | .cancel _ r => [r]
  | action => v.requestsOf action

/-! ## One request -/

/-- `lookUp` keeps what is kept, and what it finds has the relation. -/
theorem lookUp_spec (r : Request) (s : Session) (h : s.Keeps P) :
    (v.lookUp r s).2.Keeps P ∧ ∀ a, (v.lookUp r s).1 = some a → P (v.keyOf r) a := by
  cases hcache : s.cache with
  | none =>
    simp only [lookUp, hcache]
    exact ⟨h, by simp⟩
  | some c =>
    simp only [lookUp, hcache]
    refine ⟨?_, fun a ha => Cache.keeps_of_get v.clock (v.keyOf r) c a (h c hcache) ha⟩
    intro c' hc'
    rw [← Option.some.inj hc']
    exact Cache.keeps_get v.clock (v.keyOf r) c (h c hcache)

/-- Where nothing is remembered, `lookUp` finds nothing. -/
theorem lookUp_of_isFresh (r : Request) (s : Session) (h : s.IsFresh) :
    (v.lookUp r s).1 = none := by
  rw [Option.eq_none_iff_forall_ne_some]
  intro a ha
  exact (v.lookUp_spec (P := fun _ _ => False) r s h.keeps).2 a ha

@[simp] theorem bounds_lookUp (r : Request) (s : Session) :
    (v.lookUp r s).2.bounds = s.bounds := by
  cases hcache : s.cache with
  | none => simp only [lookUp, hcache]
  | some c => simp [lookUp, hcache, Session.bounds]

/-- `lookUp` leaves the room there is. -/
theorem canStore_lookUp (r : Request) (s : Session) :
    (v.lookUp r s).2.CanStore ↔ s.CanStore :=
  Session.canStore_congr (v.bounds_lookUp r s)

/-- `begin` answers a request by a kept answer under a new identifier, or begins its work. -/
theorem begin_spec (r : Request) (s s' : Session) (begun : Begun)
    (hbegin : v.begin r s = (begun, s')) (h : s.Keeps P) :
    s'.Keeps P ∧ ((∃ id a, P (v.keyOf r) a ∧ begun = .hit { a with requestId := id }) ∨
      ∃ id, begun = .working (v.work id r)) := by
  obtain ⟨hkeeps, hfound⟩ := v.lookUp_spec r s h
  simp only [begin] at hbegin
  cases hlookup : (v.lookUp r s).1 with
  | none =>
    simp only [hlookup, Prod.mk.injEq] at hbegin
    -- Nothing was found, so the request is worked on.
    obtain ⟨rfl, rfl⟩ := hbegin
    exact ⟨hkeeps, .inr ⟨_, rfl⟩⟩
  | some a =>
    simp only [hlookup, Prod.mk.injEq] at hbegin
    obtain ⟨rfl, rfl⟩ := hbegin
    exact ⟨hkeeps, .inl ⟨_, a, hfound a hlookup, rfl⟩⟩

/-- To `store` an answer that has the relation keeps what is kept. -/
theorem keeps_store (r : Request) (a : Verification) (s : Session) (h : s.Keeps P)
    (ha : s.cache ≠ none → P (v.keyOf r) a) : (v.store r a s).2.Keeps P := by
  cases hcache : s.cache with
  | none =>
    simp only [store, hcache]
    exact h
  | some c =>
    simp only [store, hcache]
    intro c' hc'
    rw [← Option.some.inj hc']
    exact Cache.keeps_put v.clock (v.keyOf r) a c (h c hcache) fun _ => ha (by simp [hcache])

/-- `complete` keeps what is kept and answers the request, unless the answer cannot be stored. -/
theorem complete_spec (id : String) (r : Request) (s : Session) (h : s.Keeps P)
    (hr : s.cache ≠ none → v.Upholds P r) :
    (v.complete r (v.work id r).value s).2.Keeps P ∧
      ∀ a, (v.complete r (v.work id r).value s).1 = .ok a → v.Answered P r a := by
  cases hwork : (v.work id r).value with
  | error f =>
    simp only [complete]
    refine ⟨h, fun a ha => ?_⟩
    rw [← Except.ok.inj ha]
    exact .failed id _ f hwork
  | ok x =>
    obtain ⟨a, o⟩ := x
    simp only [complete]
    -- Only a settled answer is stored, but it is answered either way.
    split
    · rename_i hsettled
      refine ⟨v.keeps_store r a s h fun hcache => hr hcache id a o hwork hsettled, fun b hb => ?_⟩
      obtain ⟨_, _, rfl⟩ := Except.map_eq_ok_iff.mp hb
      exact .worked id a o hwork
    · refine ⟨h, fun b hb => ?_⟩
      rw [← Except.ok.inj hb]
      exact .worked id a o hwork

/-- `complete` answers by the answer to which work came, if that need not or can be stored. -/
theorem complete_eq_ok_iff (r : Request) (a b : Verification) (o : Outcome) (s : Session) :
    (v.complete r (.ok (a, o)) s).1 = .ok b ↔ b = a ∧ (o.isSettled = true → s.CanStore) := by
  simp only [complete]
  cases hsettled : o.isSettled with
  | false => simp [eq_comm]
  | true =>
    cases hcache : s.cache with
    | none => simp [store, hcache, Session.CanStore, Except.map, eq_comm]
    | some c =>
      by_cases hcapacity : c.capacity = 0
      · have hput := (Cache.put_eq_of_capacity_eq_zero v.clock (v.keyOf r) (some a) c hcapacity).1
        simp [store, hcache, Session.CanStore, hput, hcapacity, Except.map]
      · have hput := (Cache.put_eq v.clock (v.keyOf r) (some a) c hcapacity).1
        simp [store, hcache, Session.CanStore, hput, hcapacity, Except.map, eq_comm]

@[simp] theorem bounds_begin (r : Request) (s : Session) :
    (v.begin r s).2.bounds = s.bounds := by
  have hlookup := v.bounds_lookUp r s
  simp only [begin]
  cases (v.lookUp r s).1 <;> exact hlookup

@[simp] theorem bounds_complete (r : Request) (work : Work) (s : Session) :
    (v.complete r work s).2.bounds = s.bounds := by
  cases work with
  | error f => rfl
  | ok x =>
    simp only [complete]
    split
    · cases hcache : s.cache with
      | none => simp only [store, hcache]
      | some c => simp [store, hcache, Session.bounds]
    · rfl

/-- There is a cache after `begin` if there was one before. -/
private theorem cache_of_begin (r : Request) (s s' : Session) (begun : Begun)
    (hbegin : v.begin r s = (begun, s')) : s'.cache ≠ none ↔ s.cache ≠ none := by
  have hbounds := v.bounds_begin r s
  rw [hbegin] at hbounds
  exact Session.cache_ne_none_congr hbounds

/-- `verify` keeps what is kept and answers the request. -/
theorem verify_spec (r : Request) (s : Session) (h : s.Keeps P)
    (hr : s.cache ≠ none → v.Upholds P r) :
    (v.verify r s).2.Keeps P ∧ ∀ a, (v.verify r s).1.value = .ok a → v.Answered P r a := by
  cases hbegin : v.begin r s with
  | mk begun s' =>
    obtain ⟨hkeeps, ⟨id, a, ha, rfl⟩ | ⟨id, rfl⟩⟩ := v.begin_spec r s s' begun hbegin h
    · simp only [verify, hbegin]
      refine ⟨hkeeps, fun b hb => ?_⟩
      rw [← Except.ok.inj hb]
      exact .kept id a ha
    · simp only [verify, hbegin]
      exact v.complete_spec id r s' hkeeps fun hcache =>
        hr ((v.cache_of_begin r s s' _ hbegin).mp hcache)

/-- `verify` hands out an answer that `lookUp` finds, under a new identifier. -/
theorem verify_of_found (r : Request) (s : Session) (a : Verification)
    (h : (v.lookUp r s).1 = some a) :
    ∃ id, (v.verify r s).1.value = .ok { a with requestId := id } := by
  simp only [verify, begin, h]
  exact ⟨_, rfl⟩

/-- Without an answer from `lookUp`, `verify` works on the request. -/
theorem verify_of_not_found (r : Request) (s : Session) (h : (v.lookUp r s).1 = none) :
    ∃ id s', s'.cache = (v.lookUp r s).2.cache ∧ (s'.CanStore ↔ s.CanStore) ∧
      (v.verify r s).1.value = (v.complete r (v.work id r).value s').1 ∧
      (v.verify r s).2 = (v.complete r (v.work id r).value s').2 := by
  simp only [verify, begin, h]
  exact ⟨_, (v.drawId (v.lookUp r s).2).2, rfl, v.canStore_lookUp r s, rfl, rfl⟩

/-- The time and the calls that `verify` takes for such a request are those of the work on it. -/
theorem verify_eq_map_work (r : Request) (s : Session) (h : (v.lookUp r s).1 = none) :
    ∃ id answer, (v.verify r s).1 = (v.work id r).map fun _ => answer := by
  simp only [verify, begin, h]
  exact ⟨_, _, rfl⟩

/-- With room for answers, `verify` answers every request. -/
theorem verify_of_canStore (r : Request) (s : Session) (h : s.CanStore) :
    ∃ a, (v.verify r s).1.value = .ok a := by
  cases hlookup : (v.lookUp r s).1 with
  | some a =>
    obtain ⟨id, hanswer⟩ := v.verify_of_found r s a hlookup
    exact ⟨_, hanswer⟩
  | none =>
    obtain ⟨id, s', _, hroom, hvalue, _⟩ := v.verify_of_not_found r s hlookup
    rw [hvalue]
    cases (v.work id r).value with
    | error f => exact ⟨_, rfl⟩
    | ok x =>
      exact ⟨x.1, (v.complete_eq_ok_iff r x.1 x.1 x.2 s').mpr ⟨rfl, fun _ => hroom.mpr h⟩⟩

/-- `verify` stores settled work, and `lookUp` finds it for a later request under the same key
exactly as long as it lives. -/
theorem lookUp_verify (later : Verifier) (r r' : Request) (s : Session)
    (c : Cache String Verification) (hcache : s.cache = some c) (hcapacity : c.capacity ≠ 0)
    (hmiss : (v.lookUp r s).1 = none) (hkey : later.keyOf r' = v.keyOf r)
    (hwork : ∀ id, ∃ a o, (v.work id r).value = .ok (a, o) ∧ o.isSettled = true) :
    ∃ id a o, (v.work id r).value = .ok (a, o) ∧ (v.verify r s).1.value = .ok a ∧
      (later.lookUp r' (v.verify r s).2).1 =
        if later.clock.lt (v.clock.add c.lifetime.toBinary64) then some a else none := by
  obtain ⟨id, s', hs', _, hvalue, hsession⟩ := v.verify_of_not_found r s hmiss
  obtain ⟨a, o, hao, hsettled⟩ := hwork id
  -- The lookup that found nothing leaves as much room and the same lifetime.
  have hcache' : s'.cache = some (c.get v.clock (v.keyOf r)).2 := by
    simp only [hs', lookUp, hcache]
  have hbounds := Cache.bounds_get v.clock (v.keyOf r) c
  have hlifetime : (c.get v.clock (v.keyOf r)).2.lifetime = c.lifetime :=
    congrArg Prod.fst hbounds
  have hroom : (c.get v.clock (v.keyOf r)).2.capacity ≠ 0 := by
    rw [show (c.get v.clock (v.keyOf r)).2.capacity = c.capacity from congrArg Prod.snd hbounds]
    exact hcapacity
  obtain ⟨hput, _⟩ := Cache.put_eq v.clock (v.keyOf r) (some a) _ hroom
  have hget := Cache.get_put v.clock later.clock (v.keyOf r) a _ hroom
  rw [hlifetime] at hget
  refine ⟨id, a, o, hao, ?_, ?_⟩
  · -- The answer is put into the cache under the key that was looked for.
    simp only [hvalue, hao, complete, hsettled, ↓reduceIte, store, hcache', hput]
    rfl
  · -- The later request has the same key, so it finds the answer while it is alive.
    simp only [hsession, hao, complete, hsettled, ↓reduceIte, store, hcache', lookUp, hkey, hget]

/-- `cancelAt` keeps what is kept. -/
theorem keeps_cancelAt (moment : Instant) (r : Request) (s : Session) (h : s.Keeps P)
    (hr : s.cache ≠ none → v.Upholds P r) : (v.cancelAt moment r s).2.Keeps P := by
  cases hbegin : v.begin r s with
  | mk begun s' =>
    obtain ⟨hkeeps, ⟨id, a, _, rfl⟩ | ⟨id, rfl⟩⟩ := v.begin_spec r s s' begun hbegin h
    · simp only [cancelAt, hbegin]
      exact hkeeps
    · simp only [cancelAt, hbegin]
      split
      · exact (v.complete_spec id r s' hkeeps fun hcache =>
          hr ((v.cache_of_begin r s s' _ hbegin).mp hcache)).1
      · exact hkeeps

/-! ## Batches -/

/-- The progress of a batch: the memory keeps what it kept, and whatever it will store may be kept;
the answers so far answer the requests in their places, and the work to come is theirs. -/
structure IsSound (P : String → Verification → Prop) (rs : List Request) (p : Progress) :
    Prop where
  keeps : p.session.Keeps P
  upheld : p.session.cache ≠ none → ∀ r ∈ rs, v.Upholds P r
  answered : ∀ x ∈ p.answers, ∀ a, x.2 = .ok a → ∃ r, rs[x.1]? = some r ∧ v.Answered P r a
  pending : ∀ w ∈ p.pending, rs[w.place]? = some w.request ∧ ∃ id, w.work = v.work id w.request

/-- `Answered` for one more answer, to the request in its place. -/
private theorem answered_concat {rs : List Request} {place : Nat} {r : Request}
    {answers : List (Nat × Except Failure Verification)} {answer : Except Failure Verification}
    (h : ∀ x ∈ answers, ∀ a, x.2 = .ok a → ∃ r, rs[x.1]? = some r ∧ v.Answered P r a)
    (hplace : rs[place]? = some r) (hanswer : ∀ a, answer = .ok a → v.Answered P r a) :
    ∀ x ∈ answers ++ [(place, answer)], ∀ a, x.2 = .ok a →
      ∃ r, rs[x.1]? = some r ∧ v.Answered P r a := by
  intro x hx a ha
  rcases List.mem_append.mp hx with hx | hx
  · exact h x hx a ha
  · rw [List.mem_singleton.mp hx] at ha ⊢
    exact ⟨r, hplace, hanswer a ha⟩

/-- The progress after `beginAll` is sound. -/
theorem isSound_beginAll (rs : List Request) (s : Session) (h : s.Keeps P)
    (hrs : s.cache ≠ none → ∀ r ∈ rs, v.Upholds P r) : v.IsSound P rs (v.beginAll rs s) := by
  refine List.foldlRecOn (motive := v.IsSound P rs) _ _ ⟨h, hrs, by simp, by simp⟩ ?_
  intro p hp x hx
  -- The request begins in its place, with what the earlier ones have left of the session.
  obtain ⟨r, place⟩ := x
  have hplace : rs[place]? = some r := List.mem_zipIdx_iff_getElem?.mp hx
  have hr : r ∈ rs := List.mem_of_getElem? hplace
  cases hbegin : v.begin r p.session with
  | mk begun s' =>
    have hupheld : s'.cache ≠ none → ∀ r ∈ rs, v.Upholds P r := fun hcache =>
      hp.upheld ((v.cache_of_begin r p.session s' begun hbegin).mp hcache)
    obtain ⟨hkeeps, ⟨id, a, ha, rfl⟩ | ⟨id, rfl⟩⟩ :=
      v.begin_spec r p.session s' begun hbegin hp.keeps
    · -- A kept answer is there at once.
      simp only [hbegin]
      refine ⟨hkeeps, hupheld, v.answered_concat hp.answered hplace fun b hb => ?_, hp.pending⟩
      rw [← Except.ok.inj hb]
      exact .kept id a ha
    · simp only [hbegin]
      split
      · -- The work takes no time and is completed at once.
        obtain ⟨hkeeps', hanswered⟩ :=
          v.complete_spec id r s' hkeeps fun hcache => hupheld hcache r hr
        refine ⟨hkeeps', fun hcache => hupheld ?_,
          v.answered_concat hp.answered hplace hanswered, hp.pending⟩
        exact (Session.cache_ne_none_congr (v.bounds_complete r _ s')).mp hcache
      · -- Otherwise the work is pending in the place of its request.
        refine ⟨hkeeps, hupheld, hp.answered, fun w hw => ?_⟩
        rcases List.mem_append.mp hw with hw | hw
        · exact hp.pending w hw
        · rw [List.mem_singleton.mp hw]
          exact ⟨hplace, id, rfl⟩

/-- `completeAll` is sound, in whatever order the work of the requests ends. -/
theorem isSound_completeAll (rs : List Request) (p : Progress) (h : v.IsSound P rs p) :
    v.IsSound P rs (v.completeAll p) := by
  refine List.foldlRecOn (motive := v.IsSound P rs) _ _ h ?_
  intro q hq w hw
  split
  · exact hq
  · obtain ⟨hplace, id, hwork⟩ := h.pending w (List.mem_mergeSort.mp hw)
    obtain ⟨hkeeps, hanswered⟩ := v.complete_spec id w.request q.session hq.keeps fun hcache =>
      hq.upheld hcache w.request (List.mem_of_getElem? hplace)
    rw [hwork]
    refine ⟨hkeeps, fun hcache => hq.upheld ?_, v.answered_concat hq.answered hplace hanswered,
      hq.pending⟩
    exact (Session.cache_ne_none_congr (v.bounds_complete w.request _ q.session)).mp hcache

/-- `verifyAll` keeps what is kept, and each of its answers answers the request in the same
place. -/
theorem verifyAll_spec (rs : List Request) (s : Session) (h : s.Keeps P)
    (hrs : s.cache ≠ none → ∀ r ∈ rs, v.Upholds P r) :
    (v.verifyAll rs s).2.Keeps P ∧ ∀ as, (v.verifyAll rs s).1.value = .ok as →
      ∀ (i : Nat) (a : Verification), as[i]? = some a →
        ∃ r, rs[i]? = some r ∧ v.Answered P r a := by
  have hsound := v.isSound_completeAll rs _ (v.isSound_beginAll rs s h hrs)
  refine ⟨hsound.keeps, fun as has i a ha => ?_⟩
  exact hsound.answered _ ((v.answers_of_verifyAll rs s as has).2 i a ha) a rfl

/-! ## Actions -/

/-- `Keeps` lasts whatever is performed, for what the settled work of all requests upholds. -/
theorem keeps_perform (action : Action) (s : Session) (h : s.Keeps P)
    (hrs : s.cache ≠ none → ∀ r ∈ v.begunBy action, v.Upholds P r) :
    (v.perform action s).2.Keeps P := by
  -- A request, a batch or one that is given up works with answers; emptying and asking for the
  -- state does not.
  cases action with
  | verify r =>
    exact (v.verify_spec r s h fun hcache => hrs hcache r (by simp [begunBy, requestsOf])).1
  | quick address chainId =>
    exact (v.verify_spec _ s h fun hcache => hrs hcache _ (by simp [begunBy, requestsOf])).1
  | deep address chainIds =>
    exact (v.verify_spec _ s h fun hcache => hrs hcache _ (by simp [begunBy, requestsOf])).1
  | batch rs => exact (v.verifyAll_spec rs s h hrs).1
  | cancel moment r =>
    exact v.keeps_cancelAt moment r s h fun hcache => hrs hcache r (by simp [begunBy])
  | clear =>
    intro c hc
    obtain ⟨c', _, rfl⟩ := Option.map_eq_some_iff.mp hc
    exact Cache.keeps_clear c'
  | stats =>
    intro c hc
    cases hcache : s.cache with
    | none => simp [perform, Session.stats, hcache] at hc
    | some c' =>
      simp only [perform, Session.stats, hcache, Option.some.injEq] at hc
      rw [← hc]
      exact Cache.keeps_stats v.clock c' (h c' hcache)

/-- A single request brings the answer of `verify`, if there is one. -/
theorem mem_answers_answerOne (r : Request) (s : Session) (a : Verification) :
    a ∈ (v.answerOne r s).1.answers ↔ (v.verify r s).1.value = .ok a := by
  simp only [answerOne, Effect.answers, Timed.value_map]
  cases (v.verify r s).1.value with
  | error f => simp [Except.map, Except.toOption]
  | ok b => simp [Except.map, Except.toOption, eq_comm]

theorem mem_answers_verify (r : Request) (s : Session) (a : Verification) :
    a ∈ (v.perform (.verify r) s).1.answers ↔ (v.verify r s).1.value = .ok a :=
  v.mem_answers_answerOne r s a

@[simp] theorem perform_verify_snd (r : Request) (s : Session) :
    (v.perform (.verify r) s).2 = (v.verify r s).2 := rfl

/-- `answerOne` brings the answer of `verify` alone. -/
theorem answers_answerOne (r : Request) (s : Session) (a : Verification)
    (h : (v.verify r s).1.value = .ok a) : (v.answerOne r s).1.answers = [a] := by
  simp only [answerOne, Effect.answers, Timed.value_map, h]
  rfl

private theorem answered_of_answerOne (r : Request) (s : Session) (h : s.Keeps P)
    (hr : s.cache ≠ none → ∀ r' ∈ [r], v.Upholds P r') (i : Nat) (a : Verification)
    (ha : (v.answerOne r s).1.answers[i]? = some a) :
    ∃ r', [r][i]? = some r' ∧ v.Answered P r' a := by
  have hmem := (v.mem_answers_answerOne r s a).mp (List.mem_of_getElem? ha)
  rw [v.answers_answerOne r s a hmem] at ha
  cases i with
  | zero =>
    refine ⟨r, rfl, (v.verify_spec r s h fun hcache => ?_).2 a hmem⟩
    exact hr hcache r (List.mem_singleton_self r)
  | succ i => simp at ha

/-- Every answer that `perform` brings answers the request in the same place. -/
theorem answered_in_place (action : Action) (s : Session) (h : s.Keeps P)
    (hrs : s.cache ≠ none → ∀ r ∈ v.begunBy action, v.Upholds P r) (i : Nat) (a : Verification)
    (ha : (v.perform action s).1.answers[i]? = some a) :
    ∃ r, (v.requestsOf action)[i]? = some r ∧ v.Answered P r a := by
  cases action with
  | verify r => exact v.answered_of_answerOne r s h hrs i a ha
  | quick address chainId => exact v.answered_of_answerOne _ s h hrs i a ha
  | deep address chainIds => exact v.answered_of_answerOne _ s h hrs i a ha
  | batch rs =>
    simp only [perform, Effect.answers] at ha
    -- A batch that is refused hands out nothing.
    cases hvalue : (v.verifyAll rs s).1.value with
    | error f => simp [hvalue, Except.toOption] at ha
    | ok as =>
      simp only [hvalue, Except.toOption, Option.getD_some] at ha
      exact (v.verifyAll_spec rs s h hrs).2 as hvalue i a ha
  | cancel moment r => simp [perform, Effect.answers] at ha
  | clear => simp [perform, Effect.answers] at ha
  | stats => simp [perform, Effect.answers] at ha

end Verifier

/-! ## What never changes -/

namespace Verifier

variable (v : Verifier)

@[simp] theorem bounds_verify (r : Request) (s : Session) :
    (v.verify r s).2.bounds = s.bounds := by
  have hbegin := v.bounds_begin r s
  simp only [verify]
  split
  · rename_i heq
    rw [← hbegin, heq]
  · rename_i heq
    rw [bounds_complete, ← hbegin, heq]

theorem canStore_verify (r : Request) (s : Session) :
    (v.verify r s).2.CanStore ↔ s.CanStore :=
  Session.canStore_congr (v.bounds_verify r s)

private theorem bounds_cancelAt (moment : Instant) (r : Request) (s : Session) :
    (v.cancelAt moment r s).2.bounds = s.bounds := by
  have hbegin := v.bounds_begin r s
  simp only [cancelAt]
  split
  · rename_i heq
    rw [← hbegin, heq]
  · rename_i heq
    split
    · simp only [bounds_complete, ← hbegin, heq]
    · rw [← hbegin, heq]

private theorem bounds_verifyAll (rs : List Request) (s : Session) :
    (v.verifyAll rs s).2.bounds = s.bounds := by
  -- Both ends of a batch go through its requests, and no step changes the bounds.
  have hbegun : (v.beginAll rs s).session.bounds = s.bounds := by
    refine List.foldlRecOn (motive := fun p : Progress => p.session.bounds = s.bounds) _ _ rfl ?_
    intro p hp x _
    obtain ⟨r, place⟩ := x
    have hbegin := v.bounds_begin r p.session
    -- A step begins a request, and may complete it at once.
    simp only []
    split
    · rename_i heq
      rw [heq] at hbegin
      exact hbegin.trans hp
    · rename_i heq
      rw [heq] at hbegin
      split
      · simp only [bounds_complete]
        exact hbegin.trans hp
      · exact hbegin.trans hp
  refine List.foldlRecOn (motive := fun p : Progress => p.session.bounds = s.bounds) _ _ hbegun ?_
  intro p hp w _
  split
  · exact hp
  · simp only [bounds_complete]
    exact hp

/-- `perform` changes neither the lifetime nor the capacity of the cache. -/
theorem bounds_perform (action : Action) (s : Session) :
    (v.perform action s).2.bounds = s.bounds := by
  cases action with
  | verify r => exact v.bounds_verify r s
  | quick address chainId => exact v.bounds_verify _ s
  | deep address chainIds => exact v.bounds_verify _ s
  | batch rs => exact v.bounds_verifyAll rs s
  | cancel moment r => exact v.bounds_cancelAt moment r s
  | clear =>
    simp only [perform, Session.clear, Session.bounds, Option.map_map]
    rfl
  | stats =>
    cases hcache : s.cache with
    | none => simp only [perform, Session.stats, hcache]
    | some c =>
      simp only [perform, Session.stats, hcache, Session.bounds]
      rfl

end Verifier

/-! ## Histories -/

/-- The effect of the second of two events of `run`. -/
theorem Session.run_pair (s : Session) (e e' : Event) : (s.run [e, e']).1[1]? =
    some (e'.verifier.perform e'.action (e.verifier.perform e.action s).2).1 := rfl

/-- The second of two single requests of `run` brings its answer alone. -/
theorem Session.run_verify_pair (v v' : Verifier) (r r' : Request) (s : Session) (a : Verification)
    (h : (v'.verify r' (v.verify r s).2).1.value = .ok a) :
    ∃ effect, (s.run [⟨v, .verify r⟩, ⟨v', .verify r'⟩]).1[1]? = some effect ∧
      effect.answers = [a] :=
  ⟨_, Session.run_pair s _ _, v'.answers_answerOne r' _ a h⟩

/-- The work of a request of one of the events came to an answer that is kept under a key. -/
def IsWorkedIn (history : List Event) (key : String) (a : Verification) : Prop :=
  ∃ e ∈ history, ∃ r ∈ e.verifier.begunBy e.action, e.verifier.keyOf r = key ∧
    ∃ id o, (e.verifier.work id r).value = .ok (a, o) ∧ o.isSettled = true

theorem IsWorkedIn.mono {history later : List Event} {key : String} {a : Verification}
    (h : IsWorkedIn history key a) (hsub : ∀ e ∈ history, e ∈ later) : IsWorkedIn later key a := by
  obtain ⟨e, he, hrest⟩ := h
  exact ⟨e, hsub e he, hrest⟩

theorem Session.Keeps.mono {P Q : String → Verification → Prop} {s : Session} (h : s.Keeps P)
    (hPQ : ∀ key a, P key a → Q key a) : s.Keeps Q :=
  fun c hc e he a ha => hPQ _ _ (h c hc e he a ha)

/-- After a history that starts from nothing, `IsWorkedIn` holds of what is remembered. -/
theorem Session.keeps_run (es : List Event) (s : Session) (h : s.IsFresh) :
    (s.run es).2.Keeps (IsWorkedIn es) :=
  Session.run_invariant (Keeps (IsWorkedIn es)) es
    (fun e he s' hs' => e.verifier.keeps_perform e.action s' hs'
      fun _ r hr id _ o hwork hsettled => ⟨e, he, r, hr, rfl, id, o, hwork, hsettled⟩) s h.keeps

/-- By an event of a `run` that starts from nothing, what is remembered was worked out up to then,
as is whatever the event works out itself. -/
theorem keepsWorked_before (es : List Event) (s : Session) (h : s.IsFresh) (i : Nat) (e : Event)
    (he : es[i]? = some e) :
    (s.run (es.take i)).2.Keeps (IsWorkedIn (es.take (i + 1))) ∧
      ∀ r ∈ e.verifier.begunBy e.action,
        e.verifier.Upholds (IsWorkedIn (es.take (i + 1))) r := by
  have htake : es.take (i + 1) = es.take i ++ [e] := by rw [List.take_add_one, he]; rfl
  rw [htake]
  constructor
  · exact (Session.keeps_run (es.take i) s h).mono fun _ _ hw =>
      hw.mono fun _ he' => List.mem_append_left _ he'
  · intro r hr id a o hwork hsettled
    exact ⟨e, by simp, r, hr, rfl, id, o, hwork, hsettled⟩

/-- `run` changes neither the lifetime nor the capacity of the cache. -/
theorem Session.bounds_run (es : List Event) (s : Session) : (s.run es).2.bounds = s.bounds :=
  Session.run_invariant (fun s' => s'.bounds = s.bounds) es
    (fun e _ s' hs' => (e.verifier.bounds_perform e.action s').trans hs') s rfl

/-- Every answer of a history that starts from nothing answers the request of its event in the same
place: it is worked out for it, or kept since an event up to then, if there is a cache, or says that
the work failed. -/
theorem answers_run_in_place (es : List Event) (s : Session) (h : s.IsFresh) (i j : Nat)
    (effect : Effect) (a : Verification) (heffect : (s.run es).1[i]? = some effect)
    (ha : effect.answers[j]? = some a) :
    ∃ e, es[i]? = some e ∧ ∃ r, (e.verifier.requestsOf e.action)[j]? = some r ∧
      e.verifier.Answered
        (fun key b => s.cache ≠ none ∧ IsWorkedIn (es.take (i + 1)) key b) r a := by
  rw [Session.getElem?_run, Option.map_eq_some_iff] at heffect
  obtain ⟨e, he, rfl⟩ := heffect
  obtain ⟨hkeeps, hupholds⟩ := keepsWorked_before es s h i e he
  have hcache := Session.cache_ne_none_congr (Session.bounds_run (es.take i) s)
  refine ⟨e, he, e.verifier.answered_in_place e.action _ (fun c hc d hd b hb => ?_)
    (fun hsome r hr id b o hwork hsettled => ?_) j a ha⟩
  · exact ⟨hcache.mp (by simp [hc]), hkeeps c hc d hd b hb⟩
  · exact ⟨hcache.mp hsome, hupholds r hr id b o hwork hsettled⟩

/-- Every answer of a `run` that starts from nothing answers one of the requests of its event. -/
theorem answers_run (es : List Event) (s : Session) (h : s.IsFresh) (i : Nat) (effect : Effect)
    (a : Verification) (heffect : (s.run es).1[i]? = some effect) (ha : a ∈ effect.answers) :
    ∃ e, es[i]? = some e ∧ ∃ r ∈ e.verifier.requestsOf e.action,
      e.verifier.Answered (IsWorkedIn (es.take (i + 1))) r a := by
  obtain ⟨j, hj⟩ := List.mem_iff_getElem?.mp ha
  obtain ⟨e, he, r, hr, hanswered⟩ := answers_run_in_place es s h i j effect a heffect hj
  refine ⟨e, he, r, List.mem_of_getElem? hr, ?_⟩
  exact hanswered.mono fun _ _ hkept => hkept.2

theorem Session.canStore_run (es : List Event) (s : Session) :
    (s.run es).2.CanStore ↔ s.CanStore :=
  Session.canStore_congr (Session.bounds_run es s)

end TokenRisk
