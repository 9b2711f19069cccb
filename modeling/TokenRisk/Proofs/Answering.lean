import TokenRisk.Proofs.Session
import TokenRisk.Proofs.Verifier

/-!
# Whether every request is answered

Work on a request may fail in any way and is answered still: the answer says what went wrong. Only
one step has nobody to answer for it, the storing of an answer at the very end. A cache that is
allowed no entries refuses it, and settings that ask for such a cache pass their own check.

## Key results

- `complete_of_canStore`: with room for answers, the end of any work is an answer
- `isComplete_perform`: with room for answers, every action is answered in full
- `answersAlways_iff`: settings without issues answer every request exactly if the cache that they
  ask for is allowed an entry
-/

namespace TokenRisk

/-- The requests are answered, each once; and who gives a request up learns whether it was still at
work. -/
def Effect.IsComplete (requests : List Request) : Effect → Prop
  | .answered run => ∃ answers, run.value = .ok answers ∧ answers.length = requests.length
  | .cancelled run => ∃ atWork, run.value = .ok atWork
  | _ => True

namespace Verifier

variable (v : Verifier)

/-! ## One request -/

/-- With room for answers, `complete` ends any work in an answer. -/
theorem complete_of_canStore (r : Request) (work : Work) (s : Session) (h : s.CanStore) :
    ∃ a, (v.complete r work s).1 = .ok a := by
  cases work with
  | error f => exact ⟨_, rfl⟩
  | ok x => exact ⟨x.1, (v.complete_eq_ok_iff r x.1 x.1 x.2 s).mpr ⟨rfl, fun _ => h⟩⟩

/-- `begin` leaves the room there is. -/
private theorem canStore_begin (r : Request) (s : Session) :
    (v.begin r s).2.CanStore ↔ s.CanStore :=
  Session.canStore_congr (v.bounds_begin r s)

private theorem canStore_complete (r : Request) (work : Work) (s : Session) :
    (v.complete r work s).2.CanStore ↔ s.CanStore :=
  Session.canStore_congr (v.bounds_complete r work s)

private theorem isComplete_answerOne (r : Request) (s : Session) (h : s.CanStore) :
    (v.answerOne r s).1.IsComplete [r] := by
  obtain ⟨a, ha⟩ := v.verify_of_canStore r s h
  exact ⟨[a], congrArg (Except.map fun a => [a]) ha, rfl⟩

/-- Giving a request up by `cancelAt` comes to an end, too. -/
private theorem cancelAt_of_canStore (moment : Instant) (r : Request) (s : Session)
    (h : s.CanStore) : ∃ atWork, (v.cancelAt moment r s).1.value = .ok atWork := by
  have hroom := (v.canStore_begin r s).mpr h
  simp only [cancelAt]
  split
  · exact ⟨false, rfl⟩
  · rename_i work s' hbegin
    rw [hbegin] at hroom
    split
    · -- The work is over by then, and who gives it up comes too late.
      obtain ⟨a, ha⟩ := v.complete_of_canStore r work.value s' hroom
      refine ⟨false, ?_⟩
      simp only [ha]
      rfl
    · exact ⟨true, rfl⟩

/-! ## Batches -/

/-- There is room for answers, and none was refused so far. -/
private structure IsSmooth (p : Progress) : Prop where
  room : p.session.CanStore
  accepted : p.IsAccepted

private theorem isSmooth_answer (p : Progress) (s : Session) (place : Nat)
    (answer : Except Failure Verification) (hp : IsSmooth p) (hs : s.CanStore)
    (hanswer : ∃ a, answer = .ok a) :
    IsSmooth { p with session := s, answers := p.answers ++ [(place, answer)] } := by
  refine ⟨hs, fun x hx => ?_⟩
  rcases List.mem_append.mp hx with hx | hx
  · exact hp.accepted x hx
  · obtain ⟨a, rfl⟩ := hanswer
    rw [List.mem_singleton.mp hx]
    rfl

/-- `beginAll` leaves room and refuses none of the requests of a batch. -/
private theorem isSmooth_beginAll (rs : List Request) (s : Session) (h : s.CanStore) :
    IsSmooth (v.beginAll rs s) := by
  refine List.foldlRecOn (motive := IsSmooth) _ _ ⟨h, by simp [Progress.IsAccepted]⟩ ?_
  rintro p hp ⟨r, place⟩ -
  have hroom := (v.canStore_begin r p.session).mpr hp.room
  simp only []
  split
  · rename_i a s' hbegin
    rw [hbegin] at hroom
    exact isSmooth_answer p s' place _ hp hroom ⟨a, rfl⟩
  · rename_i work s' hbegin
    rw [hbegin] at hroom
    split
    · -- The work takes no time and is completed at once.
      exact isSmooth_answer p _ place _ hp ((v.canStore_complete r _ s').mpr hroom)
        (v.complete_of_canStore r _ s' hroom)
    · exact ⟨hroom, hp.accepted⟩

/-- So does `completeAll`. -/
private theorem isSmooth_completeAll (p : Progress) (h : IsSmooth p) :
    IsSmooth (v.completeAll p) := by
  refine List.foldlRecOn (motive := IsSmooth) _ _ h ?_
  intro q hq w _
  split
  · exact hq
  · exact isSmooth_answer q _ w.place _ hq ((v.canStore_complete _ _ _).mpr hq.room)
      (v.complete_of_canStore _ _ _ hq.room)

/-- With room for answers, `verifyAll` brings one answer for each of its requests. -/
theorem verifyAll_of_canStore (rs : List Request) (s : Session) (h : s.CanStore) :
    ∃ answers, (v.verifyAll rs s).1.value = .ok answers ∧ answers.length = rs.length := by
  have hended := v.isSmooth_completeAll _ (v.isSmooth_beginAll rs s h)
  -- None of the answers was refused, so all of them are there once they are put in order.
  obtain ⟨answers, hanswers, -⟩ := Except.mapM_isOk
    (l := ((v.completeAll (v.beginAll rs s)).answers.mergeSort fun a b => a.1 ≤ b.1).map (·.2))
    fun x hx => by
      obtain ⟨y, hy, rfl⟩ := List.mem_map.mp hx
      have haccepted := hended.accepted y (List.mem_mergeSort.mp hy)
      simp only [isRefused] at haccepted
      split at haccepted
      · rename_i a ha
        exact ⟨a, ha⟩
      · cases haccepted
  exact ⟨answers, hanswers, (v.answers_of_verifyAll rs s answers hanswers).1⟩

/-! ## Histories -/

/-- With room for answers, `perform` answers every action in full. -/
theorem isComplete_perform (action : Action) (s : Session) (h : s.CanStore) :
    (v.perform action s).1.IsComplete (v.requestsOf action) := by
  cases action with
  | verify r => exact v.isComplete_answerOne r s h
  | quick address chainId => exact v.isComplete_answerOne _ s h
  | deep address chainIds => exact v.isComplete_answerOne _ s h
  | batch rs => exact v.verifyAll_of_canStore rs s h
  | cancel moment r => exact v.cancelAt_of_canStore moment r s h
  | clear => trivial
  | stats => trivial

end Verifier

/-- All of the events of a history are answered in full. -/
def Session.IsAnswered (s : Session) (history : List Event) : Prop :=
  ∀ (i : Nat) (e : Event) (effect : Effect), history[i]? = some e →
    (s.run history).1[i]? = some effect → effect.IsComplete (e.verifier.requestsOf e.action)

/-- A session that `CanStore` answers every history. -/
theorem Session.isAnswered_of_canStore (history : List Event) (s : Session) (h : s.CanStore) :
    s.IsAnswered history := by
  induction history generalizing s with
  | nil =>
    intro i e effect he
    simp at he
  | cons e history ih =>
    intro i e' effect he heffect
    cases i with
    -- The first event of the history finds the room.
    | zero =>
      simp only [List.getElem?_cons_zero, Option.some.injEq] at he
      simp only [Session.run, List.getElem?_cons_zero, Option.some.injEq] at heffect
      rw [← he, ← heffect]
      exact e.verifier.isComplete_perform e.action s h
    | succ i =>
      -- The room for answers is what an event leaves to the next one.
      have hroom : (e.verifier.perform e.action s).2.CanStore :=
        (Session.canStore_congr (e.verifier.bounds_perform e.action s)).mpr h
      refine ih _ hroom i e' effect (by simpa using he) ?_
      simpa [Session.run] using heffect

/-! ## Settings -/

/-- A settled answer that `lookUp` did not find and that cannot be stored is not given. -/
theorem Verifier.not_answered_of_settled (v : Verifier) (r : Request) (s : Session)
    (hmiss : (v.lookUp r s).1 = none) (hroom : ¬ s.CanStore)
    (hwork : ∀ id, ∃ a o, (v.work id r).value = .ok (a, o) ∧ o.isSettled = true)
    (a : Verification) : (v.verify r s).1.value ≠ .ok a := by
  obtain ⟨id, s', _, hsame, hvalue, _⟩ := v.verify_of_not_found r s hmiss
  obtain ⟨b, o, hbo, hsettled⟩ := hwork id
  intro hanswer
  rw [hvalue, hbo] at hanswer
  have hstored := ((v.complete_eq_ok_iff r b a o s').mp hanswer).2 hsettled
  exact hroom (hsame.mp hstored)

/-- A request without an address. -/
def Request.blank : Request where
  tokenAddress := none

/-- `work` on a request without an address is settled, in every scene. -/
private theorem Scene.work_blank (c : Scene) (id : String) :
    ∃ a o, (c.verifier.work id .blank).value = .ok (a, o) ∧ o.isSettled = true := by
  have hcheck : Address.check c.analyzer.scheme none =
      .ok { address := "", isValid := false, errors := ["Address is empty or undefined"] } := rfl
  have hvalue := c.analyzer.value_analyze_of_check none (c.chainOf .blank) _ hcheck
  have hwork := c.value_work_of_single id .blank rfl
  rw [show Request.blank.tokenAddress = none from rfl, hvalue] at hwork
  exact ⟨_, _, hwork, rfl⟩

namespace Config

variable (config : Config) (detectors : Detectors)

/-- The settings set up a verifier, over some sources and at some time. -/
def SetsUp (v : Verifier) : Prop :=
  ∃ sources nowMs s, config.start detectors sources nowMs = .ok (v, s)

/-- Over whatever sources, the settings set up a verifier and a memory. From there on every history
of such verifiers `IsAnswered` in full, though sources and time may change from event to event. -/
def AnswersAlways : Prop :=
  ∀ sources nowMs, ∃ v s, config.start detectors sources nowMs = .ok (v, s) ∧
    ∀ history : List Event, (∀ e ∈ history, config.SetsUp detectors e.verifier) →
      s.IsAnswered history

private theorem issueIf_eq_nil_iff (present : Bool) (text : String) :
    issueIf present text = [] ↔ present = false := by
  cases present <;> simp [issueIf]

/-- Settings without issues name a `Profile` that there is. -/
private theorem profile_of_issues (h : config.issues = .ok []) :
    ∃ profile, config.profile = .ok profile := by
  obtain ⟨notPositive, _, hissues⟩ := Except.bind_eq_ok_iff.mp h
  have hnil := Except.ok.inj hissues
  simp only [List.append_eq_nil_iff, issueIf_eq_nil_iff] at hnil
  obtain ⟨⟨⟨⟨_, hprofile⟩, _⟩, _⟩, _⟩ := hnil
  have hmem : config.classifierProfile ∈ Profile.names := by simpa using hprofile
  obtain ⟨named, hnamed, hname⟩ := List.mem_map.mp
    (show config.classifierProfile ∈ [Profile.strict, Profile.loose].map Profile.name from hmem)
  have hsome : (Profile.ofName? config.classifierProfile).isSome = true :=
    List.find?_isSome.mpr ⟨named, hnamed, by simpa using hname⟩
  obtain ⟨profile, hfound⟩ := Option.isSome_iff_exists.mp hsome
  refine ⟨profile, ?_⟩
  simp only [Config.profile, hfound]

/-- What `start` sets up is the verifier of the settings' scene, with their cache as its memory. -/
private theorem start_of_cache (sources : Sources) (nowMs : Int) (profile : Profile)
    (cache : Option (Cache String Verification)) (hprofile : config.profile = .ok profile)
    (hcache : config.cache = .ok cache) :
    config.start detectors sources nowMs =
      .ok ((config.scene profile detectors sources nowMs).verifier, { cache }) := by
  simp only [start, hcache, hprofile]
  rfl

/-- The memory of `Config.cache` is fresh, and has room unless it is a cache that is allowed no
entries. -/
private theorem cache_spec (cache : Option (Cache String Verification))
    (h : config.cache = .ok cache) :
    ({ cache } : Session).IsFresh ∧ (({ cache } : Session).CanStore ↔
      (config.enableCaching = true → 0 < config.cacheMaxEntries)) := by
  simp only [Config.cache] at h
  cases henabled : config.enableCaching with
  -- Without a cache there is nothing to be refused.
  | false =>
    rw [henabled, if_neg Bool.false_ne_true] at h
    cases h
    exact ⟨Session.isFresh_default, by simp [Session.canStore_default]⟩
  | true =>
    rw [henabled, if_pos rfl] at h
    obtain ⟨c, hempty, rfl⟩ := Except.map_eq_ok_iff.mp h
    simp only [Cache.empty] at hempty
    split at hempty
    -- A negative number of entries is not set up at all.
    · cases hempty
    · rename_i hnonneg
      cases hempty
      refine ⟨fun c hc => by rw [← Option.some.inj hc], ?_⟩
      simp only [Session.CanStore, Option.some.injEq, forall_eq', forall_const]
      omega

/-- `Config.cache` comes to a cache that is allowed entries. -/
private theorem cache_of_pos (h : config.enableCaching = true → 0 < config.cacheMaxEntries) :
    ∃ cache, config.cache = .ok cache := by
  simp only [Config.cache]
  split
  · rename_i henabled
    have hpos := h henabled
    simp only [Cache.empty]
    rw [if_neg (by omega)]
    exact ⟨_, rfl⟩
  · exact ⟨none, rfl⟩

/-- What `start` sets up comes from a cache and a profile. -/
private theorem start_eq_ok (sources : Sources) (nowMs : Int) (v : Verifier) (s : Session)
    (h : config.start detectors sources nowMs = .ok (v, s)) :
    ∃ profile cache, config.cache = .ok cache ∧
      v = (config.scene profile detectors sources nowMs).verifier ∧ s = { cache } := by
  obtain ⟨cache, hcache, hrest⟩ := Except.bind_eq_ok_iff.mp h
  obtain ⟨profile, _, hpair⟩ := Except.bind_eq_ok_iff.mp hrest
  cases hpair
  exact ⟨profile, cache, hcache, rfl, rfl⟩

/-- Settings that pass their own check answer every request exactly if the `Cache` that they ask for
is allowed an entry. -/
theorem answersAlways_iff (h : config.issues = .ok []) : config.AnswersAlways detectors ↔
    (config.enableCaching = true → 0 < config.cacheMaxEntries) := by
  constructor
  · intro halways
    obtain ⟨v, s, hstart, hanswered⟩ := halways (.plain (.ok [])) 0
    obtain ⟨profile, cache, hcache, hv, hs⟩ := config.start_eq_ok detectors _ _ v s hstart
    obtain ⟨hfresh, hroom⟩ := config.cache_spec cache hcache
    rw [← hs] at hfresh hroom
    refine hroom.mp (Classical.byContradiction fun hfull => ?_)
    -- That there is no address is an answer to be stored, and cannot be.
    have hcomplete := hanswered [⟨v, .verify .blank⟩]
      (fun e he => by rw [List.mem_singleton.mp he]; exact ⟨_, _, s, hstart⟩) 0 _ _ rfl rfl
    obtain ⟨answers, hvalue, hlen⟩ := hcomplete
    obtain ⟨a, ha, _⟩ := Except.map_eq_ok_iff.mp hvalue
    refine v.not_answered_of_settled .blank s (v.lookUp_of_isFresh .blank s hfresh) hfull ?_ a ha
    rw [hv]
    exact Scene.work_blank _
  · intro hpos sources nowMs
    obtain ⟨profile, hprofile⟩ := config.profile_of_issues h
    obtain ⟨cache, hcache⟩ := config.cache_of_pos hpos
    refine ⟨_, _, config.start_of_cache detectors sources nowMs profile cache hprofile hcache, ?_⟩
    intro history _
    exact Session.isAnswered_of_canStore history _ ((config.cache_spec cache hcache).2.mpr hpos)

/-- Settings that ask for a `Cache` and allow it no entries. -/
def roomless : Config where
  explorerApiKey := "key"
  cacheMaxEntries := 0

/-- The settings `roomless` pass their own check, and do not answer every request. -/
theorem roomless_leaves_unanswered :
    roomless.issues = .ok [] ∧ ¬ roomless.AnswersAlways .default := by
  have hcall : isNotPositive roomless.callTimeout = .ok false :=
    congrArg Except.ok (show (Binary64.ofInt 30).le .zero = false by decide +kernel)
  have hchain : isNotPositive roomless.chainTimeout = .ok false :=
    congrArg Except.ok (show (Binary64.ofInt 90).le .zero = false by decide +kernel)
  have hissues : roomless.issues = .ok [] := by
    rw [issues, hcall, hchain]
    rfl
  refine ⟨hissues, fun halways => ?_⟩
  have hroom := (answersAlways_iff roomless .default hissues).mp halways rfl
  exact absurd hroom (by decide)

end Config

end TokenRisk
