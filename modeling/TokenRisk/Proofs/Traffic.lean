import Mathlib.Data.List.Perm.Subperm
import TokenRisk.Proofs.Session

/-!
# Requests side by side

A verifier answers many requests side by side: while some are at work, others begin, and the work
ends in any order or is given up. The traffic of a session is what it remembers, what is at work,
and what it has handed out. A move of the traffic is done at once, by the verifier of its moment, so
sources and clock may change between any two moves.

## Key results

- `Traffic.hasAll_run`: what the work of all verifiers yields, all answers have, whether they are
  handed out, kept or still expected.
- `Traffic.exists_moves_run`: every history is traffic. It lets its events happen one after the
  other, and only the requests of a batch lie side by side in it.
-/

namespace TokenRisk

/-- What happens at once. A place counts what is at work, from what began first. -/
inductive Move where
  | begin (r : Request)
  /-- The work in a place has ended. -/
  | complete (place : Nat)
  /-- The work in a place is given up. -/
  | giveUp (place : Nat)
  | clear
  | stats

/-- A session, the requests at work in it with what their work comes to, and the answers that were
handed out. -/
structure Traffic where
  session : Session
  atWork : List (Request × Work) := []
  returned : List Verification := []

namespace Traffic

/-- Makes the move `m`. `complete` hands out nothing where the answer cannot be stored. -/
def move (v : Verifier) (m : Move) (t : Traffic) : Traffic :=
  match m with
  | .begin r =>
    match v.begin r t.session with
    | (.hit answer, s) => { t with session := s, returned := t.returned ++ [answer] }
    | (.working work, s) => { t with session := s, atWork := t.atWork ++ [(r, work.value)] }
  | .complete place =>
    match t.atWork[place]? with
    | none => t
    | some (r, work) =>
      let (answer, s) := v.complete r work t.session
      { session := s
        atWork := t.atWork.eraseIdx place
        returned := t.returned ++ answer.toOption.toList }
  | .giveUp place => { t with atWork := t.atWork.eraseIdx place }
  | .clear => { t with session := t.session.clear }
  | .stats => { t with session := (t.session.stats v.clock).2 }

/-- Makes `moves` in order, each by the verifier of its moment. -/
def run (t : Traffic) (moves : List (Verifier × Move)) : Traffic :=
  moves.foldl (fun t x => t.move x.1 x.2) t

@[simp] theorem run_nil (t : Traffic) : t.run [] = t := rfl

@[simp] theorem run_cons (t : Traffic) (x : Verifier × Move) (moves : List (Verifier × Move)) :
    t.run (x :: moves) = (t.move x.1 x.2).run moves := rfl

theorem run_append (t : Traffic) (moves later : List (Verifier × Move)) :
    t.run (moves ++ later) = (t.run moves).run later :=
  List.foldl_append

/-- What every `move` keeps is kept by a `run` of them. -/
theorem run_invariant (kept : Traffic → Prop) (moves : List (Verifier × Move))
    (step : ∀ x ∈ moves, ∀ t, kept t → kept (t.move x.1 x.2)) (t : Traffic) (initial : kept t) :
    kept (t.run moves) := by
  induction moves generalizing t with
  | nil => exact initial
  | cons x moves ih =>
    rw [run_cons]
    apply ih (fun y hy => step y (List.mem_cons_of_mem _ hy))
    exact step x List.mem_cons_self t initial

/-! ## Single moves -/

variable (v : Verifier) (t : Traffic)

/-- An answer that `begin` finds kept is handed out at once. -/
theorem move_begin_of_hit {r : Request} {a : Verification}
    (h : (v.begin r t.session).1 = .hit a) :
    t.move v (.begin r) =
      { t with session := (v.begin r t.session).2, returned := t.returned ++ [a] } := by
  cases hbegin : v.begin r t.session with
  | mk begun s =>
    obtain rfl : begun = .hit a := by rw [← h, hbegin]
    simp only [move, hbegin]

/-- Work that begins is put behind all others in `atWork`. -/
theorem move_begin_of_working {r : Request} {work : Timed Call Work}
    (h : (v.begin r t.session).1 = .working work) :
    t.move v (.begin r) =
      { t with
        session := (v.begin r t.session).2
        atWork := t.atWork ++ [(r, work.value)] } := by
  cases hbegin : v.begin r t.session with
  | mk begun s =>
    obtain rfl : begun = .working work := by rw [← h, hbegin]
    simp only [move, hbegin]

/-- `complete` does nothing where nothing is at work in its place. -/
theorem move_complete_of_none {place : Nat} (h : t.atWork[place]? = none) :
    t.move v (.complete place) = t := by
  simp only [move, h]

/-- `complete` takes the work in its place out of `atWork`, whatever is handed out for it. -/
theorem move_complete {place : Nat} {r : Request} {work : Work}
    (h : t.atWork[place]? = some (r, work)) :
    t.move v (.complete place) =
      { session := (v.complete r work t.session).2
        atWork := t.atWork.eraseIdx place
        returned := t.returned ++ (v.complete r work t.session).1.toOption.toList } := by
  simp only [move, h]

/-- `complete` on the last place takes out the work that began last. -/
private theorem move_complete_last (s : Session) (r : Request) (work : Work) :
    ({ t with session := s, atWork := t.atWork ++ [(r, work)] } : Traffic).move v
        (.complete t.atWork.length) =
      { session := (v.complete r work s).2
        atWork := t.atWork
        returned := t.returned ++ (v.complete r work s).1.toOption.toList } := by
  rw [move_complete v _ (by simp : (t.atWork ++ [(r, work)])[t.atWork.length]? = some (r, work))]
  simp [List.eraseIdx_append_of_length_le]

/-- `atWork` is what is at work in a place, and the rest. -/
theorem perm_cons_eraseIdx {place : Nat} {x : Request × Work} (h : t.atWork[place]? = some x) :
    t.atWork.Perm (x :: t.atWork.eraseIdx place) := by
  obtain ⟨hlt, rfl⟩ := List.getElem?_eq_some_iff.mp h
  exact (List.getElem_cons_eraseIdx_perm hlt).symm

/-- The answer that work comes to, if it comes to one. -/
def answerOf? (work : Work) : Option Verification :=
  work.toOption.map Prod.fst

/-- The answers that what is `atWork` comes to. -/
def expected : List Verification :=
  t.atWork.filterMap fun x => answerOf? x.2

/-- What is `expected` is what the work in a place comes to, and the rest. -/
theorem perm_expected {place : Nat} {r : Request} {work : Work}
    (h : t.atWork[place]? = some (r, work)) : t.expected.Perm
      ((answerOf? work).toList ++ (t.atWork.eraseIdx place).filterMap fun x => answerOf? x.2) := by
  have hperm := (perm_cons_eraseIdx t h).filterMap fun x => answerOf? x.2
  rw [List.filterMap_cons] at hperm
  cases hanswer : answerOf? work <;> rw [hanswer] at hperm <;> exact hperm

end Traffic

/-! ## One request -/

namespace Verifier

variable (v : Verifier) (r : Request) (s : Session)

/-- `lookUp` draws no identifier. -/
@[simp] theorem nextId_lookUp : (v.lookUp r s).2.nextId = s.nextId := by
  cases hcache : s.cache <;> simp [lookUp, hcache]

/-- `begin` draws one identifier. A kept answer is handed out under it, or work begins that uses
it. -/
theorem begin_cases :
    (v.begin r s).2.nextId = s.nextId + 1 ∧
      ((∃ a, (v.lookUp r s).1 = some a ∧
          (v.begin r s).1 = .hit { a with requestId := v.requestId s.nextId }) ∨
        (v.lookUp r s).1 = none ∧
          (v.begin r s).1 = .working (v.work (v.requestId s.nextId) r)) := by
  cases hfound : (v.lookUp r s).1 <;> simp [begin, drawId, hfound]

/-- `complete` draws no identifier for work that came to an answer, and that is its answer, if
any. -/
theorem complete_ok (a : Verification) (o : Outcome) :
    (v.complete r (.ok (a, o)) s).2.nextId = s.nextId ∧
      ∀ b, (v.complete r (.ok (a, o)) s).1 = .ok b → b = a := by
  constructor
  · simp only [complete]
    split
    · cases hcache : s.cache <;> simp [store, hcache]
    · rfl
  · intro b hb
    exact ((v.complete_eq_ok_iff r a b o s).mp hb).1

/-- `complete` keeps what is kept, if the answer may be kept. -/
theorem keeps_complete {P : String → Verification → Prop} (a : Verification) (o : Outcome)
    (h : s.Keeps P) (ha : P (v.keyOf r) a) : (v.complete r (.ok (a, o)) s).2.Keeps P := by
  simp only [complete]
  split
  · exact v.keeps_store r a s h fun _ => ha
  · exact h

/-- `Q` lasts, and the answers of `v` have it: those that are handed out again under the next
identifier, those that `work` comes to, and each `failedAnswer`. It may depend on how far the
counter has come. -/
structure Yields (Q : Nat → Verification → Prop) : Prop where
  lasts : ∀ m n a, m ≤ n → Q m a → Q n a
  renamed : ∀ n a, Q n a → Q (n + 1) { a with requestId := v.requestId n }
  worked : ∀ n r a o, (v.work (v.requestId n) r).value = .ok (a, o) → Q (n + 1) a
  failed : ∀ n r (f : Failure), Q (n + 1) (v.failedAnswer (v.requestId n) r f.description)

end Verifier

/-! ## What all answers have -/

namespace Traffic

/-- All answers have `Q`: those that were `returned`, those that are `expected`, and those that are
kept. -/
structure HasAll (Q : Nat → Verification → Prop) (t : Traffic) : Prop where
  returned : ∀ a ∈ t.returned, Q t.session.nextId a
  expected : ∀ a ∈ t.expected, Q t.session.nextId a
  kept : t.session.Keeps fun _ a => Q t.session.nextId a

variable {Q : Nat → Verification → Prop} {v : Verifier} {t : Traffic}

/-- `HasAll` is not lost when the counter goes on. -/
private theorem HasAll.later (h : t.HasAll Q) (hv : v.Yields Q) {n : Nat}
    (hn : t.session.nextId ≤ n) : (∀ a ∈ t.returned, Q n a) ∧ (∀ a ∈ t.expected, Q n a) ∧
      t.session.Keeps fun _ a => Q n a :=
  ⟨fun a ha => hv.lasts _ _ a hn (h.returned a ha), fun a ha => hv.lasts _ _ a hn (h.expected a ha),
    h.kept.mono fun _ a => hv.lasts _ _ a hn⟩

private theorem hasAll_begin (h : t.HasAll Q) (hv : v.Yields Q) (r : Request) :
    (t.move v (.begin r)).HasAll Q := by
  obtain ⟨hnext, hcases⟩ := v.begin_cases r t.session
  obtain ⟨hreturned, hexpected, hkept⟩ :=
    h.later hv (by omega : t.session.nextId ≤ (v.begin r t.session).2.nextId)
  have hkept' := (v.begin_spec r t.session _ _ rfl hkept).1
  -- What was at work or handed out stays, and one answer or one piece of work is added.
  rcases hcases with ⟨a, hfound, hbegun⟩ | ⟨-, hbegun⟩
  · rw [move_begin_of_hit v t hbegun]
    refine ⟨fun b hb => ?_, hexpected, hkept'⟩
    rcases List.mem_append.mp hb with hb | hb
    · exact hreturned b hb
    · rw [List.mem_singleton.mp hb, hnext]
      exact hv.renamed _ a ((v.lookUp_spec r t.session h.kept).2 a hfound)
  · rw [move_begin_of_working v t hbegun]
    refine ⟨hreturned, fun b hb => ?_, hkept'⟩
    simp only [Traffic.expected, List.filterMap_append, List.mem_append] at hb
    rcases hb with hb | hb
    · exact hexpected b hb
    · -- The new work is expected to come to an answer of the verifier, or to none.
      cases hwork : (v.work (v.requestId t.session.nextId) r).value with
      | error f => simp [hwork, answerOf?, Except.toOption] at hb
      | ok x =>
        obtain rfl : b = x.1 := by simpa [hwork, answerOf?, Except.toOption] using hb
        rw [hnext]
        exact hv.worked _ r x.1 x.2 hwork

private theorem hasAll_complete (h : t.HasAll Q) (hv : v.Yields Q) (place : Nat) :
    (t.move v (.complete place)).HasAll Q := by
  cases hplace : t.atWork[place]? with
  | none => rwa [move_complete_of_none v t hplace]
  | some x =>
    obtain ⟨r, work⟩ := x
    have hperm := perm_expected t hplace
    have hrest (b : Verification)
        (hb : b ∈ (t.atWork.eraseIdx place).filterMap fun x => answerOf? x.2) : b ∈ t.expected :=
      hperm.mem_iff.mpr (List.mem_append_right _ hb)
    rw [move_complete v t hplace]
    cases work with
    -- Work that failed is answered all the same, under the identifier that is next.
    | error f =>
      obtain ⟨hreturned, hexpected, hkept⟩ := h.later hv (Nat.le_succ t.session.nextId)
      refine ⟨fun b hb => ?_, fun b hb => hexpected b (hrest b hb), hkept⟩
      rcases List.mem_append.mp hb with hb | hb
      · exact hreturned b hb
      · obtain rfl : b = v.failedAnswer (v.requestId t.session.nextId) r f.description :=
          List.mem_singleton.mp hb
        exact hv.failed _ r f
    | ok x =>
      obtain ⟨a, o⟩ := x
      obtain ⟨hnext, hanswer⟩ := v.complete_ok r t.session a o
      have ha := h.expected a (hperm.mem_iff.mpr (List.mem_append_left _ (by
        simp [answerOf?, Except.toOption])))
      refine ⟨fun b hb => ?_, fun b hb => ?_, ?_⟩ <;> simp only [hnext]
      · -- The answer that is handed out was expected before.
        rcases List.mem_append.mp hb with hb | hb
        · exact h.returned b hb
        · cases hcompleted : (v.complete r (.ok (a, o)) t.session).1 with
          | error f => simp [hcompleted, Except.toOption] at hb
          | ok c =>
            obtain rfl : b = c := by simpa [hcompleted, Except.toOption] using hb
            rw [hanswer b hcompleted]
            exact ha
      · exact h.expected b (hrest b hb)
      · exact v.keeps_complete r t.session a o h.kept ha

/-- Every `move` keeps `HasAll`. -/
theorem hasAll_move (h : t.HasAll Q) (hv : v.Yields Q) (m : Move) : (t.move v m).HasAll Q := by
  cases m with
  | begin r => exact hasAll_begin h hv r
  | complete place => exact hasAll_complete h hv place
  | giveUp place =>
    have hsub := (List.eraseIdx_sublist t.atWork place).filterMap fun x => answerOf? x.2
    exact ⟨h.returned, fun a ha => h.expected a (hsub.subset ha), h.kept⟩
  | clear =>
    -- The session forgets what is kept, and nothing else.
    have hkept := v.keeps_perform .clear _ h.kept fun _ _ hr => absurd hr List.not_mem_nil
    exact ⟨h.returned, h.expected, hkept⟩
  | stats =>
    have hkept := v.keeps_perform .stats _ h.kept fun _ _ hr => absurd hr List.not_mem_nil
    have hnext : (t.session.stats v.clock).2.nextId = t.session.nextId := by
      cases hcache : t.session.cache <;> simp [Session.stats, hcache]
    refine ⟨?_, ?_, ?_⟩ <;> simp only [move, hnext]
    · exact h.returned
    · exact h.expected
    · exact hkept

/-- What the work of all verifiers `Yields`, all answers in the traffic of a fresh session have. -/
theorem hasAll_run (s : Session) (hs : s.IsFresh) (moves : List (Verifier × Move))
    (hmoves : ∀ x ∈ moves, x.1.Yields Q) : (({ session := s } : Traffic).run moves).HasAll Q := by
  refine run_invariant (HasAll Q) moves (fun x hx t ht => hasAll_move ht (hmoves x hx) x.2) _ ?_
  exact ⟨List.forall_mem_nil _, List.forall_mem_nil _, hs.keeps⟩

/-! ## Histories are traffic -/

variable (v : Verifier) (t : Traffic)

/-- Moves of `v` lead from `t` to `t'`. -/
private def Leads (v : Verifier) (t t' : Traffic) : Prop :=
  ∃ moves : List Move, t.run (moves.map (v, ·)) = t'

private theorem Leads.refl (v : Verifier) (t : Traffic) : Leads v t t :=
  ⟨[], rfl⟩

private theorem Leads.one (v : Verifier) (m : Move) (t : Traffic) : Leads v t (t.move v m) :=
  ⟨[m], rfl⟩

private theorem Leads.trans {v : Verifier} {t t' t'' : Traffic} (h : Leads v t t')
    (h' : Leads v t' t'') : Leads v t t'' := by
  obtain ⟨moves, rfl⟩ := h
  obtain ⟨moves', rfl⟩ := h'
  exact ⟨moves ++ moves', by rw [List.map_append, run_append]⟩

/-- The answers among those that a batch has come to, without its failures. -/
private def answersOf (p : Verifier.Progress) : List Verification :=
  p.answers.filterMap fun x => x.2.toOption

private theorem answersOf_concat (p : Verifier.Progress) (s : Session) (place : Nat)
    (answer : Except Failure Verification) :
    answersOf { p with session := s, answers := p.answers ++ [(place, answer)] } =
      answersOf p ++ answer.toOption.toList := by
  cases answer <;> simp [answersOf, Except.toOption]

/-- What a pending request of a batch has `atWork`. -/
private def workOf (w : Verifier.Pending) : Request × Work :=
  (w.request, w.work.value)

/-- The traffic of a batch that has come as far as `p`, beside `t`. -/
private def beside (t : Traffic) (p : Verifier.Progress) : Traffic where
  session := p.session
  atWork := t.atWork ++ p.pending.map workOf
  returned := t.returned ++ answersOf p

/-- `beginAll` is made of `begin` moves, and of `complete` moves for work that takes no time. -/
private theorem leads_beginAll (rs : List Request) :
    Leads v t (beside t (v.beginAll rs t.session)) := by
  have hstart : beside t { session := t.session } = t := by simp [beside, answersOf]
  refine List.foldlRecOn (motive := fun p => Leads v t (beside t p)) _ _
    (by rw [hstart]; exact .refl v t) ?_
  -- Each request is begun by one move, beside what is at work already.
  intro p hp x _
  obtain ⟨r, place⟩ := x
  have hbegun := Leads.one v (.begin r) (beside t p)
  simp only [move, show (beside t p).session = p.session from rfl] at hbegun
  apply hp.trans
  simp only []
  cases hbegin : v.begin r p.session with
  | mk begun s =>
    cases begun with
    | hit answer =>
      simp only [hbegin] at hbegun ⊢
      simpa [beside, answersOf_concat, Except.toOption] using hbegun
    | working work =>
      simp only [hbegin] at hbegun ⊢
      split
      · -- Work that takes no time is completed by a second move.
        have hended := Leads.one v (.complete (beside t p).atWork.length)
          { beside t p with session := s, atWork := (beside t p).atWork ++ [(r, work.value)] }
        rw [move_complete_last] at hended
        have hboth := hbegun.trans hended
        simpa [beside, answersOf_concat] using hboth
      · simpa [beside, answersOf, workOf] using hbegun

/-- The completions of a batch are `complete` moves in any order, up to the first answer that is
refused. -/
private theorem leads_completions (ws : List Verifier.Pending) (p : Verifier.Progress)
    (before : List Verification) (others : List (Request × Work)) (t : Traffic)
    (hsession : t.session = p.session) (hwork : t.atWork.Perm (ws.map workOf ++ others))
    (hreturned : t.returned = before ++ answersOf p) :
    let ended := ws.foldl (fun p w =>
      if p.answers.any Verifier.isRefused then p
      else
        let (answer, s) := v.complete w.request w.work.value p.session
        { p with session := s, answers := p.answers ++ [(w.place, answer)] }) p
    ∃ t', Leads v t t' ∧ t'.session = ended.session ∧ t'.returned = before ++ answersOf ended := by
  induction ws generalizing p others t with
  | nil => exact ⟨t, .refl v t, hsession, hreturned⟩
  | cons w ws ih =>
    simp only [List.foldl_cons]
    split
    · -- After a refusal the work stays at work.
      refine ih p (workOf w :: others) t hsession (hwork.trans ?_) hreturned
      rw [List.map_cons, List.cons_append]
      exact List.perm_middle.symm
    · -- The place of the next piece of work is not known, as other work may stand before it.
      obtain ⟨place, hplace⟩ := List.mem_iff_getElem?.mp (hwork.mem_iff.mpr List.mem_cons_self)
      have hrest := ((perm_cons_eraseIdx t hplace).symm.trans hwork).cons_inv
      have hmove := Leads.one v (.complete place) t
      rw [move_complete v t hplace] at hmove
      rw [hsession, hreturned, List.append_assoc, ← answersOf_concat p
        (v.complete w.request w.work.value p.session).2 w.place] at hmove
      let q : Verifier.Progress :=
        { p with
          session := (v.complete w.request w.work.value p.session).2
          answers := p.answers ++ [(w.place, (v.complete w.request w.work.value p.session).1)] }
      obtain ⟨t', hlead, hended⟩ := ih q others
        { session := q.session
          atWork := t.atWork.eraseIdx place
          returned := before ++ answersOf q } rfl hrest rfl
      exact ⟨t', hmove.trans hlead, hended⟩

/-- `answersInOrder` has the answers that the requests of a batch came to. -/
private theorem answersInOrder_perm (p : Verifier.Progress) (answers : List Verification)
    (h : Verifier.answersInOrder p = .ok answers) : answers.Perm (answersOf p) := by
  let sorted := p.answers.mergeSort fun a b => a.1 ≤ b.1
  have hvalues : sorted.map Prod.snd = answers.map .ok := Except.mapM_eq_ok_iff.mp h
  have hsorted : sorted.filterMap (fun x => x.2.toOption) = answers := by
    have htoOption (l : List Verification) :
        (l.map (Except.ok (ε := Failure))).filterMap Except.toOption = l := by
      induction l with
      | nil => rfl
      | cons a l ih => simpa [Except.toOption] using ih
    rw [← htoOption answers, ← hvalues, List.filterMap_map]
    rfl
  rw [← hsorted]
  exact (List.mergeSort_perm _ _).filterMap _

/-- Moves do what `verifyAll` does, and hand out its answers if it has any. -/
private theorem leads_verifyAll (rs : List Request) :
    ∃ t', Leads v t t' ∧ t'.session = (v.verifyAll rs t.session).2 ∧
      (t.returned ++ (v.verifyAll rs t.session).1.value.toOption.getD []).Subperm t'.returned := by
  let started := v.beginAll rs t.session
  have hsorted := List.mergeSort_perm started.pending fun a b => a.work.finish.ble b.work.finish
  obtain ⟨t', hlead, hsession, hreturned⟩ := leads_completions v _ started t.returned t.atWork
    (beside t started) rfl ((List.perm_append_comm).trans ((hsorted.symm.map workOf).append_right
      _)) rfl
  refine ⟨t', (leads_beginAll v t rs).trans hlead, hsession, ?_⟩
  rw [hreturned, List.subperm_append_left]
  cases hanswers : (v.verifyAll rs t.session).1.value with
  | error f => exact List.nil_subperm
  | ok answers => exact (answersInOrder_perm _ answers hanswers).subperm

/-- Moves do what `answerOne` does, and hand out its answer if it has one. -/
private theorem leads_answerOne (r : Request) :
    ∃ t', Leads v t t' ∧ t'.session = (v.answerOne r t.session).2 ∧
      t'.returned = t.returned ++ (v.answerOne r t.session).1.answers := by
  have hbegun := Leads.one v (.begin r) t
  simp only [move] at hbegun
  simp only [Verifier.answerOne, Verifier.verify]
  cases hbegin : v.begin r t.session with
  | mk begun s =>
    cases begun with
    -- A hit needs no second move.
    | hit answer =>
      simp only [hbegin] at hbegun
      exact ⟨_, hbegun, rfl, rfl⟩
    | working work =>
      simp only [hbegin] at hbegun
      -- The work is completed by a second move, in the place behind all others.
      have hended := Leads.one v (.complete t.atWork.length)
        { t with session := s, atWork := t.atWork ++ [(r, work.value)] }
      rw [move_complete_last] at hended
      refine ⟨_, hbegun.trans hended, rfl, ?_⟩
      simp only [Effect.answers, Timed.map]
      cases (v.complete r work.value s).1 <;> rfl

/-- Moves do what `cancelAt` does: they begin a request, and complete it if its work has ended by
then. -/
private theorem leads_cancelAt (moment : Instant) (r : Request) :
    ∃ t', Leads v t t' ∧ t'.session = (v.cancelAt moment r t.session).2 ∧
      t.returned.Sublist t'.returned := by
  have hbegun := Leads.one v (.begin r) t
  simp only [move] at hbegun
  simp only [Verifier.cancelAt]
  cases hbegin : v.begin r t.session with
  | mk begun s =>
    cases begun with
    | hit answer =>
      simp only [hbegin] at hbegun
      exact ⟨_, hbegun, rfl, List.sublist_append_left _ _⟩
    | working work =>
      simp only [hbegin] at hbegun
      simp only []
      split
      · have hended := Leads.one v (.complete t.atWork.length)
          { t with session := s, atWork := t.atWork ++ [(r, work.value)] }
        rw [move_complete_last] at hended
        exact ⟨_, hbegun.trans hended, rfl, List.sublist_append_left _ _⟩
      · -- Work that is cut off stays at work, as no turn of it follows.
        exact ⟨_, hbegun, rfl, List.Sublist.refl _⟩

/-- Moves do what `perform` does. They hand out its answers, and maybe others that it keeps to
itself. -/
private theorem leads_perform (action : Action) :
    ∃ t', Leads v t t' ∧ t'.session = (v.perform action t.session).2 ∧
      (t.returned ++ (v.perform action t.session).1.answers).Subperm t'.returned := by
  -- One answer is handed out exactly as it is.
  have hone (r : Request) : ∃ t', Leads v t t' ∧ t'.session = (v.answerOne r t.session).2 ∧
      (t.returned ++ (v.answerOne r t.session).1.answers).Subperm t'.returned := by
    obtain ⟨t', hlead, hsession, hreturned⟩ := leads_answerOne v t r
    exact ⟨t', hlead, hsession, by rw [hreturned]⟩
  -- Actions that hand out nothing may leave answers of their own in the traffic.
  have hnone {t' : Traffic} (h : t.returned.Sublist t'.returned) :
      (t.returned ++ []).Subperm t'.returned := by
    rw [List.append_nil]
    exact h.subperm
  cases action with
  | verify r => exact hone r
  | quick address chainId => exact hone _
  | deep address chainIds => exact hone _
  | batch rs => exact leads_verifyAll v t rs
  | cancel moment r =>
    obtain ⟨t', hlead, hsession, hreturned⟩ := leads_cancelAt v t moment r
    exact ⟨t', hlead, hsession, hnone hreturned⟩
  | clear => exact ⟨_, .one v .clear t, rfl, hnone (List.Sublist.refl _)⟩
  | stats => exact ⟨_, .one v .stats t, rfl, hnone (List.Sublist.refl _)⟩

/-- Every history is traffic: moves of the verifiers of its events do to the session what
`Session.run` does, and hand out its answers. -/
theorem exists_moves_run (es : List Event) (t : Traffic) :
    ∃ moves : List (Verifier × Move), (∀ x ∈ moves, ∃ e ∈ es, x.1 = e.verifier) ∧
      (t.run moves).session = (t.session.run es).2 ∧
      (t.returned ++ (t.session.run es).1.flatMap Effect.answers).Subperm
        (t.run moves).returned := by
  induction es generalizing t with
  | nil => exact ⟨[], by simp, rfl, by simp [Session.run, List.Subperm.refl]⟩
  | cons e es ih =>
    -- The moves of the first event come first, and those of the others start from where they lead.
    obtain ⟨t', ⟨moves, rfl⟩, hsession, hreturned⟩ := leads_perform e.verifier t e.action
    obtain ⟨later, hof, hlater, hreturned'⟩ := ih (t.run (moves.map (e.verifier, ·)))
    rw [hsession] at hlater hreturned'
    refine ⟨moves.map (e.verifier, ·) ++ later, ?_, ?_, ?_⟩
    · intro x hx
      rcases List.mem_append.mp hx with hx | hx
      · obtain ⟨m, _, rfl⟩ := List.mem_map.mp hx
        exact ⟨e, List.mem_cons_self, rfl⟩
      · obtain ⟨e', he', hverifier⟩ := hof x hx
        exact ⟨e', List.mem_cons_of_mem _ he', hverifier⟩
    · rw [run_append, hlater]
      rfl
    · rw [run_append, Session.run, List.flatMap_cons, ← List.append_assoc]
      exact ((List.subperm_append_right _).mpr hreturned).trans hreturned'

end Traffic

end TokenRisk
