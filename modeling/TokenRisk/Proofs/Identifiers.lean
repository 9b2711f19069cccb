import TokenRisk.Proofs.Keys
import TokenRisk.Proofs.Session
import TokenRisk.Proofs.Traffic
import TokenRisk.Proofs.Transparency

/-!
# Identifiers

Every answer is handed out under an identifier of its own. It is made of the clock and of a number,
and although the clock may stand still or go back, the number tells it apart: numbers are drawn from
a counter, each once. A request draws one when it begins, be it answered from the cache or worked
on, and a second one when its work fails.

## Key results

- `Verifier.requestId_inj`: an identifier tells its number.
- `Traffic.isNumbered_move`: no move uses an identifier twice, be it one that was handed out or one
  that is reserved for work.
- `Traffic.identifiers_never_repeat`: neither do requests side by side in any order, nor histories.
-/

namespace TokenRisk

/-! ## The text of an identifier -/

/-- The number of a `requestId` stands behind the last separator, whatever the clock says. -/
theorem Verifier.requestId_inj (v v' : Verifier) (m n : Nat)
    (h : v.requestId m = v'.requestId n) : m = n := by
  have hdigits (k : Nat) : '_' ∉ Nat.toDigits 10 k := by
    intro hk
    exact absurd (Nat.isDigit_of_mem_toDigits (by decide) (by decide) hk) (by decide)
  have hparts (v : Verifier) (k : Nat) : (v.requestId k).toList =
      ("req_" ++ toString v.nowMs).toList ++ '_' :: Nat.toDigits 10 k := by
    show ("req_" ++ toString v.nowMs ++ "_" ++ toString k).toList = _
    simp
  have hlist := congrArg String.toList h
  rw [hparts, hparts] at hlist
  exact toDigits_inj m n (List.eq_of_append_cons_eq (hdigits m) (hdigits n) hlist).2

/-- An identifier that was drawn before the counter came to `n`. -/
def IsDrawn (n : Nat) (id : String) : Prop :=
  ∃ (v : Verifier) (k : Nat), k < n ∧ id = v.requestId k

/-- What `IsDrawn` stays so. -/
theorem IsDrawn.mono {m n : Nat} {id : String} (h : IsDrawn m id) (hmn : m ≤ n) :
    IsDrawn n id := by
  obtain ⟨v, k, hk, rfl⟩ := h
  exact ⟨v, k, by omega, rfl⟩

theorem isDrawn_requestId (v : Verifier) (n : Nat) : IsDrawn (n + 1) (v.requestId n) :=
  ⟨v, n, Nat.lt_succ_self n, rfl⟩

/-- The next `requestId` was not drawn before. -/
theorem IsDrawn.ne_requestId {n : Nat} {id : String} (h : IsDrawn n id) (v : Verifier) :
    id ≠ v.requestId n := by
  obtain ⟨v', k, hk, rfl⟩ := h
  intro heq
  have := v'.requestId_inj v k n heq
  omega

/-! ## Drawing -/

namespace Verifier

variable (v : Verifier) (r : Request)

/-- What `work` comes to has the identifier that it began with. -/
theorem requestId_of_work (id : String) (a : Verification) (o : Outcome)
    (h : (v.work id r).value = .ok (a, o)) : a.requestId = id := by
  have hmade {ε α : Type} (x : Except ε α) (f : α → Verification × Outcome)
      (hf : ∀ y, (f y).1.requestId = id) (hx : x.map f = .ok (a, o)) : a.requestId = id := by
    obtain ⟨y, _, hy⟩ := Except.map_eq_ok_iff.mp hx
    rw [← hf y, hy]
  simp only [work] at h
  split at h
  · exact hmade _ _ (fun _ => rfl) h
  · exact hmade _ _ (fun _ => rfl) h

/-- All answers that a verifier `Yields` have an identifier that was drawn. -/
theorem yields_isDrawn : v.Yields fun n a => IsDrawn n a.requestId where
  lasts _ _ _ hmn h := h.mono hmn
  renamed n _ _ := isDrawn_requestId v n
  worked n r a o h := by
    rw [v.requestId_of_work r _ a o h]
    exact isDrawn_requestId v n
  failed n _ _ := isDrawn_requestId v n

end Verifier

/-! ## Traffic -/

namespace Traffic

/-- The identifiers in use: those that were handed out, and those that are reserved for work. -/
def identifiers (t : Traffic) : List String :=
  (t.returned ++ t.expected).map Verification.requestId

/-- All `identifiers` in use were drawn, and none is used twice. -/
structure IsNumbered (t : Traffic) : Prop where
  nodup : t.identifiers.Nodup
  drawn : ∀ id ∈ t.identifiers, IsDrawn t.session.nextId id

variable {t : Traffic}

/-- `IsNumbered` lasts when a new identifier is taken into use. -/
private theorem IsNumbered.draw (h : t.IsNumbered) (v : Verifier) {t' : Traffic}
    (hids : t'.identifiers.Perm (v.requestId t.session.nextId :: t.identifiers))
    (hnext : t'.session.nextId = t.session.nextId + 1) : t'.IsNumbered where
  nodup := by
    rw [hids.nodup_iff, List.nodup_cons]
    exact ⟨fun hmem => (h.drawn _ hmem).ne_requestId v rfl, h.nodup⟩
  drawn id hid := by
    rw [hnext]
    rcases List.mem_cons.mp (hids.mem_iff.mp hid) with rfl | hid
    · exact isDrawn_requestId v _
    · exact (h.drawn id hid).mono (Nat.le_succ _)

/-- `IsNumbered` lasts when identifiers go out of use. -/
private theorem IsNumbered.drop (h : t.IsNumbered) {t' : Traffic}
    (hids : t'.identifiers.Subperm t.identifiers)
    (hnext : t.session.nextId ≤ t'.session.nextId) : t'.IsNumbered where
  nodup := by
    obtain ⟨ids, hperm, hsub⟩ := hids
    exact hperm.nodup_iff.mp (hsub.nodup h.nodup)
  drawn id hid := (h.drawn id (hids.subset hid)).mono hnext

/-- `begin` takes one identifier into use, unless its work will fail. -/
private theorem isNumbered_begin (h : t.IsNumbered) (v : Verifier) (r : Request) :
    (t.move v (.begin r)).IsNumbered := by
  obtain ⟨hnext, ⟨a, -, hbegun⟩ | ⟨-, hbegun⟩⟩ := v.begin_cases r t.session
  · -- An answer that was found is handed out at once, under the new identifier.
    apply h.draw v _ (by rw [move_begin_of_hit v t hbegun, hnext])
    rw [move_begin_of_hit v t hbegun]
    simp only [identifiers, expected, List.append_assoc, List.map_append, List.map_cons,
      List.cons_append, List.nil_append]
    exact List.perm_middle
  · have hmove := move_begin_of_working v t hbegun
    cases hwork : (v.work (v.requestId t.session.nextId) r).value with
    | error f =>
      -- The identifier that was drawn is never used.
      apply h.drop _ (by rw [hmove, hnext]; exact Nat.le_succ _)
      rw [hmove]
      simp [identifiers, expected, answerOf?, hwork, Except.toOption, List.Subperm.refl]
    | ok x =>
      obtain ⟨a, o⟩ := x
      have hid := v.requestId_of_work r _ a o hwork
      apply h.draw v _ (by rw [hmove, hnext])
      rw [hmove]
      simp only [identifiers, expected, hwork, List.filterMap_append, List.filterMap_cons,
        List.filterMap_nil, answerOf?, Except.toOption, Option.map_some, ← List.append_assoc,
        List.map_append, List.map_cons, List.map_nil, hid]
      exact List.perm_append_singleton _ _

/-- `complete` hands out the identifier that the work has in use, or a new one if it failed. -/
private theorem isNumbered_complete (h : t.IsNumbered) (v : Verifier) (place : Nat) :
    (t.move v (.complete place)).IsNumbered := by
  cases hplace : t.atWork[place]? with
  | none => rwa [move_complete_of_none v t hplace]
  | some x =>
    obtain ⟨r, work⟩ := x
    have hmove := move_complete v t hplace
    have hids := ((perm_expected t hplace).append_left t.returned).map Verification.requestId
    cases work with
    | error f =>
      apply h.draw v _ (by rw [hmove]; rfl)
      rw [hmove]
      -- Failed work had none in use.
      refine List.Perm.trans ?_ (hids.symm.cons (v.requestId t.session.nextId))
      simp only [identifiers, expected, List.append_assoc, List.map_append]
      exact List.perm_middle
    | ok x =>
      obtain ⟨a, o⟩ := x
      obtain ⟨hnext, hanswer⟩ := v.complete_ok r t.session a o
      apply h.drop _ (by rw [hmove]; exact Nat.le_of_eq hnext.symm)
      rw [hmove]
      -- It goes over to the answer, unless that is refused.
      have hsub : (v.complete r (.ok (a, o)) t.session).1.toOption.toList.Sublist [a] := by
        cases hcompleted : (v.complete r (.ok (a, o)) t.session).1 with
        | error f => exact List.nil_sublist _
        | ok b =>
          rw [hanswer b hcompleted]
          exact List.Sublist.refl _
      have hall := (hsub.append_left t.returned).append_right
        ((t.atWork.eraseIdx place).filterMap fun x => answerOf? x.2)
      rw [List.append_assoc t.returned [a]] at hall
      exact (hall.map Verification.requestId).subperm.trans hids.symm.subperm

/-- No `move` uses an identifier twice. -/
theorem isNumbered_move (h : t.IsNumbered) (v : Verifier) (m : Move) : (t.move v m).IsNumbered := by
  cases m with
  | begin r => exact isNumbered_begin h v r
  | complete place => exact isNumbered_complete h v place
  | giveUp place =>
    have hexpected := (List.eraseIdx_sublist t.atWork place).filterMap fun x => answerOf? x.2
    exact h.drop ((hexpected.append_left _).map _).subperm (Nat.le_refl _)
  | clear => exact ⟨h.nodup, h.drawn⟩
  | stats =>
    refine h.drop (List.Subperm.refl _) ?_
    cases hcache : t.session.cache <;> simp [move, Session.stats, hcache]

/-! ## No identifier is used twice -/

/-- `IsNumbered` holds at first, as no identifier is in use. -/
private theorem isNumbered_start (s : Session) : ({ session := s } : Traffic).IsNumbered :=
  ⟨List.nodup_nil, List.forall_mem_nil _⟩

/-- `requestId` never repeats: not among the answers that are handed out in any traffic, whatever
the session remembers and however the clock moves, and not among those of any history. In the
traffic of a session that `IsFresh`, a kept answer is never handed out under the identifier that it
was kept with. -/
theorem identifiers_never_repeat (s : Session) :
    (∀ moves : List (Verifier × Move),
      ((({ session := s } : Traffic).run moves).returned.map Verification.requestId).Nodup) ∧
    (∀ history : List Event,
      (((s.run history).1.flatMap Effect.answers).map Verification.requestId).Nodup) ∧
    (s.IsFresh → ∀ (moves : List (Verifier × Move)) (v : Verifier) (r : Request)
      (stored : Verification),
      let now := (({ session := s } : Traffic).run moves).session
      (v.lookUp r now).1 = some stored → ∃ id,
        (v.begin r now).1 = .hit { stored with requestId := id } ∧ id ≠ stored.requestId) := by
  -- The counter is beyond every identifier that was drawn, and each move draws the next one.
  have hnodup (moves : List (Verifier × Move)) :
      ((({ session := s } : Traffic).run moves).returned.map Verification.requestId).Nodup := by
    have hrun := run_invariant IsNumbered moves (fun x _ t ht => isNumbered_move ht x.1 x.2)
      { session := s } (isNumbered_start s)
    exact hrun.nodup.sublist ((List.sublist_append_left _ _).map _)
  refine ⟨hnodup, ?_, ?_⟩
  · -- The answers of a history are among those of a traffic.
    intro history
    obtain ⟨moves, -, -, hreturned⟩ := exists_moves_run history { session := s }
    obtain ⟨returned, hperm, hsub⟩ := hreturned
    rw [List.nil_append] at hperm
    exact ((hperm.map _).nodup_iff).mp ((hsub.map _).nodup (hnodup moves))
  · intro hs moves v r stored now hfound
    -- The same holds of what is kept, with the counter as it is now.
    have hdrawn := hasAll_run s hs moves fun x _ => x.1.yields_isDrawn
    have hkept : IsDrawn now.nextId stored.requestId :=
      (v.lookUp_spec r now hdrawn.kept).2 stored hfound
    rcases (v.begin_cases r now).2 with ⟨a, ha, hbegun⟩ | ⟨hnone, -⟩
    · -- The identifier of the hit is the next one, which no kept answer has.
      obtain rfl := Option.some.inj (hfound.symm.trans ha)
      exact ⟨_, hbegun, (hkept.ne_requestId v).symm⟩
    · rw [hfound] at hnone
      cases hnone

/-- Two requests for one token are at work side by side, and the second is answered first. -/
def plainBeside : List (Verifier × Move) :=
  [.begin .plain, .begin .plain, .complete 1, .complete 0].map
    ((Scene.vacant .legacy 1).verifier, ·)

/-- The requests of `plainBeside` are answered under two identifiers, and a third request is handed
what was kept last, under an identifier of its own. -/
theorem identifiers_beside :
    let v := (Scene.vacant .legacy 1).verifier
    let t := ({ session := .hourly } : Traffic).run plainBeside
    t.returned.length = 2 ∧ (t.returned.map Verification.requestId).Nodup ∧
      ∃ stored id, (v.lookUp .plain t.session).1 = some stored ∧
        (v.begin .plain t.session).1 = .hit { stored with requestId := id } ∧
        id ≠ stored.requestId := by
  intro v t
  obtain ⟨hnodup, -, hreplayed⟩ := identifiers_never_repeat .hourly
  have hkept : (v.lookUp .plain t.session).1.isSome := by decide +kernel
  obtain ⟨stored, hstored⟩ := Option.isSome_iff_exists.mp hkept
  obtain ⟨id, hbegun, hid⟩ :=
    hreplayed Session.isFresh_hourly plainBeside v .plain stored hstored
  exact ⟨by decide +kernel, hnodup plainBeside, stored, id, hstored, hbegun, hid⟩

end Traffic

end TokenRisk
