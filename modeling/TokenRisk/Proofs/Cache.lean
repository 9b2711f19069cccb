import TokenRisk.Cache

/-!
# What a cache keeps

Whatever relation the results in a cache have to their keys, reading, sweeping and clearing keep it,
and writing keeps it if the new result has it (`keeps_put`). What is read has that relation too
(`keeps_of_get`). A result that was just written is read until it dies (`get_put`).
-/

namespace TokenRisk.Cache

variable {κ ν : Type} [DecidableEq κ]

/-- Every result in the cache stands in a relation to its key. -/
def Keeps (P : κ → ν → Prop) (c : Cache κ ν) : Prop :=
  ∀ e ∈ c.entries, ∀ v, e.value = some v → P e.key v

/-- The lifetime and the capacity, which no operation changes. -/
def bounds (c : Cache κ ν) : Number × Nat :=
  (c.lifetime, c.capacity)

/-! ## Sweeping and reading -/

theorem mem_entries_of_sweep (now : Binary64) (c : Cache κ ν) (e : Entry κ ν)
    (h : e ∈ (c.sweep now).entries) : e ∈ c.entries :=
  (List.dropWhile_sublist _).subset h

theorem keeps_sweep {P : κ → ν → Prop} (now : Binary64) (c : Cache κ ν) (h : c.Keeps P) :
    (c.sweep now).Keeps P :=
  fun e he => h e (mem_entries_of_sweep now c e he)

@[simp] theorem bounds_sweep (now : Binary64) (c : Cache κ ν) :
    (c.sweep now).bounds = c.bounds := rfl

/-- `get` leaves the entries that `sweep` leaves. -/
@[simp] theorem entries_get (now : Binary64) (key : κ) (c : Cache κ ν) :
    (c.get now key).2.entries = (c.sweep now).entries := by
  simp only [get]
  split
  · rfl
  · split <;> rfl

@[simp] theorem bounds_get (now : Binary64) (key : κ) (c : Cache κ ν) :
    (c.get now key).2.bounds = c.bounds := by
  simp only [get]
  split
  · rfl
  · split <;> rfl

theorem keeps_get {P : κ → ν → Prop} (now : Binary64) (key : κ) (c : Cache κ ν)
    (h : c.Keeps P) : (c.get now key).2.Keeps P := by
  intro e he
  rw [entries_get] at he
  exact keeps_sweep now c h e he

/-- What `get` reads is the result of a live entry under the key. -/
theorem get_eq_some_iff (now : Binary64) (key : κ) (c : Cache κ ν) (v : ν) :
    (c.get now key).1 = some v ↔
      ∃ e, (c.sweep now).find? key = some e ∧ isLive now e = true ∧ e.value = some v := by
  simp only [get]
  split
  · rename_i hnone
    simp only [reduceCtorEq, false_iff, not_exists, not_and]
    -- Had the key a live entry, the filter would keep it.
    intro e he hlive
    rw [Option.filter_eq_none_iff] at hnone
    exact absurd hlive (hnone e he)
  · rename_i e hsome
    -- An entry that passes the filter is live, and may still have no value.
    obtain ⟨hfind, hlive⟩ := Option.filter_eq_some_iff.mp hsome
    cases hvalue : e.value with
    | none => simp [hfind, hvalue]
    | some w => simp [hfind, hlive, hvalue]

/-- What `get` reads stands in the relation that the cache `Keeps`. -/
theorem keeps_of_get {P : κ → ν → Prop} (now : Binary64) (key : κ) (c : Cache κ ν) (v : ν)
    (hkeeps : c.Keeps P) (h : (c.get now key).1 = some v) : P key v := by
  obtain ⟨e, hfind, _, hvalue⟩ := (get_eq_some_iff now key c v).mp h
  have hkey : e.key = key := by simpa using List.find?_some hfind
  rw [← hkey]
  exact keeps_sweep now c hkeeps e (List.mem_of_find?_eq_some hfind) v hvalue

/-! ## Writing -/

private theorem foldl_remove (keys : List κ) (c : Cache κ ν) :
    (keys.foldl remove c).bounds = c.bounds ∧
      ∀ e ∈ (keys.foldl remove c).entries, e ∈ c.entries := by
  induction keys generalizing c with
  | nil => exact ⟨rfl, fun _ he => he⟩
  | cons key keys ih =>
    obtain ⟨hbounds, hentries⟩ := ih (c.remove key)
    exact ⟨hbounds, fun e he => (List.mem_filter.mp (hentries e he)).1⟩

/-- The cache into which `put` writes a result: swept, with room for the key, which is used last. -/
private def prepared (now : Binary64) (key : κ) (c : Cache κ ν) : Cache κ ν :=
  (if ((c.sweep now).find? key).isSome then c.sweep now else (c.sweep now).makeRoom).touch key

private theorem prepared_spec (now : Binary64) (key : κ) (c : Cache κ ν) :
    (prepared now key c).bounds = c.bounds ∧
      ∀ e ∈ (prepared now key c).entries, e ∈ c.entries := by
  simp only [prepared]
  split
  · exact ⟨rfl, fun e he => mem_entries_of_sweep now c e he⟩
  · obtain ⟨hbounds, hentries⟩ := foldl_remove
      ((c.sweep now).uses.take ((c.sweep now).entries.length + 1 - (c.sweep now).capacity))
      (c.sweep now)
    exact ⟨hbounds, fun e he => mem_entries_of_sweep now c e (hentries e he)⟩

/-- `put` takes a result into a cache with capacity, as its last entry. -/
theorem put_eq (now : Binary64) (key : κ) (value : Option ν) (c : Cache κ ν)
    (h : c.capacity ≠ 0) :
    (c.put now key value).1 = .ok () ∧ (c.put now key value).2.bounds = c.bounds ∧
      ∃ others, (∀ e ∈ others, e ∈ c.entries ∧ e.key ≠ key) ∧
        (c.put now key value).2.entries =
          others ++ [⟨key, value, now.add c.lifetime.toBinary64⟩] := by
  obtain ⟨hbounds, hentries⟩ := prepared_spec now key c
  have hlifetime : (prepared now key c).lifetime = c.lifetime := congrArg Prod.fst hbounds
  -- All but the last entry are entries of the prepared cache.
  have hput : c.put now key value = (.ok (), { prepared now key c with
      entries := ((prepared now key c).entries.filter fun e => e.key ≠ key) ++
        [⟨key, value, now.add (prepared now key c).lifetime.toBinary64⟩] }) := by
    simp only [put]
    rw [if_neg (show ¬ (c.sweep now).capacity = 0 from h)]
    rfl
  rw [hput, hlifetime]
  refine ⟨rfl, hbounds, _, fun e he => ?_, rfl⟩
  obtain ⟨hmem, hkey⟩ := List.mem_filter.mp he
  exact ⟨hentries e hmem, by simpa using hkey⟩

/-- `put` takes nothing into a cache without capacity. -/
theorem put_eq_of_capacity_eq_zero (now : Binary64) (key : κ) (value : Option ν) (c : Cache κ ν)
    (h : c.capacity = 0) :
    (c.put now key value).1 = .error (.fault .value "value too large") ∧
      (c.put now key value).2 = c.sweep now := by
  simp only [put]
  rw [if_pos (show (c.sweep now).capacity = 0 from h)]
  exact ⟨rfl, rfl⟩

@[simp] theorem bounds_put (now : Binary64) (key : κ) (value : Option ν) (c : Cache κ ν) :
    (c.put now key value).2.bounds = c.bounds := by
  by_cases h : c.capacity = 0
  · rw [(put_eq_of_capacity_eq_zero now key value c h).2]
    rfl
  · exact (put_eq now key value c h).2.1

/-- `put` keeps a relation that the new result has to its key, unless there is no capacity. -/
theorem keeps_put {P : κ → ν → Prop} (now : Binary64) (key : κ) (v : ν) (c : Cache κ ν)
    (hkeeps : c.Keeps P) (h : c.capacity ≠ 0 → P key v) :
    (c.put now key (some v)).2.Keeps P := by
  by_cases hcapacity : c.capacity = 0
  · rw [(put_eq_of_capacity_eq_zero now key (some v) c hcapacity).2]
    exact keeps_sweep now c hkeeps
  · obtain ⟨_, _, others, hothers, hentries⟩ := put_eq now key (some v) c hcapacity
    intro e he w hw
    rw [hentries, List.mem_append, List.mem_singleton] at he
    rcases he with he | rfl
    · exact hkeeps e (hothers e he).1 w hw
    · rw [← Option.some.inj hw]
      exact h hcapacity

omit [DecidableEq κ] in
/-- What `sweep` drops at the front stops before an entry at the end that is alive. -/
private theorem dropWhile_append_live (p : Entry κ ν → Bool) (l : List (Entry κ ν))
    (e : Entry κ ν) (h : p e = false) :
    ∃ rest, (∀ x ∈ rest, x ∈ l) ∧ (l ++ [e]).dropWhile p = rest ++ [e] := by
  rw [List.dropWhile_append]
  split
  · exact ⟨[], by simp, by simp [h]⟩
  · exact ⟨l.dropWhile p, fun x hx => (List.dropWhile_sublist _).subset hx, rfl⟩

/-- `get` reads a result that was just `put` as long as it is alive, and not after. -/
theorem get_put (now later : Binary64) (key : κ) (v : ν) (c : Cache κ ν) (h : c.capacity ≠ 0) :
    ((c.put now key (some v)).2.get later key).1 =
      if later.lt (now.add c.lifetime.toBinary64) then some v else none := by
  obtain ⟨_, _, others, hothers, hentries⟩ := put_eq now key (some v) c h
  let e : Entry κ ν := ⟨key, some v, now.add c.lifetime.toBinary64⟩
  -- No other entry has the key, so it is the last one that counts.
  have hnone (rest : List (Entry κ ν)) (hrest : ∀ x ∈ rest, x ∈ others) :
      rest.find? (fun e => e.key = key) = none := by
    rw [List.find?_eq_none]
    intro x hx
    simpa using (hothers x (hrest x hx)).2
  cases hlive : later.lt (now.add c.lifetime.toBinary64) with
  | true =>
    obtain ⟨rest, hrest, hdrop⟩ := dropWhile_append_live (fun e => !isLive later e) others e
      (by simp [isLive, e, hlive])
    rw [if_pos rfl, get_eq_some_iff]
    refine ⟨e, ?_, hlive, rfl⟩
    simp only [find?, sweep, hentries]
    rw [hdrop, List.find?_append, hnone rest hrest]
    simp [e]
  -- Whatever else could be read has the key, too.
  | false =>
    rw [if_neg Bool.false_ne_true, Option.eq_none_iff_forall_ne_some]
    intro w hw
    obtain ⟨e', hfind, hlive', _⟩ := (get_eq_some_iff ..).mp hw
    have hkey : e'.key = key := by simpa using List.find?_some hfind
    have hmem := mem_entries_of_sweep _ _ _ (List.mem_of_find?_eq_some hfind)
    rw [hentries, List.mem_append, List.mem_singleton] at hmem
    rcases hmem with hmem | rfl
    · exact (hothers e' hmem).2 hkey
    · simp [isLive, hlive] at hlive'

/-! ## Clearing and asking -/

omit [DecidableEq κ] in
theorem keeps_clear {P : κ → ν → Prop} (c : Cache κ ν) : c.clear.Keeps P := by
  intro e he
  cases he

theorem keeps_stats {P : κ → ν → Prop} (now : Binary64) (c : Cache κ ν) (h : c.Keeps P) :
    (c.stats now).2.Keeps P :=
  keeps_sweep now c h

end TokenRisk.Cache
