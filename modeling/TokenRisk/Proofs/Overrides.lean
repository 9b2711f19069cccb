import TokenRisk.Config
import TokenRisk.ForStd.Except
import TokenRisk.Proofs.Numerals

/-!
# Nodes that variables set

A variable whose name is `RPC_URL_` and a suffix sets a node for the chain that the suffix denotes.
The suffix is first asked whether it is made of digit characters and then read as an integer, and
these are two tests: `Config.Stumbles` names the variables that pass the first and not the second.
They stop the reading of the settings, and nothing else about these variables does. Where it is not
stopped, the last variable for a chain counts, in whatever digits its suffix writes the chain, and
every other suffix is ignored.

## Key results

- `Config.step_cases`: what one variable does to the nodes set so far.
- `Config.node_of_rpcUrlsFrom`: whose node a chain has after all variables.
- `Config.takesOverrides`: when the settings are read, and which node a chain then has.
-/

namespace TokenRisk.Config

open Text

/-! ## Variables that name a node -/

/-- The variable sets a node under the suffix. -/
def SetsNode (v : String × String) (suffix : String) : Prop :=
  v.1 = rpcUrlStart ++ suffix ∧ v.2 ≠ ""

/-- The variable sets a node for the chain: its suffix denotes the chain. -/
def Overrides (v : String × String) (chainId : Int) : Prop :=
  ∃ suffix, SetsNode v suffix ∧ ∃ n : Nat, Numeral.Denotes suffix.toList n ∧ chainId = n

/-- The suffix of the variable is made of digit characters that are no integer, or too many. -/
def Stumbles (v : String × String) : Prop :=
  ∃ suffix, SetsNode v suffix ∧ isDigits suffix = true ∧
    (Numeral.maxIntDigits < suffix.toList.length ∨ ∃ c ∈ suffix.toList, decimal? c = none)

/-- A name that starts as these do is `rpcUrlStart` and a suffix. -/
private theorem startsWith_iff {name : String} :
    startsWith name rpcUrlStart = true ↔
      name = rpcUrlStart ++ drop rpcUrlStart.length name := by
  rw [startsWith, List.isPrefixOf_iff_prefix, ← String.toList_inj, String.toList_append, drop,
    String.toList_ofList, ← String.length_toList]
  constructor
  · rintro ⟨suffix, hsuffix⟩
    rw [← hsuffix, List.drop_left]
  · intro h
    exact ⟨_, h.symm⟩

/-- The suffix is what follows `rpcUrlStart`. -/
private theorem SetsNode.drop_eq {name value suffix : String} (h : SetsNode (name, value) suffix) :
    drop rpcUrlStart.length name = suffix := by
  rw [show name = rpcUrlStart ++ suffix from h.1, drop, String.toList_append,
    ← String.length_toList, List.drop_left, String.ofList_toList]

/-- What `rpcUrlsFrom` asks of a variable before its suffix is read. -/
private theorem guard_iff {name value : String} :
    (startsWith name rpcUrlStart && !value.isEmpty &&
      isDigits (drop rpcUrlStart.length name)) = true ↔
      ∃ suffix, SetsNode (name, value) suffix ∧ isDigits suffix = true := by
  rw [Bool.and_eq_true, Bool.and_eq_true, startsWith_iff, Bool.not_eq_true']
  constructor
  · rintro ⟨⟨hname, hvalue⟩, hdigits⟩
    exact ⟨_, ⟨hname, by simpa using hvalue⟩, hdigits⟩
  · rintro ⟨suffix, hset, hdigits⟩
    rw [hset.drop_eq]
    exact ⟨⟨hset.1, by simpa using hset.2⟩, hdigits⟩

/-! ## One variable -/

/-- `readInt` reads a suffix of digit characters that does not stumble as the chain it denotes. -/
private theorem exists_readInt_of_not_stumbles {v : String × String} {suffix : String}
    (hset : SetsNode v suffix) (hdigits : isDigits suffix = true) (h : ¬ Stumbles v) :
    ∃ n, Numeral.readInt suffix = .ok n ∧ Overrides v n := by
  have hlength : suffix.toList.length ≤ Numeral.maxIntDigits :=
    Nat.le_of_not_lt fun hlong => h ⟨suffix, hset, hdigits, .inl hlong⟩
  have hdecimal : ∀ c ∈ suffix.toList, decimal? c ≠ none :=
    fun c hc hnone => h ⟨suffix, hset, hdigits, .inr ⟨c, hc, hnone⟩⟩
  have hne : suffix.toList ≠ [] := by
    rintro hnil
    rw [isDigits, String.isEmpty_iff.mpr (String.toList_eq_nil_iff.mp hnil)] at hdigits
    cases hdigits
  obtain ⟨n, hn⟩ := Numeral.exists_denotes_iff.mpr ⟨hne, hdecimal⟩
  exact ⟨n, (Numeral.readInt_eq_ok_iff_of_isDigits hdigits n).mpr ⟨hlength, n, hn, rfl⟩,
    suffix, hset, n, hn, rfl⟩

/-- `readInt` does not read a suffix that stumbles. -/
private theorem exists_error_of_stumbles {v : String × String} (h : Stumbles v) :
    ∃ suffix e, SetsNode v suffix ∧ isDigits suffix = true ∧
      Numeral.readInt suffix = .error e := by
  obtain ⟨suffix, hset, hdigits, hbad⟩ := h
  cases hread : Numeral.readInt suffix with
  | error e => exact ⟨suffix, e, hset, hdigits, hread⟩
  | ok i =>
    obtain ⟨hlength, n, hn, -⟩ := (Numeral.readInt_eq_ok_iff_of_isDigits hdigits i).mp hread
    rcases hbad with hlong | ⟨c, hc, hnone⟩
    · omega
    · exact absurd hnone ((Numeral.exists_denotes_iff.mp ⟨n, hn⟩).2 c hc)

/-- A variable `Overrides` one chain at most. -/
theorem Overrides.unique {v : String × String} {m n : Int} (hm : Overrides v m)
    (hn : Overrides v n) : m = n := by
  obtain ⟨suffix, hset, k, hk, rfl⟩ := hm
  obtain ⟨suffix', hset', k', hk', rfl⟩ := hn
  rw [← hset'.drop_eq, hset.drop_eq] at hk'
  rw [hk.unique hk']

/-- What a variable does to the nodes set so far: it sets one for the chain that it `Overrides`, or
it `Stumbles` and stops the reading, or it does nothing. -/
theorem step_cases (v : String × String) :
    (∃ n, Overrides v n ∧ ¬ Stumbles v ∧
      ∀ urls env, rpcUrlsFrom urls (v :: env) = rpcUrlsFrom (setUrl urls n v.2) env) ∨
    (Stumbles v ∧ ∃ suffix e, SetsNode v suffix ∧ Numeral.readInt suffix = .error e ∧
      ∀ urls env, rpcUrlsFrom urls (v :: env) = .error (.fault .value (e.message suffix))) ∨
    ((∀ n, ¬ Overrides v n) ∧ ¬ Stumbles v ∧
      ∀ urls env, rpcUrlsFrom urls (v :: env) = rpcUrlsFrom urls env) := by
  obtain ⟨name, value⟩ := v
  -- What stumbles passes the guard as well, so this comes first.
  by_cases hstumbles : Stumbles (name, value)
  · obtain ⟨suffix, e, hset, hdigits, hread⟩ := exists_error_of_stumbles hstumbles
    refine .inr (.inl ⟨hstumbles, suffix, e, hset, hread, fun urls env => ?_⟩)
    rw [rpcUrlsFrom, if_pos (guard_iff.mpr ⟨suffix, hset, hdigits⟩), hset.drop_eq, hread]
  · by_cases hguard : ∃ suffix, SetsNode (name, value) suffix ∧ isDigits suffix = true
    · obtain ⟨suffix, hset, hdigits⟩ := hguard
      obtain ⟨n, hread, hn⟩ := exists_readInt_of_not_stumbles hset hdigits hstumbles
      refine .inl ⟨n, hn, hstumbles, fun urls env => ?_⟩
      rw [rpcUrlsFrom, if_pos (guard_iff.mpr ⟨suffix, hset, hdigits⟩), hset.drop_eq, hread]
    · refine .inr (.inr ⟨fun n hn => ?_, hstumbles, fun urls env => ?_⟩)
      · obtain ⟨suffix, hset, k, hk, -⟩ := hn
        exact hguard ⟨suffix, hset, hk.isDigits⟩
      · rw [rpcUrlsFrom, if_neg (mt guard_iff.mp hguard)]

/-! ## All variables -/

/-- The node for a chain in a list of nodes. -/
def node? (urls : List (Int × String)) (chainId : Int) : Option String :=
  (urls.find? (·.1 == chainId)).map (·.2)

/-- A later setting by `setUrl` replaces an earlier one, and leaves those of other chains. -/
theorem node?_setUrl (urls : List (Int × String)) (chainId : Int) (url : String) (n : Int) :
    node? (setUrl urls chainId url) n = if n = chainId then some url else node? urls n := by
  rw [setUrl]
  split
  -- Either the chain has a node that is replaced in its place, or it gets one at the end.
  next hany =>
    -- A replaced node keeps its chain, so it is found where the old one was.
    have hkey : ((fun u : Int × String => u.1 == n) ∘
        fun u : Int × String => if u.1 = chainId then (chainId, url) else u) =
          fun u : Int × String => u.1 == n := by
      funext u
      by_cases hu : u.1 = chainId <;> simp [hu]
    rw [node?, List.find?_map, hkey, node?]
    split
    next hn =>
      subst hn
      obtain ⟨u, hu⟩ :=
        Option.isSome_iff_exists.mp (List.find?_isSome.mpr (List.any_eq_true.mp hany))
      -- A node that was there is the one that is replaced.
      have hkeyed : u.1 = n := by simpa using List.find?_some hu
      rw [hu, Option.map_some, Option.map_some, if_pos hkeyed]
    next hn =>
      cases hfind : urls.find? (·.1 == n) with
      | none => rfl
      | some u =>
        have hkeyed : u.1 = n := by simpa using List.find?_some hfind
        rw [Option.map_some, Option.map_some, if_neg (by rw [hkeyed]; exact hn), Option.map_some]
  next hany =>
    rw [node?, List.find?_append, node?]
    split
    next hn =>
      subst hn
      -- A node that was not there is found at the end.
      have hnone : urls.find? (·.1 == n) = none :=
        List.find?_eq_none.mpr fun u hu hkey => hany (List.any_eq_true.mpr ⟨u, hu, hkey⟩)
      rw [hnone]
      simp
    next hn => simp [Ne.symm hn]

/-- After `rpcUrlsFrom` a chain has the node of the last variable that overrides it, or else the
node that it had before. -/
theorem node_of_rpcUrlsFrom {urls urls' : List (Int × String)} {env : Environment}
    (h : rpcUrlsFrom urls env = .ok urls') (n : Int) :
    (∃ before v after, env = before ++ v :: after ∧ Overrides v n ∧
      (∀ w ∈ after, ¬ Overrides w n) ∧ node? urls' n = some v.2) ∨
    ((∀ v ∈ env, ¬ Overrides v n) ∧ node? urls' n = node? urls n) := by
  -- The nodes set so far change on the way, so they are left open.
  induction env generalizing urls with
  | nil =>
    cases h
    exact .inr ⟨List.forall_mem_nil _, rfl⟩
  | cons v env ih =>
    obtain ⟨k, hk, -, hstep⟩ | ⟨-, _, _, -, -, hstep⟩ | ⟨hnone, -, hstep⟩ := step_cases v
    · rw [hstep] at h
      obtain ⟨before, w, after, rfl, hw⟩ | ⟨hrest, hnode⟩ := ih h
      · exact .inl ⟨v :: before, w, after, rfl, hw⟩
      · -- No later variable overrides the chain, so this one is the last if it does.
        rw [node?_setUrl] at hnode
        split at hnode
        next hn => exact .inl ⟨[], v, env, rfl, hn ▸ hk, hrest, hnode⟩
        next hn =>
          exact .inr ⟨List.forall_mem_cons.mpr ⟨fun hv => hn (hv.unique hk), hrest⟩, hnode⟩
    · rw [hstep] at h
      cases h
    · rw [hstep] at h
      obtain ⟨before, w, after, rfl, hw⟩ | ⟨hrest, hnode⟩ := ih h
      · exact .inl ⟨v :: before, w, after, rfl, hw⟩
      · exact .inr ⟨List.forall_mem_cons.mpr ⟨hnone n, hrest⟩, hnode⟩

/-- `rpcUrlsFrom` reads the nodes where no variable stumbles. -/
theorem rpcUrlsFrom_of_not_stumbles {env : Environment} (h : ∀ v ∈ env, ¬ Stumbles v)
    (urls : List (Int × String)) : ∃ urls', rpcUrlsFrom urls env = .ok urls' := by
  induction env generalizing urls with
  | nil => exact ⟨urls, rfl⟩
  | cons v env ih =>
    obtain ⟨hv, henv⟩ := List.forall_mem_cons.mp h
    obtain ⟨k, -, -, hstep⟩ | ⟨hstumbles, -⟩ | ⟨-, -, hstep⟩ := step_cases v
    · rw [hstep]
      exact ih henv _
    · exact absurd hstumbles hv
    · rw [hstep]
      exact ih henv _

/-- A variable that stumbles stops `rpcUrlsFrom`, which fails with the refusal of such a suffix. -/
theorem rpcUrlsFrom_of_stumbles {env : Environment} (h : ∃ v ∈ env, Stumbles v)
    (urls : List (Int × String)) :
    ∃ v ∈ env, ∃ suffix e, SetsNode v suffix ∧ Numeral.readInt suffix = .error e ∧
      rpcUrlsFrom urls env = .error (.fault .value (e.message suffix)) := by
  induction env generalizing urls with
  | nil => exact absurd h (by simp)
  | cons v env ih =>
    -- Where the first variable does not stumble, one behind it does.
    have hlater {urls' : List (Int × String)} (hv : ¬ Stumbles v)
        (hstep : rpcUrlsFrom urls (v :: env) = rpcUrlsFrom urls' env) :
        ∃ w ∈ v :: env, ∃ suffix e, SetsNode w suffix ∧ Numeral.readInt suffix = .error e ∧
          rpcUrlsFrom urls (v :: env) = .error (.fault .value (e.message suffix)) := by
      obtain ⟨u, hu, hstumbles⟩ := h
      have hmem : u ∈ env := (List.mem_cons.mp hu).resolve_left fun heq => hv (heq ▸ hstumbles)
      obtain ⟨w, hw, hrest⟩ := ih ⟨u, hmem, hstumbles⟩ urls'
      rw [hstep]
      exact ⟨w, List.mem_cons_of_mem _ hw, hrest⟩
    obtain ⟨k, -, hv, hstep⟩ | ⟨-, suffix, e, hset, hread, hstep⟩ | ⟨-, hv, hstep⟩ := step_cases v
    · exact hlater hv (hstep urls env)
    · exact ⟨v, List.mem_cons_self, suffix, e, hset, hread, hstep urls env⟩
    · exact hlater hv (hstep urls env)

/-! ## The settings -/

/-- The variables that hold integers. -/
def integerNames : List String :=
  ["DEFAULT_CHAIN_ID", "MAX_CONCURRENT_CHAINS", "HOLDER_SAMPLE_SIZE", "CACHE_MAX_ENTRIES"]

/-- The variables that hold real numbers. -/
def realNames : List String :=
  ["CALL_TIMEOUT_SECONDS", "CHAIN_TIMEOUT_SECONDS", "CACHE_TTL_SECONDS"]

/-- The settings that are numbers are absent or can be read. -/
structure HasNumbers (env : Environment) : Prop where
  integers : ∀ name ∈ integerNames, ∀ s, settingOf? env name = some s →
    ∃ n, Numeral.readInt s = .ok n
  reals : ∀ name ∈ realNames, ∀ s, settingOf? env name = some s →
    ∃ x, Numeral.readReal s = some x

/-- An integer that is absent or can be read is a value to `intSetting`. -/
private theorem HasNumbers.intSetting {env : Environment} (h : HasNumbers env) {name : String}
    (hname : name ∈ integerNames) (default : Int) :
    ∃ n, Config.intSetting env name default = .ok n := by
  rw [Config.intSetting]
  cases hs : settingOf? env name with
  | none => exact ⟨default, rfl⟩
  | some s =>
    obtain ⟨n, hn⟩ := h.integers name hname s hs
    exact ⟨n, by simp only [hn]⟩

/-- A real number that is absent or can be read is a value to `realSetting`. -/
private theorem HasNumbers.realSetting {env : Environment} (h : HasNumbers env) {name : String}
    (hname : name ∈ realNames) (default : Binary64) :
    ∃ x, Config.realSetting env name default = .ok x := by
  rw [Config.realSetting]
  cases hs : settingOf? env name with
  | none => exact ⟨default, rfl⟩
  | some s =>
    obtain ⟨x, hx⟩ := h.reals name hname s hs
    exact ⟨x, by simp only [hx]⟩

/-- With numbers that can be read `ofEnvironment` reads the settings if the nodes are read. -/
private theorem HasNumbers.ofEnvironment {env : Environment} (h : HasNumbers env)
    {urls : List (Int × String)} (hurls : rpcUrlsFrom [] env = .ok urls) :
    ∃ config, Config.ofEnvironment env = .ok config := by
  -- Each setting that is read as a number has a name in one of the two lists.
  obtain ⟨chain, hchain⟩ := h.intSetting (show "DEFAULT_CHAIN_ID" ∈ integerNames by decide) 1
  obtain ⟨slots, hslots⟩ := h.intSetting (show "MAX_CONCURRENT_CHAINS" ∈ integerNames by decide) 8
  obtain ⟨sample, hsample⟩ := h.intSetting (show "HOLDER_SAMPLE_SIZE" ∈ integerNames by decide) 10
  obtain ⟨entries, hentries⟩ :=
    h.intSetting (show "CACHE_MAX_ENTRIES" ∈ integerNames by decide) 1024
  obtain ⟨call, hcall⟩ :=
    h.realSetting (show "CALL_TIMEOUT_SECONDS" ∈ realNames by decide) (.ofInt 30)
  obtain ⟨limit, hlimit⟩ :=
    h.realSetting (show "CHAIN_TIMEOUT_SECONDS" ∈ realNames by decide) (.ofInt 90)
  obtain ⟨ttl, httl⟩ :=
    h.realSetting (show "CACHE_TTL_SECONDS" ∈ realNames by decide) (.ofInt 3600)
  simp only [Config.ofEnvironment, hurls, hchain, hslots, hsample, hentries, hcall, hlimit, httl]
  exact ⟨_, rfl⟩

/-- The nodes of settings that `ofEnvironment` read. -/
private theorem rpcUrlsFrom_of_ofEnvironment {env : Environment} {config : Config}
    (h : ofEnvironment env = .ok config) : rpcUrlsFrom [] env = .ok config.rpcUrls := by
  obtain ⟨urls, hurls, h⟩ := Except.bind_eq_ok_iff.mp h
  obtain ⟨_, _, h⟩ := Except.bind_eq_ok_iff.mp h
  obtain ⟨_, _, h⟩ := Except.bind_eq_ok_iff.mp h
  obtain ⟨_, _, h⟩ := Except.bind_eq_ok_iff.mp h
  obtain ⟨_, _, h⟩ := Except.bind_eq_ok_iff.mp h
  obtain ⟨_, _, h⟩ := Except.bind_eq_ok_iff.mp h
  obtain ⟨_, _, h⟩ := Except.bind_eq_ok_iff.mp h
  obtain ⟨_, _, h⟩ := Except.bind_eq_ok_iff.mp h
  cases h
  exact hurls

/-- `rpcUrl?` of a chain is the node in the list, else the public one. -/
private theorem rpcUrl?_eq (config : Config) (chainId : Int) :
    config.rpcUrl? chainId =
      (node? config.rpcUrls chainId).or ((Chain.find? chainId).map Chain.rpcUrl) := by
  rw [rpcUrl?, node?]
  cases config.rpcUrls.find? (·.1 == chainId) <;> rfl

/-- `rpcUrlsFrom` passes a variable without a node over. -/
private theorem rpcUrlsFrom_of_ignored {v : String × String}
    (hv : ¬ ∃ suffix, SetsNode v suffix ∧ isDigits suffix = true) (urls : List (Int × String))
    (before after : Environment) :
    rpcUrlsFrom urls (before ++ v :: after) = rpcUrlsFrom urls (before ++ after) := by
  induction before generalizing urls with
  | nil => rw [List.nil_append, rpcUrlsFrom, if_neg (mt guard_iff.mp hv), List.nil_append]
  | cons w before ih => simp only [List.cons_append, rpcUrlsFrom, ih]

/-- `ofEnvironment` makes the same of an environment without a variable that is none of the settings
and sets no node. -/
private theorem ofEnvironment_of_ignored {v : String × String} {suffix : String}
    (hname : v.1 = rpcUrlStart ++ suffix) (hv : v.2 = "" ∨ isDigits suffix = false)
    (before after : Environment) :
    ofEnvironment (before ++ v :: after) = ofEnvironment (before ++ after) := by
  -- The variable is empty, or its name does not end in digits.
  have hguard : ¬ ∃ suffix, SetsNode v suffix ∧ isDigits suffix = true := by
    rintro ⟨suffix', hset, hdigits⟩
    rcases hv with hempty | hother
    · exact hset.2 hempty
    · have hsame : SetsNode v suffix := ⟨hname, hset.2⟩
      rw [← hset.drop_eq, hsame.drop_eq, hother] at hdigits
      cases hdigits
  -- No other setting has a name that starts like this one.
  have hsetting {name : String} (hother : startsWith name rpcUrlStart = false) :
      settingOf? (before ++ v :: after) name = settingOf? (before ++ after) name := by
    have hne : v.1 ≠ name := by
      rintro rfl
      have hstart : startsWith v.1 rpcUrlStart = true := by
        rw [startsWith, hname, String.toList_append, List.isPrefixOf_iff_prefix]
        exact List.prefix_append _ _
      rw [hstart] at hother
      cases hother
    simp only [settingOf?, List.findSome?_append, List.findSome?_cons, if_neg hne]
  simp (disch := decide) only [ofEnvironment, rpcUrlsFrom_of_ignored hguard, intSetting,
    realSetting, boolSetting, hsetting]

/-! ## What the variables come to -/

/-- What the variables that set nodes come to, in an environment whose other numbers can be read. -/
structure TakesOverrides (env : Environment) : Prop where
  /-- The settings are read exactly if no variable stumbles. -/
  returns_iff : (∃ config, ofEnvironment env = .ok config) ↔ ∀ v ∈ env, ¬ Stumbles v
  /-- Otherwise the reading stops with the refusal of a suffix as an integer. -/
  refused : (∃ v ∈ env, Stumbles v) → ∃ v ∈ env, ∃ suffix e, SetsNode v suffix ∧
    Numeral.readInt suffix = .error e ∧
      ofEnvironment env = .error (.fault .value (e.message suffix))
  /-- A chain that variables override has the node of the last of them. -/
  overridden : ∀ config, ofEnvironment env = .ok config → ∀ v ∈ env, ∀ chainId,
    Overrides v chainId → ∃ before w after, env = before ++ w :: after ∧ Overrides w chainId ∧
      (∀ u ∈ after, ¬ Overrides u chainId) ∧ config.rpcUrl? chainId = some w.2
  /-- Any other chain has its public node, if it has one. -/
  untouched : ∀ config, ofEnvironment env = .ok config → ∀ chainId,
    (∀ v ∈ env, ¬ Overrides v chainId) →
      config.rpcUrl? chainId = (Chain.find? chainId).map Chain.rpcUrl
  /-- A chain is overridden by its number in decimal. -/
  spelled : ∀ (n : Nat) (url : String), url ≠ "" → Overrides (rpcUrlStart ++ toString n, url) n
  /-- A variable without a node, or with a suffix of other characters, changes nothing. -/
  ignored : ∀ before v after, env = before ++ v :: after → ∀ suffix, v.1 = rpcUrlStart ++ suffix →
    (v.2 = "" ∨ isDigits suffix = false) → ofEnvironment env = ofEnvironment (before ++ after)

/-- The variables that set nodes stop `ofEnvironment` exactly if one of them stumbles; otherwise the
last one for each chain counts. -/
theorem takesOverrides {env : Environment} (h : HasNumbers env) : TakesOverrides env where
  returns_iff := by
    constructor
    · -- A variable that stumbles ends the reading of the nodes, so it would have ended this one.
      rintro ⟨config, hconfig⟩ v hv hstumbles
      obtain ⟨_, -, _, _, -, -, herror⟩ := rpcUrlsFrom_of_stumbles ⟨v, hv, hstumbles⟩ []
      rw [rpcUrlsFrom_of_ofEnvironment hconfig] at herror
      cases herror
    · intro hnone
      obtain ⟨urls, hurls⟩ := rpcUrlsFrom_of_not_stumbles hnone []
      exact h.ofEnvironment hurls
  refused hstumbles := by
    obtain ⟨v, hv, suffix, e, hset, hread, herror⟩ := rpcUrlsFrom_of_stumbles hstumbles []
    refine ⟨v, hv, suffix, e, hset, hread, ?_⟩
    rw [ofEnvironment, herror]
    rfl
  overridden config hconfig v hv chainId hover := by
    rw [rpcUrl?_eq]
    -- The last variable for the chain decides, whatever stands before it.
    obtain ⟨before, w, after, henv, hw, hlast, hnode⟩ | ⟨hnone, -⟩ :=
      node_of_rpcUrlsFrom (rpcUrlsFrom_of_ofEnvironment hconfig) chainId
    · exact ⟨before, w, after, henv, hw, hlast, by rw [hnode, Option.some_or]⟩
    · exact absurd hover (hnone v hv)
  untouched config hconfig chainId hnone := by
    rw [rpcUrl?_eq]
    obtain ⟨before, w, after, rfl, hw, -⟩ | ⟨-, hnode⟩ :=
      node_of_rpcUrlsFrom (rpcUrlsFrom_of_ofEnvironment hconfig) chainId
    · -- No variable is for the chain, so its node is a default.
      exact absurd hw (hnone w (List.mem_append_right _ List.mem_cons_self))
    · rw [hnode]
      rfl
  spelled n url hurl := by
    refine ⟨toString n, ⟨rfl, hurl⟩, n, ?_, rfl⟩
    rw [show (toString n).toList = Nat.toDigits 10 n from Nat.toList_repr]
    exact Numeral.denotes_toDigits n
  ignored before v after henv suffix hname hv := by
    rw [henv]
    exact ofEnvironment_of_ignored hname hv before after

/-- A superscript two is a digit character and no integer, and it stops `ofEnvironment`. -/
theorem superscript_stops_reading :
    HasNumbers [("RPC_URL_²", "x")] ∧
      ¬ ∃ config, ofEnvironment [("RPC_URL_²", "x")] = .ok config := by
  -- The environment holds no number, so what is left is the variable itself.
  have hnone : ∀ name ∈ integerNames ++ realNames,
      settingOf? [("RPC_URL_²", "x")] name = none := by decide +kernel
  have hnumbers : HasNumbers [("RPC_URL_²", "x")] := by
    constructor
    · intro name hname s hs
      rw [hnone name (List.mem_append_left _ hname)] at hs
      cases hs
    · intro name hname s hs
      rw [hnone name (List.mem_append_right _ hname)] at hs
      cases hs
  have hstumbles : Stumbles ("RPC_URL_²", "x") :=
    ⟨"²", ⟨by decide +kernel, by decide⟩, by decide +kernel,
      .inr ⟨'²', by decide, by decide +kernel⟩⟩
  refine ⟨hnumbers, fun hreturns => ?_⟩
  exact (takesOverrides hnumbers).returns_iff.mp hreturns _ (List.mem_singleton_self _) hstumbles

end TokenRisk.Config
