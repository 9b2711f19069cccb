import TokenRisk.Proofs.Answers
import TokenRisk.Proofs.Hex

/-!
# The contract behind a minimal proxy

A minimal proxy carries the address that it forwards to in its code, between `implementationStart`
and `implementationEnd`. The address is looked for from the left, so it is the first one that stands
between the two, whatever else the code holds: the digits of an address may look like either of
them, and more code may follow. The address in the code goes before whatever an explorer reports.

## Key results

- `Ownership.implementationAt?_eq_some_iff`: when an address stands at the start of a code
- `Ownership.findImplementation?_eq_some_iff`: which address is found
- `Ownership.isMinimalProxy_iff_hasFingerprint`: which codes look like a minimal proxy
- `Ownership.trampoline_is_resolved`: what a trampoline is assessed as, and what is found in a code
-/

namespace TokenRisk.Ownership

/-! ## Trampolines -/

/-- The digits of an address, in lower case. -/
structure IsTarget (x : List Char) : Prop where
  length : x.length = 40
  isLowerHexDigit : ∀ c ∈ x, isLowerHexDigit c = true

/-- The code that forwards to an address: its digits between `implementationStart` and
`implementationEnd`. -/
def trampolineTo (x : List Char) : List Char :=
  implementationStart.toList ++ x ++ implementationEnd.toList

/-- A code holds one of the `proxyFingerprints`. -/
def HasFingerprint (code : String) : Prop :=
  ∃ f ∈ proxyFingerprints, f.toList <:+: code.toList

/-- `isMinimalProxy` holds exactly of a code with a fingerprint. -/
theorem isMinimalProxy_iff_hasFingerprint (code : String) :
    isMinimalProxy code = true ↔ HasFingerprint code := by
  rw [isMinimalProxy, List.any_eq_true]
  exact exists_congr fun f => and_congr_right fun _ => Text.occurs_iff

/-- `isMinimalProxy` holds of a code with a trampoline in it. -/
theorem isMinimalProxy_of_trampolineTo {code : String} {x : List Char}
    (h : trampolineTo x <:+: code.toList) : isMinimalProxy code = true := by
  -- `implementationStart` is a fingerprint.
  have hmark : implementationStart.toList <:+: trampolineTo x :=
    ⟨[], x ++ implementationEnd.toList, by simp [trampolineTo]⟩
  rw [isMinimalProxy_iff_hasFingerprint]
  exact ⟨implementationStart, by decide, hmark.trans h⟩

/-! ## The search -/

/-- What is behind `implementationStart`. -/
private theorem drop_mark (rest : List Char) :
    (implementationStart.toList ++ rest).drop implementationStart.length = rest :=
  List.drop_left' (by decide)

/-- `implementationAt?` reads an address exactly where a code starts with its trampoline. -/
theorem implementationAt?_eq_some_iff (l x : List Char) :
    implementationAt? l = some x ↔ IsTarget x ∧ trampolineTo x <+: l := by
  constructor
  · intro h
    rw [implementationAt?] at h
    split at h
    · rename_i hfound
      obtain ⟨hstart, hlength, hdigits, hend⟩ := hfound
      obtain ⟨rest, rfl⟩ := List.isPrefixOf_iff_prefix.mp hstart
      rw [drop_mark] at h hlength hdigits hend
      obtain ⟨more, hmore⟩ := List.isPrefixOf_iff_prefix.mp hend
      cases h
      refine ⟨⟨hlength, List.all_eq_true.mp hdigits⟩, more, ?_⟩
      -- Behind `implementationStart` are forty digits, and behind these is `implementationEnd`.
      rw [trampolineTo, List.append_assoc, List.append_assoc, hmore, List.take_append_drop]
    · cases h
  · rintro ⟨hx, more, rfl⟩
    have hall : x.all isLowerHexDigit = true := List.all_eq_true.mpr hx.isLowerHexDigit
    rw [implementationAt?, trampolineTo, List.append_assoc, List.append_assoc, drop_mark,
      List.take_left' hx.length, List.drop_left' hx.length]
    refine if_pos ⟨?_, hx.length, hall, ?_⟩
    · exact List.isPrefixOf_iff_prefix.mpr (List.prefix_append _ _)
    · exact List.isPrefixOf_iff_prefix.mpr (List.prefix_append _ _)

/-- The trampoline to `x` stands behind `n` digits of the code `l`. -/
structure StandsAt (n : Nat) (x l : List Char) : Prop where
  isTarget : IsTarget x
  isPrefix : trampolineTo x <+: l.drop n

/-- A trampoline that `StandsAt` a place further on in a code is one of the code without its first
digit. -/
private theorem standsAt_succ_iff (n : Nat) (x : List Char) (c : Char) (l : List Char) :
    StandsAt (n + 1) x (c :: l) ↔ StandsAt n x l :=
  ⟨fun h => ⟨h.isTarget, h.isPrefix⟩, fun h => ⟨h.isTarget, h.isPrefix⟩⟩

/-- `findImplementation?` has the address whose trampoline stands in the code and none further
left. -/
theorem findImplementation?_eq_some_iff (l x : List Char) :
    findImplementation? l = some x ↔
      ∃ n, StandsAt n x l ∧ ∀ m < n, ∀ y, ¬ StandsAt m y l := by
  induction l with
  | nil =>
    -- No trampoline is empty.
    constructor
    · intro h
      cases h
    · rintro ⟨n, h, _⟩
      have hnil := h.isPrefix
      rw [List.drop_nil, List.prefix_nil] at hnil
      cases hnil
  | cons c l ih =>
    have hhere (y : List Char) : implementationAt? (c :: l) = some y ↔ StandsAt 0 y (c :: l) :=
      (implementationAt?_eq_some_iff _ _).trans ⟨fun h => ⟨h.1, h.2⟩, fun h => ⟨h.1, h.2⟩⟩
    rw [findImplementation?]
    cases hfound : implementationAt? (c :: l) with
    | some y =>
      -- A trampoline at the start is the leftmost one, whatever comes later.
      have hy := (hhere y).mp hfound
      rw [Option.some_or, Option.some_inj]
      constructor
      · rintro rfl
        exact ⟨0, hy, fun m hm => absurd hm (Nat.not_lt_zero m)⟩
      · rintro ⟨n, hn, hfirst⟩
        cases n with
        | zero => exact Option.some.inj (hfound.symm.trans ((hhere x).mpr hn))
        | succ n => exact absurd hy (hfirst 0 (Nat.succ_pos n) y)
    | none =>
      -- Without one at the start, all trampolines are in the rest of the code.
      have hnot (y : List Char) : ¬ StandsAt 0 y (c :: l) := by
        rw [← hhere, hfound]
        simp
      rw [Option.none_or, ih]
      constructor
      · rintro ⟨n, hn, hfirst⟩
        refine ⟨n + 1, (standsAt_succ_iff n x c l).mpr hn, fun m hm y hy => ?_⟩
        cases m with
        | zero => exact hnot y hy
        | succ m => exact hfirst m (by omega) y ((standsAt_succ_iff m y c l).mp hy)
      · rintro ⟨n, hn, hfirst⟩
        cases n with
        | zero => exact absurd hn (hnot x)
        | succ n =>
          refine ⟨n, (standsAt_succ_iff n x c l).mp hn, fun m hm y hy => ?_⟩
          exact hfirst (m + 1) (by omega) y ((standsAt_succ_iff m y c l).mpr hy)

/-! ## Addresses found in a code -/

/-- A digit that `isLowerHexDigit` accepts is in lower case. -/
private theorem isLower_of_isLowerHexDigit {c : Char} (h : isLowerHexDigit c = true) :
    Text.IsLower c := by
  have hle : c.toNat ≤ 'f'.toNat := by
    rw [isLowerHexDigit, Bool.or_eq_true, Bool.and_eq_true, decide_eq_true_iff,
      decide_eq_true_iff] at h
    rcases h with hdigit | ⟨_, hletter⟩
    · rw [Char.isDigit, Bool.and_eq_true, decide_eq_true_iff, decide_eq_true_iff] at hdigit
      exact Nat.le_trans hdigit.2 (by decide)
    · exact hletter
  have hascii : c.toNat < 128 := Nat.lt_of_le_of_lt hle (by decide)
  have hlower : c.toLower = c :=
    Text.forall_ascii (p := fun c => isLowerHexDigit c = true → c.toLower = c)
      (by decide +kernel) hascii h
  exact Text.isLower_of_ascii hascii hlower

/-- `Text.lower` leaves the text of an address as it is. -/
theorem lower_address {x : List Char} (hx : IsTarget x) :
    Text.lower ("0x" ++ String.ofList x) = "0x" ++ String.ofList x := by
  apply Text.lower_eq_self
  intro c hc
  have hc : c = '0' ∨ c = 'x' ∨ c ∈ x := by simpa using hc
  rcases hc with rfl | rfl | hdigit
  · exact Text.isLower_of_ascii (by decide) (by decide)
  · exact Text.isLower_of_ascii (by decide) (by decide)
  · exact isLower_of_isLowerHexDigit (hx.isLowerHexDigit c hdigit)

/-- `embeddedImplementation?` is the text of the address that `findImplementation?` has. -/
theorem embeddedImplementation?_eq_some_iff (code a : String) :
    embeddedImplementation? code = some a ↔
      ∃ x, findImplementation? code.toList = some x ∧ "0x" ++ String.ofList x = a := by
  have htext (x : List Char) :
      String.ofList ('0' :: 'x' :: x) = "0x" ++ String.ofList x := by
    apply String.toList_injective
    simp
  simp only [embeddedImplementation?, Option.map_eq_some_iff, htext]

/-- `embeddedImplementation?` reads the address of a trampoline at the start, whatever follows. -/
theorem embeddedImplementation?_of_trampolineTo {code : String} {x t : List Char}
    (hx : IsTarget x) (hcode : code.toList = trampolineTo x ++ t) :
    embeddedImplementation? code = some ("0x" ++ String.ofList x) := by
  rw [embeddedImplementation?_eq_some_iff]
  refine ⟨x, ?_, rfl⟩
  rw [hcode, findImplementation?_eq_some_iff]
  -- Nothing stands further left than at the start.
  exact ⟨0, ⟨hx, List.prefix_append _ _⟩, fun m hm => absurd hm (Nat.not_lt_zero m)⟩

/-- An address that `embeddedImplementation?` reads has its trampoline in the code. -/
theorem exists_trampolineTo_of_embedded {code a : String}
    (h : embeddedImplementation? code = some a) :
    ∃ x, IsTarget x ∧ a = "0x" ++ String.ofList x ∧ trampolineTo x <:+: code.toList := by
  obtain ⟨x, hfound, rfl⟩ := (embeddedImplementation?_eq_some_iff code a).mp h
  obtain ⟨n, hn, _⟩ := (findImplementation?_eq_some_iff _ x).mp hfound
  exact ⟨x, hn.isTarget, rfl, hn.isPrefix.isInfix.trans (List.drop_suffix n _).isInfix⟩

/-! ## The assessment -/

/-- What is `behind` a contract whose code starts with a trampoline is its address, whatever the
explorer reports. -/
private theorem behind_of_trampolineTo {contract : Contract} {x t : List Char} (hx : IsTarget x)
    (hcode : contract.codeHex.toList = trampolineTo x ++ t) :
    behind contract = .ok (some ("0x" ++ String.ofList x)) := by
  rw [behind, embeddedImplementation?_of_trampolineTo hx hcode]
  exact congrArg (fun a => Except.ok (some a)) (lower_address hx)

/-- A contract whose code starts with the trampoline to an address, in any letter case and behind
any prefix, is assessed by `assess` as a proxy of that address, whatever follows in the code and
whatever is reported. And an address that `embeddedImplementation?` reads has its trampoline in the
code, of which `isMinimalProxy` holds. -/
theorem trampoline_is_resolved :
    (∀ (contract : Contract) (creator label : Json) (l x t : List Char), IsTarget x →
      Bytecode.HasDigits contract.bytecode l → l.map Char.toLower = trampolineTo x ++ t →
      creator.IsTextIfAny → label.IsTextIfAny →
      ∃ o, assess contract creator label = .ok o ∧ o.isProxy = true ∧
        o.implementation = some ("0x" ++ String.ofList x)) ∧
    ∀ code a, embeddedImplementation? code = some a →
      ∃ x, IsTarget x ∧ a = "0x" ++ String.ofList x ∧ trampolineTo x <:+: code.toList ∧
        isMinimalProxy code = true := by
  constructor
  · intro contract creator label l x t hx hdigits hl hcreator hlabel
    have hcode : contract.codeHex.toList = trampolineTo x ++ t :=
      (Bytecode.toList_digits hdigits).trans hl
    have hembedded := embeddedImplementation?_of_trampolineTo hx hcode
    -- The address in the code is all that is looked at, so the reported one may be anything.
    obtain ⟨o, ho⟩ := (assess_isOk_iff contract creator label).mpr
      ⟨hlabel, hcreator, fun hnone => by rw [hembedded] at hnone; cases hnone⟩
    have hassessed := isAssessed_of_ok contract creator label o ho
    refine ⟨o, ho, ?_, ?_⟩
    · -- The trampoline stands at the start of the code, and so it stands in it.
      rw [hassessed.isProxy]
      apply isMinimalProxy_of_trampolineTo (x := x)
      rw [hcode]
      exact (List.prefix_append _ _).isInfix
    · exact (Except.ok.inj ((behind_of_trampolineTo hx hcode).symm.trans
        hassessed.implementation)).symm
  · intro code a h
    obtain ⟨x, hx, ha, hin⟩ := exists_trampolineTo_of_embedded h
    exact ⟨x, hx, ha, hin, isMinimalProxy_of_trampolineTo hin⟩

/-- An address whose digits are those of `implementationStart`, twice. -/
def markLike : List Char :=
  implementationStart.toList ++ implementationStart.toList

/-- The digits of code that forwards to `markLike` in upper case, and goes on with another
trampoline. -/
def nestedDigits : List Char :=
  (trampolineTo markLike).map Char.toUpper ++ trampolineTo (List.replicate 40 'a')

/-- A contract of the code `nestedDigits`. A number is reported as its implementation. -/
def nested : Contract where
  address := "0x1111111111111111111111111111111111111111"
  chainId := 1
  bytecode := "0X" ++ String.ofList nestedDigits
  implementation := .int 5

theorem nested_trampoline_is_resolved :
    IsTarget markLike ∧ Bytecode.HasDigits nested.bytecode nestedDigits ∧
      nestedDigits.map Char.toLower =
        trampolineTo markLike ++ trampolineTo (List.replicate 40 'a') ∧
      Json.null.IsTextIfAny ∧ (Json.string "Team Safe").IsTextIfAny ∧
      (∃ o, assess nested .null (.string "Team Safe") = .ok o ∧ o.isProxy = true ∧
        o.implementation = some ("0x" ++ String.ofList markLike)) ∧
      embeddedImplementation? nested.codeHex = some ("0x" ++ String.ofList markLike) ∧
      ∃ x, IsTarget x ∧ "0x" ++ String.ofList markLike = "0x" ++ String.ofList x ∧
        trampolineTo x <:+: nested.codeHex.toList ∧ isMinimalProxy nested.codeHex = true := by
  have htarget : IsTarget markLike := ⟨by decide, List.all_eq_true.mp (by decide)⟩
  have hdigits : Bytecode.HasDigits nested.bytecode nestedDigits :=
    ⟨⟨"0X", by decide, rfl⟩, List.all_eq_true.mp (by decide +kernel)⟩
  have hcode : nestedDigits.map Char.toLower =
      trampolineTo markLike ++ trampolineTo (List.replicate 40 'a') := by decide +kernel
  have hnull : Json.null.IsTextIfAny := fun hany => by cases hany
  have hlabel : (Json.string "Team Safe").IsTextIfAny := fun _ => ⟨_, rfl⟩
  -- The first trampoline counts, although the digits of its address look like its beginning.
  have hembedded : embeddedImplementation? nested.codeHex =
      some ("0x" ++ String.ofList markLike) :=
    embeddedImplementation?_of_trampolineTo htarget ((Bytecode.toList_digits hdigits).trans hcode)
  exact ⟨htarget, hdigits, hcode, hnull, hlabel,
    trampoline_is_resolved.1 nested .null (.string "Team Safe") _ _ _ htarget hdigits hcode hnull
      hlabel,
    hembedded, trampoline_is_resolved.2 nested.codeHex _ hembedded⟩

end TokenRisk.Ownership
