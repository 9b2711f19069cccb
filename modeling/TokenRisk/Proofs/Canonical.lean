import TokenRisk.Proofs.Hex
import TokenRisk.Proofs.OncePerChain
import TokenRisk.Proofs.Trampoline
import TokenRisk.Proofs.WellFormed

/-!
# What passes for an address

An address is `0x` and forty hexadecimal digits, and its normal form has the letters among them
small. What is no address should not pass the check, so that all that sources are asked about, and
all that analyses of valid addresses name, is in normal form. The form of addresses leaves room for
one more character, though: a line break at the end. This file shows that there is no other
exception, and that this one goes all the way to the sources.

## Key results

- `Address.isAddress_iff`: which texts pass
- `Analyzer.token_of_mem_asked`: an analysis asks about the lower-case form of its address only
- `Address.keepsForm_iff`: a text that is no address with a line break after it is told for what it
  is, and leaves in normal form if it is an address
-/

namespace TokenRisk

/-! ## Forms -/

namespace Address

/-- An address with a line break after it. -/
def IsBroken (s : String) : Prop :=
  ∃ ds : List Char, (ds.length = 40 ∧ ds.all isHexDigit = true) ∧
    s.toList = '0' :: 'x' :: (ds ++ ['\n'])

/-- The normal form of addresses: `0x` and forty digits with small letters. -/
def IsNormal (s : String) : Prop :=
  ∃ ds : List Char, Ownership.IsTarget ds ∧ s.toList = '0' :: 'x' :: ds

/-- What `isAddress` lets pass is an address, up to a line break after it. -/
theorem isAddress_iff (s : String) : isAddress s = true ↔ IsCanonical s ∨ IsBroken s := by
  rw [isAddress, Option.isSome_iff_exists]
  constructor
  · rintro ⟨⟨ds, broken⟩, hread⟩
    have hform := (digits?_eq_some_iff s ds broken).mp hread
    cases broken with
    | false => exact .inl ⟨ds, hform.1, by simpa [ending] using hform.2⟩
    | true => exact .inr ⟨ds, hform.1, hform.2⟩
  · rintro (⟨ds, hds, hs⟩ | ⟨ds, hds, hs⟩)
    · exact ⟨(ds, false), (digits?_eq_some_iff s ds false).mpr ⟨hds, by simpa [ending] using hs⟩⟩
    · exact ⟨(ds, true), (digits?_eq_some_iff s ds true).mpr ⟨hds, hs⟩⟩

/-- An address has forty-two characters, and one that `IsBroken` has one more. -/
theorem IsBroken.not_isCanonical {s : String} (h : IsBroken s) : ¬ IsCanonical s := by
  obtain ⟨ds, ⟨hlength, _⟩, hs⟩ := h
  rintro ⟨ds', ⟨hlength', _⟩, hs'⟩
  -- 42 characters are not 43.
  have hlen := congrArg List.length (hs.symm.trans hs')
  simp only [List.length_cons, List.length_append, List.length_nil] at hlen
  omega

/-- A digit with its letter small is one for `isLowerHexDigit`. -/
theorem isLowerHexDigit_toLower {c : Char} (h : isHexDigit c = true) :
    Ownership.isLowerHexDigit c.toLower = true :=
  forall_isHexDigit (p := fun c => Ownership.isLowerHexDigit c.toLower = true)
    (by decide) h

/-- `Text.lower` brings what is read as an address to lower case digit by digit. -/
theorem toList_lower {s : String} {ds : List Char} (broken : Bool)
    (hdigits : ds.all isHexDigit = true) (hs : s.toList = '0' :: 'x' :: (ds ++ ending broken)) :
    (Text.lower s).toList = '0' :: 'x' :: (ds.map Char.toLower ++ ending broken) := by
  have hending : (ending broken).map Char.toLower = ending broken := by
    cases broken <;> decide
  -- All of its characters are in ASCII, where each is brought to lower case by itself.
  have hascii : ∀ c ∈ s.toList, c.toNat < 128 := by
    intro c hc
    rw [hs, List.mem_cons, List.mem_cons, List.mem_append] at hc
    rcases hc with rfl | rfl | hdigit | hbreak
    · decide
    · decide
    · exact toNat_lt_of_isHexDigit (List.all_eq_true.mp hdigits c hdigit)
    · -- The line break is the only other character.
      cases broken with
      | false => cases hbreak
      | true =>
        obtain rfl := List.mem_singleton.mp hbreak
        decide
  rw [Text.lower, String.toList_ofList, Text.lowerAfter_of_ascii false _ hascii, hs]
  simp only [List.map_cons, List.map_append, hending]
  rfl

/-- `Text.lower` makes the normal form of an address. -/
theorem IsCanonical.isNormal_lower {s : String} (h : IsCanonical s) :
    IsNormal (Text.lower s) := by
  obtain ⟨ds, ⟨hlength, hdigits⟩, hs⟩ := h
  refine ⟨ds.map Char.toLower, ⟨by rw [List.length_map, hlength], ?_⟩, ?_⟩
  · intro c hc
    obtain ⟨d, hd, rfl⟩ := List.mem_map.mp hc
    exact isLowerHexDigit_toLower (List.all_eq_true.mp hdigits d hd)
  · simpa [ending] using toList_lower false hdigits (by simpa [ending] using hs)

/-- `Text.lower` leaves the line break behind an address. -/
theorem IsBroken.not_isNormal_lower {s : String} (h : IsBroken s) :
    ¬ IsNormal (Text.lower s) := by
  obtain ⟨ds, ⟨hlength, hdigits⟩, hs⟩ := h
  rintro ⟨ds', htarget, hs'⟩
  have hlen := congrArg List.length ((toList_lower true hdigits hs).symm.trans hs')
  simp only [ending, ↓reduceIte, List.length_cons, List.length_append, List.length_map,
    List.length_nil, htarget.length] at hlen
  omega

end Address

/-! ## What an analysis asks about -/

/-- The token that a call is about. A label is that of a creator, and not of a token. -/
def Call.token? : Call → Option String
  | .code address _ => some address
  | .source address _ => some address
  | .holders address _ _ => some address
  | .creation address _ => some address
  | .label _ _ => none

namespace Analyzer

variable (a : Analyzer) {k : Call} {token : String}

private theorem token_of_mem_fetch {address : String} {chainId : Int}
    (hk : k ∈ (a.fetch address chainId).asked) (htoken : k.token? = some token) :
    token = address := by
  rw [fetch, Timed.asked_map, Timed.asked_both, Timed.asked_map, Timed.asked_map] at hk
  rcases List.mem_append.mp hk with hk | hk
  · rw [mem_asked_awaitWithin _ _ _ _ k hk] at htoken
    exact (Option.some.inj htoken).symm
  · rw [mem_asked_awaitWithin _ _ _ _ k hk] at htoken
    exact (Option.some.inj htoken).symm

private theorem token_of_mem_creatorLabel {creator : Json} {chainId : Int}
    (hk : k ∈ (a.creatorLabel creator chainId).asked) : k.token? = none := by
  cases creator with
  | string address =>
    simp only [creatorLabel] at hk
    split at hk
    · cases hk
    · rw [Timed.asked_map] at hk
      rw [mem_asked_awaitWithin _ _ _ _ k hk]
      rfl
  | _ =>
    simp only [creatorLabel] at hk
    split at hk <;> cases hk

private theorem token_of_mem_parts {contract : Contract} (hk : k ∈ (a.parts contract).asked)
    (htoken : k.token? = some token) : token = contract.address := by
  rw [asked_parts] at hk
  rcases List.mem_append.mp hk with hk | hk
  · rw [ownership, Timed.asked_bind] at hk
    rcases List.mem_append.mp hk with hk | hk
    · rw [mem_asked_awaitWithin _ _ _ _ k hk] at htoken
      exact (Option.some.inj htoken).symm
    · -- What follows on a creation is a question about its creator.
      split at hk
      · split at hk <;> cases hk
      · cases hk
      · rw [a.token_of_mem_creatorLabel hk] at htoken
        cases htoken
  · rw [holders, Timed.asked_map] at hk
    rw [mem_asked_awaitWithin _ _ _ _ k hk] at htoken
    exact (Option.some.inj htoken).symm

private theorem token_of_mem_analyzeValid {address : String} {chainId : Int}
    {notes : List String} (hk : k ∈ (a.analyzeValid address chainId notes).asked)
    (htoken : k.token? = some token) : token = address := by
  rw [analyzeValid, Timed.asked_bind] at hk
  rcases List.mem_append.mp hk with hk | hk
  · exact a.token_of_mem_fetch hk htoken
  · cases hfetch : (a.fetch address chainId).value with
    | error f =>
      rw [hfetch] at hk
      cases hk
    | ok fetched =>
      -- The contract that was fetched is the one at the address.
      obtain ⟨_, rfl⟩ := (a.value_fetch_eq_ok_iff address chainId fetched).mp hfetch
      rw [hfetch] at hk
      simp only [] at hk
      split at hk
      · cases hk
      · split at hk
        · cases hk
        · exact a.token_of_mem_parts hk htoken

/-- `analyze` asks about the lower-case form of its address, and about no other token. -/
theorem token_of_mem_asked {address : Option String} {chainId : Int}
    (hk : k ∈ (a.analyze address chainId).asked) (htoken : k.token? = some token) :
    token = Text.lower (address.getD "") := by
  by_cases hstarts : a.StartsOn address chainId
  · obtain ⟨notes, hanalyze⟩ := a.analyze_of_startsOn address chainId hstarts
    rw [hanalyze, Timed.asked_map] at hk
    exact a.token_of_mem_analyzeValid hk htoken
  · obtain ⟨x, hanalyze⟩ := a.analyze_of_not_startsOn address chainId hstarts
    rw [hanalyze] at hk
    cases hk

end Analyzer

/-! ## Texts that are told for what they are -/

namespace Address

/-- A text passes for an address exactly if it is one, under either `Scheme` where the check comes
to an end. Then the check gives a normal form. It is in normal form, too, that the sources are asked
about the token in the course of a verification, and that an analysis names it. -/
structure KeepsForm (s : String) : Prop where
  isAddress : isAddress s = true ↔ IsCanonical s
  isValid : ∀ scheme found, check scheme (some s) = .ok found →
    (found.isValid = true ↔ IsCanonical s)
  normalized : ∀ scheme found t, check scheme (some s) = .ok found →
    found.normalized? = some t → IsNormal t
  asked : ∀ (c : Scene) (id : String) (r : Request), r.addressText = s →
    ∀ k ∈ (c.verifier.work id r).asked, ∀ t, k.token? = some t → IsNormal t
  analyzed : ∀ (a : Analyzer) (chainId : Int) (o : Outcome),
    (a.analyze (some s) chainId).value = .ok o → Address.isAddress s = true →
      IsNormal o.analysis.tokenAddress

/-- The normal form that `check` gives is the lower-case form of the text, if that passes. -/
theorem normalized?_check {scheme : Scheme} {s : String} {found : Check}
    (h : check scheme (some s) = .ok found) :
    found.normalized? = if isAddress s then some (Text.lower s) else none := by
  rw [Check.normalized?, Analyzer.isValid_check scheme (some s) found h,
    Analyzer.address_check scheme (some s) found h, Option.getD_some]

/-- An address without a line break `KeepsForm`, and so does what is no address. -/
private theorem keepsForm_of_not_isBroken {s : String} (h : ¬ IsBroken s) : KeepsForm s := by
  have haddress : Address.isAddress s = true ↔ IsCanonical s := by
    rw [isAddress_iff, or_iff_left h]
  constructor
  case isAddress => exact haddress
  case isValid =>
    intro scheme found hfound
    rw [Analyzer.isValid_check scheme (some s) found hfound, Option.getD_some, haddress]
  -- What passes is canonical, so its lower-case form is normal.
  case normalized =>
    intro scheme found t hfound ht
    rw [normalized?_check hfound] at ht
    split at ht
    · rename_i hpasses
      rw [← Option.some.inj ht]
      exact (haddress.mp hpasses).isNormal_lower
    · cases ht
  case asked =>
    rintro c id r rfl k hk t ht
    -- Every call of the work is about the address itself, in lower case.
    cases hpasses : Address.isAddress r.addressText with
    | true =>
      obtain ⟨address, chainId, htext, hk⟩ := Scene.exists_of_mem_asked_work id hk
      rw [c.analyzer.token_of_mem_asked hk ht, htext]
      exact (haddress.mp hpasses).isNormal_lower
    | false =>
      -- About what does not pass nothing is asked.
      rw [Scene.asked_work_of_not_isAddress id hpasses] at hk
      cases hk
  case analyzed =>
    intro a chainId o ho hpasses
    rw [a.tokenAddress_analyze (some s) chainId o ho]
    exact (haddress.mp hpasses).isNormal_lower

/-- A text `KeepsForm` unless it is an address with a line break after it. Such a text passes for an
address: it is valid wherever the check comes to an end, and what the check gives for its normal
form is none. -/
theorem keepsForm_iff (s : String) :
    (KeepsForm s ↔ ¬ IsBroken s) ∧
      (IsBroken s → Address.isAddress s = true ∧
        ∀ scheme found, check scheme (some s) = .ok found →
          found.isValid = true ∧ found.normalized? = some (Text.lower s) ∧
            ¬ IsNormal (Text.lower s)) := by
  refine ⟨⟨fun hkeeps hbroken => ?_, keepsForm_of_not_isBroken⟩, fun hbroken => ?_⟩
  · exact hbroken.not_isCanonical (hkeeps.isAddress.mp ((isAddress_iff s).mpr (.inr hbroken)))
  · have hpasses : Address.isAddress s = true := (isAddress_iff s).mpr (.inr hbroken)
    refine ⟨hpasses, fun scheme found hfound => ⟨?_, ?_, hbroken.not_isNormal_lower⟩⟩
    · rw [Analyzer.isValid_check scheme (some s) found hfound]
      exact hpasses
    · rw [normalized?_check hfound, if_pos hpasses]

/-- A line break behind the address of the plain token is checked, found valid and sent to the
sources. Without it the address `KeepsForm`. -/
theorem line_break_reaches_sources :
    let s := "0x1111111111111111111111111111111111111111\n"
    IsBroken s ∧ ¬ KeepsForm s ∧ Address.isAddress s = true ∧
      (∃ found, check .legacy (some s) = .ok found ∧ found.isValid = true ∧
        found.normalized? = some s ∧ ¬ IsNormal s) ∧
      .code s 1 ∈ ((Scene.plain (.ok []) 0).analyzer.analyze (some s) 1).asked ∧
      KeepsForm Sources.plainAddress := by
  intro s
  have hdigits : s.toList = '0' :: 'x' :: (List.replicate 40 '1' ++ ['\n']) := by decide
  have hbroken : IsBroken s := ⟨List.replicate 40 '1', by decide, hdigits⟩
  -- The plain address without the line feed keeps its form.
  have hwhole : ¬ IsBroken Sources.plainAddress := fun h =>
    h.not_isCanonical ⟨List.replicate 40 '1', by decide⟩
  have hlower : Text.lower s = s := by decide
  -- There are no letters, so no checksum is worked out.
  have hsingle : ¬ IsMixedBeforeBreak s := by
    rintro ⟨ds, _, hs, hmixed, _⟩
    have hrest := (List.cons.inj (List.cons.inj (hs.symm.trans hdigits)).2).2
    rw [List.append_cancel_right hrest] at hmixed
    exact hmixed (by decide)
  obtain ⟨found, hcheck⟩ := (check_isOk_iff .legacy (some s)).mpr hsingle
  obtain ⟨hiff, hpasses⟩ := keepsForm_iff s
  obtain ⟨haddress, hvalid⟩ := hpasses hbroken
  obtain ⟨hfound, hnormal, hnot⟩ := hvalid .legacy found hcheck
  rw [hlower] at hnormal hnot
  -- The sources are asked about the address as it stands, with its line feed.
  have hasked := ((Scene.plain (.ok []) 0).analyzer.asked_analyze (some s) 1 found hcheck
    hfound (by decide) "0x6080" (some { code := "contract Safe {}" }) rfl rfl).1
  rw [Option.getD_some, hlower] at hasked
  exact ⟨hbroken, fun h => hiff.mp h hbroken, haddress, ⟨found, hcheck, hfound, hnormal, hnot⟩,
    hasked, (keepsForm_iff Sources.plainAddress).1.mpr hwhole⟩

end Address

end TokenRisk
