import TokenRisk.Capability
import TokenRisk.Ownership
import TokenRisk.Proofs.Matching

/-!
# Fragments of code

Detectors, the test for minimal proxies and profiles that search the digits of a code look for the
digits of a fragment among those of the code. A byte has two digits, so a fragment is found where
its bytes are bytes of the code, and also where they lie across its bytes, half a byte further.

## Key results

- `Bytecode.hexOf_isInfix_iff`: digits among digits, in terms of bytes
- `Detector.matches?_fragments`: when a detector for fragments hits
- `Ownership.isMinimalProxy_iff`: when a code looks like a minimal proxy
- `Standard.counts_iff`: which references a search in the digits counts
- `Bytecode.isSearchedFor_bytes`: all three for the bytes of a code
-/

namespace TokenRisk

/-! ## Digits among digits -/

namespace Bytecode

/-- The bytes that lie across the bytes of a code: the low half of each in front of the high half of
the next one. -/
def straddling : List UInt8 → List UInt8
  | b :: c :: bs => byteOf (b.toNat % 16) (c.toNat / 16) :: straddling (c :: bs)
  | _ => []

/-- Bytes appear in a code where they are consecutive bytes of it, or lie across its bytes. -/
def Appears (f bs : List UInt8) : Prop :=
  f <:+: bs ∨ f <:+: straddling bs

/-- Bytes are told apart by their halves. -/
private theorem byte_eq_iff (b c : UInt8) :
    b = c ↔ b.toNat / 16 = c.toNat / 16 ∧ b.toNat % 16 = c.toNat % 16 := by
  rw [← UInt8.toNat_inj]
  omega

/-- `hexOf` bytes at a whole byte is that of the bytes from there on. -/
theorem hexOf_isPrefix_iff (f bs : List UInt8) : hexOf f <+: hexOf bs ↔ f <+: bs := by
  induction f generalizing bs with
  | nil => simp
  | cons b f ih =>
    cases bs with
    | nil => simp [hexOf_cons]
    | cons c bs =>
      have hb := b.toNat_lt
      have hc := c.toNat_lt
      rw [hexOf_cons, hexOf_cons, List.cons_prefix_cons, List.cons_prefix_cons,
        List.cons_prefix_cons, ih, digitChar_inj (by omega) (by omega),
        digitChar_inj (by omega) (by omega), byte_eq_iff, and_assoc]

/-- `hexOf` bytes half a byte further is that of the bytes that are `straddling`. -/
theorem hexOf_isPrefix_half_iff (f : List UInt8) (b : UInt8) (bs : List UInt8) :
    hexOf f <+: Nat.digitChar (b.toNat % 16) :: hexOf bs ↔ f <+: straddling (b :: bs) := by
  induction f generalizing b bs with
  | nil => simp
  | cons d f ih =>
    cases bs with
    | nil => simp [hexOf_cons, straddling]
    | cons c bs =>
      have hb := b.toNat_lt
      have hc := c.toNat_lt
      have hd := d.toNat_lt
      -- The first byte across is made of the two halves at this place.
      have hfirst : d = byteOf (b.toNat % 16) (c.toNat / 16) ↔
          d.toNat / 16 = b.toNat % 16 ∧ d.toNat % 16 = c.toNat / 16 := by
        rw [byte_eq_iff, toNat_byteOf (by omega) (by omega)]
        omega
      rw [hexOf_cons, hexOf_cons, straddling, List.cons_prefix_cons, List.cons_prefix_cons,
        List.cons_prefix_cons, ih, digitChar_inj (by omega) (by omega),
        digitChar_inj (by omega) (by omega), hfirst, and_assoc]

/-- `hexOf` bytes stands among the digits of a code exactly where the bytes appear in it. -/
theorem hexOf_isInfix_iff (f bs : List UInt8) : hexOf f <:+: hexOf bs ↔ Appears f bs := by
  -- Induction on the code: the digits start at its first byte, half a byte further, or later.
  induction bs with
  | nil =>
    cases f with
    | nil => simp [Appears]
    | cons b f => simp [hexOf_cons, Appears, straddling]
  | cons b bs ih =>
    have hrest : f <:+: straddling (b :: bs) ↔
        f <+: straddling (b :: bs) ∨ f <:+: straddling bs := by
      cases bs with
      | nil => simp [straddling]
      | cons c bs => rw [straddling, List.infix_cons_iff]
    rw [Appears] at ih ⊢
    rw [hexOf_cons, List.infix_cons_iff, List.infix_cons_iff, ← hexOf_cons, hexOf_isPrefix_iff,
      hexOf_isPrefix_half_iff, ih, List.infix_cons_iff, hrest, ← or_assoc, or_or_or_comm]

/-! ## Fragments as text -/

/-- A text spells bytes when in lower case it is `hexOf` them. -/
def Spells (text : String) (bs : List UInt8) : Prop :=
  Text.asciiLower text = String.ofList (hexOf bs)

/-- A fragment has digits in pairs. -/
structure IsFragment (text : String) : Prop where
  isHexDigit : ∀ c ∈ text.toList, TokenRisk.isHexDigit c = true
  even : text.toList.length % 2 = 0

/-- A fragment `Spells` bytes. -/
theorem IsFragment.exists_spells {text : String} (h : IsFragment text) : ∃ f, Spells text f := by
  obtain ⟨f, hf⟩ := exists_hexOf_eq (text.toList.map Char.toLower)
    (by rw [List.length_map]; exact h.even) fun c hc => by
      obtain ⟨d, hd, rfl⟩ := List.mem_map.mp hc
      have hdigit := h.isHexDigit d hd
      rw [isHexDigit_toLower]
      exact ⟨hdigit, (Text.toLower_of_ascii d (toNat_lt_of_isHexDigit hdigit)).2⟩
  exact ⟨f, congrArg String.ofList hf.symm⟩

/-- A text `Spells` no bytes but one list of them. -/
theorem Spells.unique {text : String} {f g : List UInt8} (hf : Spells text f)
    (hg : Spells text g) : f = g := by
  have heq : bytes? (hexOf f) = bytes? (hexOf g) :=
    congrArg bytes? (String.ofList_injective (hf.symm.trans hg))
  rw [bytes?_hexOf, bytes?_hexOf] at heq
  exact Option.some.inj heq

/-- In lower case, a text that `Spells` bytes is `hexOf` them. -/
theorem Spells.toList_lower {text : String} {f : List UInt8} (h : Spells text f) :
    (Text.lower text).toList = hexOf f := by
  have hlower : Text.lower (String.ofList (hexOf f)) = String.ofList (hexOf f) := by
    apply Text.lower_eq_self
    intro c hc
    rw [String.toList_ofList] at hc
    exact isLower_of_mem_hexOf hc
  rw [← Text.lower_asciiLower, h, hlower, String.toList_ofList]

/-- `hexOf` bytes occurs among the digits of a code exactly where the bytes appear in it. -/
theorem contains_iff_appears {digits text : String} {bs f : List UInt8}
    (hdigits : digits.toList = hexOf bs) (htext : text.toList = hexOf f) :
    Text.contains digits text = true ↔ Appears f bs := by
  rw [Text.contains, Text.occurs_iff, hdigits, htext, hexOf_isInfix_iff]

theorem isEmpty_iff_eq_nil {digits : String} {bs : List UInt8}
    (hdigits : digits.toList = hexOf bs) : digits.isEmpty = true ↔ bs = [] := by
  rw [String.isEmpty_iff, ← String.toList_eq_nil_iff, hdigits, ← List.length_eq_zero_iff,
    length_hexOf, ← List.length_eq_zero_iff]
  omega

end Bytecode

/-! ## Detectors -/

/-- A detector for fragments `matches?` a contract when there is code and the bytes of each fragment
appear in it. -/
theorem Detector.matches?_fragments {d : Detector} {parts : List String}
    (hevidence : d.evidence = .fragments parts) (hparts : ∀ p ∈ parts, Bytecode.IsFragment p)
    {c : Contract} {bs : List UInt8} (hcode : c.codeHex.toList = Bytecode.hexOf bs) :
    ∃ hit, d.matches? c = .ok hit ∧
      (hit = true ↔
        bs ≠ [] ∧ ∀ p ∈ parts, ∃ f, Bytecode.Spells p f ∧ Bytecode.Appears f bs) := by
  have hpart (p : String) (hp : p ∈ parts) : Text.contains c.codeHex (Text.lower p) = true ↔
      ∃ f, Bytecode.Spells p f ∧ Bytecode.Appears f bs := by
    obtain ⟨f, hf⟩ := (hparts p hp).exists_spells
    rw [Bytecode.contains_iff_appears hcode hf.toList_lower]
    -- A fragment spells one list of bytes, so it makes no difference which one is looked for.
    constructor
    · exact fun happears => ⟨f, hf, happears⟩
    · rintro ⟨g, hg, happears⟩
      rw [hf.unique hg]
      exact happears
  refine ⟨_, by rw [matches?, hevidence], ?_⟩
  rw [Bool.and_eq_true, Bool.not_eq_true', ← Bool.not_eq_true, Bytecode.isEmpty_iff_eq_nil hcode,
    List.all_eq_true]
  exact and_congr_right fun _ => forall₂_congr hpart

/-! ## Minimal proxies -/

namespace Ownership

/-- The bytes of the two trampolines that `isMinimalProxy` looks for. -/
def trampolines : List (List UInt8) :=
  [[0x3D, 0x82, 0x80, 0x3D, 0x3D, 0x3D, 0x3D, 0x36, 0x3D, 0x3D, 0x37],
    [0x36, 0x3D, 0x3D, 0x37, 0x3D, 0x3D, 0x3D, 0x36, 0x3D, 0x73]]

/-- `isMinimalProxy` holds of a code when the bytes of one of the `trampolines` appear in it. -/
theorem isMinimalProxy_iff {digits : String} {bs : List UInt8}
    (hdigits : digits.toList = Bytecode.hexOf bs) :
    isMinimalProxy digits = true ↔ ∃ t ∈ trampolines, Bytecode.Appears t bs := by
  -- The fingerprints are the digits of the trampolines.
  have hfingerprints : proxyFingerprints =
      trampolines.map fun t => String.ofList (Bytecode.hexOf t) := by decide +kernel
  rw [isMinimalProxy, hfingerprints, List.any_map, List.any_eq_true]
  exact exists_congr fun t => and_congr_right fun _ =>
    Bytecode.contains_iff_appears hdigits (String.toList_ofList)

end Ownership

/-! ## Profiles -/

namespace Standard

/-- A text names a selector when it is its `selectorText`, in any letter case. -/
def Names (s : String) (selector : List UInt8) : Prop :=
  Text.asciiLower s = Bytecode.selectorText selector

theorem Names.lower_eq {s : String} {selector : List UInt8} (h : Names s selector) :
    Text.lower s = Bytecode.selectorText selector := by
  rw [← Text.lower_asciiLower, h, Bytecode.lower_selectorText]

/-- A profile counts a reference that is among the selectors it has `found`, in lower case. -/
def Counts (p : Profile) (code s : String) : Prop :=
  s ∈ lowered (found p code)

instance (p : Profile) (code s : String) : Decidable (Counts p code s) :=
  inferInstanceAs (Decidable (s ∈ _))

/-- `ofBytecode` sets the flags of a code by how many references of each standard a profile
counts. -/
structure FlagsCount (p : Profile) (code : String) : Prop where
  isERC20 : (ofBytecode p code).isERC20 =
    decide (p.erc20Threshold ≤ (p.erc20.filter fun s => Counts p code s).length)
  isERC721 : (ofBytecode p code).isERC721 =
    decide (p.erc721Threshold ≤ (p.erc721.filter fun s => Counts p code s).length)
  isERC1155 : (ofBytecode p code).isERC1155 =
    decide (p.erc1155Threshold ≤ (p.erc1155.filter fun s => Counts p code s).length)

theorem hits_found (p : Profile) (code : String) (references : List String) :
    Profile.hits references (lowered (found p code)) =
      (references.filter fun s => Counts p code s).length := by
  have hcontains : (lowered (found p code)).contains = fun s => decide (Counts p code s) := by
    funext s
    rw [List.contains_eq_mem]
    rfl
  rw [Profile.hits, hcontains]

theorem flagsCount (p : Profile) {code : String} (h : ¬ (Bytecode.digits code).isEmpty = true) :
    FlagsCount p code := by
  constructor <;> rw [← hits_found, ofBytecode_eq, if_neg h] <;> rfl

/-- Digits behind a prefix that `occurs` finds among those of a code are in lower case already. -/
theorem toList_drop_of_occurs {digits t : String} {bs selector : List UInt8}
    (hdigits : digits.toList = Bytecode.hexOf bs)
    (hoccurs : Text.contains digits (Text.drop 2 t) = true)
    (hlower : Text.lower t = Bytecode.selectorText selector) :
    (Text.drop 2 t).toList = Bytecode.hexOf selector := by
  -- The prefix in lower case was a prefix before, of one character for each of its own.
  have hform : Text.lowerAfter false t.toList = '0' :: 'x' :: Bytecode.hexOf selector :=
    String.ofList_injective hlower
  obtain ⟨c, l, hc, _, _, _, hform⟩ :=
    Text.lowerAfter_eq_cons hform (by decide) (by decide) (by decide)
  obtain ⟨d, rest, hd, _, _, cased, hform⟩ :=
    Text.lowerAfter_eq_cons hform.symm (by decide) (by decide) (by decide)
  have hdrop : (Text.drop 2 t).toList = rest := by
    rw [Text.drop, hc, hd, String.toList_ofList]
    rfl
  rw [Text.contains, Text.occurs_iff, hdigits, hdrop] at hoccurs
  -- What stands among the digits of a code is in lower case, so bringing it there changes nothing.
  have hrest (e : Char) (he : e ∈ rest) := Bytecode.lower_of_mem_hexOf (hoccurs.subset he)
  rw [hdrop, hform, Text.lowerAfter_of_ascii cased rest fun e he =>
    toNat_lt_of_isHexDigit (hrest e he).1]
  exact ((List.map_congr_left fun e he => (hrest e he).2).trans (List.map_id rest)).symm

/-- A profile that matches by `substring` counts a reference when it is in lower case and the bytes
of its selector appear in the code. -/
theorem counts_iff {p : Profile} (hmatching : p.matching = .substring) {code : String}
    {bs : List UInt8} (hdigits : (Bytecode.digits code).toList = Bytecode.hexOf bs) {s : String}
    (hreference : s ∈ p.references) {selector : List UInt8} (hnames : Names s selector) :
    Counts p code s ↔ Text.lower s = s ∧ Bytecode.Appears selector bs := by
  have hfound : found p code = occurring p (Bytecode.digits code) := by rw [found, hmatching]
  rw [Counts, hfound, lowered, mem_distinct, List.mem_map]
  constructor
  · -- Counted is the lower-case form of a reference `t`, which may bear another prefix than `s`.
    rintro ⟨t, ht, rfl⟩
    have hlower := Text.lower_lower t
    have hoccurs := (List.mem_filter.mp ht).2
    refine ⟨hlower, ?_⟩
    rw [← Bytecode.contains_iff_appears hdigits]
    · exact hoccurs
    · exact toList_drop_of_occurs hdigits hoccurs (hlower.symm.trans hnames.lower_eq)
  · rintro ⟨hlower, happears⟩
    refine ⟨s, List.mem_filter.mpr ⟨hreference, ?_⟩, hlower⟩
    rw [Bytecode.contains_iff_appears hdigits (f := selector)]
    · exact happears
    · rw [← hlower, hnames.lower_eq, Bytecode.selectorText]
      simp [Text.drop]

end Standard

/-! ## The bytes of a code -/

namespace Bytecode

/-- Every search in the digits of a code is one for bytes that appear in it. -/
structure IsSearchedFor (code : String) (bs : List UInt8) : Prop where
  detector : ∀ (d : Detector) (parts : List String) (c : Contract),
    d.evidence = .fragments parts → (∀ p ∈ parts, IsFragment p) → c.bytecode = code →
    ∃ hit, d.matches? c = .ok hit ∧
      (hit = true ↔ bs ≠ [] ∧ ∀ p ∈ parts, ∃ f, Spells p f ∧ Appears f bs)
  proxy : Ownership.isMinimalProxy (digits code) = true ↔
    ∃ t ∈ Ownership.trampolines, Appears t bs
  flags : ∀ p : Profile, bs ≠ [] → Standard.FlagsCount p code
  references : ∀ p : Profile, p.matching = .substring → ∀ s ∈ p.references,
    ∀ selector, Standard.Names s selector →
    (Standard.Counts p code s ↔ Text.lower s = s ∧ Appears selector bs)

/-- A code of evenly many digits is read by `decode?` as bytes, and all that is looked for in its
digits are bytes that are consecutive in it, or lie across its bytes. -/
theorem isSearchedFor_bytes (code : String) (l : List Char) (h : HasDigits code l)
    (heven : l.length % 2 = 0) : ∃ bs, decode? code = some bs ∧ IsSearchedFor code bs := by
  obtain ⟨bs, hwrites⟩ := h.exists_writes heven
  have hdigits : (digits code).toList = hexOf bs := by
    obtain ⟨l', h', hl'⟩ := hwrites
    rw [toList_digits h', hl']
  -- All searches are in these digits.
  refine ⟨bs, decode?_of_writes hwrites, ?_, ?_, ?_, ?_⟩
  · intro d parts c hevidence hparts hcode
    exact Detector.matches?_fragments hevidence hparts (by rw [Contract.codeHex, hcode, hdigits])
  · exact Ownership.isMinimalProxy_iff hdigits
  · exact fun p hne =>
      Standard.flagsCount p fun hempty => hne ((isEmpty_iff_eq_nil hdigits).mp hempty)
  · exact fun p hmatching s hs selector => Standard.counts_iff hmatching hdigits hs

/-- A code with an opcode, a trampoline and a selector in its digits, all of them across its
bytes. -/
def shifted : String := "0x055363d3d373d3d3d363d73A9059CBB0"

theorem hasDigits_shifted : HasDigits shifted (shifted.toList.drop 2) :=
  ⟨⟨"0x", by decide, by decide +kernel⟩, List.all_eq_true.mp (by decide +kernel)⟩

/-- The selector is counted in `shifted`. -/
theorem counts_shifted : Standard.Counts .strict shifted "0xa9059cbb" := by
  decide +kernel

theorem isSearchedFor_bytes_shifted :
    HasDigits shifted (shifted.toList.drop 2) ∧ (shifted.toList.drop 2).length % 2 = 0 ∧
      ∃ bs, decode? shifted = some bs ∧ IsSearchedFor shifted bs ∧
        Appears [0xA9, 0x05, 0x9C, 0xBB] bs := by
  have heven : (shifted.toList.drop 2).length % 2 = 0 := by decide +kernel
  obtain ⟨bs, hbytes, hsearched⟩ := isSearchedFor_bytes shifted _ hasDigits_shifted heven
  have hnames : Standard.Names "0xa9059cbb" [0xA9, 0x05, 0x9C, 0xBB] := by
    rw [Standard.Names]
    decide +kernel
  have hcounts := hsearched.references .strict rfl "0xa9059cbb" (by decide +kernel) _ hnames
  exact ⟨hasDigits_shifted, heven, bs, hbytes, hsearched, (hcounts.mp counts_shifted).2⟩

/-- All three searches find in the digits of `shifted` what is not among its bytes, and where there
is no code, a detector misses even when there is nothing to look for. -/
theorem shifted_is_found :
    HasDigits shifted (shifted.toList.drop 2) ∧ (shifted.toList.drop 2).length % 2 = 0 ∧
      (∃ bs, decode? shifted = some bs ∧
        (¬ [0x55] <:+: bs ∧
          Detector.matches? { evidence := .fragments ["55"], risk := "" }
            { address := "", chainId := 1, bytecode := shifted } = .ok true) ∧
        ((∀ t ∈ Ownership.trampolines, ¬ t <:+: bs) ∧
          Ownership.isMinimalProxy (digits shifted) = true) ∧
        ¬ [0xA9, 0x05, 0x9C, 0xBB] <:+: bs ∧
          Standard.Counts .strict shifted "0xa9059cbb") ∧
      Detector.matches? { evidence := .fragments [], risk := "" }
        { address := "", chainId := 1, bytecode := "0x" } = .ok false := by
  -- The code is read as bytes, and what is looked for lies half a byte further in each case.
  refine ⟨hasDigits_shifted, by decide +kernel, ⟨_, rfl, ⟨by decide +kernel, ?_⟩,
    ⟨by decide +kernel, by decide +kernel⟩, by decide +kernel, counts_shifted⟩, ?_⟩
  · exact congrArg Except.ok (by decide +kernel)
  · exact congrArg Except.ok (by decide +kernel)

end Bytecode

end TokenRisk
