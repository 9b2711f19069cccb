import TokenRisk.Address
import TokenRisk.Bytecode.Hex
import TokenRisk.Proofs.LetterCase

/-!
# Hexadecimal text

Code comes as hexadecimal text in any letter case, with or without a prefix. What is read from it
are the digits behind the prefix in lower case, and the bytes that pairs of them write.

## Key results

- `Bytecode.toList_digits`: the digits of a code text
- `Bytecode.decode?_of_writes`: a text that writes bytes is read as these bytes
- `Bytecode.decode?_append`: a text that goes on writes the bytes that it wrote, and others
-/

namespace TokenRisk

/-! ## Digits -/

theorem toNat_lt_of_isHexDigit {c : Char} (h : isHexDigit c = true) : c.toNat < 128 := by
  simp only [isHexDigit, Json.hexValue?] at h
  -- A digit is in one of three ranges, each of which ends below 128.
  have hle (d : Char) (hd : d.toNat < 128) (hc : c ≤ d) : c.toNat < 128 :=
    Nat.lt_of_le_of_lt hc hd
  split at h
  · rename_i hc
    exact hle '9' (by decide) hc.2
  · split at h
    · rename_i hc
      exact hle 'f' (by decide) hc.2
    · split at h
      · rename_i hc
        exact hle 'F' (by decide) hc.2
      · cases h

/-- What holds of all digits, one by one, holds of a character that `isHexDigit` accepts. -/
theorem forall_isHexDigit {p : Char → Prop}
    (hall : ∀ n : Fin 128, isHexDigit (Char.ofNat n) = true → p (Char.ofNat n)) {c : Char}
    (hc : isHexDigit c = true) : p c :=
  Text.forall_ascii (p := fun c => isHexDigit c = true → p c) hall (toNat_lt_of_isHexDigit hc) hc

/-- A digit has a `hexValue?`, and is no blank. -/
private theorem hexValue?_of_isHexDigit (c : Char) (h : isHexDigit c = true) :
    (∃ n, Json.hexValue? c = some n) ∧ Text.isAsciiBlank c = false :=
  ⟨Option.isSome_iff_exists.mp h,
    forall_isHexDigit (p := fun c => Text.isAsciiBlank c = false) (by decide) h⟩

/-- Letter case does not matter to `isHexDigit`. -/
theorem isHexDigit_toLower (c : Char) : isHexDigit c.toLower = isHexDigit c := by
  by_cases hascii : c.toNat < 128
  · exact Text.forall_ascii (p := fun c => isHexDigit c.toLower = isHexDigit c)
      (by decide) hascii
  · rw [Text.toLower_of_not_ascii hascii]

namespace Bytecode

/-- The prefixes that may stand in front of the digits, the empty one among them. -/
def marks : List String := ["", "0x", "0X"]

/-- A code text consists of digits behind one of the `marks`. -/
structure HasDigits (code : String) (l : List Char) : Prop where
  marked : ∃ mark ∈ marks, code = mark ++ String.ofList l
  isHexDigit : ∀ c ∈ l, isHexDigit c = true

/-- `HasDigits` of a code text that is followed by digits has these digits, too. -/
theorem HasDigits.append {code : String} {l : List Char} (h : HasDigits code l) (more : String)
    (hmore : ∀ c ∈ more.toList, TokenRisk.isHexDigit c = true) :
    HasDigits (code ++ more) (l ++ more.toList) := by
  obtain ⟨⟨mark, hmark, rfl⟩, hl⟩ := h
  refine ⟨⟨mark, hmark, ?_⟩, fun c hc => (List.mem_append.mp hc).elim (hl c) (hmore c)⟩
  rw [String.ofList_append, String.ofList_toList, String.append_assoc]

/-- `toLower` of a digit of a code is a digit. -/
theorem HasDigits.isHexDigit_toLower {code : String} {l : List Char} (h : HasDigits code l) :
    ∀ c ∈ l.map Char.toLower, TokenRisk.isHexDigit c = true := by
  intro c hc
  obtain ⟨d, hd, rfl⟩ := List.mem_map.mp hc
  rw [TokenRisk.isHexDigit_toLower]
  exact h.isHexDigit d hd

theorem HasDigits.toLower_eq_self {code : String} {l : List Char} (h : HasDigits code l) :
    ∀ c ∈ l.map Char.toLower, c.toLower = c := by
  intro c hc
  obtain ⟨d, hd, rfl⟩ := List.mem_map.mp hc
  exact (Text.toLower_of_ascii d (toNat_lt_of_isHexDigit (h.isHexDigit d hd))).2

/-- The `digits` of a code text are read in lower case. -/
theorem toList_digits {code : String} {l : List Char} (h : HasDigits code l) :
    (digits code).toList = l.map Char.toLower := by
  obtain ⟨⟨mark, hmark, rfl⟩, hl⟩ := h
  have hlower (m : List Char) (hm : ∀ c ∈ m, isHexDigit c = true) :
      (Text.lower (String.ofList m)).toList = m.map Char.toLower := by
    rw [Text.lower, String.toList_ofList, String.toList_ofList]
    exact Text.lowerAfter_of_ascii false m fun c hc => toNat_lt_of_isHexDigit (hm c hc)
  simp only [marks, List.mem_cons, List.not_mem_nil, or_false] at hmark
  rcases hmark with rfl | rfl | rfl
  · simp only [String.empty_append, digits, String.toList_ofList]
    -- No prefix is taken off that is not there, as no digit is a letter that a prefix ends in.
    split
    · have hx : isHexDigit 'x' = true := hl 'x' (by simp)
      exact absurd hx (by decide)
    · have hx : isHexDigit 'X' = true := hl 'X' (by simp)
      exact absurd hx (by decide)
    · exact hlower l hl
  · have hfront : ("0x" ++ String.ofList l).toList = '0' :: 'x' :: l := by simp
    rw [digits, hfront]
    exact hlower l hl
  · have hfront : ("0X" ++ String.ofList l).toList = '0' :: 'X' :: l := by simp
    rw [digits, hfront]
    exact hlower l hl

/-- The `digits` that were read make a code text of their own. -/
theorem HasDigits.digits {code : String} {l : List Char} (h : HasDigits code l) :
    HasDigits (digits code) (l.map Char.toLower) := by
  refine ⟨⟨"", by simp [marks], ?_⟩, h.isHexDigit_toLower⟩
  rw [String.empty_append, ← toList_digits h, String.ofList_toList]

/-! ## Bytes -/

/-- `bytes?` reads two digits as a byte, whatever follows. -/
private theorem bytes?_pair (c d : Char) (hc : isHexDigit c = true) (hd : isHexDigit d = true) :
    ∃ b, ∀ l, bytes? (c :: d :: l) = (bytes? l).map (b :: ·) := by
  obtain ⟨⟨high, hhigh⟩, hblank⟩ := hexValue?_of_isHexDigit c hc
  obtain ⟨⟨low, hlow⟩, _⟩ := hexValue?_of_isHexDigit d hd
  refine ⟨(16 * high + low).toUInt8, fun l => ?_⟩
  rw [bytes?, hblank, hhigh, hlow]
  cases bytes? l <;> rfl

/-- `bytes?` reads pairs of digits as bytes, whatever follows. -/
theorem bytes?_append (l : List Char) (heven : l.length % 2 = 0)
    (hl : ∀ c ∈ l, isHexDigit c = true) :
    ∃ bs, bytes? l = some bs ∧ ∀ m, bytes? (l ++ m) = (bytes? m).map (bs ++ ·) := by
  -- The recursion is that of the reading, by pairs.
  match l with
  | [] => exact ⟨[], rfl, fun m => by simp⟩
  | [_] => simp at heven
  | c :: d :: l =>
    obtain ⟨b, hb⟩ := bytes?_pair c d (hl c (by simp)) (hl d (by simp))
    have heven' : l.length % 2 = 0 := by
      simp only [List.length_cons] at heven
      omega
    obtain ⟨bs, hbs, hrest⟩ := bytes?_append l heven' fun e he => hl e (by simp [he])
    refine ⟨b :: bs, by rw [hb, hbs]; rfl, fun m => ?_⟩
    rw [List.cons_append, List.cons_append, hb, hrest, Option.map_map]
    rfl

/-- `bytes?` reads more pairs as more bytes after those of the first. -/
private theorem bytes?_take (l : List Char) (n more : Nat) (hn : n % 2 = 0) (hmore : more % 2 = 0)
    (hle : n + more ≤ l.length) (hl : ∀ c ∈ l, isHexDigit c = true) :
    ∃ bs cs, bytes? (l.take n) = some bs ∧ bytes? (l.take (n + more)) = some (bs ++ cs) := by
  -- The first pairs are read whatever follows, and what follows them is read by itself.
  obtain ⟨bs, hbs, hrest⟩ := bytes?_append (l.take n) (by rw [List.length_take]; omega)
    fun c hc => hl c (List.mem_of_mem_take hc)
  obtain ⟨cs, hcs, _⟩ := bytes?_append ((l.drop n).take more)
    (by rw [List.length_take, List.length_drop]; omega)
    fun c hc => hl c (List.mem_of_mem_drop (List.mem_of_mem_take hc))
  exact ⟨bs, cs, hbs, by rw [List.take_add, hrest, hcs]; rfl⟩

/-- `byteDigits` are the digits of the halves of a byte. -/
private theorem byteDigits_eq (b : UInt8) :
    byteDigits b = [Nat.digitChar (b.toNat / 16), Nat.digitChar (b.toNat % 16)] := by
  -- There are few enough bytes to look at each.
  have hall : ∀ n : Fin 256, byteDigits (UInt8.ofNat n) =
      [Nat.digitChar ((UInt8.ofNat n).toNat / 16), Nat.digitChar ((UInt8.ofNat n).toNat % 16)] := by
    decide +kernel
  simpa using hall ⟨b.toNat, b.toNat_lt⟩

/-- `byteDigits` are in lower case, and `bytes?` reads the byte from them. -/
private theorem byteDigits_spec (b : UInt8) :
    (byteDigits b).all (fun c => isHexDigit c && c.toLower == c) = true ∧
      bytes? (byteDigits b) = some [b] := by
  have hall : ∀ n : Fin 256,
      (byteDigits (UInt8.ofNat n)).all (fun c => isHexDigit c && c.toLower == c) = true ∧
      bytes? (byteDigits (UInt8.ofNat n)) = some [UInt8.ofNat n] := by
    decide +kernel
  simpa using hall ⟨b.toNat, b.toNat_lt⟩

private theorem lower_of_mem_byteDigits {b : UInt8} {c : Char} (h : c ∈ byteDigits b) :
    isHexDigit c = true ∧ c.toLower = c := by
  simpa using List.all_eq_true.mp (byteDigits_spec b).1 c h

/-- `hexOf` bytes has digits in lower case. -/
theorem lower_of_mem_hexOf {bs : List UInt8} {c : Char} (h : c ∈ hexOf bs) :
    isHexDigit c = true ∧ c.toLower = c := by
  obtain ⟨b, _, hb⟩ := List.mem_flatMap.mp h
  exact lower_of_mem_byteDigits hb

theorem isLower_of_mem_hexOf {bs : List UInt8} {c : Char} (h : c ∈ hexOf bs) : Text.IsLower c := by
  obtain ⟨hdigit, hlower⟩ := lower_of_mem_hexOf h
  exact Text.isLower_of_ascii (toNat_lt_of_isHexDigit hdigit) hlower

@[simp] theorem hexOf_nil : hexOf [] = [] := rfl

/-- `hexOf` bytes, half by half. -/
theorem hexOf_cons (b : UInt8) (bs : List UInt8) :
    hexOf (b :: bs) =
      Nat.digitChar (b.toNat / 16) :: Nat.digitChar (b.toNat % 16) :: hexOf bs := by
  rw [hexOf, List.flatMap_cons, byteDigits_eq]
  rfl

theorem hexOf_append (bs cs : List UInt8) : hexOf (bs ++ cs) = hexOf bs ++ hexOf cs :=
  List.flatMap_append

/-- `hexOf` bytes has two digits for each byte. -/
@[simp] theorem length_hexOf (bs : List UInt8) : (hexOf bs).length = 2 * bs.length := by
  induction bs with
  | nil => rfl
  | cons b bs ih =>
    simp only [hexOf_cons, List.length_cons, ih]
    omega

/-- `bytes?` reads from `hexOf` bytes these bytes. -/
theorem bytes?_hexOf (bs : List UInt8) : bytes? (hexOf bs) = some bs := by
  induction bs with
  | nil => rfl
  | cons b bs ih =>
    have hbyte := (byteDigits_spec b).2
    obtain ⟨bs', hbs', hrest⟩ := bytes?_append (byteDigits b) (by simp [byteDigits_eq])
      fun c hc => (lower_of_mem_byteDigits hc).1
    obtain rfl : [b] = bs' := Option.some.inj (hbyte.symm.trans hbs')
    have hcons : hexOf (b :: bs) = byteDigits b ++ hexOf bs := rfl
    rw [hcons, hrest, ih]
    rfl

/-! ## Halves of bytes -/

/-- Different halves have a different `digitChar`. -/
theorem digitChar_inj {m n : Nat} (hm : m < 16) (hn : n < 16) :
    Nat.digitChar m = Nat.digitChar n ↔ m = n := by
  have hall : ∀ i j : Fin 16, Nat.digitChar i = Nat.digitChar j → i = j := by decide
  constructor
  · intro h
    exact congrArg Fin.val (hall ⟨m, hm⟩ ⟨n, hn⟩ h)
  · exact congrArg Nat.digitChar

/-- A digit in lower case is the `digitChar` of some half. -/
private theorem exists_digitChar_eq {c : Char} (h : isHexDigit c = true) (hlower : c.toLower = c) :
    ∃ n < 16, Nat.digitChar n = c :=
  forall_isHexDigit (p := fun c => c.toLower = c → ∃ n < 16, Nat.digitChar n = c)
    (by decide) h hlower

/-- The byte of two halves. -/
def byteOf (high low : Nat) : UInt8 :=
  (16 * high + low).toUInt8

theorem toNat_byteOf {high low : Nat} (hhigh : high < 16) (hlow : low < 16) :
    (byteOf high low).toNat = 16 * high + low := by
  show (16 * high + low) % 256 = 16 * high + low
  omega

/-- Pairs of digits in lower case are `hexOf` some bytes. -/
theorem exists_hexOf_eq (l : List Char) (heven : l.length % 2 = 0)
    (hl : ∀ c ∈ l, isHexDigit c = true ∧ c.toLower = c) : ∃ bs, hexOf bs = l := by
  -- The recursion is that of the reading, by pairs.
  match l with
  | [] => exact ⟨[], rfl⟩
  | [_] => simp at heven
  | c :: d :: l =>
    obtain ⟨high, hhigh, rfl⟩ := exists_digitChar_eq (hl c (by simp)).1 (hl c (by simp)).2
    obtain ⟨low, hlow, rfl⟩ := exists_digitChar_eq (hl d (by simp)).1 (hl d (by simp)).2
    have heven' : l.length % 2 = 0 := by
      simp only [List.length_cons] at heven
      omega
    obtain ⟨bs, rfl⟩ := exists_hexOf_eq l heven' fun e he => hl e (by simp [he])
    refine ⟨byteOf high low :: bs, ?_⟩
    rw [hexOf_cons, toNat_byteOf hhigh hlow, show (16 * high + low) / 16 = high by omega,
      show (16 * high + low) % 16 = low by omega]

/-! ## Code texts -/

private theorem decode?_eq {code : String} {l : List Char} (h : HasDigits code l) :
    decode? code = bytes? ((l.map Char.toLower).take (l.length - l.length % 2)) := by
  rw [decode?, toList_digits h, List.length_map]

/-- A code text that goes on writes the bytes that it wrote, and others after them: to `decode?`, an
odd digit at its end stood for no byte yet. -/
theorem decode?_append {code code' : String} {l m : List Char} (h : HasDigits code l)
    (h' : HasDigits code' (l ++ m)) :
    ∃ bs cs, decode? code = some bs ∧ decode? code' = some (bs ++ cs) := by
  -- Both texts are read from the digits of the longer one, up to their own last pair.
  have hpairs : (l.map Char.toLower).take (l.length - l.length % 2) =
      ((l ++ m).map Char.toLower).take (l.length - l.length % 2) := by
    rw [List.map_append, List.take_append_of_le_length]
    simp
  obtain ⟨more, hmore⟩ : ∃ more, (l ++ m).length - (l ++ m).length % 2 =
      l.length - l.length % 2 + more := by
    apply Nat.exists_eq_add_of_le
    rw [List.length_append]
    omega
  rw [decode?_eq h, decode?_eq h', hpairs, hmore]
  apply bytes?_take _ _ _ (by omega) (by omega) _ h'.isHexDigit_toLower
  rw [List.length_map]
  omega

/-- A text writes bytes when in lower case its digits are `hexOf` them. -/
def Writes (code : String) (bs : List UInt8) : Prop :=
  ∃ l, HasDigits code l ∧ l.map Char.toLower = hexOf bs

/-- `decode?` reads a text that `Writes` bytes as these bytes. -/
theorem decode?_of_writes {code : String} {bs : List UInt8} (h : Writes code bs) :
    decode? code = some bs := by
  obtain ⟨l, hdigits, hl⟩ := h
  have hlength : l.length = 2 * bs.length := by
    rw [← length_hexOf, ← hl, List.length_map]
  -- The digits are pairs, so that none is left out at the end.
  have htake : l.length - l.length % 2 = (hexOf bs).length := by
    rw [length_hexOf]
    omega
  rw [decode?_eq hdigits, hl, htake, List.take_length]
  exact bytes?_hexOf bs

/-- In lower case, the digits of a code text are `hexOf` its bytes, up to an odd one at the end. -/
theorem HasDigits.exists_hexOf {code : String} {l : List Char} (h : HasDigits code l) :
    ∃ bs rest, l.map Char.toLower = hexOf bs ++ rest ∧ rest.length = l.length % 2 ∧
      decode? code = some bs := by
  -- The pairs are in lower case, and write bytes.
  obtain ⟨bs, hbs⟩ := exists_hexOf_eq ((l.map Char.toLower).take (l.length - l.length % 2))
    (by rw [List.length_take, List.length_map]; omega)
    fun c hc => ⟨h.isHexDigit_toLower c (List.mem_of_mem_take hc),
      h.toLower_eq_self c (List.mem_of_mem_take hc)⟩
  refine ⟨bs, (l.map Char.toLower).drop (l.length - l.length % 2), ?_, ?_, ?_⟩
  · rw [hbs, List.take_append_drop]
  · rw [List.length_drop, List.length_map]
    omega
  · rw [decode?_eq h, ← hbs, bytes?_hexOf]

/-- A text of evenly many digits `Writes` bytes. -/
theorem HasDigits.exists_writes {code : String} {l : List Char} (h : HasDigits code l)
    (heven : l.length % 2 = 0) : ∃ bs, Writes code bs := by
  obtain ⟨bs, rest, hdigits, hrest, _⟩ := h.exists_hexOf
  have hnil : rest = [] := List.length_eq_zero_iff.mp (hrest.trans heven)
  exact ⟨bs, l, h, by rw [hdigits, hnil, List.append_nil]⟩

end Bytecode

end TokenRisk
