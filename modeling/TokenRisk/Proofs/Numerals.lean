import TokenRisk.Text.Numeral

/-!
# What an integer in text denotes

A text of decimal digits, of whatever script, denotes a number. `Numeral.readInt` reads that number
back with blanks around it and a sign in front, up to the limit on the length of integers; and it
refuses whatever goes on with a character that is neither a digit nor blank. The digits that `Nat`
prints denote the number they print.

## Key results

- `Numeral.asciiDigit?_plain`: the ASCII form of a character is a digit exactly if it is a decimal
  digit of some script, and the same one.
- `Numeral.readInt_of_denotes`: what is read of blanks, a sign, digits and something behind them.
- `Numeral.denotes_toDigits`: the digits of a number denote it.
- `Numeral.readInt_padded`: an integer is read back from its text.
- `Numeral.readInt_eq_ok_iff_of_isDigits`: which digit characters are read, and as what.
-/

namespace TokenRisk

/-! ## Classes of characters that lie apart -/

namespace Text

/-- No range of one class meets a range of the other. -/
private def areApart (ranges others : List (Nat × Nat)) : Bool :=
  ranges.all fun r => others.all fun q => Nat.blt r.2 q.1 || Nat.blt q.2 r.1

/-- Classes that `areApart` have no character in common. -/
private theorem not_inRanges_of_areApart {ranges others : List (Nat × Nat)} {c : Char}
    (hapart : areApart ranges others = true) (h : inRanges ranges c = true) :
    ¬ inRanges others c = true := by
  intro hothers
  obtain ⟨r, hr, hlow, hhigh⟩ := inRanges_iff.mp h
  obtain ⟨q, hq, hqlow, hqhigh⟩ := inRanges_iff.mp hothers
  have hpair := List.all_eq_true.mp (List.all_eq_true.mp hapart r hr) q hq
  rw [Bool.or_eq_true, Nat.blt_eq, Nat.blt_eq] at hpair
  omega

/-- Each range of one class is part of a range of the other. -/
private def isPartOf (ranges others : List (Nat × Nat)) : Bool :=
  ranges.all fun r => others.any fun q => Nat.ble q.1 r.1 && Nat.ble r.2 q.2

/-- `inRanges` holds for a class where it does for a part of it. -/
private theorem inRanges_of_isPartOf {ranges others : List (Nat × Nat)} {c : Char}
    (hpart : isPartOf ranges others = true) (h : inRanges ranges c = true) :
    inRanges others c = true := by
  obtain ⟨r, hr, hlow, hhigh⟩ := inRanges_iff.mp h
  obtain ⟨q, hq, hqr⟩ := List.any_eq_true.mp (List.all_eq_true.mp hpart r hr)
  rw [Bool.and_eq_true, Nat.ble_eq, Nat.ble_eq] at hqr
  exact inRanges_iff.mpr ⟨q, hq, by omega, by omega⟩

/-- `asciiDigit?` of a character is its distance from zero. -/
theorem asciiDigit?_eq_some_iff {c : Char} {d : Nat} :
    asciiDigit? c = some d ↔ c.toNat = 48 + d ∧ d < 10 := by
  have hzero : '0'.toNat = 48 := rfl
  have hnine : '9'.toNat = 57 := rfl
  rw [asciiDigit?, hzero, hnine]
  split
  · rw [Option.some.injEq]
    omega
  · exact iff_of_false (fun h => by cases h) (by omega)

/-- The `decimal?` value of a digit is below ten. -/
theorem decimal?_lt {c : Char} {d : Nat} (h : decimal? c = some d) : d < 10 := by
  rw [decimal?] at h
  split at h
  · exact (asciiDigit?_eq_some_iff.mp h).2
  · obtain ⟨r, -, rfl⟩ := Option.map_eq_some_iff.mp h
    exact Nat.mod_lt _ (by decide)

/-- No decimal digit `isBlank`. -/
theorem decimal?_eq_none_of_isBlank {c : Char} (h : isBlank c = true) : decimal? c = none := by
  refine Option.eq_none_iff_forall_ne_some.mpr fun d hd => ?_
  rw [decimal?] at hd
  split at hd
  · have hascii : inRanges [(48, 57)] c = true := by
      obtain ⟨hc, hlt⟩ := asciiDigit?_eq_some_iff.mp hd
      exact inRanges_iff.mpr ⟨_, List.mem_singleton_self _, by omega, by omega⟩
    exact not_inRanges_of_areApart (by decide) h hascii
  · obtain ⟨r, hr, -⟩ := Option.map_eq_some_iff.mp hd
    have hin := List.find?_some hr
    have hbeyond : inRanges decimalRanges c = true :=
      List.any_eq_true.mpr ⟨r, List.mem_of_find?_eq_some hr, hin⟩
    exact not_inRanges_of_areApart (by decide) h hbeyond

/-- Every decimal digit `isDigitLike`. -/
theorem isDigitLike_of_decimal? {c : Char} (h : (decimal? c).isSome = true) :
    isDigitLike c = true := by
  rw [decimal?] at h
  rw [isDigitLike]
  split at h
  next hc => rw [if_pos hc, h]
  next hc =>
    rw [Option.isSome_map, List.find?_isSome] at h
    rw [if_neg hc]
    exact inRanges_of_isPartOf (by decide) (List.any_eq_true.mpr h)

/-- No character that `isDigitLike` is blank. -/
private theorem not_isBlank_of_isDigitLike {c : Char} (hc : ¬ c.toNat < 128)
    (h : isDigitLike c = true) : ¬ isBlank c = true := by
  rw [isDigitLike, if_neg hc] at h
  exact not_inRanges_of_areApart (by decide) h

end Text

namespace Numeral

open Text

/-! ## Characters in their ASCII form -/

/-- `asciiDigit?` reads the values of the ASCII digits. -/
private theorem asciiDigit?_ofNat :
    ∀ d, d < 10 → asciiDigit? (Char.ofNat ('0'.toNat + d)) = some d := by
  decide

/-- The `plain` form of a character is a digit exactly if the character is a decimal digit, and the
same one. -/
theorem asciiDigit?_plain (c : Char) : asciiDigit? (plain c) = decimal? c := by
  rw [plain]
  split
  next h => rw [decimal?, if_pos (by omega)]
  next h =>
    by_cases hascii : c.toNat < 128
    · -- The one control character beyond the printable ones of ASCII.
      obtain rfl : c = Char.ofNat 127 := Char.toNat_inj.mp (show c.toNat = 127 by omega)
      decide
    · split
      next hblank => rw [decimal?_eq_none_of_isBlank hblank]; rfl
      next =>
        cases hd : decimal? c with
        | some d => exact asciiDigit?_ofNat d (decimal?_lt hd)
        | none => rfl

/-- What may stand around a numeral: the characters whose `plain` form is blank. -/
def isPadding (c : Char) : Bool :=
  isAsciiBlank (plain c)

/-- A character that `isAsciiBlank` is none of the others in a numeral. -/
private theorem ne_of_isAsciiBlank {c : Char} (h : isAsciiBlank c = true) :
    asciiDigit? c = none ∧ c ≠ '_' ∧ c ≠ '-' ∧ c ≠ '+' := by
  refine ⟨Option.eq_none_iff_forall_ne_some.mpr fun d hd => ?_, ?_, ?_, ?_⟩
  · obtain ⟨hc, -⟩ := asciiDigit?_eq_some_iff.mp hd
    rw [isAsciiBlank] at h
    simp at h
    omega
  all_goals
    rintro rfl
    exact absurd h (by decide)

/-! ## Runs of digits -/

/-- The text is made of decimal digits, and they stand for `n`. -/
def Denotes (digits : List Char) (n : Nat) : Prop :=
  digits ≠ [] ∧ ∃ ds, digits.map decimal? = ds.map some ∧ valueOf ds = n

/-- Whether a run of digits ends before `rest`. -/
def EndsRun (rest : List Char) : Prop :=
  ∀ c ∈ rest.head?, decimal? c = none ∧ plain c ≠ '_'

/-- Padding `EndsRun`. -/
theorem endsRun_of_padding {rest : List Char} (h : ∀ c ∈ rest, isPadding c = true) :
    EndsRun rest := by
  intro c hc
  obtain ⟨hdigit, hunderscore, -⟩ := ne_of_isAsciiBlank (h c (List.mem_of_head? hc))
  exact ⟨by rw [← asciiDigit?_plain, hdigit], hunderscore⟩

/-- `digitRun` reads a run of digits up to its end. -/
private theorem digitRun_of_decimals {digits rest : List Char} {ds : List Nat} {afterDigit : Bool}
    (hds : digits.map decimal? = ds.map some) (hrest : EndsRun rest)
    (hsome : afterDigit = true ∨ digits ≠ []) :
    digitRun afterDigit ((digits ++ rest).map plain) = some (ds, rest.map plain) := by
  induction digits generalizing ds afterDigit with
  | nil =>
    -- There are no digits left, so one must have been before.
    obtain rfl : ds = [] := by simpa using hds.symm
    obtain rfl : afterDigit = true := by simpa using hsome
    cases rest with
    | nil => rfl
    | cons c rest =>
      obtain ⟨hc, hunderscore⟩ := hrest c rfl
      simp [digitRun, hunderscore, asciiDigit?_plain, hc]
  | cons c digits ih =>
    obtain ⟨d, ds, rfl, hd, hds⟩ := List.map_eq_cons_iff.mp hds.symm
    have hc : asciiDigit? (plain c) = some d := by rw [asciiDigit?_plain, hd]
    -- A digit is no underscore, so it goes on with the run.
    have hunderscore : plain c ≠ '_' := by
      intro h
      rw [h] at hc
      cases hc
    rw [List.cons_append, List.map_cons, digitRun, if_neg hunderscore, hc]
    exact congrArg (Option.map _) (ih hds.symm (.inl rfl))

/-! ## Integers -/

/-- `dropWhile` leaves out the padding in front of a text that starts with no blank. -/
private theorem dropWhile_padding {pad l : List Char} (hpad : ∀ c ∈ pad, isPadding c = true)
    (hl : ∀ c ∈ l.head?, isPadding c = false) :
    ((pad ++ l).map plain).dropWhile isAsciiBlank = l.map plain := by
  rw [List.map_append, List.dropWhile_append_of_pos (by simpa [isPadding] using hpad)]
  cases l with
  | nil => rfl
  | cons c l => exact List.dropWhile_cons_of_neg (by simpa [isPadding] using hl c rfl)

/-- A character that `decimal?` reads is no padding and no sign. -/
private theorem not_isPadding_of_decimal? {c : Char} {d : Nat} (h : decimal? c = some d) :
    isPadding c = false ∧ plain c ≠ '-' ∧ plain c ≠ '+' := by
  rw [← asciiDigit?_plain] at h
  refine ⟨Bool.eq_false_iff.mpr fun hblank => ?_, ?_, ?_⟩
  · rw [(ne_of_isAsciiBlank hblank).1] at h
    cases h
  all_goals
    intro hc
    rw [hc] at h
    cases h

/-- `sign` finds none in a text that starts with none. -/
private theorem sign_of_ne {l : List Char} (h : ∀ c ∈ l.head?, c ≠ '-' ∧ c ≠ '+') :
    sign l = (false, l) := by
  cases l with
  | nil => rfl
  | cons c l =>
    obtain ⟨hminus, hplus⟩ := h c rfl
    unfold sign
    split
    next heq => exact absurd (List.cons.inj heq).1 hminus
    next heq => exact absurd (List.cons.inj heq).1 hplus
    next => rfl

/-- A minus sign or nothing. -/
def minus (negative : Bool) : List Char :=
  if negative then ['-'] else []

/-- The number of a size and a sign. -/
def signed (negative : Bool) (n : Nat) : Int :=
  if negative then -(n : Int) else n

/-- What `readInt` makes of blanks, a sign, digits and something behind them: the number, as long as
the digits are not too many and only blanks stand behind. -/
theorem readInt_of_denotes {s : String} {pad digits rest : List Char} {n : Nat} (negative : Bool)
    (hs : s.toList = pad ++ (minus negative ++ (digits ++ rest)))
    (hpad : ∀ c ∈ pad, isPadding c = true) (hdigits : Denotes digits n) (hrest : EndsRun rest) :
    readInt s = if maxIntDigits < digits.length then .error (.tooLong digits.length)
      else if rest.all isPadding then .ok (signed negative n) else .error .malformed := by
  obtain ⟨hne, ds, hds, rfl⟩ := hdigits
  have hlength : ds.length = digits.length := by simpa using (congrArg List.length hds).symm
  -- The first digit ends the padding, and without a sign in front it is not taken for one.
  have hhead : ∀ c ∈ (digits ++ rest).head?,
      isPadding c = false ∧ plain c ≠ '-' ∧ plain c ≠ '+' := by
    cases digits with
    | nil => exact absurd rfl hne
    | cons c digits =>
      obtain ⟨d, -, -, hd, -⟩ := List.map_eq_cons_iff.mp hds.symm
      rintro _ ⟨⟩
      exact not_isPadding_of_decimal? hd.symm
  -- The sign is read, or what stands in its place is a digit.
  have hbody : sign (((minus negative ++ (digits ++ rest))).map plain) =
      (negative, (digits ++ rest).map plain) := by
    cases negative with
    | true => rfl
    | false =>
      refine sign_of_ne fun c hc => ?_
      rw [show minus false ++ (digits ++ rest) = digits ++ rest from rfl, List.head?_map] at hc
      obtain ⟨a, ha, rfl⟩ := Option.map_eq_some_iff.mp hc
      exact (hhead a ha).2
  have hfront : ∀ c ∈ (minus negative ++ (digits ++ rest)).head?, isPadding c = false := by
    cases negative with
    | true =>
      rintro _ ⟨⟩
      decide
    | false => exact fun c hc => (hhead c hc).1
  -- What is left behind the digits decides whether the text is an integer.
  simp only [readInt, hs, dropWhile_padding hpad hfront, hbody,
    digitRun_of_decimals hds hrest (.inr hne), hlength, List.all_map]
  rfl

/-- The `toDigits` of a number denote it. -/
theorem denotes_toDigits (n : Nat) : Denotes (Nat.toDigits 10 n) n := by
  refine ⟨Nat.toDigits_ne_nil, (Nat.toDigits 10 n).map fun c => c.toNat - '0'.toNat, ?_, ?_⟩
  · rw [List.map_map]
    refine List.map_congr_left fun c hc => ?_
    have hdigit := Char.isDigit_iff_toNat.mp
      (Nat.isDigit_of_mem_toDigits (by decide) (by decide) hc)
    have hzero : '0'.toNat = 48 := rfl
    have hnine : '9'.toNat = 57 := rfl
    show decimal? c = some (c.toNat - '0'.toNat)
    rw [decimal?, if_pos (by omega)]
    exact asciiDigit?_eq_some_iff.mpr (by omega)
  · rw [valueOf, List.foldl_map]
    exact Nat.ofDigitChars_ten_toDigits

/-! ## Digit characters -/

/-- The `plain` form of a character that `isDigitLike` but no decimal digit is a question mark. -/
private theorem plain_of_isDigitLike {c : Char} (h : isDigitLike c = true)
    (hc : decimal? c = none) : plain c = '?' := by
  have hascii : ¬ c.toNat < 128 := by
    intro hlt
    rw [isDigitLike, if_pos hlt] at h
    rw [decimal?, if_pos hlt] at hc
    rw [hc] at h
    cases h
  rw [plain, if_neg (by omega), if_neg (not_isBlank_of_isDigitLike hascii h), hc]

/-- `readInt` reads nothing that starts with a question mark. -/
private theorem readInt_of_question {s : String} {c : Char} {l : List Char}
    (hs : s.toList = c :: l) (hc : plain c = '?') : readInt s = .error .malformed := by
  have hblank : isAsciiBlank '?' = false := by decide
  have hdigit : asciiDigit? '?' = none := by decide
  simp [readInt, hs, hc, hblank, sign, digitRun, hdigit]

/-- `Denotes` has a number for texts of decimal digits, and for no others. -/
theorem exists_denotes_iff {digits : List Char} :
    (∃ n, Denotes digits n) ↔ digits ≠ [] ∧ ∀ c ∈ digits, decimal? c ≠ none := by
  constructor
  · rintro ⟨n, hne, ds, hds, -⟩
    -- A character that is no digit would leave its place empty.
    refine ⟨hne, fun c hc hnone => ?_⟩
    have hmem := List.mem_map_of_mem (f := decimal?) hc
    rw [hds, hnone] at hmem
    simp at hmem
  · rintro ⟨hne, h⟩
    -- Where every character is a digit, the number is made of their values.
    refine ⟨_, hne, digits.filterMap decimal?, ?_, rfl⟩
    clear hne
    induction digits with
    | nil => rfl
    | cons c digits ih =>
      obtain ⟨d, hd⟩ := Option.ne_none_iff_exists'.mp (h c List.mem_cons_self)
      rw [List.map_cons, hd, List.filterMap_cons_some hd, List.map_cons,
        ih fun c hc => h c (List.mem_cons_of_mem _ hc)]

/-- A text `Denotes` one number at most. -/
theorem Denotes.unique {digits : List Char} {m n : Nat} (hm : Denotes digits m)
    (hn : Denotes digits n) : m = n := by
  obtain ⟨-, ds, hds, rfl⟩ := hm
  obtain ⟨-, ds', hds', rfl⟩ := hn
  have hsome (a b : Nat) (h : some a = some b) : a = b := Option.some.inj h
  rw [(List.map_inj_right hsome).mp (hds.symm.trans hds')]

/-- What `Denotes` a number is made of digit characters. -/
theorem Denotes.isDigits {s : String} {n : Nat} (h : Denotes s.toList n) : isDigits s = true := by
  obtain ⟨hne, hdecimal⟩ := exists_denotes_iff.mp ⟨n, h⟩
  rw [Text.isDigits, Bool.and_eq_true, List.all_eq_true]
  refine ⟨by simpa using hne, fun c hc => ?_⟩
  exact isDigitLike_of_decimal? (Option.isSome_iff_ne_none.mpr (hdecimal c hc))

/-- `readInt` does not read digit characters past the first that is no decimal digit. -/
private theorem exists_readInt_eq_error {s : String} {front l : List Char} {c : Char}
    (hs : s.toList = front ++ c :: l) (hfront : ∀ a ∈ front, decimal? a ≠ none)
    (hlike : isDigitLike c = true) (hc : decimal? c = none) : ∃ e, readInt s = .error e := by
  have hplain := plain_of_isDigitLike hlike hc
  -- The reader refuses such a character at once, and as something behind the digits otherwise.
  by_cases hne : front = []
  · subst hne
    exact ⟨_, readInt_of_question hs hplain⟩
  · obtain ⟨n, hn⟩ := exists_denotes_iff.mpr ⟨hne, hfront⟩
    have hrest : EndsRun (c :: l) := by
      rintro _ ⟨⟩
      exact ⟨hc, by rw [hplain]; decide⟩
    have hpadding : (c :: l).all isPadding = false := by
      rw [List.all_cons, isPadding, hplain]
      rfl
    have hs' : s.toList = [] ++ (minus false ++ (front ++ c :: l)) := hs
    rw [readInt_of_denotes false hs' (by simp) hn hrest, hpadding]
    split
    · exact ⟨_, rfl⟩
    · exact ⟨_, rfl⟩

/-- Of the texts of digit characters `readInt` reads those that denote a number and are not too
long. -/
theorem readInt_eq_ok_iff_of_isDigits {s : String} (h : isDigits s = true) (i : Int) :
    readInt s = .ok i ↔
      s.toList.length ≤ maxIntDigits ∧ ∃ n : Nat, Denotes s.toList n ∧ i = n := by
  rw [isDigits, Bool.and_eq_true, Bool.not_eq_true', List.all_eq_true] at h
  obtain ⟨hempty, hlike⟩ := h
  have hread {n : Nat} (hn : Denotes s.toList n) :
      readInt s = if maxIntDigits < s.toList.length then .error (.tooLong s.toList.length)
        else .ok (n : Int) := by
    have hs : s.toList = [] ++ (minus false ++ (s.toList ++ [])) := by simp [minus]
    rw [readInt_of_denotes false hs (by simp) hn (endsRun_of_padding (by simp))]
    rfl
  constructor
  · -- Either all characters are decimal digits, or the first one that is none makes the reader
    -- stop.
    intro hi
    cases hfind : s.toList.find? fun c => (decimal? c).isNone with
    | none =>
      have hdecimal (c : Char) (hc : c ∈ s.toList) : decimal? c ≠ none := by
        simpa using List.find?_eq_none.mp hfind c hc
      obtain ⟨n, hn⟩ := exists_denotes_iff.mpr ⟨by simpa using hempty, hdecimal⟩
      rw [hread hn] at hi
      split at hi
      · cases hi
      · cases hi
        exact ⟨by omega, n, hn, rfl⟩
    | some c =>
      obtain ⟨hc, front, l, hs, hfront⟩ := List.find?_eq_some_iff_append.mp hfind
      have hdecimal (a : Char) (ha : a ∈ front) : decimal? a ≠ none := by
        simpa [Option.isSome_iff_ne_none] using hfront a ha
      obtain ⟨e, he⟩ := exists_readInt_eq_error hs hdecimal (hlike c (by rw [hs]; simp))
        (by simpa using hc)
      rw [he] at hi
      cases hi
  · rintro ⟨hlen, n, hn, rfl⟩
    rw [hread hn, if_neg (by omega)]

end Numeral

/-! ## Integers as text -/

/-- `toString` of an integer is a sign where it is negative, and the digits of its size. -/
theorem toList_toString_int (n : Int) : (toString n).toList =
    if n < 0 then '-' :: Nat.toDigits 10 n.natAbs else Nat.toDigits 10 n.natAbs := by
  cases n with
  | ofNat n =>
    rw [if_neg (show ¬ Int.ofNat n < 0 from Int.not_lt.mpr (Int.natCast_nonneg n))]
    exact Nat.toList_repr
  | negSucc n =>
    rw [if_pos (by omega)]
    show ("-" ++ Nat.repr (n + 1)).toList = _
    rw [String.toList_append, Nat.toList_repr]
    rfl

/-- `toString` of an integer is made of a minus sign and digits. -/
theorem mem_toString_int {n : Int} {c : Char} (h : c ∈ (toString n).toList) :
    c = '-' ∨ c.isDigit = true := by
  have hdigit {m : Nat} (hc : c ∈ Nat.toDigits 10 m) : c.isDigit = true :=
    Nat.isDigit_of_mem_toDigits (by decide) (by decide) hc
  rw [toList_toString_int] at h
  split at h
  · exact (List.mem_cons.mp h).imp_right hdigit
  · exact .inr (hdigit h)

/-- `toString` of an integer holds a character that is not blank. -/
theorem exists_not_isBlank_toString_int (n : Int) :
    ∃ c ∈ (toString n).toList, ¬ Text.isBlank c = true := by
  obtain ⟨hne, ds, hds, -⟩ := Numeral.denotes_toDigits n.natAbs
  obtain ⟨c, l, hl⟩ := List.exists_cons_of_ne_nil hne
  refine ⟨c, ?_, fun hblank => ?_⟩
  · rw [toList_toString_int, hl]
    split <;> simp
  · rw [hl, List.map_cons, Text.decimal?_eq_none_of_isBlank hblank] at hds
    cases ds <;> cases hds

/-- `readInt` reads an integer back from its text with padding around it, up to the limit on the
length of integers. -/
theorem Numeral.readInt_padded {s : String} {before after : List Char} {n : Int}
    (hs : s.toList = before ++ ((toString n).toList ++ after))
    (hbefore : ∀ c ∈ before, isPadding c = true) (hafter : ∀ c ∈ after, isPadding c = true)
    (hlen : (Nat.toDigits 10 n.natAbs).length ≤ maxIntDigits) : readInt s = .ok n := by
  -- Printed, the integer is its sign and the digits of its size.
  have htext : (toString n).toList = minus (decide (n < 0)) ++ Nat.toDigits 10 n.natAbs := by
    rw [toList_toString_int, minus]
    split <;> simp [*]
  have hsigned : signed (decide (n < 0)) n.natAbs = n := by
    rw [signed]
    split
    next h =>
      have := of_decide_eq_true h
      omega
    next h =>
      have := of_decide_eq_false (Bool.eq_false_iff.mpr h)
      omega
  rw [htext, List.append_assoc] at hs
  rw [readInt_of_denotes _ hs hbefore (denotes_toDigits _) (endsRun_of_padding hafter),
    if_neg (by omega), if_pos (List.all_eq_true.mpr hafter), hsigned]

end TokenRisk
