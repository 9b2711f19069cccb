import TokenRisk.Json.Reader
import TokenRisk.Proofs.Numerals

/-!
# Texts that write a value

The grammar of standard JSON, as a relation between values and texts: any gaps between the tokens,
any of the escapes of a character, numbers in any form, and objects whose keys differ.
`Json.readAll` reads every text of the grammar as the value that it writes, up to the limit on the
length of integers.

The reader is given fuel, and the length of a text is enough of it. So the proof is an induction on
the fuel, for values, items and members at once, with what follows the text left open.

## Key results

- `Json.readString_of_writesChars`: a string is read up to its closing quote.
- `Json.readsWithin`: a value is read with as much fuel as its text has characters.
- `Json.readAll_of_isTextOf`: the whole of a text is read as the value it writes.
-/

namespace TokenRisk.Json

open Numeral (minus signed maxIntDigits)

/-! ## Strings -/

/-- The text between quotes writes the characters, each as itself or by an escape. -/
inductive WritesChars : List Char → List Char → Prop
  | nil : WritesChars [] []
  | literal {s l : List Char} (c : Char) (hc : 32 ≤ c.toNat) (hquote : c ≠ '"')
      (hescape : c ≠ '\\') (h : WritesChars s l) : WritesChars (c :: s) (c :: l)
  | simple {s l : List Char} (e c : Char) (he : simpleEscape? e = some c) (h : WritesChars s l) :
      WritesChars (c :: s) ('\\' :: e :: l)
  | unit {s l : List Char} (a b c d : Char) (n : Nat) (hn : unit? a b c d = some n)
      (hhigh : isHighSurrogate n = false) (hlow : isLowSurrogate n = false)
      (h : WritesChars s l) :
      WritesChars (Char.ofNat n :: s) ('\\' :: 'u' :: a :: b :: c :: d :: l)
  | pair {s l : List Char} (a b c d a' b' c' d' : Char) (high low : Nat)
      (hfirst : unit? a b c d = some high) (hsecond : unit? a' b' c' d' = some low)
      (hhigh : isHighSurrogate high = true) (hlow : isLowSurrogate low = true)
      (h : WritesChars s l) :
      WritesChars (pairChar high low :: s)
        ('\\' :: 'u' :: a :: b :: c :: d :: '\\' :: 'u' :: a' :: b' :: c' :: d' :: l)

/-- A simple escape is no `u`. -/
private theorem ne_u_of_simpleEscape? {e c : Char} (h : simpleEscape? e = some c) : e ≠ 'u' := by
  rintro rfl
  cases h

/-- `readString` reads a string up to its closing quote. -/
theorem readString_of_writesChars {s l : List Char} (h : WritesChars s l) (opening : Nat)
    (rest : List Char) : readString opening (l ++ '"' :: rest) = .ok (s, rest) := by
  induction h with
  | nil => rw [List.nil_append, readString]
  | literal c hc hquote hescape _ ih =>
    -- The goals left over are that no earlier case of the reader takes the character.
    rw [List.cons_append, readString, if_neg (by omega), ih]
    · rfl
    · exact hquote
    all_goals
      intros
      exact hescape ‹_›
  | simple e c he _ ih =>
    rw [List.cons_append, List.cons_append, readString]
    · simp only [he, ih]
      rfl
    all_goals
      intros
      exact ne_u_of_simpleEscape? he ‹_›
  | @unit s l a b c d n hn hhigh hlow _ ih =>
    -- The reader looks one character past the escape, and there is one: the closing quote at last.
    obtain ⟨next, r, hr⟩ : ∃ next r, l ++ '"' :: rest = next :: r := by
      cases l <;> simp
    simp only [List.cons_append, hr]
    rw [readString, hn]
    dsimp only
    split
    · rw [hhigh, Bool.false_and, if_neg Bool.false_ne_true, ← hr, ih, unitChar, hhigh, hlow]
      rfl
    · rw [← hr, ih, unitChar, hhigh, hlow]
      rfl
  | @pair s l a b c d a' b' c' d' high low hfirst hsecond hhigh hlow _ ih =>
    -- The second escape is taken with the first only if the text goes on behind it, as it does.
    have hmore : (l ++ '"' :: rest).isEmpty = false := by cases l <;> rfl
    simp only [List.cons_append]
    rw [readString, hfirst]
    simp only [hhigh, hmore, hsecond, hlow, ih, Bool.not_false, Bool.and_self, if_true]
    rfl

/-! ## Numbers -/

/-- The digits of an integer: a zero alone, or digits that start with another one. -/
def IsWhole (whole : List Char) : Prop :=
  whole = ['0'] ∨ whole ≠ [] ∧ whole.all Char.isDigit = true ∧ whole.head? ≠ some '0'

/-- A point and digits, or nothing. -/
def IsFraction (fraction : List Char) : Prop :=
  fraction = [] ∨ ∃ ds, ds ≠ [] ∧ ds.all Char.isDigit = true ∧ fraction = '.' :: ds

/-- An `e` with digits that may have a sign, or nothing. -/
def IsExponent (exponent : List Char) : Prop :=
  exponent = [] ∨ ∃ mark sign ds, (mark = 'e' ∨ mark = 'E') ∧
    (sign = [] ∨ sign = ['+'] ∨ sign = ['-']) ∧ ds ≠ [] ∧ ds.all Char.isDigit = true ∧
      exponent = mark :: (sign ++ ds)

/-- No number goes on with this text. -/
def EndsNumber (rest : List Char) : Prop :=
  ∀ c ∈ rest.head?, c.isDigit = false ∧ c ≠ '.' ∧ c ≠ 'e' ∧ c ≠ 'E'

/-- A character that `isDigit` is none of the others. -/
private theorem ne_of_isDigit {c d : Char} (hd : d.isDigit = true) (hc : c.isDigit = false) :
    d ≠ c := by
  rintro rfl
  rw [hd] at hc
  cases hc

/-- An `IsWhole` text starts with a digit. -/
private theorem IsWhole.exists_cons {whole : List Char} (h : IsWhole whole) :
    ∃ d l, whole = d :: l ∧ d.isDigit = true := by
  rcases h with rfl | ⟨hne, hdigits, -⟩
  · exact ⟨'0', [], rfl, rfl⟩
  · obtain ⟨d, l, rfl⟩ := List.exists_cons_of_ne_nil hne
    exact ⟨d, l, rfl, List.all_eq_true.mp hdigits d List.mem_cons_self⟩

/-- `spanDigits` cuts a run of digits off in front of another character. -/
private theorem spanDigits_append {ds rest : List Char} (hds : ds.all Char.isDigit = true)
    (hrest : ∀ c ∈ rest.head?, c.isDigit = false) : spanDigits (ds ++ rest) = (ds, rest) := by
  have hall := List.all_eq_true.mp hds
  rw [spanDigits, List.takeWhile_append_of_pos hall, List.dropWhile_append_of_pos hall]
  cases rest with
  | nil => simp
  | cons c rest => simp [hrest c rfl]

/-- `spanInteger` cuts the digits of an integer off in front of what is no digit. -/
private theorem spanInteger_append {whole rest : List Char} (hwhole : IsWhole whole)
    (hrest : ∀ c ∈ rest.head?, c.isDigit = false) :
    spanInteger (whole ++ rest) = (whole, rest) := by
  rcases hwhole with rfl | ⟨hne, hdigits, hzero⟩
  · rfl
  · cases whole with
    | nil => exact absurd rfl hne
    | cons c whole =>
      unfold spanInteger
      split
      next l hl => exact absurd (congrArg some (List.cons.inj hl).1) hzero
      next => exact spanDigits_append hdigits hrest

/-- `spanFraction` cuts a fraction off in front of what is no digit, and finds none without a
point. -/
private theorem spanFraction_append {fraction rest : List Char} (hfraction : IsFraction fraction)
    (hrest : ∀ c ∈ rest.head?, c.isDigit = false ∧ c ≠ '.') :
    spanFraction (fraction ++ rest) = (fraction, rest) := by
  rcases hfraction with rfl | ⟨ds, hne, hds, rfl⟩
  · rw [List.nil_append]
    unfold spanFraction
    split
    next l => exact absurd rfl (hrest '.' rfl).2
    next => rfl
  · have hempty : ds.isEmpty = false := by simpa using hne
    rw [List.cons_append, spanFraction, spanDigits_append hds fun c hc => (hrest c hc).1]
    simp only [hempty]
    rfl

/-- `spanExponent` cuts an exponent off in front of what is no digit, and finds none without its
mark. -/
private theorem spanExponent_append {exponent rest : List Char} (hexponent : IsExponent exponent)
    (hrest : ∀ c ∈ rest.head?, c.isDigit = false ∧ c ≠ 'e' ∧ c ≠ 'E') :
    spanExponent (exponent ++ rest) = (exponent, rest) := by
  rcases hexponent with rfl | ⟨mark, sign, ds, hmark, hsign, hne, hds, rfl⟩
  · cases rest with
    | nil => rfl
    | cons c rest =>
      obtain ⟨-, he, hE⟩ := hrest c rfl
      simp [spanExponent, he, hE]
  · have hempty : ds.isEmpty = false := by simpa using hne
    have hspan := spanDigits_append hds fun c hc => (hrest c hc).1
    rcases hsign with rfl | rfl | rfl
    · -- Without a sign the first digit must not be taken for one.
      cases ds with
      | nil => exact absurd rfl hne
      | cons d ds =>
        have hd : d.isDigit = true := List.all_eq_true.mp hds d List.mem_cons_self
        have hplus : d ≠ '+' := ne_of_isDigit hd rfl
        have hminus : d ≠ '-' := ne_of_isDigit hd rfl
        simp only [List.cons_append, List.nil_append] at hspan ⊢
        simp [spanExponent, hmark, hplus, hminus, hspan]
    all_goals simp [spanExponent, hmark, hspan, hempty]

/-- `readNumber` reads an integer up to what can follow it. -/
private theorem readNumber_integer {whole rest : List Char} (negative : Bool) (remaining : Nat)
    (hwhole : IsWhole whole) (hlength : whole.length ≤ maxIntDigits) (hrest : EndsNumber rest) :
    readNumber negative remaining (whole ++ rest) =
      .ok (.int (signed negative (Numeral.valueOf (whole.filterMap Text.asciiDigit?))), rest) := by
  have hempty : whole.isEmpty = false := by
    obtain ⟨d, l, rfl, -⟩ := hwhole.exists_cons
    rfl
  have hfraction := spanFraction_append (.inl rfl) fun c hc => ⟨(hrest c hc).1, (hrest c hc).2.1⟩
  have hexponent := spanExponent_append (.inl rfl) fun c hc => ⟨(hrest c hc).1, (hrest c hc).2.2⟩
  rw [List.nil_append] at hfraction hexponent
  simp only [readNumber, spanInteger_append hwhole fun c hc => (hrest c hc).1, hempty, hfraction,
    hexponent, if_neg (Nat.not_lt.mpr hlength)]
  rfl

/-- `readNumber` reads a number with a fraction or an exponent up to what can follow it. -/
private theorem readNumber_real {whole fraction exponent rest : List Char} (negative : Bool)
    (remaining : Nat) (hwhole : IsWhole whole) (hfraction : IsFraction fraction)
    (hexponent : IsExponent exponent) (hreal : fraction ≠ [] ∨ exponent ≠ [])
    (hrest : EndsNumber rest) :
    readNumber negative remaining (whole ++ (fraction ++ (exponent ++ rest))) =
      .ok (.real ((Numeral.readMagnitude negative (whole ++ fraction ++ exponent)).getD .nan),
        rest) := by
  -- There is a digit at least, so the number is not refused.
  have hempty : whole.isEmpty = false := by
    obtain ⟨d, l, rfl, -⟩ := hwhole.exists_cons
    rfl
  -- With a fraction or an exponent it is not an integer.
  have hints : (fraction.isEmpty && exponent.isEmpty) = false := by
    rw [Bool.and_eq_false_iff]
    exact hreal.imp (by simpa using ·) (by simpa using ·)
  -- What stands behind the digits and behind the fraction ends each of them.
  have hafter : ∀ c ∈ (exponent ++ rest).head?, c.isDigit = false ∧ c ≠ '.' := by
    rcases hexponent with rfl | ⟨mark, sign, ds, rfl | rfl, -, -, -, rfl⟩
    · exact fun c hc => ⟨(hrest c hc).1, (hrest c hc).2.1⟩
    all_goals
      rintro _ ⟨⟩
      decide
  have hpoint : ∀ c ∈ (fraction ++ (exponent ++ rest)).head?, c.isDigit = false := by
    rcases hfraction with rfl | ⟨ds, -, -, rfl⟩
    · exact fun c hc => (hafter c hc).1
    · rintro _ ⟨⟩
      decide
  simp only [readNumber, spanInteger_append hwhole hpoint, spanFraction_append hfraction hafter,
    spanExponent_append hexponent fun c hc => ⟨(hrest c hc).1, (hrest c hc).2.2⟩, hempty, hints]
  rfl

/-! ## Values -/

/-- The words of the grammar and the values they stand for. -/
def plainWords : List (String × Json) :=
  [("null", .null), ("true", .bool true), ("false", .bool false)]

/-- Texts of the parts with gaps around each and commas between them. -/
inductive Separated {α : Type} (W : α → List Char → Prop) : List α → List Char → Prop
  | last {a : α} {l : List Char} (before after : List Char) (hbefore : before.all isGap = true)
      (hafter : after.all isGap = true) (h : W a l) : Separated W [a] (before ++ (l ++ after))
  | more {a : α} {as : List α} {l r : List Char} (before after : List Char)
      (hbefore : before.all isGap = true) (hafter : after.all isGap = true) (h : W a l)
      (hrest : Separated W as r) : Separated W (a :: as) (before ++ (l ++ (after ++ ',' :: r)))

/-- The text of a key, a colon with gaps around it, and the text of a value. -/
inductive WritesMember (W : Json → List Char → Prop) : String × Json → List Char → Prop
  | mk {key : String} {v : Json} {k l : List Char} (before after : List Char)
      (hkey : WritesChars key.toList k) (hbefore : before.all isGap = true)
      (hafter : after.all isGap = true) (h : W v l) :
      WritesMember W (key, v) ('"' :: (k ++ '"' :: (before ++ ':' :: (after ++ l))))

/-- The text writes the value in standard JSON. -/
inductive Writes : Json → List Char → Prop
  | word (w : String) (v : Json) (h : (w, v) ∈ plainWords) : Writes v w.toList
  | integer (negative : Bool) (whole : List Char) (hwhole : IsWhole whole)
      (hlength : whole.length ≤ maxIntDigits) :
      Writes (.int (signed negative (Numeral.valueOf (whole.filterMap Text.asciiDigit?))))
        (minus negative ++ whole)
  | real (negative : Bool) (whole fraction exponent : List Char) (hwhole : IsWhole whole)
      (hfraction : IsFraction fraction) (hexponent : IsExponent exponent)
      (hreal : fraction ≠ [] ∨ exponent ≠ []) :
      Writes
        (.real ((Numeral.readMagnitude negative (whole ++ fraction ++ exponent)).getD .nan))
        (minus negative ++ (whole ++ fraction ++ exponent))
  | string (s : String) (l : List Char) (h : WritesChars s.toList l) :
      Writes (.string s) ('"' :: (l ++ ['"']))
  | emptyArray (gap : List Char) (hgap : gap.all isGap = true) :
      Writes (.array []) ('[' :: (gap ++ [']']))
  | array (items : List Json) (l : List Char) (h : Separated Writes items l) :
      Writes (.array items) ('[' :: (l ++ [']']))
  | emptyObject (gap : List Char) (hgap : gap.all isGap = true) :
      Writes (.object []) ('{' :: (gap ++ ['}']))
  | object (members : List (String × Json)) (l : List Char)
      (h : Separated (WritesMember Writes) members l) (hkeys : (members.map (·.1)).Nodup) :
      Writes (.object members) ('{' :: (l ++ ['}']))

/-- What can follow a value: a gap, or what ends an item or what holds it, or nothing. -/
def Follows (rest : List Char) : Prop :=
  ∀ c ∈ rest.head?, isGap c = true ∨ c = ',' ∨ c = ']' ∨ c = '}'

/-- No number goes on with what `Follows` a value. -/
private theorem Follows.endsNumber {rest : List Char} (h : Follows rest) : EndsNumber rest := by
  intro c hc
  rcases h c hc with hgap | rfl | rfl | rfl
  · simp only [isGap, Bool.or_eq_true, decide_eq_true_eq] at hgap
    rcases hgap with ((rfl | rfl) | rfl) | rfl <;> decide
  all_goals decide

/-- A gap before what `Follows` a value can follow it, too. -/
private theorem follows_append {gap rest : List Char} (hgap : gap.all isGap = true)
    (h : Follows rest) : Follows (gap ++ rest) := by
  cases gap with
  | nil => exact h
  | cons c gap =>
    rintro _ ⟨⟩
    exact .inl (List.all_eq_true.mp hgap c List.mem_cons_self)

/-- `skipGap` skips a gap up to what is no blank. -/
private theorem skipGap_append {gap l : List Char} (hgap : gap.all isGap = true)
    (hl : ∀ c ∈ l.head?, isGap c = false) : skipGap (gap ++ l) = l := by
  rw [skipGap, List.dropWhile_append_of_pos (List.all_eq_true.mp hgap)]
  cases l with
  | nil => rfl
  | cons c l => exact List.dropWhile_cons_of_neg (by simp [hl c rfl])

/-- What `afterWord?` finds behind a word is what follows it. -/
private theorem afterWord?_append (word : String) (rest : List Char) :
    afterWord? word (word.toList ++ rest) = some rest := by
  rw [afterWord?, if_pos (List.isPrefixOf_iff_prefix.mpr (List.prefix_append _ _)),
    ← String.length_toList, List.drop_left]

/-- `afterWord?` finds no word where the text starts with another character. -/
private theorem afterWord?_of_head?_ne {word other : String} {c d : Char}
    (hword : word.toList.head? = some c) (hother : other.toList.head? = some d) (hne : c ≠ d)
    (rest : List Char) : afterWord? word (other.toList ++ rest) = none := by
  obtain ⟨cs, hcs⟩ := List.head?_eq_some_iff.mp hword
  obtain ⟨ds, hds⟩ := List.head?_eq_some_iff.mp hother
  rw [afterWord?, hcs, hds, List.cons_append, List.isPrefixOf, beq_false_of_ne hne,
    Bool.false_and, if_neg Bool.false_ne_true]

/-- `readScalar` reads a word as what it stands for. -/
private theorem readScalar_of_word {word : String} {v : Json} (h : (word, v) ∈ plainWords)
    (rest : List Char) : readScalar (word.toList ++ rest) = .ok (v, rest) := by
  have hnull : "null".toList.head? = some 'n' := by decide
  have htrue : "true".toList.head? = some 't' := by decide
  have hfalse : "false".toList.head? = some 'f' := by decide
  simp only [plainWords, List.mem_cons, List.not_mem_nil, or_false, Prod.mk.injEq] at h
  unfold readScalar wordValues
  -- The reader tries the words in this order, so each is met behind those that fail.
  rcases h with ⟨rfl, rfl⟩ | ⟨rfl, rfl⟩ | ⟨rfl, rfl⟩
  · rw [List.findSome?_cons, afterWord?_append]
    rfl
  · rw [List.findSome?_cons, afterWord?_of_head?_ne hnull htrue (by decide), Option.map_none,
      List.findSome?_cons, afterWord?_append]
    rfl
  · rw [List.findSome?_cons, afterWord?_of_head?_ne hnull hfalse (by decide), Option.map_none,
      List.findSome?_cons, afterWord?_of_head?_ne htrue hfalse (by decide), Option.map_none,
      List.findSome?_cons, afterWord?_append]
    rfl

/-- No word starts as a number does, so `readScalar` goes on with `readNumber`. -/
private theorem readScalar_of_digit (negative : Bool) {d : Char} (hd : d.isDigit = true)
    (l : List Char) : readScalar (minus negative ++ d :: l) =
      readNumber negative (minus negative ++ d :: l).length (d :: l) := by
  have hword : ∀ w ∈ wordValues, afterWord? w.1 (minus negative ++ d :: l) = none := by
    -- No word starts with a digit or with a minus and a digit.
    have hne (c : Char) (hc : c.isDigit = false) : (c == d) = false :=
      beq_eq_false_iff_ne.mpr (Ne.symm (ne_of_isDigit hd hc))
    simp only [wordValues, List.forall_mem_cons, afterWord?]
    cases negative <;> simp (disch := decide) [minus, List.isPrefixOf, hne]
  have hnone : (wordValues.findSome? fun w =>
      (afterWord? w.1 (minus negative ++ d :: l)).map fun rest => (w.2, rest)) = none :=
    List.findSome?_eq_none_iff.mpr fun w hw => by rw [hword w hw]; rfl
  unfold readScalar
  rw [hnone]
  -- Without a minus, the first digit decides that a number is read.
  cases negative with
  | true => rfl
  | false =>
    split
    next h => cases h
    next =>
      split
      next l' hl => exact absurd (List.cons.inj hl).1 (ne_of_isDigit hd rfl)
      next => rfl

/-- A text that starts as words and numbers do. -/
private def StartsScalar (l : List Char) : Prop :=
  ∃ c r, l = c :: r ∧ (c.isAlphanum || c == '-') = true

/-- The `plainWords` start as words and numbers do. -/
private theorem startsScalar_of_word {word : String} {v : Json} (h : (word, v) ∈ plainWords) :
    StartsScalar word.toList := by
  simp only [plainWords, List.mem_cons, List.not_mem_nil, or_false, Prod.mk.injEq] at h
  rcases h with ⟨rfl, -⟩ | ⟨rfl, -⟩ | ⟨rfl, -⟩
  · exact ⟨'n', ['u', 'l', 'l'], by decide, by decide⟩
  · exact ⟨'t', ['r', 'u', 'e'], by decide, by decide⟩
  · exact ⟨'f', ['a', 'l', 's', 'e'], by decide, by decide⟩

/-- A number `StartsScalar`, as a word does. -/
private theorem startsScalar_of_number (negative : Bool) {whole : List Char}
    (hwhole : IsWhole whole) (r : List Char) : StartsScalar (minus negative ++ (whole ++ r)) := by
  obtain ⟨d, l, rfl, hd⟩ := hwhole.exists_cons
  cases negative with
  | true => exact ⟨'-', _, rfl, rfl⟩
  | false => exact ⟨d, _, rfl, by simp [Char.isAlphanum, hd]⟩

/-- A text that `StartsScalar` starts with no other character of the grammar. -/
private theorem StartsScalar.head_ne {l : List Char} (h : StartsScalar l) {c : Char}
    (hc : (c.isAlphanum || c == '-') = false) : ∀ a ∈ l.head?, a ≠ c := by
  obtain ⟨d, r, rfl, hd⟩ := h
  rintro _ ⟨⟩ rfl
  rw [hd] at hc
  cases hc

/-- `readValue` leaves a text that `StartsScalar` to `readScalar`. -/
private theorem readValue_scalar (fuel : Nat) {l : List Char} (h : StartsScalar l)
    (rest : List Char) : readValue (fuel + 1) (l ++ rest) = readScalar (l ++ rest) := by
  obtain ⟨c, r, rfl, hc⟩ := h
  unfold readValue
  split
  next h => cases (List.cons.inj h).1; cases hc
  next h => cases (List.cons.inj h).1; cases hc
  next h => cases (List.cons.inj h).1; cases hc
  next => rfl

/-- A text that `Writes` a value starts with a character that is neither blank nor a bracket that
closes. -/
private theorem Writes.exists_cons {v : Json} {l : List Char} (h : Writes v l) :
    ∃ c r, l = c :: r ∧ isGap c = false ∧ c ≠ ']' := by
  -- A word and a number start alike, with a letter, a digit or a minus.
  have hscalar {l : List Char} (h : StartsScalar l) :
      ∃ c r, l = c :: r ∧ isGap c = false ∧ c ≠ ']' := by
    obtain ⟨c, r, rfl, -⟩ := id h
    have hne (a : Char) (ha : (a.isAlphanum || a == '-') = false) : c ≠ a := h.head_ne ha c rfl
    exact ⟨c, r, rfl, by simp (disch := decide) [isGap, hne], hne ']' rfl⟩
  cases h with
  | word w _ h => exact hscalar (startsScalar_of_word h)
  | integer negative whole hwhole _ =>
    have h := startsScalar_of_number negative hwhole []
    rw [List.append_nil] at h
    exact hscalar h
  | real negative whole fraction exponent hwhole =>
    rw [List.append_assoc]
    exact hscalar (startsScalar_of_number negative hwhole _)
  | string s l _ => exact ⟨_, _, rfl, rfl, by decide⟩
  | emptyArray | array | emptyObject | object => exact ⟨_, _, rfl, rfl, by decide⟩

/-- `readScalar` leaves a number to `readNumber` from its first digit on. -/
private theorem readScalar_of_number (negative : Bool) {whole : List Char}
    (hwhole : IsWhole whole) (r : List Char) : readScalar (minus negative ++ (whole ++ r)) =
      readNumber negative (minus negative ++ (whole ++ r)).length (whole ++ r) := by
  obtain ⟨d, l, rfl, hd⟩ := hwhole.exists_cons
  exact readScalar_of_digit negative hd (l ++ r)

/-- What the reader makes of texts that are no longer than its fuel. -/
structure ReadsWithin (fuel : Nat) : Prop where
  /-- A value is read up to what can follow it. -/
  value : ∀ v l rest, Writes v l → l.length ≤ fuel → Follows rest →
    readValue fuel (l ++ rest) = .ok (v, rest)
  /-- Items are read up to the bracket, behind those that were read before. -/
  items : ∀ vs l read rest, Separated Writes vs l → l.length < fuel →
    readItems fuel read (skipGap (l ++ ']' :: rest)) = .ok (.array (read.reverse ++ vs), rest)
  /-- So are members, up to the brace, if all keys differ. -/
  members : ∀ ms l read rest, Separated (WritesMember Writes) ms l → l.length < fuel →
    ((read ++ ms).map (·.1)).Nodup →
      readMembers fuel read (skipGap (l ++ '}' :: rest)) = .ok (.object (read ++ ms), rest)

/-- A text that `WritesMember` starts with a quote. -/
private theorem WritesMember.exists_cons {m : String × Json} {l : List Char}
    (h : WritesMember Writes m l) : ∃ c r, l = c :: r ∧ isGap c = false ∧ c ≠ '}' := by
  cases h
  exact ⟨_, _, rfl, rfl, by decide⟩

/-- A text that starts with no blank stops `skipGap` in front of it. -/
private theorem skipGap_append_of_cons {gap l : List Char} {close : Char}
    (hl : ∃ c r, l = c :: r ∧ isGap c = false ∧ c ≠ close) (hgap : gap.all isGap = true)
    (rest : List Char) : skipGap (gap ++ (l ++ rest)) = l ++ rest := by
  obtain ⟨c, r, rfl, hc, -⟩ := hl
  refine skipGap_append hgap ?_
  rintro _ ⟨⟩
  exact hc

/-- `skipGap` leaves parts that start as the first of them does. -/
private theorem Separated.skipGap_eq_cons {α : Type} {W : α → List Char → Prop} {as : List α}
    {l : List Char} {close : Char} (h : Separated W as l)
    (hW : ∀ {a l}, W a l → ∃ c r, l = c :: r ∧ isGap c = false ∧ c ≠ close) (rest : List Char) :
    ∃ c r, skipGap (l ++ rest) = c :: r ∧ c ≠ close := by
  cases h with
  | last before after hbefore hafter ha | more before after hbefore hafter ha has =>
    obtain ⟨c, r, hl, -, hne⟩ := hW ha
    rw [List.append_assoc, List.append_assoc, skipGap_append_of_cons (hW ha) hbefore, hl]
    exact ⟨c, _, rfl, hne⟩

/-- Keys that are `Nodup` are not among those before them. -/
private theorem not_mem_of_nodup {read ms : List (String × Json)} {key : String} {v : Json}
    (h : ((read ++ (key, v) :: ms).map (·.1)).Nodup) : key ∉ read.map (·.1) := by
  rw [List.map_append, List.map_cons, List.nodup_append] at h
  exact fun hmem => h.2.2 key hmem key List.mem_cons_self rfl

/-- A step for `readValue`. -/
private theorem ReadsWithin.value_succ {fuel : Nat} (ih : ReadsWithin fuel) {v : Json}
    {l rest : List Char} (h : Writes v l) (hlen : l.length ≤ fuel + 1) (hrest : Follows rest) :
    readValue (fuel + 1) (l ++ rest) = .ok (v, rest) := by
  cases h with
  | word w _ hw => rw [readValue_scalar _ (startsScalar_of_word hw), readScalar_of_word hw]
  | integer negative whole hwhole hlength =>
    have hstart := startsScalar_of_number negative hwhole []
    rw [List.append_nil] at hstart
    rw [readValue_scalar _ hstart, List.append_assoc, readScalar_of_number negative hwhole,
      readNumber_integer negative _ hwhole hlength hrest.endsNumber]
  | real negative whole fraction exponent hwhole hfraction hexponent hreal =>
    -- A number is read from its sign on, with the rest of the text behind it.
    have hstart := startsScalar_of_number negative hwhole (fraction ++ exponent)
    have htext : minus negative ++ (whole ++ fraction ++ exponent) ++ rest =
        minus negative ++ (whole ++ (fraction ++ (exponent ++ rest))) := by
      simp only [List.append_assoc]
    rw [← List.append_assoc whole] at hstart
    rw [readValue_scalar _ hstart, htext, readScalar_of_number negative hwhole,
      readNumber_real negative _ hwhole hfraction hexponent hreal hrest.endsNumber]
  | string s l hl =>
    rw [List.cons_append, List.append_assoc, readValue]
    simp only [List.singleton_append, readString_of_writesChars hl, String.ofList_toList]
  | emptyArray gap hgap =>
    rw [List.cons_append, List.append_assoc, readValue]
    simp only [List.singleton_append]
    rw [skipGap_append hgap (by rintro _ ⟨⟩; decide)]
    rfl
  | array items l hl =>
    -- The bracket took one unit of fuel. An empty array is tried first, but an item stands there.
    have hitems := ih.items items l [] rest hl (by simp at hlen; omega)
    rw [List.cons_append, List.append_assoc, readValue, List.singleton_append]
    split
    next r heq =>
      obtain ⟨c, r', hfirst, hne⟩ := hl.skipGap_eq_cons Writes.exists_cons (']' :: rest)
      rw [heq] at hfirst
      exact absurd (List.cons.inj hfirst).1.symm hne
    next => exact hitems
  | emptyObject gap hgap =>
    rw [List.cons_append, List.append_assoc, readValue]
    simp only [List.singleton_append]
    rw [skipGap_append hgap (by rintro _ ⟨⟩; decide)]
    rfl
  | object members l hl hkeys =>
    -- The brace took one unit of fuel as well.
    have hmembers := ih.members members l [] rest hl (by simp at hlen; omega) hkeys
    rw [List.cons_append, List.append_assoc, readValue, List.singleton_append]
    split
    next r heq =>
      obtain ⟨c, r', hfirst, hne⟩ := hl.skipGap_eq_cons WritesMember.exists_cons ('}' :: rest)
      rw [heq] at hfirst
      exact absurd (List.cons.inj hfirst).1.symm hne
    next => exact hmembers

/-- A step for `readItems`. -/
private theorem ReadsWithin.items_succ {fuel : Nat} (ih : ReadsWithin fuel) {vs : List Json}
    {l : List Char} (read : List Json) (rest : List Char) (h : Separated Writes vs l)
    (hlen : l.length < fuel + 1) :
    readItems (fuel + 1) read (skipGap (l ++ ']' :: rest)) =
      .ok (.array (read.reverse ++ vs), rest) := by
  -- Behind the last item there is the bracket, behind others there is a comma.
  cases h with
  | @last v l before after hbefore hafter hv =>
    simp only [List.length_append] at hlen
    have hfollows : Follows (after ++ ']' :: rest) :=
      follows_append hafter (by rintro _ ⟨⟩; decide)
    have hbracket : skipGap (after ++ ']' :: rest) = ']' :: rest :=
      skipGap_append hafter (by rintro _ ⟨⟩; decide)
    -- The value is read with the gap and the bracket behind it, and nothing else is left.
    rw [List.append_assoc, List.append_assoc, skipGap_append_of_cons hv.exists_cons hbefore,
      readItems, ih.value v l _ hv (by omega) hfollows]
    simp only [hbracket]
    rw [List.reverse_cons]
  | @more v vs l r before after hbefore hafter hv hvs =>
    simp only [List.length_append, List.length_cons] at hlen
    have hfollows : Follows (after ++ ',' :: (r ++ ']' :: rest)) :=
      follows_append hafter (by rintro _ ⟨⟩; decide)
    have hcomma : skipGap (after ++ ',' :: (r ++ ']' :: rest)) = ',' :: (r ++ ']' :: rest) :=
      skipGap_append hafter (by rintro _ ⟨⟩; decide)
    have htext : before ++ (l ++ (after ++ ',' :: r)) ++ ']' :: rest =
        before ++ (l ++ (after ++ ',' :: (r ++ ']' :: rest))) := by
      simp only [List.append_assoc, List.cons_append]
    -- The value is read up to the comma, and the others from there on.
    rw [htext, skipGap_append_of_cons hv.exists_cons hbefore, readItems,
      ih.value v l _ hv (by omega) hfollows]
    simp only [hcomma]
    rw [ih.items vs r (v :: read) rest hvs (by omega), List.reverse_cons, List.append_assoc]
    rfl

/-- `readMembers` reads the member in front of a text, and then what stands behind it tells how to
go on. -/
private theorem ReadsWithin.member {fuel : Nat} (ih : ReadsWithin fuel) {key : String} {v : Json}
    {l tail : List Char} (read : List (String × Json)) (h : WritesMember Writes (key, v) l)
    (hlen : l.length ≤ fuel) (htail : Follows tail) :
    (∀ rest, skipGap tail = '}' :: rest →
      readMembers (fuel + 1) read (l ++ tail) = .ok (.object (setMember key v read), rest)) ∧
    (∀ rest, skipGap tail = ',' :: rest →
      readMembers (fuel + 1) read (l ++ tail) =
        readMembers fuel (setMember key v read) (skipGap rest)) := by
  obtain ⟨before, after, hkey, hbefore, hafter, hv⟩ := h
  rename_i k l
  simp only [List.length_cons, List.length_append] at hlen
  -- The key, the colon and the value are read one after the other, over the gaps between them.
  have htext : '"' :: (k ++ '"' :: (before ++ ':' :: (after ++ l))) ++ tail =
      '"' :: (k ++ '"' :: (before ++ ':' :: (after ++ (l ++ tail)))) := by
    simp only [List.append_assoc, List.cons_append]
  have hcolon : skipGap (before ++ ':' :: (after ++ (l ++ tail))) = ':' :: (after ++ (l ++ tail)) :=
    skipGap_append hbefore (by rintro _ ⟨⟩; decide)
  have hvalue := ih.value v l tail hv (by omega) htail
  rw [htext, readMembers]
  simp only [readString_of_writesChars hkey, hcolon, hvalue, String.ofList_toList,
    skipGap_append_of_cons hv.exists_cons hafter]
  -- What is behind the value decides whether the object ends or goes on.
  constructor
  · intro rest hrest
    simp only [hrest]
  · intro rest hrest
    simp only [hrest]

/-- A step for `readMembers`. -/
private theorem ReadsWithin.members_succ {fuel : Nat} (ih : ReadsWithin fuel)
    {ms : List (String × Json)} {l : List Char} (read : List (String × Json)) (rest : List Char)
    (h : Separated (WritesMember Writes) ms l) (hlen : l.length < fuel + 1)
    (hkeys : ((read ++ ms).map (·.1)).Nodup) :
    readMembers (fuel + 1) read (skipGap (l ++ '}' :: rest)) =
      .ok (.object (read ++ ms), rest) := by
  cases h with
  | @last m l before after hbefore hafter hm =>
    obtain ⟨key, v⟩ := m
    simp only [List.length_append] at hlen
    have hfollows : Follows (after ++ '}' :: rest) :=
      follows_append hafter (by rintro _ ⟨⟩; decide)
    have hbrace : skipGap (after ++ '}' :: rest) = '}' :: rest :=
      skipGap_append hafter (by rintro _ ⟨⟩; decide)
    rw [List.append_assoc, List.append_assoc, skipGap_append_of_cons hm.exists_cons hbefore,
      (ih.member read hm (by omega) hfollows).1 rest hbrace,
      -- The key is new, so the member is put behind the others.
      setMember_of_not_mem (not_mem_of_nodup hkeys)]
  | @more m ms l r before after hbefore hafter hm hms =>
    obtain ⟨key, v⟩ := m
    simp only [List.length_append, List.length_cons] at hlen
    have hfollows : Follows (after ++ ',' :: (r ++ '}' :: rest)) :=
      follows_append hafter (by rintro _ ⟨⟩; decide)
    have hcomma : skipGap (after ++ ',' :: (r ++ '}' :: rest)) = ',' :: (r ++ '}' :: rest) :=
      skipGap_append hafter (by rintro _ ⟨⟩; decide)
    have htext : before ++ (l ++ (after ++ ',' :: r)) ++ '}' :: rest =
        before ++ (l ++ (after ++ ',' :: (r ++ '}' :: rest))) := by
      simp only [List.append_assoc, List.cons_append]
    rw [htext, skipGap_append_of_cons hm.exists_cons hbefore,
      (ih.member read hm (by omega) hfollows).2 _ hcomma,
      setMember_of_not_mem (not_mem_of_nodup hkeys)]
    -- The member that was read now counts among those before.
    rw [List.append_cons] at hkeys
    rw [ih.members ms r _ rest hms (by omega) hkeys, ← List.append_cons]

/-- `ReadsWithin` holds for any fuel: a value, items or members are read with as much fuel as their
text has characters. -/
theorem readsWithin (fuel : Nat) : ReadsWithin fuel := by
  induction fuel with
  | zero =>
    -- No value has an empty text.
    refine ⟨fun v l rest h hlen _ => ?_, fun _ _ _ _ _ hlen => absurd hlen (Nat.not_lt_zero _),
      fun _ _ _ _ _ hlen => absurd hlen (Nat.not_lt_zero _)⟩
    obtain ⟨c, r, rfl, -⟩ := h.exists_cons
    exact absurd hlen (by simp)
  | succ fuel ih =>
    exact ⟨fun _ _ _ h hlen hrest => ih.value_succ h hlen hrest,
      fun _ _ read rest h hlen => ih.items_succ read rest h hlen,
      fun _ _ read rest h hlen hkeys => ih.members_succ read rest h hlen hkeys⟩

/-! ## Texts -/

/-- A text that `Writes` an object starts with a brace. -/
theorem Writes.object_eq_cons {members : List (String × Json)} {l : List Char}
    (h : Writes (.object members) l) : ∃ r, l = '{' :: r := by
  cases h with
  | word w _ h => simp [plainWords] at h
  | emptyObject | object => exact ⟨_, rfl⟩

/-- The whole text `Writes` the value, with gaps in front and behind. -/
def IsTextOf (v : Json) (text : List Char) : Prop :=
  ∃ before l after, before.all isGap = true ∧ after.all isGap = true ∧ Writes v l ∧
    text = before ++ (l ++ after)

/-- `readAll` reads the whole of a text as the value it writes. -/
theorem readAll_of_isTextOf {v : Json} {text : List Char} (h : IsTextOf v text) :
    readAll text = .ok v := by
  obtain ⟨before, l, after, hbefore, hafter, hv, rfl⟩ := h
  have hfollows : Follows after := by
    have hend := follows_append hafter (show Follows [] by rintro c ⟨⟩)
    rwa [List.append_nil] at hend
  have hskip : skipGap after = [] := by
    have hend := skipGap_append hafter (l := []) (by rintro c ⟨⟩)
    rwa [List.append_nil] at hend
  have hread := (readsWithin (2 * (before ++ (l ++ after)).length + 2)).value v l after hv
    (by simp only [List.length_append]; omega) hfollows
  rw [readAll, skipGap_append_of_cons hv.exists_cons hbefore, hread]
  simp only [hskip]

end TokenRisk.Json
