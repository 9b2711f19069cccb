import TokenRisk.Json.Printer
import TokenRisk.Proofs.JsonText

/-!
# What is printed is standard JSON

The printer escapes what is not printable ASCII by code units, two of them where a character needs
two. What it prints for a string writes the string, and what it prints for an object writes the
object if what it prints for the members does, in each of the three styles.

## Key results

- `Json.unit?_hexDigits`: the four digits of a code unit are read back as it.
- `Json.writes_stringLiteral`: a printed string writes the string.
- `Json.writes_render_object`: a printed object writes the object.
-/

namespace TokenRisk

/-! ## Code units -/

/-- The last of the `hexDigits` comes off the end. -/
private theorem Text.hexDigits_succ (n : Nat) {width : Nat} (hwidth : 0 < width) :
    hexDigits n (width + 1) = hexDigits (n / 16) width ++ [Nat.digitChar (n % 16)] := by
  rw [hexDigits, hexDigits, Nat.toDigits_eq_if (by decide)]
  split
  next h =>
    -- A single digit: what is left in front of it is zero, written as padding.
    rw [Nat.div_eq_of_lt h, Nat.mod_eq_of_lt h, Nat.toDigits_of_lt_base (by decide)]
    obtain ⟨w, rfl⟩ := Nat.exists_eq_succ_of_ne_zero (Nat.ne_of_gt hwidth)
    simp [List.replicate_succ']
  next h =>
    rw [List.length_append, List.length_singleton, Nat.add_sub_add_right, List.append_assoc]

namespace Json

/-- `hexValue?` reads a `digitChar` back. -/
private theorem hexValue?_digitChar : ∀ d, d < 16 → hexValue? (Nat.digitChar d) = some d := by
  decide

/-- `unit?` reads the four `hexDigits` of a code unit back as it. -/
theorem unit?_hexDigits {n : Nat} (h : n < 0x10000) :
    ∃ a b c d, Text.hexDigits n 4 = [a, b, c, d] ∧ unit? a b c d = some n := by
  refine ⟨Nat.digitChar (n / 16 / 16 / 16), Nat.digitChar (n / 16 / 16 % 16),
    Nat.digitChar (n / 16 % 16), Nat.digitChar (n % 16), ?_, ?_⟩
  · -- Four digits are taken off from the right, and they are those of the number in base 16.
    rw [Text.hexDigits_succ _ (by decide), Text.hexDigits_succ _ (by decide),
      Text.hexDigits_succ _ (by decide), Text.hexDigits,
      Nat.toDigits_of_lt_base (show n / 16 / 16 / 16 < 16 by omega)]
    rfl
  · have hlast (m : Nat) : hexValue? (Nat.digitChar (m % 16)) = some (m % 16) :=
      hexValue?_digitChar _ (Nat.mod_lt _ (by decide))
    have hfirst := hexValue?_digitChar (n / 16 / 16 / 16) (by omega)
    -- The digits add up to the number again.
    have hsum : 16 * (16 * (16 * (n / 16 / 16 / 16) + n / 16 / 16 % 16) + n / 16 % 16) + n % 16 =
        n := by
      omega
    rw [unit?, hfirst, hlast, hlast, hlast]
    exact congrArg some hsum

/-! ## Strings -/

/-- No `Char` is a surrogate. -/
private theorem not_surrogate (c : Char) :
    isHighSurrogate c.toNat = false ∧ isLowSurrogate c.toNat = false := by
  have hvalid : c.toNat < 0xD800 ∨ 0xDFFF < c.toNat ∧ c.toNat < 0x110000 := c.valid
  simp only [isHighSurrogate, isLowSurrogate, Bool.and_eq_false_iff, decide_eq_false_iff_not]
  omega

/-- `unitEscape` of a code unit writes the character that it is. -/
private theorem writesChars_unitEscape {c : Char} (hc : c.toNat < 0x10000) {s l : List Char}
    (h : WritesChars s l) : WritesChars (c :: s) (unitEscape c.toNat ++ l) := by
  obtain ⟨a, b, c', d, hdigits, hunit⟩ := unit?_hexDigits hc
  obtain ⟨hhigh, hlow⟩ := not_surrogate c
  have hwrites := WritesChars.unit a b c' d c.toNat hunit hhigh hlow h
  rw [Char.ofNat_toNat] at hwrites
  rw [unitEscape, hdigits]
  exact hwrites

/-- Two `unitEscape`s write the character that has two code units. -/
private theorem writesChars_pairEscape {c : Char} (hc : 0x10000 ≤ c.toNat) {s l : List Char}
    (h : WritesChars s l) :
    WritesChars (c :: s) (unitEscape (0xD800 + (c.toNat - 0x10000) / 0x400) ++
      (unitEscape (0xDC00 + (c.toNat - 0x10000) % 0x400) ++ l)) := by
  have hvalid : c.toNat < 0xD800 ∨ 0xDFFF < c.toNat ∧ c.toNat < 0x110000 := c.valid
  generalize hm : c.toNat - 0x10000 = m
  obtain ⟨a, b, c', d, hdigits, hunit⟩ :=
    -- Both units have four digits, and each is in the range of its surrogates.
    unit?_hexDigits (show 0xD800 + m / 0x400 < 0x10000 by omega)
  obtain ⟨a', b', c'', d', hdigits', hunit'⟩ :=
    unit?_hexDigits (show 0xDC00 + m % 0x400 < 0x10000 by omega)
  have hhigh : isHighSurrogate (0xD800 + m / 0x400) = true := by
    simp only [isHighSurrogate, Bool.and_eq_true, decide_eq_true_eq]
    omega
  have hlow : isLowSurrogate (0xDC00 + m % 0x400) = true := by
    simp only [isLowSurrogate, Bool.and_eq_true, decide_eq_true_eq]
    omega
  -- Quotient and remainder give the ten upper and the ten lower bits back.
  have hpair : pairChar (0xD800 + m / 0x400) (0xDC00 + m % 0x400) = c := by
    have hsum : 0x10000 + (0xD800 + m / 0x400 - 0xD800) * 0x400 + (0xDC00 + m % 0x400 - 0xDC00) =
        c.toNat := by
      omega
    rw [pairChar, hsum, Char.ofNat_toNat]
  have hwrites := WritesChars.pair a b c' d a' b' c'' d' _ _ hunit hunit' hhigh hlow h
  rw [hpair] at hwrites
  rw [unitEscape, unitEscape, hdigits, hdigits']
  exact hwrites

/-- `escapedChar` writes the character. -/
private theorem writesChars_escapedChar (c : Char) {s l : List Char} (h : WritesChars s l) :
    WritesChars (c :: s) (escapedChar c ++ l) := by
  -- One case for each branch of the printer, in its order.
  unfold escapedChar
  split
  next hc =>
    rcases hc with rfl | rfl
    · exact .simple '"' '"' rfl h
    · exact .simple '\\' '\\' rfl h
  next hplain =>
    obtain ⟨hquote, hescape⟩ := not_or.mp hplain
    split
    next hc => exact hc ▸ .simple 'n' '\n' rfl h
    split
    next hc => exact hc ▸ .simple 'r' '\r' rfl h
    split
    next hc => exact hc ▸ .simple 't' '\t' rfl h
    split
    next hc =>
      obtain rfl : c = Char.ofNat 8 := Char.toNat_inj.mp hc
      exact .simple 'b' _ rfl h
    split
    next hc =>
      obtain rfl : c = Char.ofNat 12 := Char.toNat_inj.mp hc
      exact .simple 'f' _ rfl h
    split
    next hc => exact .literal c hc.1 hquote hescape h
    split
    next hc => exact writesChars_unitEscape hc h
    next hc =>
      rw [List.append_assoc]
      exact writesChars_pairEscape (Nat.le_of_not_lt hc) h

/-- The `escapedChar` of each character of a text write the text. -/
theorem writesChars_escaped (s : List Char) : WritesChars s (s.flatMap escapedChar) := by
  induction s with
  | nil => exact .nil
  | cons c s ih =>
    rw [List.flatMap_cons]
    exact writesChars_escapedChar c ih

/-- `stringLiteral` writes the string. -/
theorem writes_stringLiteral (s : String) : Writes (.string s) (stringLiteral s).toList := by
  rw [stringLiteral, String.toList_ofList, List.cons_append]
  exact .string s _ (writesChars_escaped s.toList)

/-! ## Objects -/

/-- The separators of a style are a comma and a colon with gaps behind them. -/
structure Style.IsStandard (style : Style) : Prop where
  item : ∃ gap : List Char, style.itemSeparator.toList = ',' :: gap ∧ gap.all isGap = true
  key : ∃ gap : List Char, style.keySeparator.toList = ':' :: gap ∧ gap.all isGap = true

/-- `IsStandard` holds of the three styles. -/
theorem isStandard_styles : ∀ style ∈ [Style.compact, .spaced, .indented], style.IsStandard := by
  simp only [List.forall_mem_cons]
  refine ⟨⟨⟨[], ?_, ?_⟩, ⟨[], ?_, ?_⟩⟩, ⟨⟨[' '], ?_, ?_⟩, ⟨[' '], ?_, ?_⟩⟩,
    ⟨⟨[], ?_, ?_⟩, ⟨[' '], ?_, ?_⟩⟩, List.forall_mem_nil _⟩
  all_goals decide +kernel

/-- A `lineBreak` before an item is a gap. -/
private theorem Style.isGap_lineBreak (style : Style) (depth : Nat) :
    (style.lineBreak depth).toList.all isGap = true := by
  rw [lineBreak]
  split
  · rfl
  · rw [String.toList_ofList, List.all_cons, List.all_replicate]
    simp [isGap]

/-- `renderMembers` prints the members one by one. -/
private theorem renderMembers_eq_map (style : Style) (depth : Nat)
    (members : List (String × Json)) : renderMembers style depth members =
      members.map fun m =>
        stringLiteral m.1 ++ style.keySeparator ++ render style depth m.2 := by
  induction members with
  | nil => rw [renderMembers, List.map_nil]
  | cons m ms ih => rw [renderMembers, ih, List.map_cons]

/-- A printed member `WritesMember`. -/
private theorem writesMember_printed {style : Style} (hstyle : style.IsStandard) (key : String)
    {v : Json} {text : String} (h : Writes v text.toList) :
    WritesMember Writes (key, v) (stringLiteral key ++ style.keySeparator ++ text).toList := by
  obtain ⟨gap, hcolon, hgap⟩ := hstyle.key
  have hmember := WritesMember.mk [] gap (writesChars_escaped key.toList) rfl hgap h
  rw [String.toList_append, String.toList_append, hcolon, stringLiteral, String.toList_ofList]
  simpa using hmember

/-- Texts that `join` puts together, with gaps in front of the first and behind the last, are
`Separated`. -/
private theorem separated_join {α : Type} {W : α → List Char → Prop} {text : α → String}
    {separator : String} {gap after : List Char} (hseparator : separator.toList = ',' :: gap)
    (hgap : gap.all isGap = true) (hafter : after.all isGap = true) {a : α} {as : List α}
    (h : ∀ b ∈ a :: as, W b (text b).toList) {before : List Char}
    (hbefore : before.all isGap = true) :
    Separated W (a :: as)
      (before ++ ((Text.join separator ((a :: as).map text)).toList ++ after)) := by
  -- What follows a comma is the gap before the next part, so the first gap is left open.
  induction as generalizing a before with
  | nil =>
    rw [List.map_singleton, Text.join, String.intercalate_singleton]
    exact .last before after hbefore hafter (h a List.mem_cons_self)
  | cons b as ih =>
    obtain ⟨ha, has⟩ := List.forall_mem_cons.mp h
    have hrest := ih has hgap
    have hmore := Separated.more before [] hbefore rfl ha hrest
    rw [List.map_cons, List.map_cons, Text.join, String.intercalate_cons_cons,
      String.toList_append, String.toList_append, hseparator, ← List.map_cons, ← Text.join]
    simpa using hmore

/-- What `render` prints for an object writes it, if its keys differ and what is printed for its
values writes them. -/
theorem writes_render_object {style : Style} (hstyle : style.IsStandard) (depth : Nat)
    {members : List (String × Json)} (hkeys : (members.map (·.1)).Nodup)
    (h : ∀ m ∈ members, Writes m.2 (render style (depth + 1) m.2).toList) :
    Writes (.object members) (render style depth (.object members)).toList := by
  rw [render, renderMembers_eq_map, Style.bracketed]
  cases members with
  -- An object without members has no line break between its braces.
  | nil =>
    have hbraces : ("\x7b" ++ "\x7d").toList = '{' :: ([] ++ ['}']) := by decide +kernel
    rw [List.map_nil, if_pos List.isEmpty_nil, hbraces]
    exact .emptyObject [] rfl
  | cons m ms =>
    -- The line breaks of the style are gaps around the members.
    obtain ⟨gap, hcomma, hgap⟩ := hstyle.item
    have hseparator : (style.itemSeparator ++ style.lineBreak (depth + 1)).toList =
        ',' :: (gap ++ (style.lineBreak (depth + 1)).toList) := by
      rw [String.toList_append, hcomma, List.cons_append]
    have hgaps : (gap ++ (style.lineBreak (depth + 1)).toList).all isGap = true := by
      rw [List.all_append, hgap, Style.isGap_lineBreak]
      rfl
    have hmembers := separated_join (W := WritesMember Writes) hseparator hgaps
      (style.isGap_lineBreak depth)
      (fun n hn => writesMember_printed hstyle n.1 (h n hn)) (style.isGap_lineBreak (depth + 1))
    -- The keys are different, so no member takes the place of another.
    have hobject := Writes.object (m :: ms) _ hmembers hkeys
    rw [if_neg (by simp)]
    simpa using hobject

end Json

end TokenRisk
