import TokenRisk.ForStd.List
import TokenRisk.Proofs.Numerals
import TokenRisk.Timestamp

/-!
# Texts read line by line

A line feed ends a line, and a reader may let other characters end one too, such as a carriage
return or the line separator. Printable ASCII never does. A text that is put behind a label goes on
in the line of the label, but only up to its own first line end: whatever follows that stands in
lines of its own, which look like any other lines.

## Key results

- `lines_join`: lines that are joined are read one after the other.
- `lines_append`: a text behind a label is read as one line of the label, and the lines that the
  text continues in.
-/

namespace TokenRisk.Text

/-! ## Printable texts -/

/-- A printable ASCII character. -/
def isPrintableChar (c : Char) : Bool :=
  Nat.ble 32 c.toNat && Nat.ble c.toNat 126

/-- A text of printable ASCII characters. -/
def IsPrintable (s : String) : Prop :=
  s.toList.all isPrintableChar = true

/-! ### Octets

A text that is written out is given by its octets, and to read characters from them takes long. So
it is by its octets that such a text is found to be printable.
-/

/-- The octets of a text. -/
def octets (s : String) : List UInt8 :=
  s.toByteArray.data.toList

theorem octets_append (s t : String) : octets (s ++ t) = octets s ++ octets t := by
  simp only [octets, String.toByteArray_append, ByteArray.data_append, Array.toList_append]

theorem octets_ofList (l : List Char) : octets (.ofList l) = l.flatMap String.utf8EncodeChar := by
  rw [octets, String.toByteArray_ofList, List.utf8Encode, List.data_toByteArray]

/-- A text that begins with another one has its `octets` first. -/
theorem octets_prefix {s t : String} (h : s.toList <+: t.toList) : octets s <+: octets t := by
  obtain ⟨rest, hrest⟩ := h
  have ht : t = s ++ .ofList rest := by
    rw [← String.toList_inj, String.toList_append, String.toList_ofList, hrest]
  rw [ht, octets_append]
  exact List.prefix_append _ _

/-- A printable ASCII character as an octet. -/
def isPrintableOctet (b : UInt8) : Bool :=
  Nat.ble 32 b.toNat && Nat.ble b.toNat 126

/-- A character is printable exactly if all its octets are: `isPrintableChar` and `isPrintableOctet`
agree. -/
theorem all_utf8EncodeChar (c : Char) :
    (String.utf8EncodeChar c).all isPrintableOctet = isPrintableChar c := by
  have hlead (n : Nat) (rest : List UInt8) (hlow : 126 < n) (hhigh : n < 256) :
      (UInt8.ofNat n :: rest).all isPrintableOctet = false := by
    have hn : (UInt8.ofNat n).toNat = n := Nat.mod_eq_of_lt hhigh
    have hble : Nat.ble n 126 = false := by
      rw [← Bool.not_eq_true, Nat.ble_eq]
      omega
    rw [List.all_cons, isPrintableOctet, hn, hble, Bool.and_false, Bool.false_and]
  by_cases hsmall : c.val.toNat ≤ 127
  · -- A character of one octet is printable when its octet is.
    have hn : (UInt8.ofNat c.val.toNat).toNat = c.toNat := Nat.mod_eq_of_lt (by omega)
    rw [String.utf8EncodeChar, if_pos hsmall, List.all_cons, List.all_nil, Bool.and_true,
      isPrintableOctet, hn, isPrintableChar]
  · -- Any other character is beyond the printable ones.
    have hchar : isPrintableChar c = false := by
      have hlarge : ¬ c.toNat ≤ 126 := fun h => hsmall (Nat.le_succ_of_le h)
      rw [← Bool.not_eq_true, isPrintableChar, Bool.and_eq_true, Nat.ble_eq, Nat.ble_eq]
      exact fun h => hlarge h.2
    -- More than one octet is needed, and the first of them is too large.
    rw [hchar, String.utf8EncodeChar, if_neg hsmall]
    split
    · exact hlead _ _ (by omega) (by omega)
    · split
      · exact hlead _ _ (by omega) (by omega)
      · exact hlead _ _ (by omega) (by omega)

theorem all_octets (s : String) :
    (octets s).all isPrintableOctet = s.toList.all isPrintableChar := by
  rw [← String.ofList_toList (s := s), octets_ofList, List.all_flatMap, String.toList_ofList]
  simp only [all_utf8EncodeChar]

instance (s : String) : Decidable (IsPrintable s) :=
  decidable_of_iff ((octets s).all isPrintableOctet = true) (by rw [all_octets, IsPrintable])

/-! ### What is printable -/

theorem isPrintable_iff {s : String} :
    IsPrintable s ↔ ∀ c ∈ s.toList, isPrintableChar c = true :=
  List.all_eq_true

theorem isPrintable_ofList {l : List Char} :
    IsPrintable (.ofList l) ↔ ∀ c ∈ l, isPrintableChar c = true := by
  rw [isPrintable_iff, String.toList_ofList]

@[simp] theorem isPrintable_append {s t : String} :
    IsPrintable (s ++ t) ↔ IsPrintable s ∧ IsPrintable t := by
  simp only [IsPrintable, String.toList_append, List.all_append, Bool.and_eq_true]

theorem isPrintableChar_of_isDigit {c : Char} (h : c.isDigit = true) :
    isPrintableChar c = true := by
  simp only [Char.isDigit, Bool.and_eq_true, decide_eq_true_eq] at h
  have hlow : 48 ≤ c.toNat := UInt32.le_iff_toNat_le.mp h.1
  have hhigh : c.toNat ≤ 57 := UInt32.le_iff_toNat_le.mp h.2
  simp only [isPrintableChar, Bool.and_eq_true, Nat.ble_eq]
  omega

theorem isPrintableChar_of_mem_toDigits {n : Nat} {c : Char} (h : c ∈ Nat.toDigits 10 n) :
    isPrintableChar c = true :=
  isPrintableChar_of_isDigit (Nat.isDigit_of_mem_toDigits (by decide) (by decide) h)

@[simp] theorem isPrintable_toString_int (n : Int) : IsPrintable (toString n) := by
  rw [isPrintable_iff]
  intro c hc
  rcases mem_toString_int hc with rfl | hdigit
  · decide
  · exact isPrintableChar_of_isDigit hdigit

@[simp] theorem isPrintable_toString_nat (n : Nat) : IsPrintable (toString n) :=
  isPrintable_toString_int n

@[simp] theorem isPrintable_zeroPadded (width n : Nat) : IsPrintable (zeroPadded width n) := by
  rw [zeroPadded, isPrintable_ofList]
  intro c hc
  rcases List.mem_append.mp hc with hzero | hdigit
  · rw [List.eq_of_mem_replicate hzero]
    decide
  · exact isPrintableChar_of_mem_toDigits hdigit

theorem isPrintable_timestamp (ms : Int) : IsPrintable (timestamp ms) := by
  have hfraction (n : Nat) :
      IsPrintable (if n = 0 then "" else "." ++ zeroPadded 6 (n * 1000)) := by
    split
    · decide
    · simp only [isPrintable_append, isPrintable_zeroPadded]
      decide
  simp only [timestamp, isPrintable_append, isPrintable_zeroPadded, hfraction]
  decide

/-! ## Lines -/

/-- What ends a line for a reader: a line feed does, and nothing that is printable. -/
structure LineEnds where
  ends : Char → Bool
  lineFeed : ends '\n' = true
  printable : ∀ c, isPrintableChar c = true → ends c = false

/-- Only line feeds end a line. -/
def LineEnds.lineFeeds : LineEnds where
  ends c := c == '\n'
  lineFeed := by decide
  printable c hc := by
    rw [beq_eq_false_iff_ne]
    rintro rfl
    cases hc

variable (e : LineEnds)

/-- The lines of a text. -/
def lines (s : String) : List String :=
  (s.toList.splitOnP e.ends).map .ofList

/-- The lines in which a text continues behind its first one. -/
def continued (s : String) : List String :=
  (lines e s).tail

/-- Texts on either side of a line feed are read one after the other by `lines`. -/
theorem lines_append_lineFeed (s t : String) :
    lines e (s ++ "\n" ++ t) = lines e s ++ lines e t := by
  have hlist : (s ++ "\n" ++ t).toList = s.toList ++ '\n' :: t.toList := by simp
  rw [lines, hlist, List.splitOnP_append_cons _ _ e.lineFeed, List.map_append]
  rfl

/-- Lines that `join` puts together are read one after the other by `lines`. -/
theorem lines_join {ls : List String} (h : ls ≠ []) :
    lines e (join "\n" ls) = ls.flatMap (lines e) := by
  induction ls with
  | nil => exact absurd rfl h
  | cons l ls ih =>
    cases ls with
    | nil => simp [join, String.intercalate_singleton]
    | cons next ls =>
      rw [join, String.intercalate_cons_cons, lines_append_lineFeed]
      exact congrArg (lines e l ++ ·) (ih (List.cons_ne_nil _ _))

/-- A text behind a label is read as one line of the label, and the lines that the text is
`continued` in. -/
theorem lines_append {label : String} (h : IsPrintable label) (s : String) :
    ∃ first, lines e (label ++ s) = (label ++ first) :: continued e s := by
  have hlabel (c : Char) (hc : c ∈ label.toList) : e.ends c = false :=
    e.printable c (isPrintable_iff.mp h c hc)
  cases hs : s.toList.splitOnP e.ends with
  | nil => exact absurd hs (List.splitOnP_ne_nil _ _)
  | cons first rest =>
    refine ⟨.ofList first, ?_⟩
    rw [continued, lines, lines, String.toList_append, List.splitOnP_append_of_forall_mem hlabel,
      hs, List.modifyHead_cons, List.map_cons, List.map_cons, List.tail_cons, String.ofList_append,
      String.ofList_toList]

/-- A text that `IsPrintable` is one line. -/
theorem lines_of_isPrintable {s : String} (h : IsPrintable s) : lines e s = [s] := by
  have hs (c : Char) (hc : c ∈ s.toList) : e.ends c = false :=
    e.printable c (isPrintable_iff.mp h c hc)
  rw [lines, List.splitOnP_eq_singleton hs, List.map_singleton, String.ofList_toList]

end TokenRisk.Text
