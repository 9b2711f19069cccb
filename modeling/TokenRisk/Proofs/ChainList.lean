import TokenRisk.Command
import TokenRisk.Proofs.Numerals

/-!
# The list of chains on the command line

A list of chains is written as numbers with commas between them, blanks around the numbers and
blank parts anywhere: `Command.Lists`. Reading it gives the numbers back, in their order and as
often as they are written; and a text with a part that is neither blank nor an integer is refused,
whatever its other parts are.

## Key results

- `Command.numbersOf?_eq_some_iff`: the numbers in pieces of text are those of the pieces that are
  not blank, one for each.
- `Command.chainIds_of_lists_and_of_bad_part`: what is read of a list, and what is refused.
-/

namespace TokenRisk

namespace Command

/-! ## The numbers in pieces of text -/

/-- `numbersOf?` reads the numbers of the pieces that are not blank, one for each. -/
theorem numbersOf?_eq_some_iff {pieces : List (List Char)} {ids : List Int} :
    numbersOf? pieces = some ids ↔
      (pieces.filter fun p => !p.all Text.isBlank).map
        (fun p => Numeral.readInt (String.ofList p)) = ids.map .ok := by
  -- On the pieces, for all numbers at once: a blank piece leaves them, another takes the first.
  induction pieces generalizing ids with
  | nil => cases ids <;> simp [numbersOf?]
  | cons piece pieces ih =>
    rw [numbersOf?]
    split
    next hblank => rw [ih, List.filter_cons_of_neg (by simp [hblank])]
    next hblank =>
      rw [List.filter_cons_of_pos (by simp [hblank]), List.map_cons]
      cases hread : Numeral.readInt (String.ofList piece) with
      | error e => cases ids <;> simp [Except.toOption]
      | ok n =>
        cases ids with
        | nil => cases numbersOf? pieces <;> simp [Except.toOption]
        | cons m ids =>
          rw [List.map_cons, List.cons.injEq, Except.ok.injEq, ← ih]
          cases numbersOf? pieces <;> simp [Except.toOption]

/-- The parts write the numbers: each a number with padding around it, and blank parts anywhere. -/
inductive Lists : List Int → List String → Prop
  | nil : Lists [] []
  | blank {ids parts} (part : String) (hpart : part.toList.all Text.isBlank = true)
      (hrest : Lists ids parts) : Lists ids (part :: parts)
  | number {ids parts} (n : Int) (before after : String)
      (hbefore : before.toList.all Numeral.isPadding = true)
      (hafter : after.toList.all Numeral.isPadding = true)
      (hdigits : (Nat.toDigits 10 n.natAbs).length ≤ Numeral.maxIntDigits)
      (hrest : Lists ids parts) : Lists (n :: ids) ((before ++ toString n ++ after) :: parts)

/-- `part` stands between commas of `s`, or between one and an end of it. -/
def IsPart (part s : String) : Prop :=
  ∃ front rest : List String, (∀ p ∈ front ++ part :: rest, ',' ∉ p.toList) ∧
    s = Text.join "," (front ++ part :: rest)

/-- `splitOn` cuts a text into the parts without commas that it is joined of. -/
private theorem splitOn_join {parts : List String} (h : ∀ p ∈ parts, ',' ∉ p.toList)
    (hne : parts ≠ []) :
    Text.splitOn ',' (Text.join "," parts).toList = parts.map String.toList := by
  rw [Text.join, String.toList_intercalate]
  exact Text.splitOn_intercalate (by simpa using h) (by simpa using hne)

/-! ## What is read -/

/-- No comma `isPadding`. -/
private theorem comma_not_mem_of_padding {l : List Char}
    (h : l.all Numeral.isPadding = true) : ',' ∉ l :=
  fun hmem => absurd (List.all_eq_true.mp h ',' hmem) (by decide)

/-- No part of a list that `Lists` numbers holds a comma. -/
private theorem Lists.comma_not_mem {ids : List Int} {parts : List String}
    (h : Lists ids parts) : ∀ p ∈ parts, ',' ∉ p.toList := by
  induction h with
  | nil => simp
  | blank part hpart _ ih =>
    refine List.forall_mem_cons.mpr ⟨fun hmem => ?_, ih⟩
    exact absurd (List.all_eq_true.mp hpart ',' hmem) (by decide)
  | number n before after hbefore hafter _ _ ih =>
    have hnumber : ',' ∉ (toString n).toList :=
      fun h => (mem_toString_int h).elim (by decide) (by decide)
    refine List.forall_mem_cons.mpr ⟨?_, ih⟩
    rw [String.toList_append, String.toList_append, List.mem_append, List.mem_append]
    simp only [comma_not_mem_of_padding hbefore, comma_not_mem_of_padding hafter, hnumber, or_self,
      not_false_eq_true]

/-- `numbersOf?` reads the numbers that the parts of a list write. -/
private theorem Lists.numbersOf? {ids : List Int} {parts : List String} (h : Lists ids parts) :
    numbersOf? (parts.map String.toList) = some ids := by
  rw [numbersOf?_eq_some_iff]
  induction h with
  | nil => rfl
  | blank part hpart _ ih =>
    rw [List.map_cons, List.filter_cons_of_neg (by simp [hpart]), ih]
  | number n before after hbefore hafter hdigits _ ih =>
    have htext : (before ++ toString n ++ after).toList =
        before.toList ++ ((toString n).toList ++ after.toList) := by
      rw [String.toList_append, String.toList_append, List.append_assoc]
    have hread : Numeral.readInt (before ++ toString n ++ after) = .ok n :=
      Numeral.readInt_padded htext (List.all_eq_true.mp hbefore) (List.all_eq_true.mp hafter)
        hdigits
    -- The part is not passed over: the number in it has a character that is not blank.
    have hpart : (before ++ toString n ++ after).toList.all Text.isBlank = false := by
      obtain ⟨c, hc, hblank⟩ := exists_not_isBlank_toString_int n
      rw [htext, List.all_eq_false]
      exact ⟨c, List.mem_append_right _ (List.mem_append_left _ hc), hblank⟩
    rw [List.map_cons, List.filter_cons_of_pos (by rw [hpart]; rfl), List.map_cons, ih,
      String.ofList_toList, hread, List.map_cons]

/-- What `chainIds` makes of a text that is not empty. -/
private theorem chainIds_of_ne_empty {s : String} (hs : s ≠ "") :
    chainIds (some s) =
      ((numbersOf? (Text.splitOn ',' s.toList)).map fun ids => .ok (some ids)).getD
        (.error (badChainsMessage s)) := by
  unfold chainIds
  split
  next h => exact absurd h hs
  next h =>
    rw [Option.getD_some]
    cases numbersOf? (Text.splitOn ',' s.toList) <;> rfl

/-- `chainIds` reads a list as the numbers it lists, in their order and as often as it lists them;
and it refuses a text with a part between its commas that is neither blank nor an integer. -/
theorem chainIds_of_lists_and_of_bad_part :
    (∀ (ids : List Int) (parts : List String), ids ≠ [] → Lists ids parts →
      chainIds (some (Text.join "," parts)) = .ok (some ids)) ∧
    (∀ s part : String, IsPart part s → part.toList.all Text.isBlank = false →
      (∀ n, Numeral.readInt part ≠ .ok n) →
      chainIds (some s) = .error (badChainsMessage s)) := by
  refine ⟨fun ids parts hids hlists => ?_, ?_⟩
  · have hne : parts ≠ [] := by
      rintro rfl
      cases hlists
      exact hids rfl
    have hread := hlists.numbersOf?
    rw [← splitOn_join hlists.comma_not_mem hne] at hread
    -- The empty text is the one that counts as no list at all, and it holds no number.
    have hempty : Text.join "," parts ≠ "" := by
      intro h
      rw [h] at hread
      exact hids (Option.some.inj hread).symm
    rw [chainIds_of_ne_empty hempty, hread]
    rfl
  · rintro s part ⟨front, rest, hcomma, rfl⟩ hblank hbad
    -- The part is one of the pieces that the text is cut into.
    have hpieces := splitOn_join hcomma (by simp)
    generalize Text.join "," (front ++ part :: rest) = s at hpieces
    have hpart : part.toList ∈ Text.splitOn ',' s.toList := by
      rw [hpieces]
      exact List.mem_map_of_mem (List.mem_append_right _ List.mem_cons_self)
    -- Numbers for all pieces would hold one for this part.
    have hnone : numbersOf? (Text.splitOn ',' s.toList) = none := by
      refine Option.eq_none_iff_forall_ne_some.mpr fun ids hids => ?_
      have hreads := numbersOf?_eq_some_iff.mp hids
      have hkept : part.toList ∈
          (Text.splitOn ',' s.toList).filter fun p => !p.all Text.isBlank :=
        List.mem_filter.mpr ⟨hpart, by rw [hblank]; rfl⟩
      have hmem := List.mem_map_of_mem (f := fun p => Numeral.readInt (String.ofList p)) hkept
      rw [hreads, String.ofList_toList] at hmem
      obtain ⟨n, -, hn⟩ := List.mem_map.mp hmem
      exact hbad n hn.symm
    have hempty : s ≠ "" := by
      rintro rfl
      rw [List.mem_singleton.mp hpart] at hblank
      cases hblank
    rw [chainIds_of_ne_empty hempty, hnone]
    rfl

/-- `chainIds` of three numbers among blank parts, one of them negative and one of them twice; and
of a word. -/
theorem chainIds_of_three_and_of_word :
    chainIds (some (Text.join "," [" 1", "", " -56 ", "\t", "1 "])) = .ok (some [1, -56, 1]) ∧
      chainIds (some "1,abc, 2") = .error (badChainsMessage "1,abc, 2") := by
  refine ⟨chainIds_of_lists_and_of_bad_part.1 [1, -56, 1] _ (by decide) ?_,
    chainIds_of_lists_and_of_bad_part.2 _ "abc" ⟨["1"], [" 2"], by decide, by decide⟩
      (by decide) ?_⟩
  · -- The parts are read one by one, and blank ones are passed over.
    exact .number 1 " " "" (by decide) (by decide) (by decide) <|
      .blank "" (by decide) <|
      .number (-56) " " " " (by decide) (by decide) (by decide) <|
      .blank "\t" (by decide) <|
      .number 1 "" " " (by decide) (by decide) (by decide) .nil
  · -- The second part is no integer, whatever number is meant.
    intro n h
    have hnone : (Numeral.readInt "abc").toOption = none := by decide +kernel
    rw [h] at hnone
    cases hnone

end Command

end TokenRisk
