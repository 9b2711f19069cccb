/-!
# Searching and cutting text

Text is kept as `String` in the public types and worked on as a list of characters. This file holds
the searches that the detectors use and the few cuts that the readers need.
-/

namespace TokenRisk.Text

/-- Whether `p` occurs in a list as a run of consecutive elements. -/
def occurs {α : Type} [BEq α] (p : List α) : List α → Bool
  | [] => p.isEmpty
  | a :: s => p.isPrefixOf (a :: s) || occurs p s

/-- `occurs` is the infix relation: `p` stands between some front and some rest. -/
theorem occurs_iff {α : Type} [BEq α] [LawfulBEq α] {p s : List α} :
    occurs p s = true ↔ p <:+: s := by
  induction s with
  | nil => cases p <;> simp [occurs]
  | cons a s ih =>
    rw [occurs, Bool.or_eq_true, ih, List.isPrefixOf_iff_prefix, List.infix_cons_iff]

/-- Whether the text `p` `occurs` in the text `s`. -/
def contains (s p : String) : Bool :=
  occurs p.toList s.toList

/-- The characters after the first `n`. -/
def drop (n : Nat) (s : String) : String :=
  String.ofList (s.toList.drop n)

/-- The first `n` characters. -/
def take (n : Nat) (s : String) : String :=
  String.ofList (s.toList.take n)

/-- Whether `s` begins with `p`. -/
def startsWith (s p : String) : Bool :=
  p.toList.isPrefixOf s.toList

/-- The pieces between the separators: one piece more than there are separators. -/
def splitOn (sep : Char) : List Char → List (List Char)
  | [] => [[]]
  | c :: s =>
    match splitOn sep s with
    | [] => [[c]]
    | piece :: rest => if c = sep then [] :: piece :: rest else (c :: piece) :: rest

/-- `splitOn` makes at least one piece. -/
theorem splitOn_ne_nil (sep : Char) (s : List Char) : splitOn sep s ≠ [] := by
  cases s with
  | nil => exact List.cons_ne_nil _ _
  | cons c s =>
    rw [splitOn]
    split
    · exact List.cons_ne_nil _ _
    · split <;> exact List.cons_ne_nil _ _

/-- `splitOn` leaves a text without a separator in one piece. -/
theorem splitOn_of_not_mem {sep : Char} {piece : List Char} (h : sep ∉ piece) :
    splitOn sep piece = [piece] := by
  induction piece with
  | nil => rfl
  | cons c piece ih =>
    obtain ⟨hc, hpiece⟩ := not_or.mp (mt List.mem_cons.mpr h)
    rw [splitOn, ih hpiece]
    exact if_neg (Ne.symm hc)

/-- `splitOn` makes what stands before the first separator the first piece. -/
theorem splitOn_append {sep : Char} {piece : List Char} (h : sep ∉ piece) (s : List Char) :
    splitOn sep (piece ++ sep :: s) = piece :: splitOn sep s := by
  induction piece with
  | nil =>
    rw [List.nil_append, splitOn]
    split
    next hnil => exact absurd hnil (splitOn_ne_nil sep s)
    next hcons => rw [if_pos rfl, hcons]
  | cons c piece ih =>
    obtain ⟨hc, hpiece⟩ := not_or.mp (mt List.mem_cons.mpr h)
    rw [List.cons_append, splitOn, ih hpiece]
    exact if_neg (Ne.symm hc)

/-- `splitOn` finds the pieces again that `intercalate` put together with separators. -/
theorem splitOn_intercalate {sep : Char} {pieces : List (List Char)}
    (h : ∀ piece ∈ pieces, sep ∉ piece) (hne : pieces ≠ []) :
    splitOn sep ([sep].intercalate pieces) = pieces := by
  induction pieces with
  | nil => exact absurd rfl hne
  | cons piece pieces ih =>
    obtain ⟨hpiece, hpieces⟩ := List.forall_mem_cons.mp h
    cases pieces with
    | nil => simpa [List.intercalate] using splitOn_of_not_mem hpiece
    | cons next pieces =>
      -- The separator after the first piece is the first one there is.
      have hrest := ih hpieces (List.cons_ne_nil _ _)
      have hjoin : [sep].intercalate (piece :: next :: pieces) =
          piece ++ sep :: [sep].intercalate (next :: pieces) := by
        simp [List.intercalate]
      rw [hjoin, splitOn_append hpiece, hrest]

/-- The texts of `parts` with `sep` between neighbours. -/
def join (sep : String) (parts : List String) : String :=
  sep.intercalate parts

/-- The elements in order of first occurrence, each once. -/
def distinct {α : Type} [BEq α] (l : List α) : List α :=
  l.foldl (fun seen a => if seen.contains a then seen else seen ++ [a]) []

end TokenRisk.Text
