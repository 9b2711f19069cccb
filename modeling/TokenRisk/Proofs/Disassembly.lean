import TokenRisk.Bytecode.Instruction
import TokenRisk.Proofs.Distinct
import TokenRisk.Proofs.Hex

/-!
# Assembled code and its selectors

Code is put together from instructions, each with all of its operand bytes, and may end within the
operand of a last push. Reading code undoes that: the walk stays aligned with the instructions,
whatever their operands look like, so the selectors of a code are the operands of the complete
four-byte pushes it was put together from.

## Key results

- `Program.decode_bytes`, `Program.exists_bytes_eq`: programs and byte sequences are the same thing
- `selectors_of_writes`: the selectors of a code text
- `selectors_append`: the selectors of a code that goes on
-/

namespace TokenRisk.Bytecode

/-! ## Instructions -/

namespace Instruction

/-- The operand of an instruction is as long as its `operandWidth` says. -/
def IsComplete (i : Instruction) : Prop :=
  i.operand.length = operandWidth i.opcode

/-- The code ends within the operand of an instruction. -/
def IsCut (i : Instruction) : Prop :=
  i.operand.length < operandWidth i.opcode

instance (i : Instruction) : Decidable i.IsComplete :=
  inferInstanceAs (Decidable (_ = _))

instance (i : Instruction) : Decidable i.IsCut :=
  inferInstanceAs (Decidable (_ < _))

theorem decode_nil : decode [] = [] := by
  rw [decode]

/-- `decode` takes the operand bytes of the first opcode, as far as there are any. -/
theorem decode_cons (opcode : UInt8) (l : List UInt8) :
    decode (opcode :: l) =
      ⟨opcode, l.take (operandWidth opcode)⟩ :: decode (l.drop (operandWidth opcode)) := by
  rw [decode]

/-- `decode` reads a complete instruction as itself, whatever follows. -/
theorem decode_encode_append {i : Instruction} (h : i.IsComplete) (l : List UInt8) :
    decode (i.encode ++ l) = i :: decode l := by
  rw [IsComplete] at h
  -- Reading takes as many bytes as the operand has, and goes on behind them.
  rw [encode, List.cons_append, decode_cons, ← h, List.take_left, List.drop_left]

/-- `decode` reads a push that is cut short as the last instruction. -/
theorem decode_encode_of_isCut {i : Instruction} (h : i.IsCut) : decode i.encode = [i] := by
  have hle : i.operand.length ≤ operandWidth i.opcode := Nat.le_of_lt h
  rw [encode, decode_cons, List.take_of_length_le hle, List.drop_of_length_le hle, decode_nil]

/-- `decode` reads complete instructions as themselves, whatever follows. -/
theorem decode_flatMap_encode_append {is : List Instruction} (h : ∀ i ∈ is, i.IsComplete)
    (l : List UInt8) : decode (is.flatMap encode ++ l) = is ++ decode l := by
  induction is with
  | nil => rfl
  | cons i is ih =>
    obtain ⟨hi, his⟩ := List.forall_mem_cons.mp h
    rw [List.flatMap_cons, List.append_assoc, decode_encode_append hi, ih his, List.cons_append]

/-- An instruction that `decode` reads from bytes stands in them. -/
theorem exists_append_of_mem_decode {i : Instruction} {bs : List UInt8} (h : i ∈ decode bs) :
    ∃ front back, bs = front ++ i.encode ++ back := by
  -- Induction along the reading: it is the first instruction, or stands behind it.
  induction bs using Instruction.decode.induct with
  | case1 =>
    rw [decode_nil] at h
    cases h
  | case2 opcode l ih =>
    rw [decode_cons, List.mem_cons] at h
    cases h with
    | inl hfirst =>
      refine ⟨[], l.drop (operandWidth opcode), ?_⟩
      rw [hfirst, encode, List.nil_append, List.cons_append, List.take_append_drop]
    | inr hrest =>
      obtain ⟨front, back, hsplit⟩ := ih hrest
      refine ⟨opcode :: l.take (operandWidth opcode) ++ front, back, ?_⟩
      have hl : l = l.take (operandWidth opcode) ++ (front ++ i.encode ++ back) := by
        rw [← hsplit, List.take_append_drop]
      rw [List.append_assoc, List.append_assoc, List.cons_append, ← List.append_assoc front, ← hl]

/-- A complete instruction has a `selector?` when it pushes four bytes. -/
theorem selector?_of_isComplete {i : Instruction} (h : i.IsComplete) :
    i.selector? = if i.opcode = push4 then some i.operand else none := by
  by_cases hpush : i.opcode = push4
  · have hlength : i.operand.length = 4 := by
      rw [IsComplete, hpush] at h
      exact h
    rw [selector?, if_pos ⟨hpush, hlength⟩, if_pos hpush]
  · rw [selector?, if_neg fun hboth => hpush hboth.1, if_neg hpush]

/-- The selectors of complete instructions are the operands of those with `push4`. -/
theorem filterMap_selector?_of_isComplete {is : List Instruction} (h : ∀ i ∈ is, i.IsComplete) :
    is.filterMap selector? = (is.filter (·.opcode = push4)).map (·.operand) := by
  induction is with
  | nil => rfl
  | cons i is ih =>
    obtain ⟨hi, his⟩ := List.forall_mem_cons.mp h
    by_cases hpush : i.opcode = push4
    · simp [selector?_of_isComplete hi, hpush, ih his]
    · simp [selector?_of_isComplete hi, hpush, ih his]

/-- A push that is cut short has no `selector?`. -/
theorem selector?_of_isCut {i : Instruction} (h : i.IsCut) : i.selector? = none := by
  rw [selector?, if_neg]
  rintro ⟨hpush, hlength⟩
  rw [IsCut, hpush, hlength] at h
  exact absurd h (by decide)

end Instruction

open Instruction

/-! ## Programs -/

/-- Complete instructions, and a push at the end that may be cut short. -/
structure Program where
  instructions : List Instruction
  last : Option Instruction
  complete : ∀ i ∈ instructions, i.IsComplete
  cut : ∀ i ∈ last, i.IsCut

namespace Program

/-- The bytes of a program: those of its instructions, one after the other. -/
def bytes (p : Program) : List UInt8 :=
  p.instructions.flatMap encode ++ p.last.toList.flatMap encode

/-- The operands of the complete `push4` instructions of a program, from first to last. -/
def pushed (p : Program) : List (List UInt8) :=
  (p.instructions.filter (·.opcode = push4)).map (·.operand)

/-- `decode` reads the bytes of a program as its instructions. -/
theorem decode_bytes (p : Program) : decode p.bytes = p.instructions ++ p.last.toList := by
  obtain ⟨is, last, hcomplete, hcut⟩ := p
  rw [bytes, decode_flatMap_encode_append hcomplete]
  -- What is left is the last push, if there is one.
  cases last with
  | none => rw [Option.toList_none, List.flatMap_nil, decode_nil]
  | some i =>
    rw [Option.toList_some, List.flatMap_singleton, decode_encode_of_isCut (hcut i rfl)]

/-- Every byte sequence is the `bytes` of a program. -/
theorem exists_bytes_eq (bs : List UInt8) : ∃ p : Program, p.bytes = bs := by
  -- Induction along the reading: the first instruction, and a program for what is behind it.
  induction bs using Instruction.decode.induct with
  | case1 => exact ⟨⟨[], none, by simp, by simp⟩, rfl⟩
  | case2 opcode l ih =>
    by_cases hcut : l.length < operandWidth opcode
    · -- The code ends in its operand, which leaves nothing to read.
      exact ⟨⟨[], some ⟨opcode, l⟩, by simp, by simpa [IsCut] using hcut⟩, by simp [bytes, encode]⟩
    · obtain ⟨p, hp⟩ := ih
      have hfirst : Instruction.IsComplete ⟨opcode, l.take (operandWidth opcode)⟩ := by
        rw [Instruction.IsComplete, List.length_take, Nat.min_eq_left (Nat.le_of_not_lt hcut)]
      refine ⟨⟨⟨opcode, l.take (operandWidth opcode)⟩ :: p.instructions, p.last,
        List.forall_mem_cons.mpr ⟨hfirst, p.complete⟩, p.cut⟩, ?_⟩
      rw [bytes] at hp ⊢
      rw [List.flatMap_cons, List.append_assoc, hp, encode, List.cons_append,
        List.take_append_drop]

/-- The selectors in the bytes of a program are what it has `pushed`. -/
theorem filterMap_selector?_decode (p : Program) :
    (decode p.bytes).filterMap selector? = p.pushed := by
  rw [decode_bytes, List.filterMap_append, filterMap_selector?_of_isComplete p.complete]
  cases hlast : p.last with
  | none => simp [pushed]
  | some i => simp [pushed, selector?_of_isCut (p.cut i hlast)]

/-- What is `pushed` comes first when code follows, even if that completes the last push. -/
theorem pushed_append (p : Program) (l : List UInt8) :
    p.pushed <+: (decode (p.bytes ++ l)).filterMap selector? := by
  -- Whatever becomes of the last push, the complete instructions before it are read as before.
  rw [bytes, List.append_assoc, decode_flatMap_encode_append p.complete, List.filterMap_append,
    filterMap_selector?_of_isComplete p.complete]
  exact List.prefix_append _ _

end Program

/-- Code that goes on has the selectors that `selector?` found before, and maybe others after
them. -/
theorem filterMap_selector?_append (bs cs : List UInt8) :
    (decode bs).filterMap selector? <+: (decode (bs ++ cs)).filterMap selector? := by
  obtain ⟨p, rfl⟩ := Program.exists_bytes_eq bs
  rw [p.filterMap_selector?_decode]
  exact p.pushed_append cs

/-! ## Selectors as text -/

/-- The `selectors` of a code are the operands of its complete `push4` instructions. -/
theorem mem_selectors {code s : String} (h : s ∈ selectors code) :
    ∃ bs, decode? code = some bs ∧ ∃ i ∈ decode bs, i.opcode = push4 ∧ i.operand.length = 4 ∧
      s = selectorText i.operand := by
  rw [selectors] at h
  cases hbytes : decode? code with
  | none =>
    rw [hbytes] at h
    cases h
  | some bs =>
    -- A selector of the list is that of an instruction, and only a complete push has one.
    rw [hbytes, mem_distinct] at h
    obtain ⟨selector, hmem, rfl⟩ := List.mem_map.mp h
    obtain ⟨i, hi, hselector⟩ := List.mem_filterMap.mp hmem
    rw [selector?] at hselector
    split at hselector
    · rename_i hpush
      cases hselector
      exact ⟨bs, rfl, i, hi, hpush.1, hpush.2, rfl⟩
    · cases hselector

theorem nodup_selectors (code : String) : (selectors code).Nodup := by
  rw [selectors]
  split
  · exact .nil
  · exact nodup_distinct _

/-- A `selectorText` is in lower case. -/
theorem lower_selectorText (selector : List UInt8) :
    Text.lower (selectorText selector) = selectorText selector := by
  apply Text.lower_eq_self
  intro c hc
  rw [selectorText, String.toList_ofList, List.mem_cons, List.mem_cons] at hc
  rcases hc with rfl | rfl | hc
  · exact Text.isLower_of_ascii (by decide) (by decide)
  · exact Text.isLower_of_ascii (by decide) (by decide)
  · exact isLower_of_mem_hexOf hc

/-- A code text that goes on has the `selectors` that it had, and maybe others after them. -/
theorem selectors_append {code code' : String} {l m : List Char} (h : HasDigits code l)
    (h' : HasDigits code' (l ++ m)) : selectors code <+: selectors code' := by
  obtain ⟨bs, cs, hshort, hlong⟩ := decode?_append h h'
  simp only [selectors, hshort, hlong]
  exact distinct_mono ((filterMap_selector?_append bs cs).map selectorText)

end TokenRisk.Bytecode
