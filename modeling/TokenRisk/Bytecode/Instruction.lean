import TokenRisk.Bytecode.Hex

/-!
# Instructions

Code is a sequence of instructions: an opcode, which for a push is followed by its operand. Walking
the code by instructions keeps the operand of a push from being read as opcodes. A dispatcher
compares the called selector with four pushed bytes, so the operands of four-byte pushes are the
selectors that a contract answers to, up to code that no compiler wrote.
-/

namespace TokenRisk.Bytecode

/-- An opcode with the bytes that belong to it. -/
structure Instruction where
  opcode : UInt8
  operand : List UInt8
  deriving DecidableEq

/-- The number of operand bytes of an opcode: one to thirty-two for the pushes `0x60` to `0x7f`. -/
def operandWidth (opcode : UInt8) : Nat :=
  if 0x60 ≤ opcode ∧ opcode ≤ 0x7F then opcode.toNat - 0x5F else 0

/-- The opcode of a push of four bytes, for which `operandWidth` is four. -/
def push4 : UInt8 := 0x63

/-- The instructions of a code. The operand of the last one may be shorter than its
`operandWidth`. -/
def Instruction.decode : List UInt8 → List Instruction
  | [] => []
  | opcode :: l =>
    ⟨opcode, l.take (operandWidth opcode)⟩ :: Instruction.decode (l.drop (operandWidth opcode))
termination_by l => l.length
decreasing_by simp only [List.length_drop, List.length_cons]; omega

/-- The bytes of an instruction, as `Instruction.decode` found them. -/
def Instruction.encode (i : Instruction) : List UInt8 :=
  i.opcode :: i.operand

/-- The selector that an instruction compares with, if it is a complete `push4`. -/
def Instruction.selector? (i : Instruction) : Option (List UInt8) :=
  if i.opcode = push4 ∧ i.operand.length = 4 then some i.operand else none

/-- A selector as text: `0x` and its `hexOf`. -/
def selectorText (selector : List UInt8) : String :=
  String.ofList ('0' :: 'x' :: hexOf selector)

/-- The selectors of a code, each once, in order of first occurrence. A text that `decode?` cannot
read has none. -/
def selectors (code : String) : List String :=
  match decode? code with
  | none => []
  | some bytes =>
    Text.distinct (((Instruction.decode bytes).filterMap Instruction.selector?).map selectorText)

end TokenRisk.Bytecode
