import TokenRisk.Json.Reader
import TokenRisk.Text.Basic
import TokenRisk.Text.Blank
import TokenRisk.Text.LetterCase
import TokenRisk.Text.Quoted

/-!
# Code as hexadecimal text

Nodes answer with the code of a contract in hexadecimal, with or without a leading `0x` and in any
letter case. Bytes are pairs of digits; blanks may stand between pairs but not within one.
-/

namespace TokenRisk.Bytecode

/-- The digits of a code text: lower case, without one leading `0x`. -/
def digits (code : String) : String :=
  match code.toList with
  | '0' :: 'x' :: l => Text.lower (String.ofList l)
  | '0' :: 'X' :: l => Text.lower (String.ofList l)
  | _ => Text.lower code

/-- The bytes that pairs of digits write. Blanks may stand between pairs; anything else makes it no
code. -/
def bytes? : List Char → Option (List UInt8)
  | [] => some []
  | [c] => if Text.isAsciiBlank c then some [] else none
  | c :: d :: l =>
    if Text.isAsciiBlank c then bytes? (d :: l)
    else do
      let high ← Json.hexValue? c
      let low ← Json.hexValue? d
      return (16 * high + low).toUInt8 :: (← bytes? l)

/-- The bytes of a code text, by its `digits`; an odd digit at the end is dropped. -/
def decode? (code : String) : Option (List UInt8) :=
  let l := (digits code).toList
  bytes? (l.take (l.length - l.length % 2))

/-- The two lower-case digits of a byte. -/
def byteDigits (b : UInt8) : List Char :=
  Text.hexDigits b.toNat 2

/-- The lower-case digits of bytes, which `bytes?` reads back. -/
def hexOf (bytes : List UInt8) : List Char :=
  bytes.flatMap byteDigits

end TokenRisk.Bytecode
