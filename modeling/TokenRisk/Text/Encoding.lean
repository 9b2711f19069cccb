import TokenRisk.Text.Basic
import TokenRisk.Text.Quoted

/-!
# Text from bytes

The Unicode encodings of a body: UTF-8, and UTF-16 and UTF-32 in both byte orders, told apart by a
mark at the start or by where the first zero bytes stand. A surrogate that a lax sender wrote on its
own is replaced. Anything else that is no encoding is refused with the bytes at fault.
-/

namespace TokenRisk.Text

/-- The encodings of Unicode text that `detectEncoding` tells apart. -/
inductive Encoding where
  | utf8
  | utf16 (bigEndian : Bool)
  | utf32 (bigEndian : Bool)
  deriving DecidableEq

/-- The name of an `Encoding`. -/
def Encoding.name : Encoding → String
  | .utf8 => "utf-8"
  | .utf16 bigEndian => if bigEndian then "utf-16-be" else "utf-16-le"
  | .utf32 bigEndian => if bigEndian then "utf-32-be" else "utf-32-le"

/-- Why bytes are no text: the `reason`, the first byte at fault with its `position`, and how many
are. -/
structure DecodeError where
  encoding : Encoding
  position : Nat
  length : Nat
  byte : UInt8
  reason : String

/-- The wording of a `DecodeError`. -/
def DecodeError.message (e : DecodeError) : String :=
  let place :=
    if e.length = 1 then
      s!"byte 0x{String.ofList (hexDigits e.byte.toNat 2)} in position {e.position}"
    else s!"bytes in position {e.position}-{e.position + e.length - 1}"
  s!"'{e.encoding.name}' codec can't decode {place}: {e.reason}"

/-- A decoded text, or the number of bytes left from the first at fault, how many are, and the
reason. -/
abbrev Decodes := Except (Nat × Nat × String) (List Char)

/-- Puts a character in front of a decoded text. -/
def Decodes.cons (c : Char) : Decodes → Decodes
  | .ok l => .ok (c :: l)
  | .error e => .error e

/-- Whether a byte continues a sequence of UTF-8. -/
def isContinuation (b : UInt8) : Bool :=
  0x80 ≤ b && b < 0xC0

/-- The six bits of a byte that `isContinuation`. -/
def payload (b : UInt8) : Nat :=
  b.toNat % 64

/-- The character of a code point; one that is none, a surrogate, is replaced. -/
def codePoint (n : Nat) : Char :=
  if 0xD800 ≤ n ∧ n < 0xE000 then Char.ofNat 0xFFFD else Char.ofNat n

/-- The range that the second byte of a sequence must lie in, by its first. Surrogates are let
through. -/
def secondInRange (first second : UInt8) : Bool :=
  if first = 0xE0 then 0xA0 ≤ second && second < 0xC0
  else if first = 0xF0 then 0x90 ≤ second && second < 0xC0
  else if first = 0xF4 then 0x80 ≤ second && second < 0x90
  else isContinuation second

def invalidStart : String := "invalid start byte"
def invalidContinuation : String := "invalid continuation byte"
def unexpectedEnd : String := "unexpected end of data"

/-- Text from UTF-8. The first sequence that is none ends the text. -/
def decodeUtf8 : List UInt8 → Decodes
  | [] => .ok []
  | a :: l =>
    if a < 0x80 then .cons (Char.ofNat a.toNat) (decodeUtf8 l)
    else if a < 0xC2 || 0xF5 ≤ a then .error (l.length + 1, 1, invalidStart)
    else match l with
      | [] => .error (1, 1, unexpectedEnd)
      | b :: l₁ =>
        if !secondInRange a b then .error (l.length + 1, 1, invalidContinuation)
        else if a < 0xE0 then
          .cons (codePoint ((a.toNat - 0xC0) * 64 + payload b)) (decodeUtf8 l₁)
        else match l₁ with
          | [] =>
            if a = 0xED && 0xA0 ≤ b then .error (2, 1, invalidContinuation)
            else .error (2, 2, unexpectedEnd)
          | c :: l₂ =>
            if !isContinuation c then
              -- a surrogate cut short is at fault from its second byte on
              .error (l.length + 1, if a = 0xED && 0xA0 ≤ b then 1 else 2, invalidContinuation)
            else if a < 0xF0 then
              .cons (codePoint (((a.toNat - 0xE0) * 64 + payload b) * 64 + payload c))
                (decodeUtf8 l₂)
            else match l₂ with
              | [] => .error (3, 3, unexpectedEnd)
              | d :: l₃ =>
                if !isContinuation d then .error (l.length + 1, 3, invalidContinuation)
                else
                  .cons (codePoint ((((a.toNat - 0xF0) * 64 + payload b) * 64 + payload c) * 64 +
                    payload d)) (decodeUtf8 l₃)
termination_by l => l.length
decreasing_by all_goals simp only [List.length_cons]; omega

/-- The number that bytes in the given order write. -/
def wordOf (bigEndian : Bool) (bytes : List UInt8) : Nat :=
  (if bigEndian then bytes else bytes.reverse).foldl (fun n b => 256 * n + b.toNat) 0

/-- Text from UTF-16, a pair of surrogates at a time where there is one. -/
def decodeUtf16 (bigEndian : Bool) : List UInt8 → Decodes
  | [] => .ok []
  | [_] => .error (1, 1, "truncated data")
  | a :: b :: l =>
    let n := wordOf bigEndian [a, b]
    if 0xD800 ≤ n ∧ n < 0xDC00 then
      match l with
      | c :: d :: l' =>
        let m := wordOf bigEndian [c, d]
        if 0xDC00 ≤ m ∧ m < 0xE000 then
          .cons (Char.ofNat (0x10000 + (n - 0xD800) * 0x400 + (m - 0xDC00)))
            (decodeUtf16 bigEndian l')
        else .cons (codePoint n) (decodeUtf16 bigEndian (c :: d :: l'))
      | l' => .cons (codePoint n) (decodeUtf16 bigEndian l')
    else .cons (codePoint n) (decodeUtf16 bigEndian l)
termination_by l => l.length
decreasing_by all_goals simp only [List.length_cons]; omega

/-- Text from UTF-32, four bytes at a time. -/
def decodeUtf32 (bigEndian : Bool) : List UInt8 → Decodes
  | [] => .ok []
  | a :: b :: c :: d :: l =>
    let n := wordOf bigEndian [a, b, c, d]
    if 0x10FFFF < n then .error (l.length + 4, 4, "code point not in range(0x110000)")
    else .cons (codePoint n) (decodeUtf32 bigEndian l)
  | l => .error (l.length, l.length, "truncated data")

/-- The `Encoding` of a body and the length of the mark in front of it. -/
def detectEncoding : List UInt8 → Encoding × Nat
  | 0x00 :: 0x00 :: 0xFE :: 0xFF :: _ => (.utf32 true, 4)
  | 0xFF :: 0xFE :: 0x00 :: 0x00 :: _ => (.utf32 false, 4)
  | 0xFE :: 0xFF :: _ => (.utf16 true, 2)
  | 0xFF :: 0xFE :: _ => (.utf16 false, 2)
  | 0xEF :: 0xBB :: 0xBF :: _ => (.utf8, 3)
  | a :: b :: c :: d :: _ =>
    if a = 0 then (if b ≠ 0 then .utf16 true else .utf32 true, 0)
    else if b = 0 then (if c ≠ 0 ∨ d ≠ 0 then .utf16 false else .utf32 false, 0)
    else (.utf8, 0)
  | [a, b] =>
    if a = 0 then (.utf16 true, 0) else if b = 0 then (.utf16 false, 0) else (.utf8, 0)
  | _ => (.utf8, 0)

/-- The bytes as text in the given `Encoding`. -/
def Encoding.decode : Encoding → List UInt8 → Decodes
  | .utf8, l => decodeUtf8 l
  | .utf16 bigEndian, l => decodeUtf16 bigEndian l
  | .utf32 bigEndian, l => decodeUtf32 bigEndian l

/-- The text of a body by `detectEncoding`, without the mark in front of it. -/
def decodeBytes (bytes : List UInt8) : Except DecodeError (List Char) :=
  let (encoding, mark) := detectEncoding bytes
  let body := bytes.drop mark
  match encoding.decode body with
  | .ok l => .ok l
  | .error (remaining, length, reason) =>
    let index := body.length - remaining
    -- positions count from the start of the bytes, except after the mark of UTF-8
    let skipped := if encoding = .utf8 then 0 else mark
    .error ⟨encoding, index + skipped, length, body.getD index 0, reason⟩

end TokenRisk.Text
