import TokenRisk.Binary64.Decimal
import TokenRisk.Text.Basic
import TokenRisk.Text.Blank
import TokenRisk.Text.Digit
import TokenRisk.Text.Quoted

/-!
# Numerals

Integers and real numbers as settings and services write them: blanks around the numeral, a sign,
decimal digits of any script, and single underscores between digits. Reals have a fraction and an
exponent too, and the words for infinity and for what is no number.
-/

namespace TokenRisk.Numeral

open Text

/-- The ASCII form of a character of a numeral: a decimal digit of any script is its value, and a
blank beyond ASCII is a space. What can be neither becomes a question mark, which no numeral
holds. -/
def plain (c : Char) : Char :=
  if c.toNat < 127 then c
  else if isBlank c then ' '
  else match decimal? c with
    | some d => Char.ofNat ('0'.toNat + d)
    | none => '?'

/-- The sign in front of a numeral, true for minus, and the rest. -/
def sign : List Char → Bool × List Char
  | '-' :: l => (true, l)
  | '+' :: l => (false, l)
  | l => (false, l)

/-- The value of a list of digits, the most significant first. -/
def valueOf (digits : List Nat) : Nat :=
  digits.foldl (fun n d => 10 * n + d) 0

/-- The longest run of digits with single underscores between them, and what follows it. There is
none when the text starts with no digit, or when an underscore lacks a digit on either side. -/
def digitRun (afterDigit : Bool) : List Char → Option (List Nat × List Char)
  | [] => if afterDigit then some ([], []) else none
  | c :: l =>
    if c = '_' then (if afterDigit then digitRun false l else none)
    else match asciiDigit? c with
      | some d => (digitRun true l).map fun r => (d :: r.1, r.2)
      | none => if afterDigit then some ([], c :: l) else none

/-- Why `readInt` refuses a text. -/
inductive IntError where
  | malformed
  | tooLong (digits : Nat)
  deriving DecidableEq

/-- The longest integer that `readInt` reads, in digits. -/
def maxIntDigits : Nat := 4300

/-- The wording of a refusal over `maxIntDigits`. -/
def tooLongMessage (digits : Nat) : String :=
  s!"Exceeds the limit ({maxIntDigits} digits) for integer string conversion: value has " ++
    s!"{digits} digits; use sys.set_int_max_str_digits() to increase the limit"

/-- The integer that a text writes: blanks around it, a `sign`, and a `digitRun` of at most
`maxIntDigits`. -/
def readInt (s : String) : Except IntError Int :=
  let l := (s.toList.map plain).dropWhile isAsciiBlank
  let (negative, l) := sign l
  match digitRun false l with
  | none => .error .malformed
  | some (digits, rest) =>
    if maxIntDigits < digits.length then .error (.tooLong digits.length)
    else if rest.all isAsciiBlank then
      .ok (if negative then -(valueOf digits : Int) else valueOf digits)
    else .error .malformed

/-- The wording of the refusal of `s` as an integer of the given base. -/
def malformedMessage (base : Nat) (s : String) : String :=
  s!"invalid literal for int() with base {base}: " ++ take 200 (quoted s)

/-- The wording of an `IntError` on reading `s`. -/
def IntError.message (s : String) : IntError → String
  | .malformed => malformedMessage 10 s
  | .tooLong digits => tooLongMessage digits

/-- The text without its underscores, each of which must stand between two digits. `previous` is the
character before. -/
def withoutUnderscores (previous : Char) : List Char → Option (List Char)
  | [] => if previous = '_' then none else some []
  | c :: l =>
    if c = '_' then
      if (asciiDigit? previous).isSome then withoutUnderscores c l else none
    else if previous = '_' && (asciiDigit? c).isNone then none
    else (withoutUnderscores c l).map (c :: ·)

/-- The leading digits of a text and the rest. -/
def leadingDigits (l : List Char) : List Nat × List Char :=
  ((l.takeWhile Char.isDigit).filterMap asciiDigit?, l.dropWhile Char.isDigit)

/-- The exponent that makes up the whole of a text. -/
def exponent? : List Char → Option Int
  | [] => some 0
  | c :: l =>
    if c = 'e' ∨ c = 'E' then
      let (negative, l) := sign l
      let (digits, rest) := leadingDigits l
      if digits.isEmpty || !rest.isEmpty then none
      else some (if negative then -(valueOf digits : Int) else valueOf digits)
    else none

/-- The digits on either side of the point. -/
def fraction (l : List Char) : List Nat × List Char :=
  match l with
  | '.' :: l => leadingDigits l
  | l => ([], l)

/-- An unsigned real numeral with the given sign, or one of the words for infinity and for what is
no number. -/
def readMagnitude (negative : Bool) (l : List Char) : Option Binary64 :=
  let word := String.ofList (l.map Char.toLower)
  if word = "inf" ∨ word = "infinity" then some (.infinite negative)
  else if word = "nan" then some .nan
  else
    let (whole, rest) := leadingDigits l
    let (places, rest) := fraction rest
    if whole.isEmpty && places.isEmpty then none
    else (exponent? rest).map fun e =>
      .ofDecimal negative (valueOf (whole ++ places)) (e - places.length)

/-- The real number that a text writes, rounded to a `Binary64`. -/
def readReal (s : String) : Option Binary64 := do
  let l := trimBoth isAsciiBlank (s.toList.map plain)
  let l ← withoutUnderscores ' ' l
  let (negative, l) := sign l
  readMagnitude negative l

/-- The wording of the refusal of `s` by `readReal`. -/
def realMessage (s : String) : String :=
  "could not convert string to float: " ++ quoted s

end TokenRisk.Numeral
