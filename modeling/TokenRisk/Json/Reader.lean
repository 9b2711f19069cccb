import TokenRisk.Json.Basic
import TokenRisk.Text.Numeral

/-!
# Reading JSON

The reader accepts the standard grammar and also the names of the doubles that are not finite. Of
two members with one key the later value counts, in the place of the earlier. A refusal names what
was expected and where, by line, column and offset.

The functions of this file work on the rest of the text, so a place is kept as the length of what is
left from there on.
-/

namespace TokenRisk.Json

/-- What is wrong with a text that is no JSON. -/
inductive Flaw where
  | value
  | propertyName
  | colon
  | comma
  | unterminated
  | control
  | escape
  | unicodeEscape
  | extra
  deriving DecidableEq

/-- The wording of a `Flaw`. -/
def Flaw.message : Flaw → String
  | .value => "Expecting value"
  | .propertyName => "Expecting property name enclosed in double quotes"
  | .colon => "Expecting ':' delimiter"
  | .comma => "Expecting ',' delimiter"
  | .unterminated => "Unterminated string starting at"
  | .control => "Invalid control character at"
  | .escape => "Invalid \\escape"
  | .unicodeEscape => "Invalid \\uXXXX escape"
  | .extra => "Extra data"

/-- Why a text is refused: a `Flaw` with the number of characters from its place to the end, or an
integer with more than `Numeral.maxIntDigits` digits. -/
inductive Refusal where
  | flaw (what : Flaw) (remaining : Nat)
  | tooLong (digits : Nat)
  deriving DecidableEq

/-- What a reading function returns: a result and the rest of the text, or a `Refusal`. -/
abbrev Reads (α : Type) := Except Refusal (α × List Char)

/-- Whether `c` is a blank between tokens. -/
def isGap (c : Char) : Bool :=
  c = ' ' || c = '\t' || c = '\n' || c = '\r'

/-- The text after its leading blanks. -/
def skipGap (l : List Char) : List Char :=
  l.dropWhile isGap

/-- The value of a hexadecimal digit. -/
def hexValue? (c : Char) : Option Nat :=
  if '0' ≤ c ∧ c ≤ '9' then some (c.toNat - '0'.toNat)
  else if 'a' ≤ c ∧ c ≤ 'f' then some (c.toNat - 'a'.toNat + 10)
  else if 'A' ≤ c ∧ c ≤ 'F' then some (c.toNat - 'A'.toNat + 10)
  else none

/-- The code unit of four hexadecimal digits. -/
def unit? (a b c d : Char) : Option Nat := do
  return 16 * (16 * (16 * (← hexValue? a) + (← hexValue? b)) + (← hexValue? c)) + (← hexValue? d)

/-- Whether a code unit is the first half of a pair. -/
def isHighSurrogate (n : Nat) : Bool := 0xD800 ≤ n && n < 0xDC00

/-- Whether a code unit is the second half of a pair. -/
def isLowSurrogate (n : Nat) : Bool := 0xDC00 ≤ n && n < 0xE000

/-- The character of a code unit. A surrogate without its partner has none and is replaced. -/
def unitChar (n : Nat) : Char :=
  if isHighSurrogate n || isLowSurrogate n then Char.ofNat 0xFFFD else Char.ofNat n

/-- The character of a pair of surrogates. -/
def pairChar (high low : Nat) : Char :=
  Char.ofNat (0x10000 + (high - 0xD800) * 0x400 + (low - 0xDC00))

/-- The character that a simple escape stands for. -/
def simpleEscape? : Char → Option Char
  | '"' => some '"'
  | '\\' => some '\\'
  | '/' => some '/'
  | 'b' => some (Char.ofNat 8)
  | 'f' => some (Char.ofNat 12)
  | 'n' => some '\n'
  | 'r' => some '\r'
  | 't' => some '\t'
  | _ => none

/-- Puts a character in front of the string that is read. -/
def consChar (c : Char) : Reads (List Char) → Reads (List Char)
  | .ok (s, rest) => .ok (c :: s, rest)
  | .error e => .error e

/-- The rest of a string whose opening quote had `opening` characters from it to the end. -/
def readString (opening : Nat) : List Char → Reads (List Char)
  | [] => .error (.flaw .unterminated opening)
  | '"' :: l => .ok ([], l)
  | '\\' :: 'u' :: a :: b :: c :: d :: next :: l =>
    let place := l.length + 6
    match unit? a b c d with
    | none => .error (.flaw .unicodeEscape place)
    | some n =>
      match next, l with
      | '\\', 'u' :: a' :: b' :: c' :: d' :: l' =>
        if isHighSurrogate n && !l'.isEmpty then
          match unit? a' b' c' d' with
          | none => .error (.flaw .unicodeEscape (l'.length + 5))
          | some n' =>
            if isLowSurrogate n' then consChar (pairChar n n') (readString opening l')
            else consChar (unitChar n)
              (readString opening ('\\' :: 'u' :: a' :: b' :: c' :: d' :: l'))
        else consChar (unitChar n) (readString opening ('\\' :: 'u' :: a' :: b' :: c' :: d' :: l'))
      | next, l => consChar (unitChar n) (readString opening (next :: l))
  | '\\' :: 'u' :: l => .error (.flaw .unicodeEscape (l.length + 1))
  | '\\' :: c :: l =>
    match simpleEscape? c with
    | some c => consChar c (readString opening l)
    | none => .error (.flaw .escape (l.length + 2))
  | '\\' :: [] => .error (.flaw .unterminated opening)
  | c :: l =>
    if c.toNat < 32 then .error (.flaw .control (l.length + 1))
    else consChar c (readString opening l)
termination_by l => l.length

/-- The digits in front of a text and the rest. -/
def spanDigits (l : List Char) : List Char × List Char :=
  (l.takeWhile Char.isDigit, l.dropWhile Char.isDigit)

/-- The fraction in front of a text, with its point. A point without a digit after it belongs to
what follows. -/
def spanFraction : List Char → List Char × List Char
  | '.' :: l =>
    let (ds, rest) := spanDigits l
    if ds.isEmpty then ([], '.' :: l) else ('.' :: ds, rest)
  | l => ([], l)

/-- The exponent in front of a text. An `e` without digits belongs to what follows. -/
def spanExponent : List Char → List Char × List Char
  | c :: l =>
    if c = 'e' ∨ c = 'E' then
      let (signs, digits) := match l with
        | '+' :: r => (['+'], r)
        | '-' :: r => (['-'], r)
        | r => ([], r)
      let (ds, rest) := spanDigits digits
      if ds.isEmpty then ([], c :: l) else (c :: signs ++ ds, rest)
    else ([], c :: l)
  | [] => ([], [])

/-- The integer part in front of a text: a zero alone, or digits that start with another one. -/
def spanInteger : List Char → List Char × List Char
  | '0' :: l => (['0'], l)
  | l => spanDigits l

/-- A number, read from the start of its digits; `remaining` counts from its sign. -/
def readNumber (negative : Bool) (remaining : Nat) (l : List Char) : Reads Json :=
  let (whole, rest) := spanInteger l
  if whole.isEmpty then .error (.flaw .value remaining)
  else
    let (fraction, rest) := spanFraction rest
    let (exponent, rest) := spanExponent rest
    if fraction.isEmpty && exponent.isEmpty then
      if Numeral.maxIntDigits < whole.length then .error (.tooLong whole.length)
      else
        let n := Numeral.valueOf (whole.filterMap Text.asciiDigit?)
        .ok (.int (if negative then -(n : Int) else n), rest)
    else
      let x := Numeral.readMagnitude negative (whole ++ fraction ++ exponent)
      .ok (.real (x.getD .nan), rest)

/-- The rest of a text after a word that starts it. -/
def afterWord? (word : String) (l : List Char) : Option (List Char) :=
  if word.toList.isPrefixOf l then some (l.drop word.length) else none

/-- The words that stand for values. -/
def wordValues : List (String × Json) :=
  [("null", .null), ("true", .bool true), ("false", .bool false), ("NaN", .real .nan),
    ("Infinity", .real (.infinite false)), ("-Infinity", .real (.infinite true))]

/-- A value that is a single token: one of the `wordValues` or a number. -/
def readScalar (l : List Char) : Reads Json :=
  match wordValues.findSome? fun w => (afterWord? w.1 l).map fun rest => (w.2, rest) with
  | some r => .ok r
  | none =>
    match l with
    | '-' :: digits => readNumber true l.length digits
    | digits => readNumber false l.length digits

mutual

/-- A value at the start of the text. Every call that this one makes has less `fuel`; `readAll` has
enough for any text. -/
def readValue : Nat → List Char → Reads Json
  | 0, l => .error (.flaw .value l.length)
  | fuel + 1, l =>
    match l with
    | '"' :: r =>
      match readString l.length r with
      | .ok (s, rest) => .ok (.string (String.ofList s), rest)
      | .error e => .error e
    | '{' :: r =>
      match skipGap r with
      | '}' :: rest => .ok (.object [], rest)
      | r => readMembers fuel [] r
    | '[' :: r =>
      match skipGap r with
      | ']' :: rest => .ok (.array [], rest)
      | r => readItems fuel [] r
    | l => readScalar l

/-- The items of an array from one of them on; `read` holds those before it, the last first. -/
def readItems : Nat → List Json → List Char → Reads Json
  | 0, _, l => .error (.flaw .value l.length)
  | fuel + 1, read, l =>
    match readValue fuel l with
    | .error e => .error e
    | .ok (v, rest) =>
      match skipGap rest with
      | ']' :: rest => .ok (.array (v :: read).reverse, rest)
      | ',' :: rest => readItems fuel (v :: read) (skipGap rest)
      | rest => .error (.flaw .comma rest.length)

/-- The members of an object from one of them on; `read` holds those before it, put together by
`setMember`. -/
def readMembers : Nat → List (String × Json) → List Char → Reads Json
  | 0, _, l => .error (.flaw .value l.length)
  | fuel + 1, read, l =>
    match l with
    | '"' :: r =>
      match readString l.length r with
      | .error e => .error e
      | .ok (key, rest) =>
        match skipGap rest with
        | ':' :: rest =>
          match readValue fuel (skipGap rest) with
          | .error e => .error e
          | .ok (v, rest) =>
            let read := setMember (String.ofList key) v read
            match skipGap rest with
            | '}' :: rest => .ok (.object read, rest)
            | ',' :: rest => readMembers fuel read (skipGap rest)
            | rest => .error (.flaw .comma rest.length)
        | rest => .error (.flaw .colon rest.length)
    | l => .error (.flaw .propertyName l.length)

end

/-- The value that the whole of a text writes. How deep the value is nested is not bounded here:
what there is room for is the matter of `Json.tooDeepIn?`. -/
def readAll (l : List Char) : Except Refusal Json :=
  match readValue (2 * l.length + 2) (skipGap l) with
  | .error e => .error e
  | .ok (v, rest) =>
    match skipGap rest with
    | [] => .ok v
    | rest => .error (.flaw .extra rest.length)

/-- A place in a text by line, column and offset, all in characters. -/
def placeText (l : List Char) (offset : Nat) : String :=
  let before := l.take offset
  let line := before.count '\n' + 1
  let column := (before.reverse.takeWhile (· != '\n')).length + 1
  s!"line {line} column {column} (char {offset})"

/-- The wording of a `Refusal` of the text `l`. -/
def Refusal.message (l : List Char) : Refusal → String
  | .flaw what remaining => what.message ++ ": " ++ placeText l (l.length - remaining)
  | .tooLong digits => Numeral.tooLongMessage digits

/-- Reads a text by `readAll`. -/
def parse (s : String) : Except Refusal Json :=
  readAll s.toList

end TokenRisk.Json
