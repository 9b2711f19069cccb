import TokenRisk.Text.Range

/-!
# Blank characters

The blank characters of Unicode: the ASCII controls that separate text, and the spaces and
separators of the other blocks.
-/

namespace TokenRisk.Text

/-- The code points of the blank characters. -/
def blankRanges : List (Nat × Nat) := [
    (0x9, 0xD), (0x1C, 0x20), (0x85, 0x85), (0xA0, 0xA0), (0x1680, 0x1680), (0x2000, 0x200A),
    (0x2028, 0x2029), (0x202F, 0x202F), (0x205F, 0x205F), (0x3000, 0x3000)]

/-- Whether `c` is blank, that is, in `blankRanges`. -/
def isBlank (c : Char) : Bool :=
  inRanges blankRanges c

/-- Tab, line feed, vertical tab, form feed, carriage return and space. -/
def isAsciiBlank (c : Char) : Bool :=
  (9 ≤ c.toNat && c.toNat ≤ 13) || c.toNat == 32

/-- `l` without the elements at either end that satisfy `p`. -/
def trimBoth (p : Char → Bool) (l : List Char) : List Char :=
  ((l.dropWhile p).reverse.dropWhile p).reverse

/-- `s` without the characters at either end that `isBlank`. -/
def trim (s : String) : String :=
  String.ofList (trimBoth isBlank s.toList)

end TokenRisk.Text
