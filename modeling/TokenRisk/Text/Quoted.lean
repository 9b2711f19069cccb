import TokenRisk.Text.Printable

/-!
# Quoted text

How error messages show a text that they refuse: in single quotes, or in double quotes when it holds
a single quote and no double one. Backslashes, the quote in use and the common controls are escaped
with a backslash, other characters that do not print by their code point.
-/

namespace TokenRisk.Text

/-- The hexadecimal digits of `n`, filled up to `width`. -/
def hexDigits (n width : Nat) : List Char :=
  let ds := Nat.toDigits 16 n
  List.replicate (width - ds.length) '0' ++ ds

/-- A character between quotes of the kind `quote`. What does not print is escaped. -/
def quotedChar (quote c : Char) : List Char :=
  if c = quote ∨ c = '\\' then ['\\', c]
  else if c = '\n' then ['\\', 'n']
  else if c = '\r' then ['\\', 'r']
  else if c = '\t' then ['\\', 't']
  else if isPrintable c then [c]
  else if c.toNat < 0x100 then '\\' :: 'x' :: hexDigits c.toNat 2
  else if c.toNat < 0x10000 then '\\' :: 'u' :: hexDigits c.toNat 4
  else '\\' :: 'U' :: hexDigits c.toNat 8

/-- The quote that stands around `l`: a double one if there is a single one inside and no double
one. -/
def quoteFor (l : List Char) : Char :=
  if l.contains '\'' && !l.contains '"' then '"' else '\''

/-- The text between quotes, as `quotedChar` shows its characters. -/
def quoted (s : String) : String :=
  let quote := quoteFor s.toList
  String.ofList (quote :: s.toList.flatMap (quotedChar quote) ++ [quote])

end TokenRisk.Text
