import TokenRisk.Binary64.Shortest
import TokenRisk.Json.Basic
import TokenRisk.Text.Basic
import TokenRisk.Text.Quoted

/-!
# Writing JSON

Values are written in ASCII: other characters are escaped by their UTF-16 code units. A style gives
the separators and says whether items go on lines of their own.
-/

namespace TokenRisk.Json

/-- How `render` lays a value out. -/
structure Style where
  /-- What stands between items on one line. -/
  itemSeparator : String
  keySeparator : String
  /-- The indentation of nested items on lines of their own; none for a single line. -/
  indent : Option Nat

/-- A single line without blanks. -/
def Style.compact : Style := ⟨",", ":", none⟩

/-- A single line with a blank after each separator. -/
def Style.spaced : Style := ⟨", ", ": ", none⟩

/-- Items on lines of their own, two blanks further in at each level. -/
def Style.indented : Style := ⟨",", ": ", some 2⟩

/-- The escape of a UTF-16 code unit. -/
def unitEscape (n : Nat) : List Char :=
  '\\' :: 'u' :: Text.hexDigits n 4

/-- A character of a string, by `unitEscape` if it is not in ASCII. -/
def escapedChar (c : Char) : List Char :=
  if c = '"' ∨ c = '\\' then ['\\', c]
  else if c = '\n' then ['\\', 'n']
  else if c = '\r' then ['\\', 'r']
  else if c = '\t' then ['\\', 't']
  else if c.toNat = 8 then ['\\', 'b']
  else if c.toNat = 12 then ['\\', 'f']
  else if 32 ≤ c.toNat ∧ c.toNat < 127 then [c]
  else if c.toNat < 0x10000 then unitEscape c.toNat
  else
    let n := c.toNat - 0x10000
    unitEscape (0xD800 + n / 0x400) ++ unitEscape (0xDC00 + n % 0x400)

/-- A string with its quotes, each character by `escapedChar`. -/
def stringLiteral (s : String) : String :=
  String.ofList ('"' :: s.toList.flatMap escapedChar ++ ['"'])

/-- A number; the doubles that are not finite have names. -/
def realLiteral : Binary64 → String
  | .nan => "NaN"
  | .infinite negative => if negative then "-Infinity" else "Infinity"
  | x => x.text

/-- The break before an item at the given depth. -/
def Style.lineBreak (style : Style) (depth : Nat) : String :=
  match style.indent with
  | none => ""
  | some width => String.ofList ('\n' :: List.replicate (width * depth) ' ')

/-- Items between brackets. -/
def Style.bracketed (style : Style) (depth : Nat) (opening closing : String)
    (items : List String) : String :=
  if items.isEmpty then opening ++ closing
  else opening ++ style.lineBreak (depth + 1) ++
    Text.join (style.itemSeparator ++ style.lineBreak (depth + 1)) items ++
    style.lineBreak depth ++ closing

mutual

/-- A value whose first line stands at the given depth. -/
def render (style : Style) (depth : Nat) : Json → String
  | .null => "null"
  | .bool b => if b then "true" else "false"
  | .int n => toString n
  | .real x => realLiteral x
  | .string s => stringLiteral s
  | .array items => style.bracketed depth "[" "]" (renderItems style (depth + 1) items)
  | .object members =>
    style.bracketed depth "\x7b" "\x7d" (renderMembers style (depth + 1) members)

/-- Each item of an array, by `render`. -/
def renderItems (style : Style) (depth : Nat) : List Json → List String
  | [] => []
  | v :: vs => render style depth v :: renderItems style depth vs

/-- Each member of an object, by `render`. -/
def renderMembers (style : Style) (depth : Nat) : List (String × Json) → List String
  | [] => []
  | (k, v) :: ms =>
    (stringLiteral k ++ style.keySeparator ++ render style depth v) :: renderMembers style depth ms

end

/-- The value on a single line, in the style `Style.compact`. -/
def compact (v : Json) : String :=
  v.render .compact 0

/-- The value on lines of its own, in the style `Style.indented`. -/
def pretty (v : Json) : String :=
  v.render .indented 0

end TokenRisk.Json
