import TokenRisk.Failure
import TokenRisk.Text.Blank
import TokenRisk.Text.LetterCase

/-!
# Markup

Lines for the console may hold tags in square brackets that style the text between them. On a
console without styles the tags are dropped, but they must be balanced: a closing tag needs an open
one of its name. A backslash in front of a tag makes it plain text.
-/

namespace TokenRisk.Markup

/-- A part of a marked-up line: text, or a tag with its position and the value that follows its
equals sign. -/
inductive Piece where
  | text (s : List Char)
  | tag (position : Nat) (name : List Char) (value : Option (List Char))

/-- Whether a character can start a tag. -/
def startsTag (c : Char) : Bool :=
  c.isLower || c == '#' || c == '/' || c == '@'

/-- A tag at the start of a text: the number of backslashes before it, what stands between its
brackets, and the rest. -/
def tagAt? (l : List Char) : Option (Nat × List Char × List Char) :=
  let backslashes := (l.takeWhile (· == '\\')).length
  match l.drop backslashes with
  | '[' :: c :: body =>
    if startsTag c then
      let inside := body.takeWhile fun c => c != ']' && c != '['
      match body.drop inside.length with
      | ']' :: rest => some (backslashes, c :: inside, rest)
      | _ => none
    else none
  | _ => none

/-- The name and the value of a tag. -/
def splitTag (inside : List Char) : List Char × Option (List Char) :=
  let name := inside.takeWhile (· != '=')
  match inside.drop name.length with
  | [] => (name, none)
  | _ :: value => (name, some value)

/-- The pieces of a text from a position on. Of two backslashes before a tag one is kept, and a
single one keeps the tag from being one. -/
def piecesFrom : Nat → Nat → List Char → List Piece
  | 0, _, _ => []
  | _ + 1, _, [] => []
  | fuel + 1, position, c :: l =>
    match tagAt? (c :: l) with
    | none =>
      match c, l with
      -- a backslash also hides a bracket that starts no tag
      | '\\', '[' :: l => .text ['['] :: piecesFrom fuel (position + 2) l
      | c, l => .text [c] :: piecesFrom fuel (position + 1) l
    | some (backslashes, inside, rest) =>
      let kept := List.replicate (backslashes / 2) '\\'
      let following := piecesFrom fuel (position + backslashes + inside.length + 2) rest
      .text kept ::
        if backslashes % 2 = 1 then .text ('[' :: inside ++ [']']) :: following
        else
          let (name, value) := splitTag inside
          .tag (position + backslashes) name value :: following

/-- The pieces of a text, as `piecesFrom` its start finds them. -/
def pieces (l : List Char) : List Piece :=
  piecesFrom (l.length + 1) 0 l

/-- A style name in the form in which opening and closing tags are compared. -/
def styleName (name : List Char) : String :=
  Text.lower (Text.trim (String.ofList name))

/-- The open tags without the last one of a name. -/
def close? (name : String) : List String → Option (List String)
  | [] => none
  | tag :: tags => if tag = name then some tags else (close? name tags).map (tag :: ·)

/-- A tag as error messages show it. -/
def shownTag (name : List Char) (value : Option (List Char)) : String :=
  String.ofList ('[' :: name ++ ((value.map ('=' :: ·)).getD []) ++ [']'])

/-- The open tags after a closing one. A tag that closes nothing is a fault. -/
def closeTag (position : Nat) (name : List Char) (value : Option (List Char))
    (opened : List String) : Except Failure (List String) :=
  let style := styleName (name.drop 1)
  if style.isEmpty then
    match opened with
    | [] => .error (.fault .markup
        s!"closing tag '[/]' at position {position} has nothing to close")
    | _ :: opened => .ok opened
  else match close? style opened with
    | some opened => .ok opened
    | none => .error (.fault .markup
        s!"closing tag '{shownTag name value}' at position {position} doesn't match any open tag")

/-- The text of pieces under some open tags, the last opened first. -/
def textOf : List String → List Piece → Except Failure (List Char)
  | _, [] => .ok []
  | opened, .text s :: pieces => (textOf opened pieces).map (s ++ ·)
  | opened, .tag position name value :: pieces =>
    if name.head? = some '/' then do
      let opened ← closeTag position name value opened
      textOf opened pieces
    else textOf (styleName name :: opened) pieces

/-- The text of a marked-up line without its tags. -/
def plain (s : String) : Except Failure String :=
  (textOf [] (pieces s.toList)).map String.ofList

end TokenRisk.Markup
