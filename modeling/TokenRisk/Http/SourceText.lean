import TokenRisk.Failure
import TokenRisk.Json.Display
import TokenRisk.Json.Nesting

/-!
# Source texts

Explorers send source of several files as an object in double braces. It is flattened to one text,
in which every file follows a line with its name. Any other text is the source itself.
-/

namespace TokenRisk.Http.SourceText

/-- What is missing from a value that should be an object. -/
def lacks (v : Json) (what : String) : Failure :=
  .fault .attribute s!"'{v.kindName}' object has no attribute '{what}'"

/-- A file with its name. A file that is no object is a fault. -/
def section? (name : String) (file : Json) : Except Failure String :=
  match file with
  | .object members =>
    let content := ((Json.lookup "content" members).getD (.string "")).display
    .ok ("// File: " ++ name ++ "\n" ++ content)
  | v => .error (lacks v "get")

/-- The `section?` of each file in order. -/
def sections : List (String × Json) → Except Failure (List String)
  | [] => .ok []
  | (name, file) :: files => do
    let first ← section? name file
    return first :: (← sections files)

/-- The text of the files of an object. -/
def ofMembers (members : List (String × Json)) : Except Failure String :=
  match (Json.lookup "sources" members).getD (.object []) with
  | .object files => (sections files).map (Text.join "\n\n")
  | v => .error (lacks v "items")

/-- The text without its first and last character. -/
def inner (l : List Char) : List Char :=
  l.tail.dropLast

/-- The source that a text stands for. One that is not in double braces, or no JSON in them, stands
for itself. -/
def flatten (source : String) : Except Failure String :=
  match source.toList with
  | '{' :: '{' :: l =>
    match Json.readAll (inner ('{' :: '{' :: l)) with
    | .ok (.object members) => ofMembers members
    | .ok v => .error (lacks v "get")
    | .error (.tooLong digits) => .error (.fault .value (Numeral.tooLongMessage digits))
    | .error (.flaw ..) => .ok source
  | _ => .ok source

/-- The first container in the files of a source text for which there is no room, by
`Json.tooDeepIn?`. -/
def tooDeep? (room : Nat) (source : String) : Option Json.Container :=
  match source.toList with
  | '{' :: '{' :: l => Json.tooDeepIn? room (inner ('{' :: '{' :: l))
  | _ => none

end TokenRisk.Http.SourceText
