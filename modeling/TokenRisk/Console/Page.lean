import TokenRisk.Text.Basic
import TokenRisk.Text.Width

/-!
# Pages

Text as it appears on the console: controls that would move the cursor are taken out and tabs are
filled up with blanks. Tables are drawn with heavy lines around the header and light ones around the
rows.
-/

namespace TokenRisk.Page

/-- Whether a character moves the cursor in a way that would spoil the page. -/
def isCursorControl (c : Char) : Bool :=
  c.toNat == 7 || c.toNat == 8 || c.toNat == 11 || c.toNat == 12 || c.toNat == 13

/-- The columns between tab stops. -/
def tabWidth : Nat := 8

/-- A line with its tabs filled up to the next multiple of `tabWidth`, from a column on. -/
def expandTabs (column : Nat) : List Char → List Char
  | [] => []
  | c :: l =>
    if c = '\t' then
      let blanks := tabWidth - column % tabWidth
      List.replicate blanks ' ' ++ expandTabs (column + blanks) l
    else c :: expandTabs (column + Text.charWidth c) l

/-- The lines of a text, without characters that are `isCursorControl` and with `expandTabs`. -/
def lines (s : String) : List String :=
  (Text.splitOn '\n' (s.toList.filter (!isCursorControl ·))).map fun l =>
    String.ofList (expandTabs 0 l)

/-- So many blanks. -/
def blanks (n : Nat) : String :=
  String.ofList (List.replicate n ' ')

/-- A line filled up to a width with `blanks`. -/
def padded (width : Nat) (line : String) : String :=
  line ++ blanks (width - Text.displayWidth line)

/-- A line in the middle of a width. An odd blank goes to the right. -/
def centred (width : Nat) (line : String) : String :=
  let free := width - Text.displayWidth line
  blanks (free / 2) ++ line ++ blanks (free - free / 2)

/-- The width of a cell, that of the widest of its `lines`. -/
def cellWidth (cell : String) : Nat :=
  ((lines cell).map Text.displayWidth).foldl max 0

/-- The width of each column, that of its widest cell. -/
def columnWidths (headers : List String) (rows : List (List String)) : List Nat :=
  headers.mapIdx fun i h =>
    (rows.map fun r => cellWidth (r.getD i "")).foldl max (cellWidth h)

/-- A horizontal line across a table. -/
def ruleLine (left fill cross right : String) (widths : List Nat) : String :=
  left ++ Text.join cross (widths.map fun w => String.join (List.replicate (w + 2) fill)) ++ right

/-- The lines of a row; cells of several `lines` make the row as high as the highest. -/
def rowLines (bar : String) (widths : List Nat) (cells : List String) : List String :=
  let columns := cells.map lines
  let height := (columns.map List.length).foldl max 1
  (List.range height).map fun i =>
    bar ++ Text.join bar ((widths.zip columns).map fun (w, c) =>
      " " ++ padded w (c.getD i "") ++ " ") ++ bar

/-- The width of a table whose columns have the given widths. -/
def tableWidth (widths : List Nat) : Nat :=
  widths.foldl (fun n w => n + w + 3) 1

/-- The lines of a table, under a title if it has one. -/
def table (title : Option String) (headers : List String) (rows : List (List String)) :
    List String :=
  let widths := columnWidths headers rows
  (title.map (centred (tableWidth widths))).toList ++
  [ruleLine "┏" "━" "┳" "┓" widths] ++
  rowLines "┃" widths headers ++
  [ruleLine "┡" "━" "╇" "┩" widths] ++
  rows.flatMap (rowLines "│" widths) ++
  [ruleLine "└" "─" "┴" "┘" widths]

end TokenRisk.Page
