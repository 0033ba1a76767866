import RuleLang.Text.Width

/-!
# Boxed tables

A table is drawn with lines around its cells. Every column is as wide as its widest line with one
space on both sides, cells are aligned to the left, and a cell of several lines makes its row as
high as it needs. A double line sets the header off.
-/

set_option autoImplicit false

namespace RuleLang.Report

/-- A table: its header, if it has one, and its rows, all of one length. -/
structure Box where
  header : Option (List String)
  rows : List (List String)

namespace Box

def cellLines (cell : String) : List String :=
  (cell.toList.splitOn '\n').map String.ofList

def cellWidth (cell : String) : Nat := ((cellLines cell).map Text.columns).foldl max 0

/-- The greater of the widths that rows have at every place. -/
def maxWidths : List Nat → List Nat → List Nat
  | [], ys => ys
  | xs, [] => xs
  | x :: xs, y :: ys => max x y :: maxWidths xs ys

def widths (box : Box) : List Nat :=
  ((box.header.toList ++ box.rows).map (·.map cellWidth)).foldl maxWidths []

/-- A line between rows: its ends, what it is made of, and how it crosses the columns. -/
def rule (left line cross right : String) (widths : List Nat) : String :=
  left ++ cross.intercalate (widths.map fun w => String.join (List.replicate (w + 2) line)) ++ right

/-- A text filled up with spaces to a width. -/
def padded (text : String) (width : Nat) : String :=
  text ++ String.ofList (List.replicate (width - Text.columns text) ' ')

def rowLines (widths : List Nat) (row : List String) : List String :=
  let cells := row.map cellLines
  let height := (cells.map List.length).foldl max 0
  (List.range height).map fun i =>
    let texts := (cells.zip widths).map fun (lines, width) =>
      " " ++ padded (lines[i]?.getD "") width ++ " "
    "│" ++ "┆".intercalate texts ++ "│"

/-- The rows with lines between them. -/
def bodyLines (widths : List Nat) : List (List String) → List String
  | [] => []
  | [row] => rowLines widths row
  | row :: rest => rowLines widths row ++ rule "├" "╌" "┼" "┤" widths :: bodyLines widths rest

/-- The lines of the header, the double line included. -/
def headerLines (widths : List Nat) : Option (List String) → List String
  | none => []
  | some row => rowLines widths row ++ [rule "╞" "═" "╪" "╡" widths]

def toText (box : Box) : String :=
  let widths := box.widths
  "\n".intercalate
    ([rule "┌" "─" "┬" "┐" widths] ++ headerLines widths box.header ++
      bodyLines widths box.rows ++ [rule "└" "─" "┴" "┘" widths])

end Box

end RuleLang.Report
