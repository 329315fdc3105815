import Copydesk.Markdown.Line

/-! Tables, whose second line is a row of hyphens that sets the columns. -/

namespace Copydesk.Markdown

inductive Alignment
  | none | left | center | right
  deriving DecidableEq, Repr

/-- The alignment that a cell of the delimiter row asks for. -/
def Alignment.ofCell (cell : Text) : Alignment :=
  let marks := cell.filter (· != ' ')
  match marks.head? == some ':', 1 < marks.length && marks.getLast? == some ':' with
  | true, true => center
  | true, false => left
  | false, true => right
  | false, false => none

/-- The cells between bars; bars at either end open and close the row. -/
def delimiterCells (line : Text) : List Text :=
  let cells := Text.splitOn '|' ((line.dropWhile (· == ' ')))
  let cells := if cells.head? == some [] then cells.drop 1 else cells
  if cells.getLast?.any fun c => c.all (· == ' ') then cells.dropLast else cells

/-- The columns that a delimiter row sets: hyphens in every cell, with colons for alignment, and a
bar somewhere. -/
def delimiterRow? (c : Cursor) : Option (List Alignment) :=
  let (indent, c) := c.take 4
  let line := c.rest.takeWhile (· != '\n')
  let cells := delimiterCells line
  if indent < 4 && line.any (· == '|')
      && line.all (fun c => c == '|' || c == ':' || c == '-' || c == ' ')
      && cells.all (fun cell => cell.any (· == '-')) && !cells.isEmpty then
    some (cells.map Alignment.ofCell)
  else Option.none

/-- Cuts a line at its first bar; a backslash hides one. -/
def cutCell : Text → Text × Text
  | [] => ([], [])
  | '\\' :: '\\' :: '|' :: t =>
    let (cell, rest) := cutCell t
    ('|' :: cell, rest)
  | '\\' :: '|' :: t =>
    let (cell, rest) := cutCell t
    ('|' :: cell, rest)
  | '\\' :: p :: t =>
    if isAsciiPunctuation p then
      let (cell, rest) := cutCell t
      ('\\' :: p :: cell, rest)
    else
      let (cell, rest) := cutCell (p :: t)
      ('\\' :: cell, rest)
  | c :: t =>
    if c = '|' || c = '\n' then ([], c :: t)
    else
      let (cell, rest) := cutCell t
      (c :: cell, rest)

def rowFrom : Nat → Text → List Text
  | 0, _ => []
  | fuel + 1, t =>
    let t := (if t.head? == some '|' then t.drop 1 else t).dropWhile isBlank
    if t.isEmpty || t.head? == some '\n' then []
    else
      let (cell, rest) := cutCell t
      Text.dropEndWhile isWhite cell :: rowFrom fuel rest

def rowCells (t : Text) : List Text := rowFrom (t.length + 1) t

/-- Cells for each column: missing ones are empty, and those in excess are dropped. -/
def fitRow (columns : Nat) (cells : List Text) : List Text :=
  cells.take columns ++ List.replicate (columns - cells.length) []

/-- Characters that are bars and not hidden by a backslash, and whether the last one ends the
line. -/
def countBars : Text → Nat × Bool
  | [] => (0, false)
  | '\\' :: _ :: t => countBars t
  | c :: t =>
    if c = '\n' then (0, false)
    else
      let (n, closed) := countBars t
      if c = '|' then (n + 1, if n = 0 then isBlankLine t else closed) else (n, closed)

def headerColumns (t : Text) : Nat :=
  let (bars, closed) := countBars t
  let opened := (t.dropWhile isBlank).head? == some '|'
  if bars = 0 then 0
  else bars - (if opened then 1 else 0) + (if closed then 0 else 1)

end Copydesk.Markdown
