import Copydesk.Text.Classes

/-! Lines of a Markdown document, read column by column, and the marks that begin blocks. -/

namespace Copydesk.Markdown

/-- White space within a line. -/
def isBlank (c : Char) : Bool := c == ' ' || c == '\t' || c == '\x0b' || c == '\x0c'

def isWhite (c : Char) : Bool := isBlank c || c == '\n' || c == '\r'

def isAsciiPunctuation (c : Char) : Bool :=
  '!' ≤ c && c ≤ '~' && !c.isAlphanum

def isPunctuation (c : Char) : Bool :=
  if c.toNat < 128 then isAsciiPunctuation c
  else (Unicode.category c).head? == some 'P' || (Unicode.category c).head? == some 'S'

/-- The rest of a line of which some columns have been taken. -/
structure Cursor where
  rest : Text
  /-- Columns since the last tab stop. -/
  offset : Nat := 0
  /-- Columns left of a tab that was taken in part. -/
  spare : Nat := 0
  deriving DecidableEq, Repr

namespace Cursor

def atEnd (c : Cursor) : Bool := c.rest.isEmpty || c.rest.head? == some '\n'

/-- Takes up to `n` columns of spaces and tabs from a text; answers how many. -/
def takeFrom : Nat → Nat → Text → Nat × Cursor
  | n + 1, offset, ' ' :: t =>
    let (taken, c) := takeFrom n (offset + 1) t
    (taken + 1, c)
  | n + 1, offset, '\t' :: t =>
    let width := 4 - offset % 4
    if width ≤ n + 1 then
      let (taken, c) := takeFrom (n + 1 - width) 0 t
      (taken + width, c)
    else (n + 1, ⟨t, 0, width - (n + 1)⟩)
  | _, offset, t => (0, ⟨t, offset, 0⟩)

/-- Takes up to `n` columns of space; answers how many. -/
def take (n : Nat) (c : Cursor) : Nat × Cursor :=
  if n ≤ c.spare then (n, { c with spare := c.spare - n })
  else
    let (taken, c') := takeFrom (n - c.spare) c.offset c.rest
    (c.spare + taken, c')

def skip (n : Nat) (c : Cursor) : Cursor :=
  { c with rest := c.rest.drop n, offset := c.offset + n }

/-- The rest with the columns left of a tab written as spaces. -/
def text (c : Cursor) : Text := List.replicate c.spare ' ' ++ c.rest

end Cursor

def isBlankLine (t : Text) : Bool :=
  match t.dropWhile isBlank with
  | [] => true
  | c :: _ => c == '\n'

def countLeading (c : Char) (t : Text) : Nat := (t.takeWhile (· == c)).length

/-- Three or more stars, hyphens or underscores and nothing else but blanks. -/
def isRule (t : Text) : Bool :=
  match t with
  | [] => false
  | c :: _ =>
    let line := t.takeWhile (· != '\n')
    (c == '*' || c == '-' || c == '_') && 3 ≤ line.count c
      && line.all fun d => d == c || d == ' ' || d == '\t'

def headingLevel? (t : Text) : Option Nat :=
  let n := countLeading '#' t
  if 1 ≤ n && n ≤ 6 && (t.drop n).head?.all isWhite then some n else none

/-- The level of a heading that a line of equals signs or hyphens underlines. -/
def underlineLevel? (t : Text) : Option Nat :=
  match t with
  | [] => none
  | c :: _ =>
    if (c == '=' || c == '-') && isBlankLine (t.dropWhile (· == c)) then
      some (if c = '=' then 1 else 2)
    else none

structure Fence where
  char : Char
  length : Nat
  deriving DecidableEq, Repr

def fence? (t : Text) : Option Fence :=
  match t with
  | [] => none
  | c :: _ =>
    let n := countLeading c t
    let info := (t.drop n).takeWhile (· != '\n')
    if n < 3 then none
    else if c = '~' || (c = '\u0060' && !info.contains c) then some ⟨c, n⟩
    else none

/-- Whether a line closes a fence, or the text has ended. -/
def Fence.closedBy (f : Fence) (t : Text) : Bool :=
  match t with
  | [] => true
  | _ =>
    f.length ≤ countLeading f.char t
      && ((t.dropWhile (· == f.char)).dropWhile (· == ' ')).head?.all (· == '\n')

structure ListMark where
  delimiter : Char
  /-- The number; zero for bullets. -/
  start : Nat
  /-- Characters of the mark. -/
  width : Nat
  deriving DecidableEq, Repr

namespace ListMark

def isBullet (m : ListMark) : Bool :=
  m.delimiter == '-' || m.delimiter == '+' || m.delimiter == '*'

/-- A mark with what follows it; a number has at most nine digits. -/
def ofText? (t : Text) : Option (ListMark × Text) :=
  match t with
  | [] => none
  | c :: rest =>
    if c = '-' || c = '+' || c = '*' then some (⟨c, 0, 1⟩, rest)
    else
      let digits := t.takeWhile Char.isDigit
      match Text.toNat? digits, t.drop digits.length with
      | some n, d :: after =>
        if digits.length ≤ 9 && (d = '.' || d = ')') then
          some (⟨d, n, digits.length + 1⟩, after)
        else none
      | _, _ => none

end ListMark

/-- A list mark after `indent` columns, the column where the item's content begins, and the line
after the mark. A thematic break is no list item. -/
def Cursor.listItem? (c : Cursor) (indent : Nat) : Option (ListMark × Nat × Cursor) := do
  let (mark, _) ← ListMark.ofText? c.rest
  if mark.isBullet && isRule c.rest then none
  let after := c.skip mark.width
  let (space, content) := after.take 1
  if space = 0 && !after.atEnd then none
  let column := indent + mark.width + (if mark.isBullet then 1 else space)
  if isBlankLine content.rest then return (mark, column, content)
  let (more, deeper) := content.take 4
  return if more < 4 then (mark, column + more, deeper) else (mark, column, content)

/-- A box at the beginning of a list item's text, ticked or not. -/
def Cursor.taskBox? (c : Cursor) : Option (Bool × Cursor) :=
  let (_, c) := c.take 3
  match c.rest with
  | '[' :: x :: ']' :: b :: _ =>
    if isBlank b && (isBlank x || x = 'x' || x = 'X') then some (!isBlank x, c.skip 3) else none
  | _ => none

def Cursor.quote? (c : Cursor) : Option Cursor :=
  match c.rest with
  | '>' :: _ => some ((c.skip 1).take 1).2
  | _ => none

end Copydesk.Markdown
