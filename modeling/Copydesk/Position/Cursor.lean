import Copydesk.Alert

/-! Searching a text line by line. -/

namespace Copydesk.Position

/-- A line counted from zero and a byte column in it. -/
structure Cursor where
  line : Nat := 0
  column : Nat := 0
  deriving DecidableEq, Repr

def findInLines (needle : Text) (start : Cursor) : Nat → List Text → Option Cursor
  | _, [] => none
  | i, l :: ls =>
    -- the column counts on the line where the search begins, and on no later one
    let column := if i = start.line then start.column else 0
    match (Text.cut? l column).bind fun (_, rest) => Text.find? needle rest with
    | some at' => some ⟨i, column + at'⟩
    | none => findInLines needle start (i + 1) ls

/-- First occurrence of `needle` within one line, at or after `start`. -/
def findLine? (content needle : Text) (start : Cursor) : Option Cursor :=
  if needle.isEmpty then none
  else findInLines needle start start.line ((Text.splitOn '\n' content).drop start.line)

/-- Index of the character where `needle` begins in `t`, from character `start` on. -/
def findChars? (t needle : Text) (start : Nat) : Option Nat :=
  if needle.isEmpty then none
  else
    let rest := t.drop start
    (Text.find? needle rest).map fun b => start + (Text.before rest b).length

/-- The `len` characters of a line that begin at a column counted from one. -/
def charsAt (line : Text) (start len : Nat) : Text := (line.drop (start - 1)).take len

def standsAt (line head : Text) (start : Nat) : Bool :=
  head.isEmpty || charsAt line start head.length == head

/-- Moves alerts one by one; the first that cannot be moved stops the rest. -/
def moveEach {ε : Type} (move : Alert → Except ε Alert) : List Alert → List Alert × Option ε
  | [] => ([], none)
  | a :: as => match move a with
    | .error e => (a :: as, some e)
    | .ok a' => let (as', e) := moveEach move as; (a' :: as', e)

/-- Moves alerts of a piece of `t` that begins at byte `offset` to the coordinates of `t`. -/
def shift (t : Text) (offset : Nat) (a : Alert) : Alert :=
  let at' := locate t offset offset
  { a with
    line := a.line + at'.line - 1
    span := if a.line = 1 then a.span.move (at'.span.start - 1) else a.span }

end Copydesk.Position
