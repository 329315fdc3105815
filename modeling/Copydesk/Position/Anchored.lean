import Copydesk.Position.Cursor
import Copydesk.Scope
import Copydesk.Error

/-! Alerts of a comment, whose text keeps one line for each source line. -/

namespace Copydesk.Position

/-- Where a block begins: a line counted from one and a character column from zero. -/
structure Anchor where
  line : Nat
  column : Nat
  deriving DecidableEq, Repr

/-- Column where each line of a comment's text begins. Lines of a block comment after the first
are whole source lines; merged line comments all begin at the block's column. -/
def paddedColumns (b : Block) (padding : Text → Nat) : List Nat :=
  (Text.splitOn '\n' b.source).mapIdx fun i raw =>
    let base := if i = 0 || !hasSection b.scope "block" then b.column else 0
    base + padding (Text.dropEndWhile (· == '\r') raw)

/-- How far the alert's columns lie to the left of their place in the source line `raw`: as the
known column says, else as its block line is found there, else as its own text is. -/
def anchoredPad? (a : Alert) (blockLines : List Text) (columns : List Nat) (raw : Text)
    (start : Nat) : Option Nat :=
  let fits (pad : Nat) := standsAt raw a.head (a.span.start + pad)
  let known := (columns[a.line - 1]?).filter fits
  let byLine := known.or <|
    ((blockLines[a.line - 1]?).map fun l => Text.dropEndWhile (· == '\r') l)
      |>.filter (fun l => !Text.isBlank l)
      |>.bind (fun l => findChars? raw l start)
      |>.filter fits
  byLine.or <| do
    -- the text may also stand to the left of where the block begins
    let found ← (findChars? raw a.head start).or (findChars? raw a.head 0)
    if a.span.start ≤ found + 1 then some (found + 1 - a.span.start) else none

def remapAnchoredOne (blockText : Text) (anchor : Anchor) (columns : List Nat) (parent : Text)
    (file : Text) (a : Alert) : Except LintError Alert :=
  let moved? := do
    -- both lines count from one
    let line := anchor.line + a.line
    if line < 2 then none
    let raw ← (Text.splitOn '\n' parent)[line - 2]?
    let start := if a.line = 1 then anchor.column else 0
    let pad ← anchoredPad? a (Text.splitOn '\n' blockText) columns raw start
    return { a with line := line - 1, span := a.span.move pad }
  match moved? with
  | some a' => .ok a'
  | none => .error (.notFound file a.matched)

/-- Moves alerts computed on `blockText` to the coordinates of `parent`. -/
def remapAnchored (blockText : Text) (anchor : Anchor) (columns : List Nat) (parent : Text)
    (file : Text) (as : List Alert) : List Alert × Option LintError :=
  moveEach (remapAnchoredOne blockText anchor columns parent file) as

end Copydesk.Position
