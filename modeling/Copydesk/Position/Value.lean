import Copydesk.Position.Cursor
import Copydesk.Error

/-! Alerts of a value from structured data, each of whose lines is found in the source by itself. -/

namespace Copydesk.Position

/-- Assigns each line, trimmed, the next place where it occurs. A line that does not occur is
passed over and leaves the cursor where it was. -/
def assignLines (parent : Text) : Cursor → List Text → List (Option Cursor) × Cursor
  | cursor, [] => ([], cursor)
  | cursor, l :: ls =>
    let needle := Text.trim l
    match findLine? parent needle cursor with
    | some hit =>
      let (found, last) := assignLines parent ⟨hit.line, hit.column + Text.size needle⟩ ls
      (some hit :: found, last)
    | none =>
      let (found, last) := assignLines parent cursor ls
      (none :: found, last)

/-- The place of an alert on the occurrence assigned to its value line. -/
def onAssigned? (a : Alert) (parentLines valueLines : List Text) (found : List (Option Cursor)) :
    Option (Nat × Nat) := do
  let index := a.line - 1
  let hit ← (found[index]?).join
  let raw ← parentLines[hit.line]?
  let line ← valueLines[index]?
  -- the occurrence is that of the line without the blanks before it
  let lead := line.length - (Text.trimStart line).length
  let (before, _) ← Text.cut? raw hit.column
  if before.length + a.span.start < lead then none
  let start := before.length + a.span.start - lead
  if standsAt raw a.head start then some (hit.line, start) else none

/-- The first occurrence of the alert's text after the lines assigned up to its own. -/
def afterAssigned? (a : Alert) (parent : Text) (parentLines : List Text)
    (found : List (Option Cursor)) (start : Cursor) : Option (Nat × Nat) := do
  -- the last of those lines that was found
  let from' := ((found.take a.line).reverse.findSome? id).getD start
  let hit ← findLine? parent a.head from'
  let raw ← parentLines[hit.line]?
  let (before, _) ← Text.cut? raw hit.column
  return (hit.line, before.length + 1)

def remapValueOne (value parent : Text) (start : Cursor) (file : Text) (a : Alert) :
    Except LintError Alert :=
  let parentLines := Text.splitOn '\n' parent
  let valueLines := Text.splitOn '\n' value
  let found := (assignLines parent start valueLines).1
  let place? :=
    if a.line = 0 then none
    else (onAssigned? a parentLines valueLines found).or
      (afterAssigned? a parent parentLines found start)
  match place? with
  | some (line, column) => .ok { a with line := line + 1, span := a.span.beginAt column }
  | none => .error (.notFound file a.matched)

/-- Moves alerts computed on `value` to the coordinates of `parent`. -/
def remapValue (value parent : Text) (start : Cursor) (file : Text) (as : List Alert) :
    List Alert × Option LintError :=
  moveEach (remapValueOne value parent start file) as

/-- The position past the last line of `value` that was found. -/
def advance (value parent : Text) (start : Cursor) : Cursor :=
  (assignLines parent start (Text.splitOn '\n' value)).2

/-- Moves the alerts of a value and goes on behind the value, unless one cannot be moved. -/
def passValue (value parent : Text) (start : Cursor) (file : Text) (as : List Alert) :
    List Alert × Except LintError Cursor :=
  match remapValue value parent start file as with
  | (as', none) => (as', .ok (advance value parent start))
  | (as', some e) => (as', .error e)

end Copydesk.Position
