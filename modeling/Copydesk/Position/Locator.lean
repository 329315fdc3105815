import Copydesk.Alert
import Copydesk.Error
import Copydesk.Text.Classes

/-! Alerts of rendered markup, whose text is searched for in a masked copy of the source. -/

namespace Copydesk.Position

/-- Byte offsets in `searchable` are offsets in `source`, of which it is a masked copy. No check
claims one occurrence twice, so repeated phrases resolve to successive places. -/
structure Locator where
  source : Text
  searchable : Text
  path : Text
  cursor : Nat := 0
  /-- Whether the current block was found. -/
  anchored : Bool := false
  claimed : List (Text × Nat) := []

namespace Locator

/-- Occurrences of `needle` from byte `start` on that begin and end with characters of the
source. -/
def candidates (l : Locator) (needle : Text) (start : Nat) : List Nat :=
  if needle.isEmpty then []
  else match Text.cut? l.searchable start with
    | none => []
    | some (_, rest) => ((Text.occurrences needle rest).map (start + ·)).filter fun at' =>
      Text.isBoundary l.source at' && Text.isBoundary l.source (at' + Text.size needle)

def isFree (l : Locator) (check : Text) (at' : Nat) : Bool := (check, at') ∉ l.claimed

/-- First occurrence that the check has not claimed. -/
def search? (l : Locator) (check needle : Text) (start : Nat) : Option Nat :=
  (l.candidates needle start).find? (l.isFree check)

/-- Moves the cursor, never backwards, to where a block appears to begin. -/
def enterBlock (l : Locator) (blockText : Text) : Locator :=
  let firstLine := Text.trim ((Text.lines blockText).head?.getD [])
  let firstWord := (Text.trimStart blockText).takeWhile Text.isAlphanumeric
  -- a renderer may have changed the line behind its first word
  match ((l.candidates firstLine l.cursor).head?).or (l.candidates firstWord l.cursor).head? with
  | some at' => { l with cursor := at', anchored := true }
  | none => { l with anchored := false }

/-- Byte range where the match itself stands, from the cursor on or else from the beginning. -/
def asWritten? (l : Locator) (check needle : Text) : Option (Nat × Nat) :=
  ((l.search? check needle l.cursor).or (l.search? check needle 0)).map fun at' =>
    (at', at' + Text.size needle)

def words (needle : Text) : List Text :=
  (Text.splitWhere (fun c => !Text.isAlphanumeric c) needle).filter (!·.isEmpty)

/-- The character at the cursor, or nothing at the end of a line. -/
def pinned (l : Locator) : Nat × Nat :=
  match (Text.after l.source l.cursor).head? with
  | some c => (l.cursor, l.cursor + if c = '\n' then 0 else c.utf8Size)
  | none => (l.cursor, l.cursor)

/-- Where the first word of the match stands, else the beginning of the block. -/
def firstWord? (l : Locator) (check : Text) (ws : List Text) : Option (Nat × Nat) :=
  match ws.head?.bind fun w =>
      (l.search? check w l.cursor).map fun at' => (at', at' + Text.size w) with
  | some range => some range
  | none => if l.anchored then some l.pinned else none

/-- End of the last word on the same line, if there is more than one word. -/
def lastWordEnd? (l : Locator) (ws : List Text) (rest : Text) (stop : Nat) : Option Nat := do
  if ws.length ≤ 1 then none
  let last ← ws.getLast?
  let i ← Text.find? last (rest.takeWhile (· != '\n'))
  let stop' := stop + i + Text.size last
  if Text.isBoundary l.source stop' then some stop' else none

/-- Byte range for a match that does not stand in the source as it reads: from its first word to
its last on one line. -/
def guess? (l : Locator) (check needle : Text) : Option (Nat × Nat) := do
  let ws := words needle
  let (start, stop) ← l.firstWord? check ws
  let (_, rest) ← Text.cut? l.searchable stop
  return (start, (l.lastWordEnd? ws rest stop).getD stop)

def range? (l : Locator) (check needle : Text) : Option (Nat × Nat) :=
  (l.asWritten? check needle).or (l.guess? check needle)

/-- Puts an alert on its place in the source and claims that place for its check. -/
def place (l : Locator) (a : Alert) : Except LintError (Alert × Locator) :=
  match l.range? a.check a.matched with
  | none => .error (.notFound l.path a.matched)
  | some (start, stop) =>
    .ok (a.moveTo (locate l.source start stop),
      { l with claimed := (a.check, start) :: l.claimed })

end Locator

end Copydesk.Position
