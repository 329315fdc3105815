import Copydesk.Text.Basic

/-! Comments in source code, and the merging of line comments that continue one another. -/

namespace Copydesk

structure Comment where
  /-- The text without its delimiters. -/
  text : Text
  source : Text
  /-- Counted from one. -/
  line : Nat
  /-- Character column of the first line, counted from zero. -/
  offset : Nat
  scope : Text
  deriving DecidableEq, Repr

namespace Comment

def isBlock (c : Comment) : Bool := Text.endsWith c.scope ".block"

def endLine (c : Comment) : Nat := c.line + c.text.count '\n'

def trimSpaces (t : Text) : Text := t.dropWhile (· == ' ')

/-- Where a comment ends, and whether it is one that may go on there. -/
structure Ending where
  line : Nat
  column : Nat
  isLine : Bool
  deriving DecidableEq, Repr

def ending (c : Comment) : Ending := ⟨c.endLine, c.offset, !c.isBlock⟩

/-- Whether `c` goes on with the comment that was merged `last`, where the comment before `c` ended:
on the next line, in the same column. -/
def goesOn (e : Ending) (last c : Comment) : Bool :=
  e.isLine && !c.isBlock && !last.isBlock && e.line + 1 == c.line && e.column == c.offset

def extend (last c : Comment) : Comment :=
  { last with
    text := last.text ++ '\n' :: trimSpaces c.text
    source := last.source ++ '\n' :: c.source }

/-- What is merged so far, the latest first, and where the comment before ended. -/
structure Merging where
  joined : List Comment := []
  previous : Option Ending := none
  deriving DecidableEq, Repr

def Merging.add (m : Merging) (c : Comment) : Merging :=
  { joined := match m.previous, m.joined with
      | some e, last :: more =>
        if goesOn e last c then extend last c :: more else c :: last :: more
      | _, joined => c :: joined
    previous := some c.ending }

def trimmed (c : Comment) : Comment := { c with text := trimSpaces c.text }

/-- Merges line comments on consecutive lines that begin in one column, so that there is a text line
for each source line. Block comments are never merged. -/
def coalesce (cs : List Comment) : List Comment :=
  ((cs.foldl Merging.add {}).joined.map trimmed).reverse

end Comment

end Copydesk
