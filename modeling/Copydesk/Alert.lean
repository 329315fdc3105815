import Copydesk.Level

/-! Findings of rules, and where they lie in a text. -/

namespace Copydesk

/-- First and last character column of a finding, counted from one. -/
structure Span where
  start : Nat
  stop : Nat
  deriving DecidableEq, Repr

namespace Span

def move (s : Span) (by' : Nat) : Span := ⟨s.start + by', s.stop + by'⟩

def beginAt (s : Span) (start : Nat) : Span := ⟨start, start + (s.stop - s.start)⟩

end Span

structure Place where
  line : Nat
  span : Span
  deriving DecidableEq, Repr

/-- Line and columns of a byte range. The width counts the matched characters, newlines included,
so the span stays on one line. -/
def locate (t : Text) (start stop : Nat) : Place :=
  let before := Text.before t start
  let column := (before.reverse.takeWhile (· != '\n')).length + 1
  let width := (Text.slice t start stop).length
  ⟨before.count '\n' + 1, ⟨column, column + (width - 1)⟩⟩

structure Alert where
  check : Text
  level : Level
  message : Text
  description : Text := []
  link : Text := []
  line : Nat := 1
  span : Span := ⟨1, 1⟩
  matched : Text := []
  deriving DecidableEq, Repr

namespace Alert

def moveTo (a : Alert) (p : Place) : Alert := { a with line := p.line, span := p.span }

/-- Puts the alert on a byte range of a text. -/
def located (a : Alert) (t : Text) (start stop : Nat) : Alert :=
  { a.moveTo (locate t start stop) with matched := Text.slice t start stop }

/-- The first line of the matched text. -/
def head (a : Alert) : Text := a.matched.takeWhile (· != '\n')

def le (a b : Alert) : Bool :=
  a.line < b.line || (a.line == b.line && a.span.start ≤ b.span.start)

/-- By line, then by column; alerts at one place keep their order. -/
def sort (as : List Alert) : List Alert := as.mergeSort le

end Alert

/-- A stretch of prose with the place where it begins in its surroundings. -/
structure Block where
  text : Text
  /-- The raw text, before delimiters or markup were taken off. -/
  source : Text
  scope : Text
  /-- Counted from one. -/
  line : Nat := 1
  /-- Character column of the first line, counted from zero. -/
  column : Nat := 0
  deriving DecidableEq, Repr

def Block.ofText (text scope : Text) : Block := { text, source := text, scope }

/-- A file being checked: the text in view, which a nested check replaces for its duration. -/
structure SourceFile where
  path : Text
  whole : Text
  content : Text
  deriving DecidableEq, Repr

namespace SourceFile

def ofContent (path content : Text) : SourceFile := ⟨path, content, content⟩

/-- Runs a nested check on another text and then restores the one in view. -/
def within {α : Type} (f : SourceFile) (text : Text) (run : SourceFile → α × SourceFile) :
    α × SourceFile :=
  let (a, after) := run { f with content := text }
  (a, { after with content := f.content })

theorem content_within {α : Type} (f : SourceFile) (text : Text)
    (run : SourceFile → α × SourceFile) : (f.within text run).2.content = f.content := rfl

end SourceFile

end Copydesk
