import Copydesk.Regex.Parser
import Copydesk.Regex.Matcher

/-! Compiled regular expressions: searching, replacing and escaping. -/

namespace Copydesk

structure Regex where
  pattern : Text
  root : Regex.Node
  groups : Nat
  deriving DecidableEq, Repr

namespace Regex

def compile (pattern : Text) : Except SyntaxError Regex := do
  let (root, groups) ← Node.ofText pattern {}
  return ⟨pattern, root, groups⟩

def compileIgnoringCase (pattern : Text) : Except SyntaxError Regex := do
  let (root, groups) ← Node.ofText pattern { ignoreCase := true }
  return ⟨pattern, root, groups⟩

/-- A fixed pattern; matches nothing but the empty text should it not compile. -/
def ofString (s : String) : Regex := (compile s).toOption.getD ⟨s, .empty, 0⟩

def find? (r : Regex) (t : Text) : Option Match :=
  (r.root.search t.length (Point.ofText t)).map (·.1)

def isMatch (r : Regex) (t : Text) : Bool := (r.find? t).isSome

def findAll (r : Regex) (t : Text) : List Match :=
  r.root.searchAll (2 * t.length + 2) none (Point.ofText t)

/-- Rewrites the given byte ranges, which come in order without overlap. -/
def spliceFrom : Nat → Text → List (Nat × Nat × Text) → Text
  | _, t, [] => t
  | at', t, (start, stop, new) :: more =>
    Text.before t (start - at') ++ new ++ spliceFrom stop (Text.after t (stop - at')) more

def splice (t : Text) (edits : List (Nat × Nat × Text)) : Text := spliceFrom 0 t edits

def replaceAll (r : Regex) (t : Text) (f : Match → Text) : Text :=
  splice t ((r.findAll t).map fun m => (m.start, m.stop, f m))

def splitFrom : Nat → Text → List Match → List Text
  | _, t, [] => [t]
  | at', t, m :: more =>
    Text.before t (m.start - at') :: splitFrom m.stop (Text.after t (m.stop - at')) more

def split (r : Regex) (t : Text) : List Text := splitFrom 0 t (r.findAll t)

/-- A pattern that matches exactly the given text. -/
def escape (t : Text) : Text :=
  t.flatMap fun c => if c ∈ Reader.metaChars then ['\\', c] else [c]

end Regex

end Copydesk
