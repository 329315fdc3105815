import Copydesk.Text.Basic

/-! Dotted scopes such as `text.comment.line.rs`, and the selectors that rules choose them by. -/

namespace Copydesk

/-- A selector such as `comment.line`, or `~heading` for everything but headings. -/
structure ScopeSelector where
  raw : Text
  negated : Bool
  sections : List Text
  deriving DecidableEq, Repr

namespace ScopeSelector

def ofText (raw : Text) : ScopeSelector :=
  let (negated, body) := match raw with
    | '~' :: rest => (true, rest)
    | _ => (false, raw)
  ⟨raw, negated, (Text.splitOn '.' body).filter (!·.isEmpty)⟩

def base (s : ScopeSelector) : Text := s.sections.head?.getD []

/-- Every section of the selector occurs in the scope, whether negated or not. -/
def contains (s : ScopeSelector) (scope : Text) : Bool :=
  s.sections.all fun part => part ∈ Text.splitOn '.' scope

end ScopeSelector

/-- Positive selectors are alternatives; all negated ones have to pass. -/
structure ScopeSet where
  selectors : List ScopeSelector
  deriving DecidableEq, Repr

namespace ScopeSet

def excludes (s : ScopeSet) (scope : Text) : Bool :=
  s.selectors.any fun sel => sel.negated && sel.contains scope

def admits (s : ScopeSet) (scope : Text) : Bool :=
  !s.excludes scope &&
    (s.selectors.all (·.negated) || s.selectors.any fun sel => !sel.negated && sel.contains scope)

end ScopeSet

def hasSection (scope part : Text) : Bool := part ∈ Text.splitOn '.' scope

end Copydesk
