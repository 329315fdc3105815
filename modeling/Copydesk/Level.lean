import Copydesk.Text.Basic

/-! Severity of an alert. -/

namespace Copydesk

inductive Level
  | suggestion | warning | error
  deriving DecidableEq, Repr, Inhabited

namespace Level

def rank : Level → Nat
  | suggestion => 0
  | warning => 1
  | error => 2

def le (a b : Level) : Bool := a.rank ≤ b.rank

def min (a b : Level) : Level := if a.le b then a else b

/-- The level taken where none is given. -/
def standard : Level := warning

def name : Level → Text
  | suggestion => "suggestion"
  | warning => "warning"
  | error => "error"

def ofName? (t : Text) : Option Level :=
  [suggestion, warning, error].find? fun l => l.name == t

/-- Reads a name in any case; refuses with the lower-cased text. -/
def ofText (t : Text) : Except Text Level :=
  match ofName? (Text.asciiLower t) with
  | some l => .ok l
  | none => .error ("unknown alert level '".toList ++ Text.asciiLower t ++ ['\''])

theorem ofText_name (l : Level) : ofText l.name = .ok l := by
  cases l <;> rfl

end Level

end Copydesk
