import Copydesk.Rule.Pattern

/-! Replacements: the alternatives of a key's value, and one pattern for all keys. -/

namespace Copydesk.Rule

structure GroupScan where
  escaped : Bool := false
  inClass : Bool := false

def uncaptureFrom : GroupScan → Text → Text
  | _, [] => []
  | s, c :: t =>
    if s.escaped then c :: uncaptureFrom { s with escaped := false } t
    else match c with
      | '\\' => c :: uncaptureFrom { s with escaped := true } t
      | '[' => c :: uncaptureFrom { s with inClass := true } t
      | ']' => c :: uncaptureFrom { s with inClass := false } t
      | '(' =>
        -- a question mark makes it a group of another kind, which is left as it is
        if !s.inClass && t.head? != some '?' then c :: '?' :: ':' :: uncaptureFrom s t
        else c :: uncaptureFrom s t
      | _ => c :: uncaptureFrom s t

def uncapture (pattern : Text) : Text := uncaptureFrom {} pattern

/-- The pieces between bars; a bar after a backslash is a character like others. -/
def optionPieces : Text → List Text
  | [] => [[]]
  | '\\' :: '|' :: t => match optionPieces t with
    | [] => [['|']]
    | o :: os => ('|' :: o) :: os
  | c :: t =>
    if c = '|' then [] :: optionPieces t
    else match optionPieces t with
      | [] => [[c]]
      | o :: os => (c :: o) :: os

/-- The alternatives of a replacement. -/
def options (pattern : Text) : List Text := (optionPieces pattern).filter (!·.isEmpty)

namespace Substitution

/-- The longest key first, then lexical order. -/
def keyLe (a b : Text × Text) : Bool :=
  Text.size b.1 < Text.size a.1 || (Text.size a.1 == Text.size b.1 && Text.le a.1 b.1)

def pairs (s : Substitution) : List (Text × Text) := s.swap.mergeSort keyLe

/-- All keys as one alternation, a group for each. -/
def pattern (s : Substitution) : Text :=
  wordBounded (Text.join ['|'] (s.pairs.map fun (k, _) => '(' :: uncapture k ++ [')'])) s.nonword

/-- The index of the first group that takes part in a match. -/
def keyIndex? (m : Regex.Match) (groups : Nat) : Option Nat :=
  (List.range groups).find? fun i => (m.group? (i + 1)).isSome

/-- Correct spellings, their alternatives and exceptions raise no alert. -/
def isAccepted (s : Substitution) (expected observed : Text) : Bool :=
  observed == expected || observed ∈ s.exceptions
    || (s.ignoreCase && s.exceptions.any (Text.eqIgnoreAsciiCase observed))
    || observed ∈ options expected

def alertOf? (s : Substitution) (d : Definition) (r : Regex) (values : List Text) (t : Text)
    (m : Regex.Match) : Option Alert := do
  if m.isEmpty then none
  let i ← keyIndex? m r.groups
  let expected ← values[i]?
  let observed := m.text t
  if s.isAccepted expected observed then none
  return d.alert t m.start m.stop [Text.join "' or '" (options expected), observed]

def run (s : Substitution) (d : Definition) (r : Regex) (t : Text) : List Alert :=
  (r.findAll t).filterMap (s.alertOf? d r (s.pairs.map (·.2)) t)

end Substitution

end Copydesk.Rule
