import Copydesk.Regex.Syntax

/-! Leftmost-first matching: of all ways to match, the first in the order of the alternatives. -/

namespace Copydesk.Regex

/-- A position in a text: the character behind, the text ahead with its length, and the offset. -/
structure Point where
  back : Option Char
  ahead : Text
  left : Nat
  offset : Nat

namespace Point

def ofText (t : Text) : Point := ⟨none, t, t.length, 0⟩

def next? (p : Point) : Option (Char × Point) :=
  match p.ahead with
  | [] => none
  | c :: rest => some (c, ⟨some c, rest, p.left - 1, p.offset + c.utf8Size⟩)

end Point

/-- Byte ranges of the groups matched so far, the latest first. -/
abbrev Groups := List (Nat × Nat × Nat)

/-- A matcher offers its results in order of preference to a continuation until one is taken. -/
abbrev Matcher (α : Type) := Point → Groups → (Point → Groups → Option α) → Option α

namespace Matcher

variable {α : Type}

def orElse (a b : Matcher α) : Matcher α := fun p g k =>
  match a p g k with
  | some r => some r
  | none => b p g k

def andThen (a b : Matcher α) : Matcher α := fun p g k => a p g fun p' g' => b p' g' k

def skip : Matcher α := fun p g k => k p g

/-- One or more copies; an empty copy ends the loop. `fuel` bounds the copies that advance. -/
def oneOrMore (body : Matcher α) (greedy : Bool) : Nat → Matcher α
  | 0 => fun p g k => body p g k
  | fuel + 1 => fun p g k => body p g fun p' g' =>
    if p'.left < p.left then
      if greedy then orElse (oneOrMore body greedy fuel) skip p' g' k
      else orElse skip (oneOrMore body greedy fuel) p' g' k
    else k p' g'

def atMost (body : Matcher α) (greedy : Bool) : Nat → Matcher α
  | 0 => skip
  | n + 1 =>
    if greedy then orElse (andThen body (atMost body greedy n)) skip
    else orElse skip (andThen body (atMost body greedy n))

def exactly (body : Matcher α) : Nat → Matcher α
  | 0 => skip
  | n + 1 => andThen body (exactly body n)

def repeated (body : Matcher α) (lo : Nat) (hi : Option Nat) (greedy : Bool) : Matcher α :=
  match hi with
  | some hi => andThen (exactly body lo) (atMost body greedy (hi - lo))
  | none =>
    let more : Matcher α := fun p => oneOrMore body greedy p.left p
    match lo with
    | 0 => if greedy then orElse more skip else orElse skip more
    | n + 1 => andThen (exactly body n) more

end Matcher

def Node.matcher {α : Type} : Node → Matcher α
  | empty => Matcher.skip
  | one s => fun p g k => match p.next? with
    | some (c, p') => if s.mem c then k p' g else none
    | none => none
  | look l => fun p g k => if l.holds p.back p.ahead.head? then k p g else none
  | cat a b => Matcher.andThen a.matcher b.matcher
  | alt a b => Matcher.orElse a.matcher b.matcher
  | rep lo hi greedy a => Matcher.repeated a.matcher lo hi greedy
  | group i a => fun p g k => a.matcher p g fun p' g' => k p' ((i, p.offset, p'.offset) :: g')

structure Match where
  start : Nat
  stop : Nat
  groups : Groups
  deriving DecidableEq, Repr

namespace Match

def isEmpty (m : Match) : Bool := m.start == m.stop

def group? (m : Match) (i : Nat) : Option (Nat × Nat) :=
  if i = 0 then some (m.start, m.stop) else m.groups.lookup i

def text (m : Match) (t : Text) : Text := Text.slice t m.start m.stop

def groupText? (m : Match) (i : Nat) (t : Text) : Option Text :=
  (m.group? i).map fun (a, b) => Text.slice t a b

end Match

def Node.matchAt? (n : Node) (p : Point) : Option (Match × Point) :=
  n.matcher p [] fun p' g => some (⟨p.offset, p'.offset, g⟩, p')

/-- The leftmost match at or after a point; `fuel` bounds the starts that are tried. -/
def Node.search (n : Node) : Nat → Point → Option (Match × Point)
  | 0, p => n.matchAt? p
  | fuel + 1, p => match n.matchAt? p with
    | some r => some r
    | none => match p.next? with
      | some (_, p') => n.search fuel p'
      | none => none

/-- Successive matches without overlap. An empty match next to the one before it is passed over. -/
def Node.searchAll (n : Node) : Nat → Option Nat → Point → List Match
  | 0, _, _ => []
  | fuel + 1, last, p => match n.search p.left p with
    | none => []
    | some (m, p') =>
      if m.isEmpty && last == some m.stop then
        match p.next? with
        | some (_, q) => n.searchAll fuel last q
        | none => []
      else m :: n.searchAll fuel (some m.stop) p'

end Copydesk.Regex
