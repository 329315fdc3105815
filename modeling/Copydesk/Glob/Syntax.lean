import Copydesk.Text.Basic

/-! Reading of glob patterns. -/

namespace Copydesk.Glob

inductive Piece
  | literal (c : Char)
  | any
  | many
  /-- Whole components at the start: `**` and the slash after it. -/
  | leading
  /-- Whole components at the end: a slash and the `**` after it. -/
  | trailing
  /-- Whole components in between: the slashes around `**` and the `**` itself. -/
  | between
  | oneOf (negated : Bool) (ranges : List (Char × Char))
  /-- Branches that match more than the empty text; without one the piece matches just that. -/
  | alternatives (branches : List (List Piece))
  deriving Repr

inductive Fault
  | unclosedClass
  | invalidRange (low high : Char)
  | unopenedAlternates
  | unclosedAlternates
  | danglingEscape
  deriving DecidableEq, Repr

def Fault.message : Fault → Text
  | unclosedClass => "unclosed character class; missing ']'"
  | invalidRange a b => "invalid range; '".toList ++ a :: "' > '".toList ++ [b, '\'']
  | unopenedAlternates =>
    "unopened alternate group; missing '\x7b' (maybe escape '\x7d' with '[\x7d]'?)"
  | unclosedAlternates =>
    "unclosed alternate group; missing '\x7d' (maybe escape '\x7b' with '[\x7b]'?)"
  | danglingEscape => "dangling '\\'"

def isSeparator (c : Char) : Bool := c == '/'

def extendRange (c : Char) : List (Char × Char) → Except Fault (List (Char × Char))
  | (a, _) :: rest => if c < a then .error (.invalidRange a c) else .ok ((a, c) :: rest)
  | [] => .ok [(c, c)]

/-- The ranges of a class up to its closing bracket, and what follows. A bracket or a hyphen that
comes first stands for itself, and so does a hyphen that comes last. -/
def readRanges :
    Text → (first inRange : Bool) → List (Char × Char) →
      Except Fault (List (Char × Char) × Text)
  | [], _, _, _ => .error .unclosedClass
  | ']' :: t, first, inRange, acc =>
    if first then readRanges t false inRange [(']', ']')]
    else .ok (((if inRange then ('-', '-') :: acc else acc).reverse), t)
  | '-' :: t, first, inRange, acc =>
    if first then readRanges t false false [('-', '-')]
    else if inRange then do readRanges t false false (← extendRange '-' acc)
    else readRanges t false true acc
  | c :: t, _, inRange, acc => do
    readRanges t false false (← if inRange then extendRange c acc else .ok ((c, c) :: acc))

def readClass (t : Text) : Except Fault (Piece × Text) := do
  let (negated, t) := match t with
    | '!' :: r | '^' :: r => (true, r)
    | r => (false, r)
  let (ranges, t) ← readRanges t true false []
  return (.oneOf negated ranges, t)

structure Frame where
  finished : List (List Piece) := []
  current : List Piece := []

structure Reader where
  outer : List Frame := []
  frame : Frame := {}
  /-- The character before the one being read. -/
  before : Option Char := none

namespace Reader

def push (r : Reader) (p : Piece) : Reader :=
  { r with frame := { r.frame with current := p :: r.frame.current } }

def after (r : Reader) (c : Char) : Reader := { r with before := some c }

/-- Whether the branch can match nothing but the empty text. -/
def isVoid (branch : List Piece) : Bool :=
  branch.all fun
    | .alternatives [] => true
    | _ => false

def finishBranch (r : Reader) : Reader :=
  { r with frame := { finished := r.frame.current.reverse :: r.frame.finished } }

def closeGroup (r : Reader) : Except Fault Reader :=
  match r.outer with
  | [] => .error .unopenedAlternates
  | f :: outer =>
    let branches := (r.frame.current.reverse :: r.frame.finished).reverse.filter (!isVoid ·)
    .ok ({ r with outer, frame := f }.push (.alternatives branches))

/-- Two stars. They stand for whole components only where separators or the ends of the pattern or
of a branch are on both sides. -/
def doubleStar (r : Reader) (t : Text) : Reader × Text :=
  let plain := ((r.push .many).push .many).after '*'
  match r.frame.current with
  | [] => match t with
    | [] => (r.push .leading, [])
    | c :: rest => if isSeparator c then ((r.push .leading).after c, rest) else (plain, t)
  | last :: pieces =>
    let begins := (r.before.map isSeparator).getD false
      || (!r.outer.isEmpty && (r.before == some ',' || r.before == some '\x7b'))
    let keep (p : Piece) : Reader :=
      -- the last piece is the separator before the stars, or a pair of stars that took one
      let p := match last with
        | .leading => .leading
        | .trailing => .trailing
        | _ => p
      { r with frame := { r.frame with current := p :: pieces } }
    if !begins then (plain, t)
    else match t with
      | [] => (keep .trailing, [])
      | c :: rest =>
        if isSeparator c then ((keep .between).after c, rest)
        else if !r.outer.isEmpty && (c == ',' || c == '\x7d') then ((keep .trailing).after '*', t)
        else (plain, t)

def run : Nat → Reader → Text → Except Fault (List Piece)
  | 0, _, _ => .error .unclosedAlternates
  | _, r, [] => if r.outer.isEmpty then .ok r.frame.current.reverse else .error .unclosedAlternates
  | fuel + 1, r, c :: t => match c with
    | '?' => run fuel ((r.push .any).after c) t
    | '*' => match t with
      | '*' :: t => let (r, t) := r.doubleStar t; run fuel r t
      | t => run fuel ((r.push .many).after c) t
    | '[' => do
      let (p, t) ← readClass t
      run fuel ((r.push p).after ']') t
    | '\x7b' => run fuel { outer := r.frame :: r.outer, before := some c } t
    | '\x7d' => do run fuel ((← r.closeGroup).after c) t
    | ',' =>
      if r.outer.isEmpty then run fuel ((r.push (.literal c)).after c) t
      else run fuel (r.finishBranch.after c) t
    | '\\' => match t with
      | [] => .error .danglingEscape
      | d :: t => run fuel ((r.push (.literal d)).after d) t
    | c => run fuel ((r.push (.literal c)).after c) t

end Reader

def readPieces (t : Text) : Except Fault (List Piece) := Reader.run (t.length + 1) {} t

end Copydesk.Glob
