import Copydesk.Markdown.Line

/-! Emphasis: runs of stars, underscores and tildes, paired off innermost first. -/

namespace Copydesk.Markdown

inductive Inline
  | text (t : Text)
  | code (t : Text)
  /-- HTML, which is passed on as it is. -/
  | html (t : Text)
  | softBreak
  | hardBreak
  | emphasis (body : List Inline)
  | strong (body : List Inline)
  | struck (body : List Inline)
  | link (destination title : Text) (body : List Inline)
  | image (destination title : Text) (body : List Inline)
  /-- A reference to the footnote with a label. -/
  | note (label : Text)
  deriving Repr

structure Run where
  char : Char
  length : Nat
  opens : Bool
  closes : Bool
  deriving DecidableEq, Repr

/-- The ends of a text count as white space. -/
def isSpaceOrEnd (c : Option Char) : Bool := c.all Text.isSpace

def isPunctuation? (c : Option Char) : Bool := c.any isPunctuation

/-- A run opens if it touches what follows, and closes if it touches what comes before. Next to
punctuation it has to face away from the word; underscores and single tildes always have to. -/
def Run.ofContext (char : Char) (length : Nat) (before after : Option Char) : Run :=
  let facing (inner outer : Option Char) : Bool :=
    !isSpaceOrEnd inner
      && ((char == '*' && !isPunctuation? inner) || (char == '~' && 1 < length)
        || isSpaceOrEnd outer || isPunctuation? outer)
  { char, length, opens := facing after before, closes := facing before after }

/-- Whether emphasis can come of a run; there are at most two tildes. -/
def Run.isActive (r : Run) : Bool := (r.opens || r.closes) && (r.char != '~' || r.length ≤ 2)

inductive Piece
  | node (i : Inline)
  | run (r : Run)
  deriving Repr

/-- A run that has opened, with what follows it, last first. -/
structure Opener where
  run : Run
  /-- Characters of the run that are not paired off yet. -/
  left : Nat
  body : List Inline := []
  deriving Repr

namespace Opener

def both (r : Run) : Bool := r.opens && r.closes

/-- Tildes pair with as many tildes. The lengths of other runs must not add up to a multiple of
three when one of them could both open and close, unless both are such multiples. -/
def pairsWith (o : Opener) (closer : Run) : Bool :=
  o.run.char == closer.char
    && if closer.char = '~' then o.run.length == closer.length
      else (!both closer && !both o.run) || (closer.length + o.run.length) % 3 != 0
        || closer.length % 3 == 0

def mark (o : Opener) : Inline := .text (List.replicate o.left o.run.char)

end Opener

/-- Wraps text in emphasis by the number of characters paired off, strong emphasis inside. -/
def emphasize (char : Char) : Nat → List Inline → Inline
  | 0, body | 1, body => if char = '~' then .struck body else .emphasis body
  | 2, body => if char = '~' then .struck body else .strong body
  | n + 3, body => emphasize char (n + 1) [.strong body]

structure Pairing where
  /-- Finished text outside of all openers, last first. -/
  done : List Inline := []
  /-- Innermost first. -/
  openers : List Opener := []
  /-- Openers below this count have been found to pair with no tildes. -/
  tildeFloor : Nat := 0
  deriving Repr

namespace Pairing

def add (p : Pairing) (i : Inline) : Pairing :=
  match p.openers with
  | [] => { p with done := i :: p.done }
  | o :: os => { p with openers := { o with body := i :: o.body } :: os }

/-- Makes text of the openers inside another one. -/
def flatten : List Opener → List Inline
  | [] => []
  | o :: os => o.body ++ o.mark :: flatten os

/-- Splits the openers at the innermost one that pairs with a closer. -/
def findOpener (closer : Run) : List Opener → Option (List Opener × Opener × List Opener)
  | [] => none
  | o :: os =>
    if o.pairsWith closer then some ([], o, os)
    else (findOpener closer os).map fun (inner, found, outer) => (o :: inner, found, outer)

def reach (p : Pairing) (closer : Run) : Nat :=
  if closer.char = '~' then p.openers.length - p.tildeFloor else p.openers.length

/-- Pairs off a closing run as far as it goes; answers how many of its characters are left. -/
def close (closer : Run) : Nat → Nat → Pairing → Nat × Pairing
  | 0, left, p => (left, p)
  | _, 0, p => (0, p)
  | fuel + 1, left, p =>
    let within := p.openers.take (p.reach closer)
    match findOpener closer within with
    | none =>
      (left, if closer.char = '~' then { p with tildeFloor := p.openers.length } else p)
    | some (inner, o, outer) =>
      let outer := outer ++ p.openers.drop (p.reach closer)
      let paired := Nat.min left o.left
      let body := (flatten inner ++ o.body).reverse
      let p := { p with openers := outer, tildeFloor := Nat.min p.tildeFloor outer.length }
      let node := emphasize closer.char paired body
      let p := if paired < o.left then
          { p with openers := { o with left := o.left - paired, body := [node] } :: p.openers }
        else p.add node
      close closer fuel (left - paired) p

def step (p : Pairing) : Piece → Pairing
  | .node i => p.add i
  | .run r =>
    let (left, p) := if r.closes then close r (r.length + 1) r.length p else (r.length, p)
    if left = 0 then p
    else if r.opens then { p with openers := { run := r, left } :: p.openers }
    else p.add (.text (List.replicate left r.char))

def finish (p : Pairing) : List Inline := (flatten p.openers ++ p.done).reverse

end Pairing

/-- Pairs off the runs of a text; those left over stand for themselves. -/
def pairRuns (pieces : List Piece) : List Inline := (pieces.foldl Pairing.step {}).finish

end Copydesk.Markdown
