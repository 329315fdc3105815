import Copydesk.Text.Basic

/-! Slash-separated paths. -/

namespace Copydesk.Path

def components (p : Text) : List Text :=
  match (Text.splitOn '/' p).filter (!·.isEmpty) with
  | [] => []
  | c :: cs =>
    let rest := cs.filter (· != ['.'])
    if c = ['.'] && p.head? == some '/' then rest else c :: rest

def isAbsolute (p : Text) : Bool := p.head? == some '/'

/-- The components, after a slash for the root if the path is absolute. -/
def rooted (p : Text) : List Text := if isAbsolute p then ['/'] :: components p else components p

/-- The root goes first, then the folder itself, the one above it, and names. -/
def rank (c : Text) : Nat := if c = "/" then 0 else if c = "." then 1 else if c = ".." then 2 else 3

def componentLe (a b : Text) : Bool := rank a < rank b || (rank a == rank b && Text.le a b)

def componentsLe : List Text → List Text → Bool
  | [], _ => true
  | _ :: _, [] => false
  | a :: as, b :: bs => if a = b then componentsLe as bs else componentLe a b

/-- The first components that differ decide. -/
def le (p q : Text) : Bool := componentsLe (rooted p) (rooted q)

def fileName? (p : Text) : Option Text :=
  match (components p).getLast? with
  | some n => if n = "." ∨ n = ".." then none else some n
  | none => none

def parentName? (p : Text) : Option Text :=
  match (components p).dropLast.getLast? with
  | some n => if n = "." ∨ n = ".." then none else some n
  | none => none

/-- A file name's part before its last dot and the part after it. -/
def splitName (n : Text) : Text × Option Text :=
  let after := n.reverse.takeWhile (· != '.')
  match n.reverse.drop after.length with
  | [] => (n, none)
  | _ :: [] => (n, none)
  | _ :: stem => (stem.reverse, some after.reverse)

def extension? (p : Text) : Option Text := (fileName? p).bind fun n => (splitName n).2

def stem? (p : Text) : Option Text := (fileName? p).map fun n => (splitName n).1

/-- The path without its last component; empty when it has only one. -/
def parent (p : Text) : Text :=
  let isSlash (c : Char) : Bool := c == '/'
  let upper := Text.dropEndWhile (!isSlash ·) (Text.dropEndWhile isSlash p)
  let trimmed := Text.dropEndWhile isSlash upper
  if trimmed.isEmpty && !upper.isEmpty then ['/'] else trimmed

def join (p q : Text) : Text :=
  if isAbsolute q || p.isEmpty then q
  else if p.getLast? == some '/' then p ++ q
  else p ++ '/' :: q

end Copydesk.Path
