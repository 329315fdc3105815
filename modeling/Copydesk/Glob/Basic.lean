import Copydesk.Glob.Syntax

/-! Glob patterns for paths. A question mark matches one byte of the UTF-8 encoding. Whether stars
and question marks match slashes too depends on what the pattern is for. -/

namespace Copydesk

structure Glob where
  pattern : Text
  pieces : List Glob.Piece

namespace Glob

def ofText (t : Text) : Except Fault Glob := return ⟨t, ← readPieces t⟩

def describe (t : Text) (f : Fault) : Text :=
  "error parsing glob ".toList ++ '\'' :: t ++ "': ".toList ++ f.message

abbrev Bytes := List UInt8

def bytesOf (t : Text) : Bytes := (String.ofList t).toUTF8.toList

def slash : UInt8 := 47

/-- The byte ranges that a range of characters stands for, its ends taken byte by byte. -/
def byteRanges (r : Char × Char) : List (UInt8 × UInt8) :=
  let single (b : UInt8) := (b, b)
  if r.1 = r.2 then (bytesOf [r.1]).map single
  else
    let low := bytesOf [r.1]
    let high := bytesOf [r.2]
    low.dropLast.map single
      ++ (match low.getLast?, high.head? with
        | some a, some b => [(a, b)]
        | _, _ => [])
      ++ high.tail.map single

def inRanges (ranges : List (Char × Char)) (b : UInt8) : Bool :=
  ranges.any fun r => (byteRanges r).any fun (lo, hi) => lo ≤ b && b ≤ hi

/-- Whether `k` is satisfied by what follows some run of bytes that a star may match. -/
def anySuffix (wild : UInt8 → Bool) (k : Bytes → Bool) : Bytes → Bool
  | [] => k []
  | b :: bs => k (b :: bs) || (wild b && anySuffix wild k bs)

def afterSomeSlash (k : Bytes → Bool) : Bytes → Bool
  | [] => false
  | b :: bs => (b == slash && k bs) || afterSomeSlash k bs

def afterBytes? : Bytes → Bytes → Option Bytes
  | [], bs => some bs
  | _ :: _, [] => none
  | p :: ps, b :: bs => if p = b then afterBytes? ps bs else none

mutual

/-- Whether the pieces match some beginning of the bytes whose rest satisfies `k`. Stars and
question marks match `wild` bytes. -/
def matchPieces (wild : UInt8 → Bool) : List Piece → (Bytes → Bool) → Bytes → Bool
  | [], k, bs => k bs
  | p :: ps, k, bs => matchPiece wild p (matchPieces wild ps k) bs

def matchPiece (wild : UInt8 → Bool) : Piece → (Bytes → Bool) → Bytes → Bool
  | .literal c, k, bs => ((afterBytes? (bytesOf [c]) bs).map k).getD false
  | .any, k, bs => match bs with
    | [] => false
    | b :: bs => wild b && k bs
  | .many, k, bs => anySuffix wild k bs
  | .leading, k, bs => k bs || afterSomeSlash k bs
  | .trailing, k, bs => match bs with
    | [] => false
    | b :: bs => b == slash && anySuffix (fun _ => true) k bs
  | .between, k, bs => match bs with
    | [] => false
    | b :: bs => b == slash && (k bs || afterSomeSlash k bs)
  | .oneOf negated ranges, k, bs => match bs with
    | [] => false
    | b :: bs => inRanges ranges b != negated && k bs
  | .alternatives [], k, bs => k bs
  | .alternatives (b :: branches), k, bs =>
    matchPieces wild b k bs || matchBranches wild branches k bs

def matchBranches (wild : UInt8 → Bool) :
    List (List Piece) → (Bytes → Bool) → Bytes → Bool
  | [], _, _ => false
  | b :: branches, k, bs => matchPieces wild b k bs || matchBranches wild branches k bs

end

/-- Whether the pattern matches the whole path; two stars alone match any. -/
def admitsWith (wild : UInt8 → Bool) (g : Glob) (path : Text) : Bool :=
  match g.pieces with
  | [.leading] => true
  | pieces => matchPieces wild pieces List.isEmpty (bytesOf path)

/-- Stars and question marks match slashes too. -/
def admits (g : Glob) (path : Text) : Bool := g.admitsWith (fun _ => true) path

/-- Stars and question marks stay within a component. -/
def admitsByComponent (g : Glob) (path : Text) : Bool := g.admitsWith (· != slash) path

/-- Whether a pattern is well-formed and matches a path. -/
def accepts (pattern path : Text) : Bool :=
  match ofText pattern with
  | .ok g => g.admits path
  | .error _ => false

end Glob

end Copydesk
