import Copydesk.Text.Classes
import Copydesk.Unicode.Fold

/-! Regular expressions: sets of characters, positions' conditions and their combinations. -/

namespace Copydesk.Regex

inductive CharClass
  | any | digit | space | word | alphabetic | lowercase | uppercase
  | category (name : Text)
  deriving DecidableEq, Repr

def CharClass.mem : CharClass → Char → Bool
  | any, _ => true
  | digit, c => Text.isDecimalDigit c
  | space, c => Text.isSpace c
  | word, c => Text.isWordChar c
  | alphabetic, c => Text.isAlphabetic c
  | lowercase, c => Text.isLowercase c
  | uppercase, c => Text.isUppercase c
  | category name, c => Text.startsWith (Unicode.category c) name

inductive CharSet
  | empty
  | range (lo hi : Char)
  | named (k : CharClass)
  | compl (s : CharSet)
  | union (s t : CharSet)
  | inter (s t : CharSet)
  | symmDiff (s t : CharSet)
  /-- Closed under equality up to case. -/
  | folded (s : CharSet)
  deriving DecidableEq, Repr

namespace CharSet

def single (c : Char) : CharSet := range c c

def ofRanges (rs : List (Char × Char)) : CharSet :=
  rs.foldl (fun s (lo, hi) => s.union (range lo hi)) empty

def diff (s t : CharSet) : CharSet := s.inter t.compl

def mem : CharSet → Char → Bool
  | empty, _ => false
  | range lo hi, c => lo ≤ c && c ≤ hi
  | named k, c => k.mem c
  | compl s, c => !s.mem c
  | union s t, c => s.mem c || t.mem c
  | inter s t, c => s.mem c && t.mem c
  | symmDiff s t, c => s.mem c != t.mem c
  | folded s, c => (Unicode.foldClass c).any s.mem

end CharSet

inductive WordKind
  | unicode | ascii
  deriving DecidableEq, Repr

def WordKind.mem : WordKind → Char → Bool
  | unicode, c => Text.isWordChar c
  | ascii, c => c.isAlphanum || c == '_'

inductive Look
  | textStart | textEnd
  | lineStart (crlf : Bool) | lineEnd (crlf : Bool)
  | wordBoundary (k : WordKind) | notWordBoundary (k : WordKind)
  | wordStart (k : WordKind) | wordEnd (k : WordKind)
  | wordStartHalf (k : WordKind) | wordEndHalf (k : WordKind)
  deriving DecidableEq, Repr

/-- Whether a condition holds between the characters `back` and `ahead`. -/
def Look.holds (back ahead : Option Char) : Look → Bool
  | textStart => back.isNone
  | textEnd => ahead.isNone
  | lineStart crlf => match back with
    | none => true
    | some '\n' => true
    | some '\r' => crlf && ahead != some '\n'
    | some _ => false
  | lineEnd crlf => match ahead with
    | none => true
    | some '\n' => !crlf || back != some '\r'
    | some '\r' => crlf
    | some _ => false
  | wordBoundary k => back.any k.mem != ahead.any k.mem
  | notWordBoundary k => back.any k.mem == ahead.any k.mem
  | wordStart k => !back.any k.mem && ahead.any k.mem
  | wordEnd k => back.any k.mem && !ahead.any k.mem
  | wordStartHalf k => !back.any k.mem
  | wordEndHalf k => !ahead.any k.mem

inductive Node
  | empty
  | one (s : CharSet)
  | look (l : Look)
  | cat (a b : Node)
  | alt (a b : Node)
  /-- Between `lo` and `hi` copies, as many as possible first if `greedy`. -/
  | rep (lo : Nat) (hi : Option Nat) (greedy : Bool) (a : Node)
  | group (index : Nat) (a : Node)
  deriving DecidableEq, Repr

namespace Node

def ofList : List Node → Node
  | [] => empty
  | [a] => a
  | a :: as => cat a (ofList as)

def literal (t : Text) : Node := ofList (t.map fun c => one (CharSet.single c))

end Node

end Copydesk.Regex
