import Copydesk.Rule.Pattern

/-! Rules about the capitalization of a line. -/

namespace Copydesk.Rule

inductive CaseStyle
  | title | sentence | lower | upper
  | pattern (r : Regex)
  deriving DecidableEq, Repr

/-- Words that a title does not capitalize, unless first or last. -/
def smallWords : List Text :=
  ["a", "an", "and", "as", "at", "but", "by", "for", "from", "if", "in", "into", "nor", "of",
   "on", "or", "per", "so", "the", "to", "up", "via", "vs", "with", "yet"]

def splitWords (t : Text) : List Text :=
  (Text.splitWhere Text.isSpace t).filter (!·.isEmpty)

def startsUpper (w : Text) : Bool := w.head?.any Text.isUppercase

def isAcronym (w : Text) : Bool :=
  let letters := w.filter Text.isAlphabetic
  1 < letters.length && letters.all Text.isUppercase

namespace Capitalization

def isExcepted (c : Capitalization) (w : Text) : Bool :=
  let bare := Text.dropEndWhile (!Text.isAlphanumeric ·) (w.dropWhile (!Text.isAlphanumeric ·))
  bare ∈ c.exceptions

/-- Words that the style says nothing about: excepted ones and those without a leading letter. -/
def isFree (c : Capitalization) (w : Text) : Bool :=
  !w.head?.any Text.isAlphabetic || c.isExcepted w

def titleWord (c : Capitalization) (last i : Nat) (w : Text) : Bool :=
  c.isFree w || startsUpper w || (i != 0 && i != last && Text.toLower w ∈ smallWords)

/-- Only the first word, and a word after a colon, is capitalized. -/
def sentenceWords (c : Capitalization) : Option Text → List Text → Bool
  | _, [] => true
  | previous, w :: ws =>
    (c.isFree w ||
      if previous.all fun p => p.getLast? == some ':' then startsUpper w
      else !startsUpper w || isAcronym w || w == "I")
    && sentenceWords c (some w) ws

def conforms (c : Capitalization) (style : CaseStyle) (t : Text) : Bool :=
  let words := splitWords t
  match style with
  | .lower => t == Text.toLower t
  | .upper => t == Text.toUpper t
  | .pattern r => (r.find? t).any fun m => m.text t == t
  | .title => (words.mapIdx fun i w => c.titleWord (words.length - 1) i w).all id
  | .sentence => c.sentenceWords none words

def run (c : Capitalization) (d : Definition) (style : CaseStyle) (t : Text) : List Alert :=
  let first := t.takeWhile (· != '\n')
  let line := Text.trim first
  if line.isEmpty || c.conforms style line then []
  else
    let start := Text.size first - Text.size (Text.trimStart first)
    [d.alert t start (start + Text.size line) [line]]

end Capitalization

end Copydesk.Rule
