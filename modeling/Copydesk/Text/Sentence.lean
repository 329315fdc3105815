import Copydesk.Text.Basic
import Copydesk.Unicode.SentenceClass

/-! Sentences of a text, by the rules of Unicode's text segmentation (UAX 29). -/

namespace Copydesk.Text

open Unicode

namespace Sentence

/-- What the classes of the characters read so far amount to, last first. A run of closing marks,
or of spaces, counts once. -/
abbrev Context := List SentenceClass

/-- Extending and formatting characters belong to the character before them. -/
def isTransparent (k : SentenceClass) : Bool := k == .extend || k == .format

def isParagraphSeparator (k : SentenceClass) : Bool := k == .sep || k == .cr || k == .lf

def isTerminator (k : SentenceClass) : Bool := k == .aTerm || k == .sTerm

def extend (c : Context) (k : SentenceClass) : Context :=
  match c with
  | last :: _ => if last == k && (k == .close || k == .space) then c else k :: c
  | [] => [k]

def dropOne (k : SentenceClass) (c : Context) : Context :=
  if c.head? == some k then c.tail else c

def endsWith (p : SentenceClass → Bool) (c : Context) : Bool := c.head?.any p

/-- A terminator with closing marks after it. -/
def afterClose (c : Context) : Bool := endsWith isTerminator (dropOne .close c)

/-- A terminator with closing marks and then spaces after it. -/
def afterSpace (c : Context) : Bool := afterClose (dropOne .space c)

/-- A terminator with closing marks, spaces and then a paragraph separator after it. -/
def afterSeparator (c : Context) : Bool :=
  afterSpace (if endsWith isParagraphSeparator c then c.tail else c)

/-- Whether a lower-case letter is the first thing to come that could begin a sentence. -/
def lowerFollows : List SentenceClass → Bool
  | [] => false
  | k :: ks =>
    if k == .lower then true
    else if k == .letter || k == .upper || isParagraphSeparator k || isTerminator k then false
    else lowerFollows ks

/-- Full stops within numbers and abbreviations, and before lower-case letters, end nothing. -/
def stopGoesOn (c : Context) (k : SentenceClass) (next : List SentenceClass) : Bool :=
  let stopBefore (c : Context) : Bool := c.head? == some .aTerm
  (k == .numeric && stopBefore c)
    || (k == .upper && stopBefore c && endsWith (fun l => l == .upper || l == .lower) c.tail)
    || (stopBefore (dropOne .close (dropOne .space c)) && lowerFollows (k :: next))

def breaksBefore (c : Context) (k : SentenceClass) (next : List SentenceClass) : Bool :=
  if k == .lf && c.head? == some .cr then false
  else if endsWith isParagraphSeparator c then true
  else if isTransparent k || stopGoesOn c k next then false
  else if (k == .sContinue || isTerminator k) && afterSpace c then false
  else if (k == .close || k == .space || isParagraphSeparator k) && afterClose c then false
  else if (k == .space || isParagraphSeparator k) && afterSpace c then false
  else afterSeparator c

/-- The sentences of a text that goes on in some context. -/
def split (c : Context) : Text → List SentenceClass → List Text
  | x :: t, k :: ks =>
    let breaks := !c.isEmpty && breaksBefore c k ks
    let c' := if isTransparent k && !c.isEmpty && !breaks then c else extend c k
    match split c' t ks with
    | [] => [[x]]
    | s :: more => if breaks then [] :: (x :: s) :: more else (x :: s) :: more
  | _, _ => [[]]

end Sentence

/-- The sentences of a text, which together make up the text. -/
def sentences (t : Text) : List Text :=
  (Sentence.split [] t (t.map sentenceClass)).filter (!·.isEmpty)

end Copydesk.Text
