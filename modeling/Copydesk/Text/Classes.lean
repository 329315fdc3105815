import Copydesk.Unicode.Case
import Copydesk.Unicode.Category
import Copydesk.Unicode.Property

/-! Character classes and case mapping of text. -/

namespace Copydesk.Text

open Unicode

def isAlphabetic (c : Char) : Bool :=
  if c.toNat < 128 then c.isAlpha else alphabetic.contains c

def isNumeric (c : Char) : Bool :=
  if c.toNat < 128 then c.isDigit else (category c).head? == some 'N'

def isAlphanumeric (c : Char) : Bool := isAlphabetic c || isNumeric c

def isLowercase (c : Char) : Bool :=
  if c.toNat < 128 then c.isLower else lowercase.contains c

def isUppercase (c : Char) : Bool :=
  if c.toNat < 128 then c.isUpper else uppercase.contains c

def isDecimalDigit (c : Char) : Bool :=
  if c.toNat < 128 then c.isDigit else category c == "Nd"

/-- The characters a word is made of: letters, marks, decimal digits and connectors. -/
def isWordChar (c : Char) : Bool :=
  if c.toNat < 128 then c.isAlphanum || c == '_'
  else alphabetic.contains c || (category c).head? == some 'M' || category c == "Nd"
    || category c == "Pc" || c == '\u200c' || c == '\u200d'

def isCased (c : Char) : Bool := isLowercase c || isUppercase c || category c == "Lt"

/-- Characters that casing looks through: marks, formats, modifiers and some punctuation. -/
def isCaseIgnorable (c : Char) : Bool :=
  c == '\'' || c == '.' || c == ':' || c == '^' || c == '\u0060' || c == '\u00a8'
    || c == '\u00ad' || c == '\u00b7' || c == '\u2018' || c == '\u2019' || c == '\u2024'
    || c == '\u2027' || ["Mn", "Me", "Cf", "Lm", "Sk"].any fun (k : String) => category c == k

/-- A final sigma follows a cased letter and precedes none. -/
def sigmaIsFinal (before after : Text) : Bool :=
  let caseFollows (t : Text) := match t.dropWhile isCaseIgnorable with
    | [] => false
    | c :: _ => isCased c
  caseFollows before && !caseFollows after

def lowerFrom : Text → Text → Text
  | _, [] => []
  | before, c :: t =>
    (if c = 'Σ' then (if sigmaIsFinal before t then ['ς'] else ['σ']) else lowerChar c)
      ++ lowerFrom (c :: before) t

def toLower (t : Text) : Text := lowerFrom [] t

def toUpper (t : Text) : Text := t.flatMap upperChar

end Copydesk.Text
