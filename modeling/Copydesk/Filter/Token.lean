import Copydesk.Data.Decimal
import Copydesk.Text.Quoted

/-! Tokens of filter expressions. -/

namespace Copydesk.Filter

inductive Op
  | or | and | eq | ne | lt | le | gt | ge | not
  deriving DecidableEq, Repr

def Op.text : Op → Text
  | or => "||"
  | and => "&&"
  | eq => "=="
  | ne => "!="
  | lt => "<"
  | le => "<="
  | gt => ">"
  | ge => ">="
  | not => "!"

inductive Token
  | field (name : Text)
  | ident (name : Text)
  | str (t : Text)
  | num (x : Float)
  | openParen | closeParen | openBracket | closeBracket | comma
  | op (o : Op)
  deriving BEq, Repr

def floatFormat : Data.FloatFormat := ⟨-4⟩

def Token.describe : Token → Text
  | field n => "Field(".toList ++ Text.quoteVisibly n ++ [')']
  | ident n => "Ident(".toList ++ Text.quoteVisibly n ++ [')']
  | str t => "Str(".toList ++ Text.quoteVisibly t ++ [')']
  | num x => "Num(".toList ++ (if x.isInf then "inf".toList else floatFormat.write x) ++ [')']
  | openParen => "LParen"
  | closeParen => "RParen"
  | openBracket => "LBracket"
  | closeBracket => "RBracket"
  | comma => "Comma"
  | op o => "Op(".toList ++ Text.quoteVisibly o.text ++ [')']

inductive Fault
  | noFieldName (at' : Nat)
  | unterminated (at' : Nat)
  | danglingEscape
  | badNumber (t : Text)
  | badCharacter (c : Char) (at' : Nat)
  | unexpectedEnd
  | unexpected (t : Token)
  | trailing (t : Token)
  | expected (want : Token) (found : Option Token)
  | expectedInList (close : Token) (found : Option Token)
  | unknownField (name : Text)
  | wrongType (want found : Text)
  | incomparable (left right : Text)
  | unsearchable (found : Text)
  | arity (name : Text)
  | wrongArgument (name found : Text)
  | unknownFunction (name : Text)
  | pattern (message : Text)

def Fault.message : Fault → Text
  | noFieldName i => "expected a field name at ".toList ++ Text.ofNat i
  | unterminated i => "unterminated string starting at ".toList ++ Text.ofNat i
  | danglingEscape => "dangling escape"
  | badNumber t => "invalid number '".toList ++ t ++ ['\'']
  | badCharacter c i => "unexpected '".toList ++ [c] ++ "' at ".toList ++ Text.ofNat i
  | unexpectedEnd => "unexpected end of expression"
  | unexpected t => "unexpected ".toList ++ t.describe
  | trailing t => "unexpected ".toList ++ t.describe ++ " after expression".toList
  | expected want none => "expected ".toList ++ want.describe ++ ", found end of input".toList
  | expected want (some t) => "expected ".toList ++ want.describe ++ ", found ".toList ++ t.describe
  | expectedInList close none => "expected ".toList ++ close.describe
  | expectedInList close (some t) =>
    "expected ',' or ".toList ++ close.describe ++ ", found ".toList ++ t.describe
  | unknownField n => "unknown field '.".toList ++ n ++ ['\'']
  | wrongType want found => "expected ".toList ++ want ++ ", found ".toList ++ found
  | incomparable l r => "cannot compare ".toList ++ l ++ " with ".toList ++ r
  | unsearchable t => "cannot search in ".toList ++ t
  | arity n => n ++ "() takes exactly one argument".toList
  | wrongArgument n t => n ++ "() does not accept ".toList ++ t
  | unknownFunction n => "unknown function '".toList ++ n ++ ['\'']
  | pattern m => m

namespace Token

def isNameChar (c : Char) : Bool := Text.isAlphanumeric c || c == '_'

/-- The text of a string up to its closing quote; between backticks no character is special. -/
def stringBody (at' : Nat) (quote : Char) : Text → Except Fault (Text × Text)
  | [] => .error (.unterminated at')
  | '\\' :: t =>
    if quote = '\x60' then do
      let (s, rest) ← stringBody at' quote t
      return ('\\' :: s, rest)
    else match t with
      | [] => .error .danglingEscape
      | c :: t => do
        let (s, rest) ← stringBody at' quote t
        return ((match c with | 'n' => '\n' | 't' => '\t' | c => c) :: s, rest)
  | c :: t =>
    if c = quote then .ok ([], t)
    else do
      let (s, rest) ← stringBody at' quote t
      return (c :: s, rest)

def operator? : Char → Option Char → Option (Op × Nat)
  | '=', some '=' => some (.eq, 2)
  | '!', some '=' => some (.ne, 2)
  | '<', some '=' => some (.le, 2)
  | '>', some '=' => some (.ge, 2)
  | '&', some '&' => some (.and, 2)
  | '|', some '|' => some (.or, 2)
  | '<', _ => some (.lt, 1)
  | '>', _ => some (.gt, 1)
  | '!', _ => some (.not, 1)
  | _, _ => none

/-- The token that begins with character `c` at character `at'`, with what follows it. -/
def next (at' : Nat) (c : Char) (t : Text) : Except Fault (Token × Text) :=
  let fieldName (t : Text) : Except Fault (Token × Text) :=
    let name := t.takeWhile isNameChar
    if name.isEmpty then .error (.noFieldName at') else .ok (.field name, t.drop name.length)
  match c with
  | '(' => .ok (openParen, t)
  | ')' => .ok (closeParen, t)
  | '[' => .ok (openBracket, t)
  | ']' => .ok (closeBracket, t)
  | ',' => .ok (comma, t)
  | '.' => fieldName t
  | '#' => fieldName ((Text.afterPrefix? ['.'] t).getD t)
  | _ =>
    if c = '"' ∨ c = '\'' ∨ c = '\x60' then (stringBody at' c t).map fun (s, r) => (.str s, r)
    else if c.isDigit then
      let digits := c :: t.takeWhile fun d => d.isDigit || d == '.'
      match Data.readFloat? digits with
      | some x => .ok (.num x, t.drop (digits.length - 1))
      | none => .error (.badNumber digits)
    else match operator? c t.head? with
      | some (o, width) => .ok (.op o, t.drop (width - 1))
      | none =>
        if Text.isAlphabetic c || c == '_' then
          let name := t.takeWhile isNameChar
          .ok (.ident (c :: name), t.drop name.length)
        else .error (.badCharacter c at')

def readFrom (total : Nat) : Nat → Text → Except Fault (List Token)
  | 0, _ => .ok []
  | _, [] => .ok []
  | fuel + 1, c :: t =>
    if Text.isSpace c then readFrom total fuel t
    else do
      let (token, rest) ← next (total - (t.length + 1)) c t
      return token :: (← readFrom total fuel rest)

end Token

def tokenize (t : Text) : Except Fault (List Token) := Token.readFrom t.length t.length t

end Copydesk.Filter
