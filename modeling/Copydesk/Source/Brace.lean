import Copydesk.Comment.Language
import Copydesk.Source.Node

/-! Comments and strings of languages with braces. Their trees are flat: all other code is left as
unnamed tokens under the root. -/

namespace Copydesk.Source

open Comment (Grammar)

/-- Characters up to and including the first occurrence of a mark, or all of them. -/
def lengthThrough (mark t : Text) : Nat :=
  match Text.find? mark t with
  | some i => (Text.before t i).length + mark.length
  | none => t.length

def lineLength (t : Text) : Nat := (t.takeWhile (· != '\n')).length

/-- Length of a comment that may hold others, its opening mark included. -/
def nestedLength : Nat → Nat → Text → Nat
  | _, _, [] => 0
  | 0, _, _ => 0
  | fuel + 1, depth, t =>
    match t with
    | '/' :: '*' :: rest => 2 + nestedLength fuel (depth + 1) rest
    | '*' :: '/' :: rest => if depth ≤ 1 then 2 else 2 + nestedLength fuel (depth - 1) rest
    | _ :: rest => 1 + nestedLength fuel depth rest
    | [] => 0

/-- Length of what follows an opening quote, the closing one included; a backslash hides the
character after it. -/
def quotedLength? (quote : Char) (breaks : Bool) : Text → Option Nat
  | [] => none
  | '\\' :: _ :: t => (quotedLength? quote breaks t).map (· + 2)
  | c :: t =>
    if c = quote then some 1
    else if c = '\n' && !breaks then none
    else (quotedLength? quote breaks t).map (· + 1)

def rawLength? (t : Text) : Option Nat :=
  match t with
  | 'r' :: rest =>
    let hashes := rest.takeWhile (· == '#')
    match rest.drop hashes.length with
    | '"' :: body => some (2 + hashes.length + lengthThrough ('"' :: hashes) body)
    | _ => none
  | _ => none

/-- Length of a character in single quotes, as opposed to a lifetime. -/
def characterLength? (t : Text) : Option Nat :=
  match t with
  | '\'' :: '\\' :: _ :: rest => (quotedLength? '\'' false rest).map (· + 3)
  | '\'' :: _ :: '\'' :: _ => some 3
  | _ => none

def isNamePart (c : Char) : Bool := c.isAlphanum || c == '_' || c == '$'

def operatorWords : List Text :=
  (["return", "typeof", "case", "in", "of", "delete", "void", "throw", "new", "else", "do",
    "instanceof", "await", "yield"] : List String).map String.toList

/-- Whether a slash after this token begins a regular expression, as opposed to a division or the
closing tag of an element. -/
def slashBeginsPattern (previous : Text) : Bool :=
  match previous.getLast? with
  | none => true
  | some c =>
    if isNamePart c then operatorWords.contains previous
    else !(c == ')' || c == ']' || c == '}' || c == '"' || c == '\'' || c == '\u0060' || c == '<')

def patternLength? : Bool → Text → Option Nat
  | _, [] => none
  | inClass, '\\' :: _ :: t => (patternLength? inClass t).map (· + 2)
  | inClass, c :: t =>
    if c = '\n' then none
    else if c = '/' && !inClass then some 1
    else
      (patternLength? (if c = '[' then true else if c = ']' then false else inClass) t).map (· + 1)

/-- A named token with its length. -/
abbrev Lexeme := Text × Nat

def rustLexeme? (t : Text) : Option Lexeme :=
  match t with
  | '/' :: '/' :: rest =>
    let isDoc := rest.head? == some '!'
      || (rest.head? == some '/' && (rest.drop 1).head? != some '/')
    let n := lineLength t
    some ("line_comment", if isDoc && n < t.length then n + 1 else n)
  | '/' :: '*' :: _ => some ("block_comment", nestedLength (t.length + 1) 0 t)
  | '"' :: rest => (quotedLength? '"' true rest).map fun n => ("string_literal".toList, n + 1)
  | 'b' :: '"' :: rest =>
    (quotedLength? '"' true rest).map fun n => ("string_literal".toList, n + 2)
  | 'b' :: 'r' :: _ => (rawLength? t.tail).map fun n => ("raw_string_literal".toList, n + 1)
  | 'r' :: _ => (rawLength? t).map fun n => ("raw_string_literal".toList, n)
  | '\'' :: _ => (characterLength? t).map fun n => ("char_literal".toList, n)
  | _ => none

def goLexeme? (t : Text) : Option Lexeme :=
  match t with
  | '/' :: '/' :: _ => some ("comment", lineLength t)
  | '/' :: '*' :: rest => some ("comment", 2 + lengthThrough "*/" rest)
  | '"' :: rest =>
    (quotedLength? '"' false rest).map fun n => ("interpreted_string_literal".toList, n + 1)
  | '\u0060' :: rest => some ("raw_string_literal", 1 + lengthThrough ['\u0060'] rest)
  | '\'' :: rest => (quotedLength? '\'' false rest).map fun n => ("rune_literal".toList, n + 1)
  | _ => none

def scriptLexeme? (previous t : Text) : Option Lexeme :=
  match t with
  | '/' :: '/' :: _ => some ("comment", lineLength t)
  | '/' :: '*' :: rest => some ("comment", 2 + lengthThrough "*/" rest)
  | '"' :: rest => (quotedLength? '"' false rest).map fun n => ("string".toList, n + 1)
  | '\'' :: rest => (quotedLength? '\'' false rest).map fun n => ("string".toList, n + 1)
  | '/' :: rest =>
    if slashBeginsPattern previous then
      (patternLength? false rest).map fun n => ("regex".toList, n + 1)
    else none
  | _ => none

def lexeme? (g : Grammar) (previous t : Text) : Option Lexeme :=
  match g with
  | .rust => rustLexeme? t
  | .go => goLexeme? t
  | .javascript | .typescript | .tsx => scriptLexeme? previous t
  | .python => none

/-- Whether backticks quote templates, which hold code between `$` and braces. -/
def hasTemplates : Grammar → Bool
  | .javascript | .typescript | .tsx => true
  | _ => false

structure Position where
  offset : Nat := 0
  /-- The last token that is no comment. -/
  previous : Text := []
  /-- Open braces in each hole of the templates around, innermost first. -/
  holes : List Nat := []
  inTemplate : Bool := false

def Position.move (p : Position) (n : Nat) : Position := { p with offset := p.offset + n }

def Position.brace (p : Position) (c : Char) : Position :=
  let p := { p.move 1 with previous := [c] }
  match p.holes with
  | [] => p
  | depth :: outer =>
    if c = '{' then { p with holes := (depth + 1) :: outer }
    else if depth = 0 then { p with holes := outer, inTemplate := true }
    else { p with holes := (depth - 1) :: outer }

/-- A step within a template: its end, a hole in it or a character of it. -/
def Position.template (p : Position) (t : Text) : Position × Text :=
  match t with
  | '\\' :: _ :: rest => (p.move 2, rest)
  | '\u0060' :: rest => ({ p.move 1 with inTemplate := false, previous := ['\u0060'] }, rest)
  | '$' :: '{' :: rest =>
    ({ p.move 2 with inTemplate := false, holes := 0 :: p.holes, previous := ['{'] }, rest)
  | _ :: rest => (p.move 1, rest)
  | [] => (p, [])

def isCommentKind (kind : Text) : Bool := Text.endsWith kind "comment"

/-- The pieces of a string between its escapes. -/
def fragments : Nat → Nat → Text → List Node
  | _, _, [] => []
  | first, at', '\\' :: _ :: t =>
    (if first < at' then [.leaf "string_fragment" first at'] else [])
      ++ .leaf "escape_sequence" at' (at' + 2) :: fragments (at' + 2) (at' + 2) t
  | first, at', _ :: t =>
    if t.isEmpty then if first < at' then [.leaf "string_fragment" first at'] else []
    else fragments first (at' + 1) t

def lexemeNode (t kind : Text) (start stop : Nat) : Node :=
  let isDoc := start + 3 ≤ stop && (t.drop (stop - start - 1)).head? == some '\n'
  if kind = "line_comment" && isDoc then
    let isInner := (t.drop 2).head? == some '!'
    let marker : Text := if isInner then "inner_doc_comment_marker" else "outer_doc_comment_marker"
    .node kind true [] start stop [
      Node.inRole (if isInner then "inner" else "outer") (.leaf marker (start + 2) (start + 3)),
      Node.inRole "doc" (.leaf "doc_comment" (start + 3) stop)]
  else if kind = "string" then
    .node kind true [] start stop
      (fragments (start + 1) (start + 1) ((t.take (stop - start)).drop 1))
  else .leaf kind start stop

/-- The named tokens of a text, with unnamed ones for other code in between. -/
def scan (g : Grammar) : Nat → Position → Text → List Node
  | 0, _, _ => []
  | _, _, [] => []
  | fuel + 1, p, c :: t =>
    if p.inTemplate then
      let (p, rest) := p.template (c :: t)
      scan g fuel p rest
    else if c = '\u0060' && hasTemplates g then scan g fuel { p.move 1 with inTemplate := true } t
    else if Text.isSpace c then scan g fuel (p.move 1) t
    else match lexeme? g p.previous (c :: t) with
    | some (kind, n) =>
      let p' := p.move n
      -- a slash after a comment means what it would without the comment
      let p' := if isCommentKind kind then p' else { p' with previous := ['"'] }
      lexemeNode (c :: t) kind p.offset p'.offset :: scan g fuel p' ((c :: t).drop n)
    | none =>
      if c = '{' || c = '}' then
        Node.token [c] p.offset (p.offset + 1) :: scan g fuel (p.brace c) t
      else
        let word := if isNamePart c then (c :: t).takeWhile isNamePart else [c]
        let p' := { p.move word.length with previous := word }
        Node.token word p.offset p'.offset :: scan g fuel p' ((c :: t).drop word.length)

def braceRoot : Grammar → Text
  | .rust | .go => "source_file"
  | _ => "program"

def braceTree (g : Grammar) (t : Text) : Node :=
  .node (braceRoot g) true [] 0 t.length (scan g (t.length + 1) {} t)

end Copydesk.Source
