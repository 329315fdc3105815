import Copydesk.Source.Brace
import Copydesk.Source.Kind

/-! Trees of Python source: its statements by indentation, with comments and strings in them. -/

namespace Copydesk.Source

inductive PyToken
  | comment (start stop : Nat)
  /-- A string whose quotes and the letters before them take up so many characters at its ends. -/
  | string (start stop opening closing : Nat)
  | word (text : Text) (start : Nat)
  deriving DecidableEq, Repr

def pyKeywords : List Text := words "
and as assert async await break class continue def del elif else except finally for from global
if import in is lambda nonlocal not or pass raise return try while with yield"

def wordKind? (t : Text) : Option Text :=
  match String.ofList t with
  | "True" => some "true"
  | "False" => some "false"
  | "None" => some "none"
  | _ =>
    match t.head? with
    | none => none
    | some c =>
      if c.isDigit then some "integer"
      else if isNamePart c && !pyKeywords.contains t then some "identifier"
      else none

namespace PyToken

def start : PyToken → Nat
  | comment s _ | string s .. | word _ s => s

def isComment : PyToken → Bool
  | comment .. => true
  | _ => false

def isString : PyToken → Bool
  | string .. => true
  | _ => false

def isWord (t : PyToken) (w : String) : Bool :=
  match t with
  | word u _ => u == w.toList
  | _ => false

def stringNode (start stop opening closing : Nat) : Node :=
  let content := if start + opening < stop - closing then
      [.leaf "string_content" (start + opening) (stop - closing)]
    else []
  .node "string" true [] start stop ([.leaf "string_start" start (start + opening)] ++ content
    ++ [.leaf "string_end" (stop - closing) stop])

def node : PyToken → Node
  | comment s e => .leaf "comment" s e
  | string s e opening closing => stringNode s e opening closing
  | word t s =>
    match wordKind? t with
    | some kind => .leaf kind s (s + t.length)
    | none => .token t s (s + t.length)

end PyToken

/-- A line of tokens that a newline outside of brackets ends, with its indentation. -/
structure PyLine where
  indent : Nat
  tokens : List PyToken
  deriving Repr

def isPrefixOfString (c : Char) : Bool := "rRbBfFuU".toList.any (· == c)

/-- Length of the string that a text begins with, and of its quotes. -/
def pyStringLength? (t : Text) : Option (Nat × Nat) :=
  let marks := (t.takeWhile isPrefixOfString).length
  match t.drop marks with
  | '"' :: '"' :: '"' :: rest => some (marks + 3 + tripleLength '"' rest, 3)
  | '\'' :: '\'' :: '\'' :: rest => some (marks + 3 + tripleLength '\'' rest, 3)
  | '"' :: rest => (quotedLength? '"' false rest).map fun n => (n + (marks + 1), 1)
  | '\'' :: rest => (quotedLength? '\'' false rest).map fun n => (n + (marks + 1), 1)
  | _ => none
where
  tripleLength (quote : Char) : Text → Nat
    | [] => 0
    | '\\' :: _ :: t => tripleLength quote t + 2
    | c :: t =>
      if c = quote && t.head? == some quote && (t.drop 1).head? == some quote then 3
      else tripleLength quote t + 1

/-- Tokens read so far; the line and its tokens are kept last first. -/
structure PyScanner where
  offset : Nat := 0
  depth : Nat := 0
  indent : Nat := 0
  /-- Whether nothing but white space has been read on the line. -/
  atStart : Bool := true
  tokens : List PyToken := []
  lines : List PyLine := []

namespace PyScanner

def endLine (s : PyScanner) : PyScanner :=
  let lines := if s.tokens.isEmpty then s.lines else ⟨s.indent, s.tokens.reverse⟩ :: s.lines
  { s with lines, tokens := [], indent := 0, atStart := true }

def move (s : PyScanner) (n : Nat) : PyScanner := { s with offset := s.offset + n }

def push (s : PyScanner) (n : Nat) (t : PyToken) : PyScanner :=
  { s.move n with tokens := t :: s.tokens, atStart := false }

def bracket (s : PyScanner) (c : Char) : PyScanner :=
  if c = '(' || c = '[' || c = '{' then { s with depth := s.depth + 1 }
  else if c = ')' || c = ']' || c = '}' then { s with depth := s.depth - 1 }
  else s

def blank (s : PyScanner) (c : Char) : PyScanner :=
  if s.atStart && s.depth = 0 then
    { s.move 1 with indent := s.indent + if c = '\t' then 8 else 1 }
  else s.move 1

def scan : Nat → PyScanner → Text → PyScanner
  | 0, s, _ => s
  | _, s, [] => s.endLine
  | fuel + 1, s, c :: t =>
    if c = '\n' then scan fuel (if s.depth = 0 then s.endLine.move 1 else s.move 1) t
    else if c = '\\' && t.head? == some '\n' then scan fuel (s.move 2) t.tail
    else if Text.isSpace c then scan fuel (s.blank c) t
    else if c = '#' then
      let n := ((c :: t).takeWhile fun d => d != '\n').length
      scan fuel (s.push n (.comment s.offset (s.offset + n))) ((c :: t).drop n)
    else match pyStringLength? (c :: t) with
    | some (n, quotes) =>
      let marks := ((c :: t).takeWhile isPrefixOfString).length
      scan fuel (s.push n (.string s.offset (s.offset + n) (marks + quotes) quotes))
        ((c :: t).drop n)
    | none =>
      let word := if isNamePart c then (c :: t).takeWhile isNamePart else [c]
      scan fuel ((s.bracket c).push word.length (.word word s.offset)) ((c :: t).drop word.length)

end PyScanner

/-- Splits tokens at the words that satisfy a test, outside of brackets. -/
def splitTokens (p : PyToken → Bool) : Nat → List PyToken → List (List PyToken)
  | _, [] => [[]]
  | depth, t :: ts =>
    if depth = 0 && p t then [] :: splitTokens p 0 ts
    else
      let depth :=
        if t.isWord "(" || t.isWord "[" || t.isWord "\x7b" then depth + 1
        else if t.isWord ")" || t.isWord "]" || t.isWord "\x7d" then depth - 1 else depth
      match splitTokens p depth ts with
      | [] => [[t]]
      | piece :: more => (t :: piece) :: more

def statementKind (word : Text) : Text :=
  match String.ofList word with
  | "return" => "return_statement"
  | "import" => "import_statement"
  | "from" => "import_from_statement"
  | "raise" => "raise_statement"
  | "assert" => "assert_statement"
  | "del" => "delete_statement"
  | "pass" => "pass_statement"
  | "break" => "break_statement"
  | "continue" => "continue_statement"
  | "global" => "global_statement"
  | "nonlocal" => "nonlocal_statement"
  | _ => "expression_statement"

def assignmentNodes (tokens : List PyToken) : List Node :=
  match tokens with
  | [left, mark, right] => [left.node.inRole "left", mark.node, right.node.inRole "right"]
  | left :: rest => left.node.inRole "left" :: rest.map PyToken.node
  | [] => []

def expression (tokens : List PyToken) : List Node :=
  match tokens with
  | [t] => [t.node]
  | _ =>
    let nodes := tokens.map PyToken.node
    if tokens.all PyToken.isString then [.branch "concatenated_string" [] nodes]
    else if tokens.any (·.isWord "=") then [.branch "assignment" [] (assignmentNodes tokens)]
    else [.branch "expression" [] nodes]

def statement (tokens : List PyToken) : List Node :=
  match tokens with
  | [] => []
  | .word ['@'] _ :: _ => [.branch "decorator" [] (tokens.map PyToken.node)]
  | .word w _ :: rest =>
    let kind := statementKind w
    if kind = "expression_statement" then [.branch kind [] (expression tokens)]
    else
      let value := if rest.isEmpty then [] else expression rest
      [.branch kind [] ((tokens.head?.map PyToken.node).toList ++ value)]
  | _ => [.branch "expression_statement" [] (expression tokens)]

def simpleLine (tokens : List PyToken) : List Node :=
  let code := tokens.filter (!·.isComment)
  (splitTokens (·.isWord ";") 0 code).flatMap statement
    ++ (tokens.filter PyToken.isComment).map PyToken.node

def compoundKind? (word : Text) : Option Text :=
  match String.ofList word with
  | "def" => some "function_definition"
  | "class" => some "class_definition"
  | "if" => some "if_statement"
  | "elif" => some "elif_clause"
  | "else" => some "else_clause"
  | "for" => some "for_statement"
  | "while" => some "while_statement"
  | "with" => some "with_statement"
  | "try" => some "try_statement"
  | "except" => some "except_clause"
  | "finally" => some "finally_clause"
  | "match" => some "match_statement"
  | "case" => some "case_clause"
  | _ => none

/-- The kind of compound statement that a line begins, with its header and what follows the colon
on the line. -/
def header? (tokens : List PyToken) : Option (Text × List PyToken × List PyToken) := do
  let code := match tokens with
    | t :: ts => if t.isWord "async" then ts else t :: ts
    | [] => []
  let .word w _ ← code.head? | none
  let kind ← compoundKind? w
  match splitTokens (·.isWord ":") 0 tokens with
  | head :: second :: more => return (kind, head, (second :: more).flatten)
  | _ => none

def headerNodes : List PyToken → List Node
  | t :: name :: rest =>
    if t.isWord "def" || t.isWord "class" then
      t.node :: name.node.inRole "name" :: rest.map PyToken.node
    else t.node :: headerNodes (name :: rest)
  | ts => ts.map PyToken.node

def isCommentLine (l : PyLine) : Bool := l.tokens.all PyToken.isComment

/-- The lines of the block below a header: those indented more deeply, with comments between
them. -/
def blockLines (indent : Nat) : List PyLine → List PyLine × List PyLine
  | [] => ([], [])
  | l :: ls =>
    if indent < l.indent then
      let (inside, rest) := blockLines indent ls
      (l :: inside, rest)
    else if isCommentLine l then
      match blockLines indent ls with
      -- comments that no line of the block follows belong to what comes after it
      | ([], _) => ([], l :: ls)
      | (inside, rest) => (l :: inside, rest)
    else ([], l :: ls)

def statements : Nat → List PyLine → List Node
  | 0, _ => []
  | _, [] => []
  | fuel + 1, l :: ls =>
    match header? l.tokens with
    | none => simpleLine l.tokens ++ statements fuel ls
    | some (kind, head, inline) =>
      let headNodes := headerNodes head
      let comments := (inline.filter PyToken.isComment).map PyToken.node
      if inline.any (!·.isComment) then
        .branch kind [] (headNodes ++ [.branch "block" "body" (simpleLine inline)])
          :: statements fuel ls
      else
        let (inside, rest) := blockLines l.indent ls
        let body := statements fuel inside
        .branch kind [] (headNodes ++ comments
            ++ (if body.isEmpty then [] else [.branch "block" "body" body]))
          :: statements fuel rest

def pythonTree (t : Text) : Node :=
  let lines := (PyScanner.scan (t.length + 1) {} t).lines.reverse
  .node "module" true [] 0 t.length (statements (lines.length + 1) lines)

def tree (g : Comment.Grammar) (t : Text) : Node :=
  match g with
  | .python => pythonTree t
  | g => braceTree g t

end Copydesk.Source
