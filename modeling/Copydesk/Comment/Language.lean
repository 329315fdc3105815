import Copydesk.Comment.Basic
import Copydesk.Regex.Basic

/-! Languages whose comments are found in a syntax tree, with the shape of their delimiters. -/

namespace Copydesk.Comment

/-- A pattern over syntax trees; its name becomes a section of the scopes of what it finds. -/
structure Query where
  name : Text
  expr : Text
  deriving DecidableEq, Repr

inductive Grammar
  | rust | python | go | javascript | typescript | tsx
  deriving DecidableEq, Repr

structure Language where
  name : Text
  grammar : Grammar
  /-- What is taken out of a comment's text. -/
  delims : Regex
  /-- What is trimmed from the lines of a comment on several lines. -/
  cutset : List Char
  /-- The openers measured when columns are computed. -/
  openers : List Text
  queries : List Query

/-- Width of the indentation, the longest opener that follows it, and the spaces after that. -/
def paddingWidth (openers : List Text) (line : Text) : Nat :=
  let trimmed := Text.trimStart line
  let lead := line.length - trimmed.length
  let longer (best : Option Text) (d : Text) : Option Text :=
    if best.any fun b => Text.size d < Text.size b then best else some d
  match (openers.filter fun d => Text.startsWith trimmed d).foldl longer none with
  | none => lead
  | some d => lead + d.length + ((trimmed.drop d.length).takeWhile (· == ' ')).length

namespace Language

def padding (l : Language) (line : Text) : Nat := paddingWidth l.openers line

def slashOpeners : List Text := ["//", "/*", "/**"]

def rust : Language where
  name := "rust"
  grammar := .rust
  delims := .ofString "/\x7b2,3\x7d!?"
  cutset := [' ']
  openers := ["//", "//!", "///"]
  queries := [⟨[], "(line_comment)+ @comment"⟩]

def python : Language where
  name := "python"
  grammar := .python
  delims := .ofString "#|\"\"\"|'''"
  cutset := [' ']
  openers := ["#", "\"\"\"", "'''"]
  queries :=
    [⟨[], "(comment)+ @comment"⟩,
     ⟨[], "(function_definition body: (block . (expression_statement (string) @docstring)))"⟩,
     ⟨[], "(class_definition body: (block . (expression_statement (string) @docstring)))"⟩,
     ⟨[], "(module . (expression_statement (string) @docstring))"⟩]

def go : Language where
  name := "go"
  grammar := .go
  delims := .ofString "//|/\\*|\\*/"
  cutset := [' ', '*']
  openers := slashOpeners
  queries := [⟨[], "(comment) @comment"⟩]

def javascript : Language where
  name := "javascript"
  grammar := .javascript
  delims := .ofString "//|/\\*\\*?|\\*/"
  cutset := [' ', '*']
  openers := slashOpeners
  queries := [⟨[], "(comment) @comment"⟩]

def typescript : Language := { javascript with name := "typescript", grammar := .typescript }

def tsx : Language := { javascript with name := "tsx", grammar := .tsx }

end Language

/-- Languages by normalized extension. -/
abbrev Registry := List (Text × Language)

namespace Registry

def standard : Registry :=
  [("go", .go), ("js", .javascript), ("py", .python), ("rs", .rust), ("ts", .typescript),
   ("tsx", .tsx)]

def find? (r : Registry) (ext : Text) : Option Language := r.lookup (ext.dropWhile (· == '.'))

def extensions (r : Registry) : List Text := r.map (·.1)

end Registry

end Copydesk.Comment
