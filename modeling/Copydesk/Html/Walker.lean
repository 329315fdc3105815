import Copydesk.Html.Token
import Copydesk.Alert

/-! Blocks of prose in an HTML document, scoped by the elements that enclose them. -/

namespace Copydesk.Html

/-- Elements at whose tags a block of prose ends. -/
def blockTags : List Text :=
  (["p", "h1", "h2", "h3", "h4", "h5", "h6", "li", "ul", "ol", "dl", "dt", "dd", "blockquote",
   "table", "thead", "tbody", "tr", "td", "th", "div", "section", "article", "aside", "header",
   "footer", "nav", "main", "caption", "figcaption", "figure", "pre", "hr", "br", "details",
   "summary", "body", "html", "head", "title", "script", "style"] : List String).map String.toList

/-- Skipped tags lose their whole content, ignored ones their text. -/
structure Walker where
  skipped : List Text
  ignored : List Text
  ext : Text
  deriving DecidableEq, Repr

namespace Walker

def ofTags (skipped ignored : List Text) (ext : Text) : Walker :=
  ⟨skipped.map Text.asciiLower, ignored.map Text.asciiLower, ext.dropWhile (· == '.')⟩

def skips (w : Walker) (tag : Text) : Bool := tag ∈ w.skipped || tag ∈ rawTextTags

def ignores (w : Walker) (tag : Text) : Bool := tag ∈ w.ignored

def tagScope? (tag : Text) : Option Text :=
  match String.ofList tag with
  | "h1" | "h2" | "h3" | "h4" | "h5" | "h6" => some ("heading.".toList ++ tag)
  | "li" | "dt" | "dd" => some "list"
  | "th" => some "table.header"
  | "td" => some "table.cell"
  | "caption" | "figcaption" => some "caption"
  | _ => none

/-- Scope of the text inside the open elements, the innermost first. -/
def scope (w : Walker) (stack : List Text) : Text :=
  let quote : List Text := if "blockquote".toList ∈ stack then ["blockquote"] else []
  let specific := (stack.findSome? tagScope?).toList
  let ext := if w.ext.isEmpty then [] else [w.ext]
  Text.join ['.'] (["text".toList] ++ quote ++ specific ++ ext)

structure State where
  /-- Open elements, the innermost first. -/
  stack : List Text := []
  buffer : Text := []
  /-- Depth below an open skipped element, that element included. -/
  skipDepth : Nat := 0
  ignoreDepth : Nat := 0
  /-- Blocks so far, the latest first. -/
  blocks : List Block := []

def flush (w : Walker) (s : State) : State :=
  let text := Text.trim s.buffer
  { s with
    buffer := []
    blocks := if text.isEmpty then s.blocks else Block.ofText text (w.scope s.stack) :: s.blocks }

def altBlock? (w : Walker) (attrs : List (Text × Text)) : Option Block := do
  let alt ← attrs.lookup "alt".toList
  if Text.isBlank alt then none
  return Block.ofText (Text.trim alt)
    (Text.dropEndWhile (· == '.') ("text.alt.".toList ++ w.ext))

def openTag (w : Walker) (name : Text) (attrs : List (Text × Text)) (selfClosing : Bool)
    (s : State) : State :=
  if 0 < s.skipDepth then
    if selfClosing then s else { s with skipDepth := s.skipDepth + 1, stack := name :: s.stack }
  else if name = "img" then { s with blocks := (w.altBlock? attrs).toList ++ s.blocks }
  else if name = "br" then { s with buffer := s.buffer ++ ['\n'] }
  else
    let s := if name ∈ blockTags then w.flush s else s
    if selfClosing then s
    else if w.skips name then { s with skipDepth := 1, stack := name :: s.stack }
    else
      { s with
        ignoreDepth := if w.ignores name then s.ignoreDepth + 1 else s.ignoreDepth
        stack := name :: s.stack }

/-- Closes the innermost element of that name together with all elements inside it. -/
def closeTag (w : Walker) (name : Text) (s : State) : State :=
  match s.stack.findIdx? (· == name) with
  | none => s
  | some i =>
    if 0 < s.skipDepth then
      { s with skipDepth := s.skipDepth - (i + 1), stack := s.stack.drop (i + 1) }
    else
      let s := if name ∈ blockTags then w.flush s else s
      { s with
        -- the elements inside close with it, ignored ones among them
        ignoreDepth := s.ignoreDepth - (s.stack.take (i + 1)).countP w.ignores
        stack := s.stack.drop (i + 1) }

def step (w : Walker) (s : State) : Token → State
  | .start name attrs selfClosing => w.openTag name attrs selfClosing s
  | .stop name => w.closeTag name s
  | .text t =>
    if s.skipDepth = 0 ∧ s.ignoreDepth = 0 then { s with buffer := s.buffer ++ t } else s

def walkTokens (w : Walker) (tokens : List Token) : List Block :=
  (w.flush (tokens.foldl w.step {})).blocks.reverse

/-- The blocks of a document, in order. -/
def walk (w : Walker) (html : Text) : List Block := w.walkTokens (tokenize html)

end Walker

end Copydesk.Html
