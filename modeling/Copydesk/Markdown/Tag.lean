import Copydesk.Markdown.Line

/-! HTML within Markdown: tags, comments and other constructs, and the blocks they begin. -/

namespace Copydesk.Markdown

/-- White space in a tag. A line break is part of it only in running text. -/
def skipSpace (breaks : Bool) (t : Text) : Text :=
  t.dropWhile fun c => isBlank c || (breaks && isWhite c)

def isNameStart (c : Char) : Bool := c.isAlpha || c == '_' || c == ':'

def isNameChar (c : Char) : Bool := c.isAlphanum || c == '_' || c == ':' || c == '.' || c == '-'

def isUnquotedChar (c : Char) : Bool :=
  !(['\'', '"', ' ', '=', '>', '<', '\u0060', '\n', '\r'].contains c)

def afterValue? (breaks : Bool) (t : Text) : Option Text :=
  match t with
  | [] => none
  | c :: rest =>
    if c = '"' || c = '\'' then
      let value := rest.takeWhile fun d => d != c && (breaks || d != '\n')
      match rest.drop value.length with
      | d :: after => if d = c then some after else none
      | [] => none
    else if isUnquotedChar c then some (t.dropWhile isUnquotedChar)
    else none

def afterAttribute? (breaks : Bool) (t : Text) : Option Text :=
  match t with
  | [] => none
  | c :: rest =>
    if isNameStart c then
      let after := rest.dropWhile isNameChar
      match skipSpace breaks after with
      | '=' :: value => afterValue? breaks (skipSpace breaks value)
      | _ => some after
    else none

def afterAttributes? (breaks : Bool) : Nat → Text → Option Text
  | 0, _ => none
  | fuel + 1, t =>
    let u := skipSpace breaks t
    match u with
    | [] => none
    | c :: _ =>
      if c = '/' || c = '>' then some u
      else if u.length = t.length then none
      else (afterAttribute? breaks u).bind (afterAttributes? breaks fuel)

def afterClose? : Text → Option Text
  | '>' :: t => some t
  | _ => none

def dropTagName? (t : Text) : Option Text :=
  if t.head?.any Char.isAlpha then
    some ((t.dropWhile Char.isAlpha).dropWhile fun c => c.isAlphanum || c == '-')
  else none

def afterTag? (breaks : Bool) : Text → Option Text
  | '<' :: '/' :: t => do
    let t ← dropTagName? t
    afterClose? (t.dropWhile isBlank)
  | '<' :: t => do
    let t ← dropTagName? t
    match ← afterAttributes? breaks (t.length + 1) t with
    | '/' :: t => afterClose? t
    | t => afterClose? t
  | _ => none

def afterMark? (mark t : Text) : Option Text :=
  (Text.find? mark t).map fun i => Text.after t (i + Text.size mark)

def afterComment? : Text → Option Text
  | '>' :: t => some t
  | '-' :: '>' :: t => some t
  | t => afterMark? "-->" t

/-- What follows the piece of HTML that a text begins with: a tag, a comment, a declaration, a
processing instruction or a section of character data. -/
def afterHtml? (t : Text) : Option Text :=
  match t with
  | '<' :: '!' :: '-' :: '-' :: rest => afterComment? rest
  | '<' :: '!' :: '[' :: rest =>
    (Text.afterPrefix? "CDATA[" rest).bind (afterMark? "]]>")
  | '<' :: '!' :: c :: rest => if c.isAlpha then afterMark? ['>'] rest else none
  | '<' :: '?' :: rest => afterMark? "?>" rest
  | _ => afterTag? true t

/-- How a block of HTML ends: with the line that holds a mark, or before a blank line. -/
inductive HtmlEnd
  | mark (t : Text)
  | blankLine
  deriving DecidableEq, Repr

/-- Elements whose content is not parsed. -/
def verbatimTags : List Text :=
  (["pre", "style", "script", "textarea"] : List String).map String.toList

def blockTags : List Text :=
  (["address", "article", "aside", "base", "basefont", "blockquote", "body", "caption", "center",
    "col", "colgroup", "dd", "details", "dialog", "dir", "div", "dl", "dt", "fieldset",
    "figcaption", "figure", "footer", "form", "frame", "frameset", "h1", "h2", "h3", "h4", "h5",
    "h6", "head", "header", "hr", "html", "iframe", "legend", "li", "link", "main", "menu",
    "menuitem", "nav", "noframes", "ol", "optgroup", "option", "p", "param", "search", "section",
    "summary", "table", "tbody", "td", "tfoot", "th", "thead", "title", "tr", "track",
    "ul"] : List String).map String.toList

/-- The end of a verbatim element whose opening tag begins after a `<`. -/
def verbatimEnd? (t : Text) : Option Text :=
  (verbatimTags.find? fun tag =>
    Text.asciiLower (t.take tag.length) == tag
      && (t.drop tag.length).head?.all fun c => isWhite c || c == '>').map
    fun tag => '<' :: '/' :: tag ++ ['>']

def startsBlockTag (t : Text) : Bool :=
  let t := if t.head? == some '/' then t.drop 1 else t
  let name := t.takeWhile Char.isAlphanum
  blockTags.contains (Text.asciiLower name)
    && match t.drop name.length with
      | [] => true
      | '/' :: '>' :: _ => true
      | c :: _ => isWhite c || c == '>'

def interruptingHtml? (t : Text) : Option HtmlEnd :=
  match t with
  | '<' :: rest =>
    match verbatimEnd? rest with
    | some stop => some (.mark stop)
    | none =>
      if Text.startsWith rest "!--" then some (.mark "-->")
      else if rest.head? == some '?' then some (.mark "?>")
      else if Text.startsWith rest "![CDATA[" then some (.mark "]]>")
      else if rest.head? == some '!' && (rest.drop 1).head?.any Char.isAlpha then some (.mark ">")
      else if startsBlockTag rest then some .blankLine
      else none
  | _ => none

/-- How a block of HTML ends; a line with one complete tag and nothing else begins one too. -/
def htmlBlock? (t : Text) : Option HtmlEnd :=
  (interruptingHtml? t).or <|
    if (afterTag? false t).any isBlankLine then some .blankLine else none

end Copydesk.Markdown
