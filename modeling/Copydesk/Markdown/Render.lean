import Copydesk.Markdown.Block
import Copydesk.Markdown.Inline

/-! Markdown documents as HTML. -/

namespace Copydesk.Markdown

structure Page where
  /-- Last character first. -/
  reversed : Text := []
  /-- Labels of the footnotes met, last first; they are numbered in this order. -/
  notes : List Text := []

namespace Page

def put (p : Page) (t : Text) : Page := { p with reversed := t.reverseAux p.reversed }

/-- Begins a line unless the page is at the beginning of one. -/
def startLine (p : Page) : Page :=
  match p.reversed with
  | [] | '\n' :: _ => p
  | _ => p.put ['\n']

def noteNumber (p : Page) (label : Text) : Nat × Page :=
  match p.notes.reverse.idxOf? label with
  | some i => (i + 1, p)
  | none => (p.notes.length + 1, { p with notes := label :: p.notes })

end Page

def escapeAttribute (t : Text) : Text :=
  t.flatMap fun c => match c with
    | '"' => "&quot;".toList
    | '\'' => "&#39;".toList
    | c => Html.escape [c]

def isPlainInDestination (c : Char) : Bool :=
  c.isAlphanum || "!#$%()*+,-./:;=?@_~".toList.any (· == c)

def hexDigit (n : Nat) : Char := (Nat.digitChar n).toUpper

def percentEncode (c : Char) : Text :=
  (String.singleton c).toUTF8.toList.flatMap fun b =>
    ['%', hexDigit (b.toNat / 16), hexDigit (b.toNat % 16)]

def escapeDestination (t : Text) : Text :=
  t.flatMap fun c =>
    if isPlainInDestination c then [c]
    else if c = '&' then "&amp;".toList
    else if c = '\'' then "&#x27;".toList
    else percentEncode c

def titleAttribute (title : Text) : Text :=
  if title.isEmpty then [] else "\" title=\"".toList ++ escapeAttribute title

def noteReference (p : Page) (label : Text) : Page :=
  let p := (p.put "<sup class=\"footnote-reference\"><a href=\"#").put (escapeAttribute label)
  let (n, p) := p.noteNumber label
  p.put ("\">".toList ++ Text.ofNat n ++ "</a></sup>".toList)

mutual

/-- The text of an image's description, without markup. -/
def putPlain (p : Page) : Inline → Page
  | .text t | .code t | .html t => p.put (escapeAttribute t)
  | .softBreak | .hardBreak => p.put [' ']
  | .emphasis body | .strong body | .struck body => putPlainList p body
  | .link _ _ body => putPlainList p body
  | .image _ _ body => putPlainList p body
  | .note label =>
    let (n, p) := p.noteNumber label
    p.put ('[' :: Text.ofNat n ++ [']'])

def putPlainList (p : Page) : List Inline → Page
  | [] => p
  | i :: is => putPlainList (putPlain p i) is

end

def inTag (p : Page) (name : Text) (body : Page → Page) : Page :=
  (body (p.put ('<' :: name ++ ['>']))).put ('<' :: '/' :: name ++ ['>'])

mutual

def putInline (p : Page) : Inline → Page
  | .text t => p.put (Html.escape t)
  | .code t => inTag p "code" (·.put (Html.escape t))
  | .html t => p.put t
  | .softBreak => p.put ['\n']
  | .hardBreak => p.put "<br />\n"
  | .emphasis body => inTag p "em" fun p => putInlines p body
  | .strong body => inTag p "strong" fun p => putInlines p body
  | .struck body => inTag p "del" fun p => putInlines p body
  | .link destination title body =>
    let p := p.put ("<a href=\"".toList ++ escapeDestination destination ++ titleAttribute title
      ++ "\">".toList)
    (putInlines p body).put "</a>"
  | .image destination title body =>
    let p := p.put ("<img src=\"".toList ++ escapeDestination destination
      ++ "\" alt=\"".toList)
    (putPlainList p body).put (titleAttribute title ++ "\" />".toList)
  | .note label => noteReference p label

def putInlines (p : Page) : List Inline → Page
  | [] => p
  | i :: is => putInlines (putInline p i) is

end

def putText (labels : Labels) (p : Page) (t : Text) : Page := putInlines p (readInline labels t)

def putTask (p : Page) : Option Bool → Page
  | none => p
  | some checked => p.put ("<input disabled=\"\" type=\"checkbox\"".toList
      ++ (if checked then " checked=\"\"".toList else []) ++ "/>\n".toList)

def putCode (p : Page) (info : Option Text) (content : Text) : Page :=
  let language := (info.getD []).takeWhile (· != ' ')
  let languageClass := if language.isEmpty then [] else
    " class=\"language-".toList ++ escapeAttribute language ++ ['"']
  p.startLine.put ("<pre><code".toList ++ languageClass ++ '>' :: Html.escape content
    ++ "</code></pre>\n".toList)

def alignmentAttribute : Option Alignment → Text
  | some .left => " style=\"text-align: left\""
  | some .center => " style=\"text-align: center\""
  | some .right => " style=\"text-align: right\""
  | _ => []

def putRow (labels : Labels) (tag : Text) (columns : List Alignment) (p : Page)
    (cells : List Text) : Page :=
  let putCell (p : Page) (cell : Text × Nat) : Page :=
    let p := p.put ('<' :: tag ++ alignmentAttribute columns[cell.2]? ++ ['>'])
    (putText labels p cell.1).put ('<' :: '/' :: tag ++ ['>'])
  (cells.zipIdx.foldl putCell (p.put "<tr>")).put "</tr>"

def putTable (labels : Labels) (p : Page) (columns : List Alignment) (head : List Text)
    (rows : List (List Text)) : Page :=
  let p := (putRow labels "th" columns (p.put "<table><thead>") head).put "</thead><tbody>\n"
  (rows.foldl (fun p row => (putRow labels "td" columns p row).put ['\n']) p).put
    "</tbody></table>\n"

def listTag (mark : ListMark) : Text := if mark.isBullet then "ul" else "ol"

def openList (mark : ListMark) : Text :=
  if mark.isBullet then "<ul>\n"
  else if mark.start = 1 then "<ol>\n"
  else "<ol start=\"".toList ++ Text.ofNat mark.start ++ "\">\n".toList

def openNote (p : Page) (label : Text) : Page :=
  let p := p.startLine.put ("<div class=\"footnote-definition\" id=\"".toList
    ++ escapeAttribute label ++ "\"><sup class=\"footnote-definition-label\">".toList)
  let (n, p) := p.noteNumber label
  p.put (Text.ofNat n ++ "</sup>".toList)

mutual

/-- Writes a block; the paragraphs of a tight list have no tags. -/
def putBlock (labels : Labels) (tight : Bool) (p : Page) : Block → Page
  | .paragraph task source =>
    if tight then putText labels (putTask p task) source
    else (putText labels (putTask (p.startLine.put "<p>") task) source).put "</p>\n"
  | .heading level task source =>
    let tag := 'h' :: Text.ofNat level
    let p := putTask (p.startLine.put ('<' :: tag ++ ['>'])) task
    (putText labels p source).put ('<' :: '/' :: tag ++ ">\n".toList)
  | .task checked => putTask p (some checked)
  | .code info content => putCode p info content
  | .html content => p.put content
  | .rule => p.startLine.put "<hr />\n"
  | .table columns head rows => putTable labels p columns head rows
  | .quote body =>
    (putBlocks labels false (p.startLine.put "<blockquote>\n") body).put "</blockquote>\n"
  | .list mark tight items =>
    (putBlocks labels tight (p.startLine.put (openList mark)) items).put
      ("</".toList ++ listTag mark ++ ">\n".toList)
  | .item body => (putBlocks labels tight (p.startLine.put "<li>") body).put "</li>\n"
  | .note label body => (putBlocks labels false (openNote p label) body).put "</div>\n"

def putBlocks (labels : Labels) (tight : Bool) (p : Page) : List Block → Page
  | [] => p
  | b :: bs => putBlocks labels tight (putBlock labels tight p b) bs

end

/-- The HTML of a Markdown document. -/
def render (t : Text) : Text :=
  let d := Document.ofText t
  (putBlocks ⟨d.definitions, d.notes⟩ false {} d.blocks).reversed.reverse

end Copydesk.Markdown
