import Copydesk.Html.Entity
import Copydesk.Regex.Basic

/-! Org documents as HTML: headings, paragraphs, lists, quotes, table cells and code. -/

namespace Copydesk.Org

def heading : Regex := .ofString "^(\\*+)\\s+(.*)$"

def listItem : Regex := .ofString "^\\s*(?:[-+]|\\d+[.)])\\s+(.*)$"

def verbatim : Regex := .ofString "(?:^|\\B)[=~]([^=~\\n]+)[=~](?:\\B|$)"

def link : Regex := .ofString "\\[\\[([^\\]]+)\\](?:\\[([^\\]]+)\\])?\\]"

/-- Links leave their description, verbatim text becomes code. -/
def inlineHtml (t : Text) : Text :=
  let linked := link.replaceAll t fun m => ((m.groupText? 2 t).or (m.groupText? 1 t)).getD []
  let escaped := Html.escape linked
  verbatim.replaceAll escaped fun m =>
    "<code>".toList ++ (m.groupText? 1 escaped).getD [] ++ "</code>".toList

/-- The element that a following line of the same kind continues. -/
inductive Flow
  | none | paragraph | list
  deriving DecidableEq, Repr

def Flow.close : Flow → Text
  | none => []
  | paragraph => "</p>\n"
  | list => "</ul>\n"

structure State where
  flow : Flow := .none
  inSource : Bool := false
  inQuote : Bool := false

inductive Line
  | beginSource | beginQuote | endQuote | directive | blank
  | heading (level : Nat) (title : Text)
  | rule
  | row (cells : List Text)
  | item (body : Text)
  | prose (body : Text)
  deriving DecidableEq, Repr

def asciiUpper (t : Text) : Text := t.map Char.toUpper

def trimBars (t : Text) : Text := Text.dropEndWhile (· == '|') (t.dropWhile (· == '|'))

def Line.ofText (line : Text) : Line :=
  let trimmed := Text.trim line
  let upper := asciiUpper trimmed
  let has (p : Text) := Text.startsWith upper p
  if has "#+BEGIN_SRC" || has "#+BEGIN_EXAMPLE" then beginSource
  else if has "#+BEGIN_QUOTE" then beginQuote
  else if has "#+END_QUOTE" then endQuote
  else if has "#+" || trimmed == "#" || has "# " then directive
  else if trimmed.isEmpty then blank
  else match Org.heading.find? line with
    | some m =>
      heading (min (((m.groupText? 1 line).getD []).length) 6) ((m.groupText? 2 line).getD [])
    | none =>
      if has "|-" then rule
      else if has "|" then row ((Text.splitOn '|' (trimBars trimmed)).map Text.trim)
      else match listItem.find? line with
        | some m => item ((m.groupText? 1 line).getD [])
        | none => prose trimmed

def endsSource (line : Text) : Bool :=
  let upper := asciiUpper (Text.trim line)
  Text.startsWith upper "#+END_SRC" || Text.startsWith upper "#+END_EXAMPLE"

def headingTag (level : Nat) : Text := 'h' :: Text.ofNat level

def renderLine (s : State) (line : Text) : Text × State :=
  if s.inSource then
    if endsSource line then ("</code></pre>\n", { s with inSource := false })
    else (Html.escape line ++ ['\n'], s)
  else
    let closed : State := { s with flow := .none }
    let close := s.flow.close
    match Line.ofText line with
    | .beginSource => (close ++ "<pre><code>".toList, { closed with inSource := true })
    | .beginQuote => (close ++ "<blockquote>\n".toList, { closed with inQuote := true })
    | .endQuote =>
      (close ++ (if s.inQuote then "</blockquote>\n".toList else []),
        { closed with inQuote := false })
    | .directive | .blank | .rule => (close, closed)
    | .heading level title =>
      (close ++ '<' :: headingTag level ++ '>' :: inlineHtml title ++ "</".toList
        ++ headingTag level ++ ">\n".toList, closed)
    | .row cells =>
      (close ++ "<table><tr>".toList
        ++ cells.flatMap (fun c => "<td>".toList ++ inlineHtml c ++ "</td>".toList)
        ++ "</tr></table>\n".toList, closed)
    | .item body =>
      let start := if s.flow = .list then [] else close ++ "<ul>\n".toList
      (start ++ "<li>".toList ++ inlineHtml body ++ "</li>\n".toList, { s with flow := .list })
    | .prose body =>
      let start := if s.flow = .paragraph then ['\n'] else close ++ "<p>".toList
      (start ++ inlineHtml body, { s with flow := .paragraph })

def finish (s : State) : Text :=
  s.flow.close ++ (if s.inSource then "</code></pre>\n".toList else [])
    ++ (if s.inQuote then "</blockquote>\n".toList else [])

def renderLines : State → List Text → Text
  | s, [] => finish s
  | s, l :: ls => let (out, s') := renderLine s l; out ++ renderLines s' ls

def render (t : Text) : Text := renderLines {} (Text.lines t)

end Copydesk.Org
