import Copydesk.Regex.Basic
import Copydesk.Format

/-! Masks over a source that hide what is not prose and keep every byte offset and newline. -/

namespace Copydesk.Markup

/-- One placeholder for each byte; a newline stays. -/
def blankChar (c : Char) : Text := if c = '\n' then ['\n'] else List.replicate c.utf8Size '*'

def blank (t : Text) : Text := t.flatMap blankChar

theorem size_blank (t : Text) : Text.size (blank t) = Text.size t := by
  have stars : ∀ n, Text.size (List.replicate n '*') = n := by
    intro n
    induction n with
    | zero => rfl
    | succ n ih =>
      simp only [List.replicate_succ, Text.size, ih, show '*'.utf8Size = 1 from rfl]
      omega
  induction t with
  | nil => rfl
  | cons c t ih =>
    have : Text.size (blankChar c) = c.utf8Size := by
      unfold blankChar
      split
      · rename_i h; simp [h, Text.size]
      · exact stars _
    simp only [blank, List.flatMap_cons, Text.size_append, Text.size, this]
    exact congrArg _ ih

def blankGroup (r : Regex) (group : Nat) (t : Text) : Text :=
  Regex.splice t ((r.findAll t).filterMap fun m =>
    (m.group? group).map fun (a, b) => (a, b, blank (Text.slice t a b)))

def fenceInfo : Regex :=
  .ofString "(?m)^([ \\t>]*(?:\x60\x7b3,\x7d|~\x7b3,\x7d))([^\x60\\n][^\\n]*)$"

def linkReference : Regex := .ofString "\\]\\[([^\\]\\n]+)\\]"

def linkDefinition : Regex := .ofString "\\[([^\\]\\n]+)\\]:"

def numberedItem : Regex := .ofString "(?m)^([ \\t]*)(\\d+\\.)"

def sourceAttribute : Regex := .ofString "\\[source,([^\\]\\n]*)\\]"

def lineComment : Regex := .ofString "(?m)^([ \\t]*// )(.+)$"

def tag : Regex := .ofString "<[^>]*>"

/-- Hides fence info strings, link references and definitions, and list numbers. -/
def neutralizeMarkdown (t : Text) : Text :=
  blankGroup numberedItem 2 <| blankGroup linkDefinition 1 <| blankGroup linkReference 1 <|
    blankGroup fenceInfo 2 t

/-- Hides source attributes and line comments. -/
def neutralizeAsciidoc (t : Text) : Text :=
  blankGroup lineComment 2 (blankGroup sourceAttribute 1 t)

/-- Hides tags, so that attribute values never receive a match. -/
def neutralizeHtml (t : Text) : Text := blankGroup tag 0 t

/-- The content before the first maximal run of exactly `n` backticks, and what follows the run. -/
def closingRun? (n : Nat) : Nat → Text → Option (Text × Text)
  | 0, _ => none
  | _, [] => none
  | fuel + 1, c :: t =>
    if c = '\x60' then
      let run := (c :: t).takeWhile (· == '\x60')
      let rest := (c :: t).drop run.length
      if run.length = n then some ([], rest)
      else (closingRun? n fuel rest).map fun (a, b) => (run ++ a, b)
    else (closingRun? n fuel t).map fun (a, b) => (c :: a, b)

def maskSpans : Nat → Text → Text
  | 0, t => t
  | _, [] => []
  | fuel + 1, c :: t =>
    if c = '\x60' then
      let run := (c :: t).takeWhile (· == '\x60')
      let rest := (c :: t).drop run.length
      match closingRun? run.length rest.length rest with
      | some (content, after) => run ++ blank content ++ run ++ maskSpans fuel after
      | none => run ++ maskSpans fuel rest
    else c :: maskSpans fuel t

/-- Hides the contents of the code spans of one line. -/
def maskInlineCode (line : Text) : Text := maskSpans line.length line

structure Fence where
  mark : Char
  length : Nat
  deriving DecidableEq, Repr

/-- The run of fence characters that a line begins with, and what follows it. -/
def leadingRun? (line : Text) : Option (Fence × Text) :=
  match line.dropWhile fun c => c == ' ' || c == '\t' || c == '>' with
  | [] => none
  | m :: t =>
    if m = '\x60' ∨ m = '~' then
      let run := (m :: t).takeWhile (· == m)
      some (⟨m, run.length⟩, (m :: t).drop run.length)
    else none

def Fence.closedBy (f : Fence) (line : Text) : Bool :=
  match leadingRun? line with
  | some (run, rest) => run.mark == f.mark && f.length ≤ run.length && Text.isBlank rest
  | none => false

def openedBy? (line : Text) : Option Fence :=
  (leadingRun? line).bind fun (run, _) => if 3 ≤ run.length then some run else none

/-- One line and the fence that is open before it: the masked line and the fence open after. -/
def maskLine (fence : Option Fence) (line : Text) : Text × Option Fence :=
  match fence with
  | some f => if f.closedBy line then (line, none) else (blank line, some f)
  | none => match openedBy? line with
    | some f => (line, some f)
    | none => (maskInlineCode line, none)

def maskLines : Option Fence → List Text → Text
  | _, [] => []
  | fence, l :: ls =>
    let (masked, fence') := maskLine fence l
    masked ++ maskLines fence' ls

/-- Hides fenced blocks and code spans. -/
def maskCode (t : Text) : Text := maskLines none (Text.linesInclusive t)

/-- The masked source in which alerts of a rendered format are searched for. -/
def searchable (f : Format) (t : Text) : Text :=
  match f with
  | .markdown | .mdx => maskCode (neutralizeMarkdown t)
  | .asciidoc => neutralizeAsciidoc t
  | .html => neutralizeHtml t
  | _ => t

/-- Writes typographic quotes and their references in one way. -/
def straightenQuotes (t : Text) : Text :=
  let t := Text.replace "\u2018" "&apos;" (Text.replace "\u2019" "&apos;" t)
  let t := Text.replace "\u201d" "&#8221;" (Text.replace "\u201c" "&#8220;" t)
  Text.replace "&rsquo;" "&apos;" (Text.replace "&#8217;" "&apos;" t)

/-- The marker of the front matter that a document begins with. -/
def frontMatterMarker? (t : Text) : Option Text :=
  ["---".toList, "+++".toList].find? fun (m : Text) =>
    Text.startsWith t (m ++ ['\n']) || Text.startsWith t (m ++ ['\r', '\n'])

def fenceMarker : Text := ['\x60', '\x60', '\x60']

/-- Rewrites the first line that is the marker, apart from blanks at its end. -/
def closeFrontMatter? (marker : Text) : List Text → Option Text
  | [] => none
  | l :: ls =>
    if Text.trimEnd l = marker then some (fenceMarker ++ l.drop marker.length ++ ls.flatten)
    else (closeFrontMatter? marker ls).map (l ++ ·)

/-- Turns leading front matter into a fenced block of the same size; unclosed, it is no front
matter. -/
def fenceFrontMatter (t : Text) : Text :=
  ((frontMatterMarker? t).bind fun marker => match Text.linesInclusive t with
    | [] => none
    | first :: ls =>
      (closeFrontMatter? marker ls).map (fenceMarker ++ first.drop marker.length ++ ·)).getD t

end Copydesk.Markup
