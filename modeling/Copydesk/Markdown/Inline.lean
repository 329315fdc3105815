import Copydesk.Markdown.Emphasis
import Copydesk.Markdown.Reference
import Copydesk.Markdown.Tag

/-! Running text: code, links, images, HTML, line breaks and emphasis. -/

namespace Copydesk.Markdown

def isSpecial (c : Char) : Bool :=
  c == '\n' || c == '\\' || c == '*' || c == '_' || c == '~' || c == '\u0060' || c == '<'
    || c == '!' || c == '[' || c == ']' || c == '&'

/-- The text before the next run of exactly `n` backticks, and what follows that run. -/
def cutAtBackticks? (n : Nat) : Nat → Text → Option (Text × Text)
  | 0, _ => none
  | _, [] => none
  | fuel + 1, c :: t =>
    if c = '\u0060' then
      let run := countLeading c (c :: t)
      let rest := (c :: t).drop run
      if run = n then some ([], rest)
      else (cutAtBackticks? n fuel rest).map fun (code, rest) =>
        (List.replicate run c ++ code, rest)
    else (cutAtBackticks? n fuel t).map fun (code, rest) => (c :: code, rest)

/-- Code without one space at each end, unless it is all spaces; line breaks count as spaces. -/
def codeContent (t : Text) : Text :=
  let t := t.map fun c => if c = '\n' then ' ' else c
  if t.head? == some ' ' && t.getLast? == some ' ' && t.any (· != ' ') then t.tail.dropLast
  else t

def codeSpan? (n : Nat) (t : Text) : Option (Inline × Text) :=
  (cutAtBackticks? n (t.length + 1) t).map fun (code, rest) => (.code (codeContent code), rest)

def isSchemeChar (c : Char) : Bool := c.isAlphanum || c == '.' || c == '-' || c == '+'

/-- A URI between angle brackets, of which the first has been taken. -/
def autolink? (t : Text) : Option (Text × Text) :=
  let scheme := t.takeWhile isSchemeChar
  let body := t.drop scheme.length
  let path := body.takeWhile fun c => ' ' < c && c != '<' && c != '>'
  match body.head?, body.drop path.length with
  | some ':', '>' :: rest =>
    if t.head?.any Char.isAlpha && 2 ≤ scheme.length && scheme.length ≤ 32 then
      some (scheme ++ path, rest)
    else none
  | _, _ => none

def isMailChar (c : Char) : Bool :=
  c.isAlphanum || ".!#$%&'*+/=?^_\u0060\x7b|\x7d~-".toList.any (· == c)

def isDomainLabel (t : Text) : Bool :=
  1 ≤ t.length && t.length ≤ 63 && t.head? != some '-' && t.getLast? != some '-'
    && t.all fun c => c.isAlphanum || c == '-'

/-- An address between angle brackets, of which the first has been taken. -/
def mailAddress? (t : Text) : Option (Text × Text) :=
  let user := t.takeWhile isMailChar
  match t.drop user.length with
  | '@' :: after =>
    let domain := after.takeWhile fun c => c.isAlphanum || c == '-' || c == '.'
    match after.drop domain.length with
    | '>' :: rest =>
      if !user.isEmpty && (Text.splitOn '.' domain).all isDomainLabel then
        some (user ++ '@' :: domain, rest)
      else none
    | _ => none
  | _ => none

/-- White space around the parts of a link, with at most one line break. -/
def skipSeparator (t : Text) : Text :=
  match t.dropWhile isBlank with
  | '\n' :: t => t.dropWhile isBlank
  | t => t

def titleFrom (start stop : Char) : Nat → Text → Option (Text × Text)
  | 0, _ => none
  | _, [] => none
  | fuel + 1, c :: t =>
    if c = stop then some ([], t)
    else if c = start then none
    else match c, t with
    | '\n', _ => (titleFrom start stop fuel (t.dropWhile isBlank)).map (prepend ['\n'])
    | '&', _ =>
      match reference? (c :: t) with
      | some (value, rest) => (titleFrom start stop fuel rest).map (prepend value)
      | none => (titleFrom start stop fuel t).map (prepend [c])
    | '\\', p :: rest =>
      if isAsciiPunctuation p then (titleFrom start stop fuel rest).map (prepend [p])
      else (titleFrom start stop fuel t).map (prepend [c])
    | _, _ => (titleFrom start stop fuel t).map (prepend [c])
where
  prepend (p : Text) (r : Text × Text) : Text × Text := (p ++ r.1, r.2)

def title? (t : Text) : Option (Text × Text) :=
  match t with
  | [] => none
  | c :: rest => (titleEnd? c).bind fun stop => titleFrom c stop (rest.length + 1) rest

/-- The parentheses open at once in a destination, above one. -/
def nestingLimit : Nat := 5

/-- The destination and title in parentheses after a link's text. -/
def linkTarget? : Text → Option (Definition × Text)
  | '(' :: t => do
    let (raw, t) ← destination? nestingLimit (skipSeparator t)
    let t := skipSeparator t
    let (title, t) := match title? t with
      | some (title, t) => (title, skipSeparator t)
      | none => ([], t)
    match t with
    | ')' :: rest => return ({ destination := unescape raw, title }, rest)
    | _ => none
  | _ => none

structure Labels where
  definitions : List (Text × Definition)
  notes : List Text

def Labels.definition? (l : Labels) (label : Text) : Option Definition :=
  l.definitions.lookup (foldLabel label)

def Labels.hasNote (l : Labels) (label : Text) : Bool :=
  l.notes.any fun n => foldLabel n == foldLabel label

structure Bracket where
  isImage : Bool
  /-- Links hold no links. -/
  isDisabled : Bool := false
  /-- The source after the bracket. -/
  source : Text
  /-- What came before it, last first. -/
  before : List Piece

def Bracket.mark (b : Bracket) : Text := if b.isImage then ['!', '['] else ['[']

structure Reading where
  /-- What follows the innermost open bracket, last first. -/
  pieces : List Piece := []
  brackets : List Bracket := []
  /-- Closing brackets that are no references, by the number of characters after them. -/
  refused : List Nat := []

namespace Reading

def add (r : Reading) (i : Inline) : Reading := { r with pieces := .node i :: r.pieces }

def addText (r : Reading) (t : Text) : Reading := if t.isEmpty then r else r.add (.text t)

def openBracket (r : Reading) (isImage : Bool) (source : Text) : Reading :=
  { r with pieces := [], brackets := { isImage, source, before := r.pieces } :: r.brackets }

def unbracket (r : Reading) (b : Bracket) : Reading :=
  { r with pieces := r.pieces ++ .node (.text b.mark) :: b.before }

def unbracketAll (r : Reading) : Reading :=
  { r.brackets.foldl unbracket r with brackets := [] }

def disableLinks (r : Reading) : Reading :=
  { r with
    brackets := r.brackets.map fun b => if b.isImage then b else { b with isDisabled := true } }

def link (r : Reading) (b : Bracket) (d : Definition) : Reading :=
  let body := pairRuns r.pieces.reverse
  if b.isImage then { r with pieces := .node (.image d.destination d.title body) :: b.before }
  else
    { r with pieces := .node (.link d.destination d.title body) :: b.before }.disableLinks

inductive Target
  /-- By a label that follows it. -/
  | full (label rest : Text)
  /-- By itself, with or without empty brackets after it. -/
  | own (rest : Text)

def target (after : Text) : Target :=
  match after with
  | '[' :: ']' :: rest => .own rest
  | '[' :: t =>
    if (noteLabel? after).isSome then .own after
    else match label? true t with
      | some (label, rest) => .full label rest
      | none => .own after
  | _ => .own after

def ownLabel? (b : Bracket) (after : Text) : Option Text :=
  match label? true b.source with
  | some (label, rest) => if rest.length = after.length then some label else none
  | none => none

def ownNote? (b : Bracket) (after : Text) : Option Text :=
  match noteLabel? ('[' :: b.source) with
  | some (label, rest) => if rest.length = after.length then some label else none
  | none => none

def closeOwn (labels : Labels) (r : Reading) (b : Bracket) (after rest : Text) :
    Reading × Text :=
  let refused := ((r.unbracket b).addText [']'], after)
  if r.refused.contains after.length then refused
  else match ownNote? b after with
  | some label =>
    if labels.hasNote label then
      let r := { r with pieces := b.before }
      (((if b.isImage then r.addText ['!'] else r).unbracketAll).add (.note label), after)
    else refused
  | none => match (ownLabel? b after).bind labels.definition? with
    | some d => (r.link b d, rest)
    | none => refused

def closeBracket (labels : Labels) (r : Reading) (after : Text) : Reading × Text :=
  match r.brackets with
  | [] => (r.addText [']'], after)
  | b :: bs =>
    let r := { r with brackets := bs }
    if b.isDisabled then ((r.unbracket b).addText [']'], after)
    else match linkTarget? after with
    | some (d, rest) => (r.link b d, rest)
    | none => match target after with
    | .own rest => r.closeOwn labels b after rest
    | .full label rest => match labels.definition? label with
      | some d => (r.link b d, rest)
      | none =>
        (({ r with refused := rest.length :: r.refused }.unbracket b).addText [']'], after)

/-- Reads backticks after a backslash, which hides the first of them. -/
def escapedBackticks (r : Reading) (t : Text) : Reading × Text :=
  let run := countLeading '\u0060' t
  let rest := t.drop run
  match if run = 1 then none else codeSpan? (run - 1) rest with
  | some (code, rest) => ((r.addText ['\u0060']).add code, rest)
  | none => (r.addText (t.take run), rest)

def backslash (r : Reading) (t : Text) : Reading × Text :=
  match t with
  | '\n' :: rest => (r.add .hardBreak, rest.dropWhile isBlank)
  | '\u0060' :: _ => r.escapedBackticks t
  | p :: rest =>
    if isAsciiPunctuation p then (r.addText [p], rest) else (r.addText ['\\'], t)
  | [] => (r.addText ['\\'], t)

def backticks (r : Reading) (t : Text) : Reading × Text :=
  let run := countLeading '\u0060' t
  let rest := t.drop run
  match codeSpan? run rest with
  | some (code, rest) => (r.add code, rest)
  | none => (r.addText (t.take run), rest)

def angle (r : Reading) (t : Text) : Reading × Text :=
  let inner := t.drop 1
  match autolink? inner with
  | some (uri, rest) => (r.add (.link uri [] [.text uri]), rest)
  | none => match mailAddress? inner with
  | some (address, rest) =>
    (r.add (.link ("mailto:".toList ++ address) [] [.text address]), rest)
  | none => match afterHtml? t with
  | some rest => (r.add (.html (t.take (t.length - rest.length))), rest)
  | none => (r.addText ['<'], inner)

def emphasisRun (r : Reading) (before : Option Char) (c : Char) (t : Text) : Reading × Text :=
  let n := countLeading c t
  let rest := t.drop n
  let run := Run.ofContext c n before rest.head?
  (if run.isActive then { r with pieces := .run run :: r.pieces } else r.addText (t.take n), rest)

/-- Reads text up to a line break; two blanks at its end make the break a hard one. -/
def lineEnd (r : Reading) (line : Text) : Reading :=
  let kept := Text.dropEndWhile isBlank line
  if kept.length + 2 ≤ line.length then (r.addText kept).add .hardBreak
  else (r.addText line).add .softBreak

def special (labels : Labels) (r : Reading) (before : Option Char) (t : Text) : Reading × Text :=
  match t with
  | '\\' :: rest => r.backslash rest
  | '\u0060' :: _ => r.backticks t
  | '<' :: _ => r.angle t
  | '!' :: '[' :: rest => (r.openBracket true rest, rest)
  | '[' :: rest => (r.openBracket false rest, rest)
  | ']' :: rest => r.closeBracket labels rest
  | '&' :: rest => match reference? t with
    | some (value, after) => (r.addText value, after)
    | none => (r.addText ['&'], rest)
  | c :: rest =>
    if c = '*' || c = '_' || c = '~' then r.emphasisRun before c t else (r.addText [c], rest)
  | [] => (r, [])

def lastRead? (t rest : Text) (before : Option Char) : Option Char :=
  ((t.take (t.length - rest.length)).getLast?).or before

def read (labels : Labels) : Nat → Reading → Option Char → Text → Reading
  | 0, r, _, _ => r
  | _, r, _, [] => r
  | fuel + 1, r, before, t =>
    let plain := t.takeWhile (!isSpecial ·)
    match t.drop plain.length with
    | [] => r.addText plain
    | '\n' :: rest => read labels fuel (r.lineEnd plain) (some '\n') (rest.dropWhile isBlank)
    | rest =>
      let before := (plain.getLast?).or before
      let (r, after) := (r.addText plain).special labels before rest
      read labels fuel r (lastRead? rest after before) after

end Reading

def readInline (labels : Labels) (t : Text) : List Inline :=
  pairRuns (Reading.read labels (t.length + 1) {} none t).unbracketAll.pieces.reverse

end Copydesk.Markdown
