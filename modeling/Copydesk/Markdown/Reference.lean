import Copydesk.Html.Entity
import Copydesk.Html.NamedCharacter
import Copydesk.Markdown.Line

/-! Links: destinations, titles, labels and the definitions that labels refer to. -/

namespace Copydesk.Markdown

def takeNumber? (base limit : Nat) (t : Text) : Option (Nat × Text) :=
  let digits := (t.take limit).takeWhile fun c => (Html.digit? base c).isSome
  (Html.number? base digits).map fun n => (n, t.drop digits.length)

def closeNumber? (number : Option (Nat × Text)) : Option (Text × Text) :=
  match number with
  | some (n, ';' :: rest) =>
    (Html.scalar? (if n = 0 then 0xFFFD else n)).map fun c => ([c], rest)
  | _ => none

def reference? (t : Text) : Option (Text × Text) :=
  match t with
  | '&' :: '#' :: 'x' :: t => closeNumber? (takeNumber? 16 6 t)
  | '&' :: '#' :: 'X' :: t => closeNumber? (takeNumber? 16 6 t)
  | '&' :: '#' :: t => closeNumber? (takeNumber? 10 7 t)
  | '&' :: t =>
    let name := t.takeWhile Char.isAlphanum
    match t.drop name.length with
    | ';' :: rest => (Html.namedCharacter? name).map fun value => (value, rest)
    | _ => none
  | _ => none

def unescapeFrom : Nat → Text → Text
  | 0, t => t
  | _, [] => []
  | fuel + 1, c :: t =>
    match c, t with
    | '\\', p :: rest =>
      if isAsciiPunctuation p then p :: unescapeFrom fuel rest else c :: unescapeFrom fuel t
    | '&', _ =>
      match reference? (c :: t) with
      | some (value, rest) => value ++ unescapeFrom fuel rest
      | none => c :: unescapeFrom fuel t
    | _, _ => c :: unescapeFrom fuel t

def unescape (t : Text) : Text := unescapeFrom t.length t

/-- What a label refers to. -/
structure Definition where
  destination : Text
  title : Text := []
  deriving DecidableEq, Repr

def pointedDestination? : Text → Option (Text × Text)
  | [] => none
  | '\\' :: p :: t =>
    if isAsciiPunctuation p then
      (pointedDestination? t).map fun (d, rest) => ('\\' :: p :: d, rest)
    else (pointedDestination? (p :: t)).map fun (d, rest) => ('\\' :: d, rest)
  | '>' :: t => some ([], t)
  | c :: t =>
    if c = '\n' || c = '<' then none
    else (pointedDestination? t).map fun (d, rest) => (c :: d, rest)

/-- A raw destination up to white space or a parenthesis that closes none of its own; more open
parentheses than `limit` allows are refused. -/
def bareDestination? (limit : Nat) : Nat → Text → Option (Text × Text)
  | depth, [] => if depth = 0 then some ([], []) else none
  | depth, '\\' :: p :: t =>
    if isAsciiPunctuation p then
      (bareDestination? limit depth t).map fun (d, rest) => ('\\' :: p :: d, rest)
    else (bareDestination? limit depth (p :: t)).map fun (d, rest) => ('\\' :: d, rest)
  | depth, c :: t =>
    if c ≤ ' ' || (c = ')' && depth = 0) then
      if depth = 0 then some ([], c :: t) else none
    else if c = '(' && limit < depth then none
    else
      let depth := if c = '(' then depth + 1 else if c = ')' then depth - 1 else depth
      (bareDestination? limit depth t).map fun (d, rest) => (c :: d, rest)

/-- A raw destination; one without angle brackets may be empty. -/
def destination? (limit : Nat) (t : Text) : Option (Text × Text) :=
  match t with
  | '<' :: t => pointedDestination? t
  | t => bareDestination? limit 0 t

def titleEnd? : Char → Option Char
  | '"' => some '"'
  | '\'' => some '\''
  | '(' => some ')'
  | _ => none

def rawTitleFrom (stop : Char) : Text → Option (Text × Text)
  | [] => none
  | '\\' :: p :: t => (rawTitleFrom stop t).map fun (d, rest) => ('\\' :: p :: d, rest)
  | c :: t =>
    if c = stop then some ([], t)
    else (rawTitleFrom stop t).map fun (d, rest) => (c :: d, rest)

def rawTitle? (t : Text) : Option (Text × Text) :=
  match t with
  | [] => none
  | c :: t => (titleEnd? c).bind fun stop => rawTitleFrom stop t

/-- Reads a label up to its closing bracket, with runs of white space as single spaces. -/
def labelFrom (breaks : Bool) : Nat → Text → Option (Text × Text)
  | 0, _ => none
  | _, [] => none
  | fuel + 1, c :: t =>
    if c = '[' then none
    else if c = ']' then some ([], t)
    else if c = '\\' then
      match t with
      | [] => none
      | p :: t => (labelFrom breaks fuel t).map fun (l, rest) => (c :: p :: l, rest)
    else if isWhite c then
      let run := c :: t.takeWhile isWhite
      let limit := if breaks then 1 else 0
      if limit < run.count '\n' then none
      else (labelFrom breaks fuel (t.dropWhile isWhite)).map fun (l, rest) => (' ' :: l, rest)
    else (labelFrom breaks fuel t).map fun (l, rest) => (c :: l, rest)

def labelLimit : Nat := 1000

/-- A label whose opening bracket has been taken; it holds more than white space. -/
def label? (breaks : Bool) (t : Text) : Option (Text × Text) :=
  (labelFrom breaks labelLimit t).filter fun (l, _) => !l.all isWhite

/-- The label of a footnote, as in `[^label]`; it lies on one line. -/
def noteLabel? (t : Text) : Option (Text × Text) :=
  match t with
  | '[' :: '^' :: t => label? false t
  | _ => none

/-- The label of a footnote definition, as in `[^label]:`, and the text of the definition. -/
def noteDefinition? (t : Text) : Option (Text × Text) :=
  match noteLabel? t with
  | some (l, ':' :: rest) => some (l, rest)
  | _ => none

/-- Labels are compared without regard to case. -/
def foldLabel (t : Text) : Text := Text.toLower (Text.toUpper (Text.toLower t))

/-- Skips white space with at most one line break; tells whether there was one. The text has to go
on. -/
def skipBreak? (seen : Bool) : Text → Option (Bool × Text)
  | [] => none
  | c :: t =>
    if isBlank c then skipBreak? seen t
    else if c = '\n' then if seen then none else skipBreak? true t
    else some (seen, c :: t)

/-- The title of a definition with what follows its line. -/
def definitionTitle? (t : Text) : Option (Text × Text) := do
  let (title, rest) ← rawTitle? t
  if isBlankLine rest then return (unescape title, rest) else none

/-- The definition that a text begins with, as in `[label]: destination "title"`. A title that does
not end its line makes no definition, unless it stands on a line of its own, which then follows. -/
def definition? (t : Text) : Option (Text × Definition × Text) := do
  match t with
  | '[' :: t =>
    match ← label? true t with
    | (label, ':' :: t) =>
      let (_, t) ← skipBreak? false t
      let (raw, rest) ← destination? 1 t
      if raw.isEmpty && t.head? != some '<' then none
      let bare : Definition := { destination := unescape raw }
      match skipBreak? false rest with
      | none => return (label, bare, rest)
      | some (onNewLine, after) =>
        if !onNewLine && after.length = rest.length then none
        match definitionTitle? after with
        | some (title, rest) => return (label, { bare with title }, rest)
        | none => if onNewLine then return (label, bare, rest) else none
    | _ => none
  | _ => none

end Copydesk.Markdown
