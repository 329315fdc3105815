import Copydesk.Markdown.Reference
import Copydesk.Markdown.Table
import Copydesk.Markdown.Tag

/-! The blocks of a Markdown document, read line by line. Blocks that hold others are kept on a
stack; each line continues some of them, closes the rest and may open new ones. -/

namespace Copydesk.Markdown

inductive Block
  /-- A box at the beginning of a list item belongs to the item's first paragraph. -/
  | paragraph (task : Option Bool) (source : Text)
  | heading (level : Nat) (task : Option Bool) (source : Text)
  /-- A box in a list item that is otherwise empty. -/
  | task (checked : Bool)
  | code (info : Option Text) (content : Text)
  | html (content : Text)
  | rule
  | table (columns : List Alignment) (head : List Text) (rows : List (List Text))
  | quote (body : List Block)
  /-- Paragraphs of a tight list are not set apart. -/
  | list (mark : ListMark) (tight : Bool) (items : List Block)
  | item (body : List Block)
  | note (label : Text) (body : List Block)
  deriving Repr

inductive Container
  | quote
  | list (mark : ListMark) (tight : Bool)
  /-- The lines of an item are indented by some columns. -/
  | item (indent : Nat)
  | note (label : Text)
  deriving DecidableEq, Repr

def Container.isList : Container → Bool
  | list .. => true
  | _ => false

def Container.isItem : Container → Bool
  | item _ => true
  | _ => false

/-- What a line has to begin with to continue a container. -/
def Container.continue? (c : Cursor) : Container → Option Cursor
  | quote => (c.take 3).2.quote?
  | list .. => some c
  | item indent => continueIndented indent
  | note _ => continueIndented 4
where
  continueIndented (n : Nat) : Option Cursor :=
    let (taken, c') := c.take n
    if taken = n || c'.atEnd then some c' else none

structure Frame where
  container : Container
  blocks : List Block := []
  deriving Repr

def Frame.close (f : Frame) : Block :=
  let body := f.blocks.reverse
  match f.container with
  | .quote => .quote body
  | .list mark tight => .list mark tight body
  | .item _ => .item body
  | .note label => .note label body

inductive Leaf
  | paragraph (task : Option Bool) (source : Text)
  | indented (content : Text)
  | fenced (fence : Fence) (indent : Nat) (info content : Text)
  | html (stop : HtmlEnd) (content : Text)
  | table (columns : List Alignment) (head : List Text) (rows : List (List Text))
  deriving Repr

structure State where
  /-- Open containers, innermost first. -/
  frames : List Frame := []
  /-- Closed blocks outside of all containers, last first. -/
  blocks : List Block := []
  leaf : Option Leaf := none
  /-- Whether a blank line came last that may make a list loose. -/
  lastBlank : Bool := false
  /-- Whether a list item has begun with a blank line. -/
  emptyItem : Bool := false
  /-- A box that waits for its paragraph. -/
  task : Option Bool := none
  definitions : List (Text × Definition) := []
  /-- Labels of footnotes. -/
  notes : List Text := []
  /-- Lines to come that have been read already. -/
  taken : Nat := 0
  deriving Repr

namespace State

def add (s : State) (b : Block) : State :=
  match s.frames with
  | [] => { s with blocks := b :: s.blocks }
  | f :: fs => { s with frames := { f with blocks := b :: f.blocks } :: fs }

def pop (s : State) : State :=
  match s.frames with
  | [] => s
  | f :: fs =>
    let s := if f.container matches .list _ true then { s with emptyItem := false } else s
    { s with frames := fs }.add f.close

def popTimes : Nat → State → State
  | 0, s => s
  | n + 1, s => popTimes n s.pop

def push (s : State) (c : Container) : State := { s with frames := ⟨c, []⟩ :: s.frames }

def top? (s : State) : Option Container := s.frames.head?.map Frame.container

def paragraphText (source : Text) : Text :=
  match source.getLast? with
  | some '\n' =>
    let body := source.dropLast
    let trimmed := Text.dropEndWhile isBlank body
    if trimmed.length + 2 ≤ body.length then trimmed else body
  | _ => source

/-- Content of indented code without the blank lines at its end. -/
def codeText (content : Text) : Text :=
  let lines := Text.linesInclusive content
  ((lines.reverse.dropWhile isBlankLine).reverse).flatten

def Leaf.close : Leaf → Block
  | .paragraph task source => .paragraph task (paragraphText source)
  | .indented content => .code none (codeText content)
  | .fenced _ _ info content => .code (some info) content
  | .html _ content => .html content
  | .table columns head rows => .table columns head rows.reverse

def closeLeaf (s : State) : State :=
  match s.leaf with
  | none => s
  | some l => { s with leaf := none }.add (Leaf.close l)

def loosen (s : State) : State :=
  match s.frames with
  | f :: ⟨.list mark _, items⟩ :: fs =>
    { s with frames := f :: ⟨.list mark false, items⟩ :: fs }
  | _ => s

/-- An item can begin with at most one blank line. -/
def finishEmptyItem (s : State) : State :=
  let s := if s.emptyItem && s.lastBlank && s.top?.any Container.isItem then s.pop else s
  { s with emptyItem := false }

/-- Closes a list that the line does not continue, and records that a blank line came before. -/
def finishList (s : State) : State :=
  let s := s.finishEmptyItem
  let s := if s.top?.any Container.isList then s.pop else s
  if s.lastBlank then { s.loosen with lastBlank := false } else s

/-- Continues the innermost list, if its delimiter is the same, or begins a new one. -/
def continueList (s : State) (mark : ListMark) : State :=
  let s := s.finishEmptyItem
  let begin' (s : State) : State := { s.push (.list mark true) with lastBlank := false }
  match s.frames with
  | ⟨.list old tight, items⟩ :: fs =>
    if old.delimiter = mark.delimiter then
      { s with frames := ⟨.list old (tight && !s.lastBlank), items⟩ :: fs, lastBlank := false }
    else begin' s.finishList
  | [] => begin' s
  | _ => begin' s.finishList

/-- How many of the open containers a line continues, and its rest. -/
def matchLine (s : State) (line : Text) : Nat × Cursor :=
  go { rest := line } (s.frames.reverse.map Frame.container)
where
  go (c : Cursor) : List Container → Nat × Cursor
    | [] => (0, c)
    | f :: fs => match f.continue? c with
      | none => (0, c)
      | some c =>
        let (n, c) := go c fs
        (n + 1, c)

def beginNote (s : State) (label : Text) : State :=
  let s := s.finishList
  let s := match s.top? with
    | some (.note _) => s.pop
    | _ => s
  { s with notes := label :: s.notes }.push (.note label)

/-- Opens the containers that a line begins. Answers no rest when the line holds nothing else. -/
def openContainers : Nat → State → Cursor → State × Option Cursor
  | 0, s, c => (s, some c)
  | fuel + 1, s, c =>
    let (indent, inner) := c.take 4
    if 4 ≤ indent then (s, some c)
    else match noteDefinition? inner.rest with
    | some (label, rest) =>
      openContainers fuel (s.beginNote label) { rest := rest.dropWhile isBlank }
    | none => match inner.listItem? indent with
    | some (mark, column, content) =>
      let s := (s.continueList mark).push (.item column)
      if isBlankLine content.rest then ({ s with emptyItem := true }, none)
      else match content.taskBox? with
      | none => openContainers fuel s content
      | some (checked, rest) =>
        if isBlankLine rest.rest then ({ s.add (.task checked) with emptyItem := true }, none)
        else openContainers fuel { s with task := some checked } rest
    | none => match inner.quote? with
    | some rest => openContainers fuel (s.finishList.push .quote) rest
    | none => (s, some c)

/-- Whether a list item interrupts a paragraph. A number has to be one, and the item must not be
empty, unless the line begins outside of the paragraph's container or within a table. -/
def itemInterrupts (inside : Bool) (t : Text) (next : List Text) : Bool :=
  match ListMark.ofText? t with
  | none => false
  | some (mark, after) =>
    let separated := after.head?.all fun c => c == ' ' || c == '\t' || c == '\n'
    let empty := isBlankLine after && next.head?.all isBlankLine
    separated && (!inside || ((mark.isBullet || mark.start == 1) && !empty))

/-- Whether a line begins a block other than a table. -/
def interrupts (inside : Bool) (t : Text) (next : List Text) : Bool :=
  t.isEmpty || t.head? == some '\n' || isRule t || (headingLevel? t).isSome || (fence? t).isSome
    || t.head? == some '>' || itemInterrupts inside t next || (interruptingHtml? t).isSome
    || (noteDefinition? t).isSome

/-- Whether a line is the header of a table, which the next line confirms. -/
def tableInterrupts (s : State) (t : Text) (next : List Text) : Bool :=
  t.head? == some '|' && t.any (· == '\n') && match next with
    | [] => false
    | line :: _ =>
      let (n, c) := s.matchLine line
      n == s.frames.length
        && (delimiterRow? c).any fun columns => columns.length == headerColumns t

/-- Whether a line ends a paragraph, where `inside` tells that it continues all containers. -/
def endsParagraph (s : State) (inside : Bool) (t : Text) (next : List Text) : Bool :=
  interrupts inside t next || s.tableInterrupts t next

/-- The text of the lines that a paragraph would go on with. -/
def following (s : State) : List Text → Text
  | [] => []
  | line :: next =>
    let (n, c) := s.matchLine line
    let (indent, inner) := c.take 4
    if isBlankLine inner.rest then []
    else if indent < 4 && (s.endsParagraph (n == s.frames.length) inner.rest next
        || (underlineLevel? inner.rest).isSome) then []
    else c.rest ++ following s next

def openFence (f : Fence) (indent : Nat) (t : Text) : Leaf :=
  let info := ((t.drop f.length).takeWhile (· != '\n')).dropWhile isBlank
  .fenced f indent (unescape (Text.dropEndWhile isWhite info)) []

/-- The text of a heading without the number signs at its end. -/
def headingText (t : Text) : Text :=
  let body := Text.dropEndWhile (fun c => c == ' ') (t.dropWhile isBlank)
  let open' := Text.dropEndWhile (· == '#') body
  if open'.isEmpty then []
  else if open'.getLast? == some ' ' then Text.dropEndWhile (· == ' ') open' else body

def heading (level : Nat) (t : Text) : Block :=
  .heading level none (headingText ((t.drop level).takeWhile (· != '\n')))

def HtmlEnd.reachedBy (line : Text) : HtmlEnd → Bool
  | .mark m => Text.contains line m
  | .blankLine => false

def openParagraph (s : State) (t : Text) : State :=
  { s with leaf := some (.paragraph s.task t), task := none }

def openHtml (s : State) (stop : HtmlEnd) (line : Text) : State :=
  let s := { s with leaf := some (.html stop line) }
  if HtmlEnd.reachedBy line stop then s.closeLeaf else s

/-- Records a definition; the first one of a label counts. -/
def define (s : State) (label : Text) (d : Definition) : State :=
  { s with definitions := s.definitions ++ [(foldLabel label, d)] }

def openText (s : State) (t : Text) (next : List Text) : State :=
  -- a definition may go on over several lines
  let source := if t.head? == some '[' then t ++ s.following next else []
  match definition? source with
  | none => s.openParagraph t
  | some (label, d, rest) =>
    let read := (source.take (source.length - rest.length)).count '\n'
    { s.define label d with taken := read }

def openLeaf (s : State) (c : Cursor) (next : List Text) : State :=
  let (indent, inner) := c.take 4
  let t := inner.rest
  if indent = 4 then { s with leaf := some (.indented inner.text), lastBlank := false }
  else match htmlBlock? t with
  | some stop => s.openHtml stop (List.replicate (Nat.max c.spare indent) ' ' ++ t)
  | none =>
    if isRule t then s.add .rule
    else match headingLevel? t with
    | some level => s.add (heading level t)
    | none => match fence? t with
    | some f => { s with leaf := some (openFence f indent t) }
    | none => s.openText t next

/-- Records a blank line. Block quotes pay no heed to those at their end. -/
def skipBlankLine (s : State) : State :=
  if s.top? == some .quote then s else { s with lastBlank := true }

def openLine (s : State) (line : Text) (next : List Text) : State :=
  let (n, c) := s.matchLine line
  let s := popTimes (s.frames.length - n) s
  match openContainers (line.length + 1) s c with
  | (s, none) => s
  | (s, some c) => if isBlankLine c.rest then s.skipBlankLine else s.finishList.openLeaf c next

def closeBefore (s : State) (line : Text) (next : List Text) : State :=
  s.closeLeaf.openLine line next

/-- Lets a line continue a paragraph, make it a heading or a table, or end it. -/
def continueParagraph (s : State) (task : Option Bool) (source line : Text)
    (next : List Text) : State :=
  let (n, c) := s.matchLine line
  let inside := n == s.frames.length
  -- only a first line can be the header of a table
  let isFirst := source.count '\n' == 1
  let columns? := if inside && isFirst then delimiterRow? c else none
  match columns?.filter fun columns => columns.length == headerColumns source with
  | some columns =>
    { s with leaf := some (.table columns (fitRow columns.length (rowCells source)) []) }
  | none =>
    let (indent, inner) := c.take 4
    let underline := if inside && indent < 4 then underlineLevel? inner.rest else none
    match underline with
    | some level =>
      { s with leaf := none }.add
        (.heading level task (Text.dropEndWhile isBlank (paragraphText source)))
    | none =>
      if indent < 4 && s.endsParagraph inside inner.rest next then s.closeBefore line next
      else if (inner.rest.dropWhile fun c => c == ' ' || c == '\t').head?.all (· == '\n') then
        s.closeBefore line next
      else { s with leaf := some (.paragraph task (source ++ c.rest)) }

def continueIndented (s : State) (content line : Text) (next : List Text) : State :=
  let (n, c) := s.matchLine line
  let (indent, inner) := c.take 4
  if n = s.frames.length && (indent = 4 || inner.atEnd) then
    { s with
      leaf := some (.indented (content ++ inner.text))
      lastBlank := isBlankLine inner.rest }
  else s.closeBefore line next

def continueFenced (s : State) (f : Fence) (indent : Nat) (info content line : Text)
    (next : List Text) : State :=
  let (n, c) := s.matchLine line
  if n < s.frames.length then s.closeBefore line next
  else
    let (_, c) := c.take indent
    let (deeper, inner) := c.take 4
    if deeper < 4 && f.closedBy inner.rest then s.closeLeaf
    else { s with leaf := some (.fenced f indent info (content ++ c.text)) }

def continueHtml (s : State) (stop : HtmlEnd) (content line : Text) (next : List Text) : State :=
  let (n, c) := s.matchLine line
  if n < s.frames.length || (stop == .blankLine && isBlankLine c.rest) then
    s.closeBefore line next
  else
    let s := { s with leaf := some (.html stop (content ++ c.text)) }
    if HtmlEnd.reachedBy c.rest stop then s.closeLeaf else s

def continueTable (s : State) (columns : List Alignment) (head : List Text)
    (rows : List (List Text)) (line : Text) (next : List Text) : State :=
  let (n, c) := s.matchLine line
  let t := c.rest.dropWhile fun c => c == ' ' || c == '\t'
  let cells := rowCells t
  if n < s.frames.length || interrupts true t next || (ListMark.ofText? t).any (separated ·.2)
      || cells.isEmpty then
    s.closeBefore line next
  else { s with leaf := some (.table columns head (fitRow columns.length cells :: rows)) }
where
  separated (after : Text) : Bool :=
    after.head?.all fun c => c == ' ' || c == '\t' || c == '\n'

/-- Reads a line; those after it are looked at ahead. -/
def step (s : State) (line : Text) (next : List Text) : State :=
  match s.taken with
  | k + 1 => { s with taken := k }
  | 0 => match s.leaf with
    | none => s.openLine line next
    | some (.paragraph task source) => s.continueParagraph task source line next
    | some (.indented content) => s.continueIndented content line next
    | some (.fenced f indent info content) => s.continueFenced f indent info content line next
    | some (.html stop content) => s.continueHtml stop content line next
    | some (.table columns head rows) => s.continueTable columns head rows line next

def run : State → List Text → State
  | s, [] => s
  | s, line :: next => run (s.step line next) next

def finish (s : State) : State :=
  let s := s.closeLeaf
  popTimes s.frames.length s

end State

/-- A document: its blocks, the definitions of its links and the labels of its footnotes. -/
structure Document where
  blocks : List Block
  definitions : List (Text × Definition)
  notes : List Text
  deriving Repr

def unifyLineEnds : Text → Text
  | [] => []
  | '\r' :: '\n' :: t => '\n' :: unifyLineEnds t
  | '\r' :: t => '\n' :: unifyLineEnds t
  | c :: t => c :: unifyLineEnds t

def Document.ofText (t : Text) : Document :=
  let s := (State.run {} (Text.linesInclusive (unifyLineEnds t))).finish
  { blocks := s.blocks.reverse, definitions := s.definitions, notes := s.notes }

end Copydesk.Markdown
