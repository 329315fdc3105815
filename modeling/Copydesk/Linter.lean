import Copydesk.Blueprint.Basic
import Copydesk.Comment.Extract
import Copydesk.Html.Walker
import Copydesk.Markup.Prepare
import Copydesk.Position.Anchored
import Copydesk.Position.Locator
import Copydesk.Position.Value
import Copydesk.Renderer
import Copydesk.RuleSet
import Copydesk.Text.Sentence

/-! Checking a file. Its text is taken apart into blocks of prose, the rules run on each block, and
their alerts are moved to where the prose stands in the file. -/

namespace Copydesk

structure Linter where
  config : Config
  rules : RuleSet
  languages : Comment.Registry
  renderers : Renderers
  /-- By the names that the configuration gives them. -/
  blueprints : List (Text × Blueprint)
  tools : Tools
  provider : Option Service := none

namespace Linter

def blueprintFile? (c : Config) (files : FileTree) (name : Text) : Option Text :=
  (([".yml", ".yaml"] : List String).map fun e => name ++ e.toList).findSome?
    (c.asset? files "blueprints")

def loadBlueprint (c : Config) (files : FileTree) (name : Text) :
    Except ConfigError (Text × Blueprint) := do
  match blueprintFile? c files name with
  | none => throw (.blueprint name "not found on the styles path")
  | some path => match files.read path with
    | .error f => throw (.io f.message)
    | .ok source => return (name, ← Blueprint.ofText name source)

def loadBlueprints (c : Config) (files : FileTree) :
    Except ConfigError (List (Text × Blueprint)) :=
  ((c.blueprints.map (·.2)).eraseDups).mapM (loadBlueprint c files)

/-- A linter with the languages and renderers that come with the program. -/
def build (c : Config) (files : FileTree) (rules : RuleSet) (tools : Tools) :
    Except ConfigError Linter := do
  return {
    config := c, rules, tools
    languages := .standard
    renderers := .standard tools c.attributes
    blueprints := ← loadBlueprints c files }

structure Target where
  path : Text
  /-- The normalized extension. -/
  ext : Text
  deriving DecidableEq, Repr

def target (l : Linter) (path : Text) : Target :=
  ⟨path, Extension.normalize l.config.formats (Extension.ofPath path)⟩

/-- Whether every section of some ignored scope is in the scope. -/
def ignores (l : Linter) (scope : Text) : Bool :=
  (l.config.settings.ignoredScopes.map ScopeSelector.ofText).any fun s =>
    !s.sections.isEmpty && s.contains scope

/-- The alerts of the rules that choose the scope of a block, unless one of them fails. -/
def runRules (l : Linter) (b : Block) : Except LintError (List Alert) := do
  let found ← (l.rules.rules.filter fun c => c.definition.scope.admits b.scope).mapM
    (·.runOn l.provider b)
  return found.flatten

/-- Runs the rules on a piece of a text that begins at a byte offset. -/
def runPiece (l : Linter) (text scope : Text) (piece : Nat × Text) :
    Except LintError (List Alert) := do
  return (← l.runRules (.ofText piece.2 scope)).map (Position.shift text piece.1)

/-- Pieces with the byte offsets where they begin, `gap` bytes apart. -/
def withOffsets (gap : Nat) : Nat → List Text → List (Nat × Text)
  | _, [] => []
  | at', t :: ts => (at', t) :: withOffsets gap (at' + Text.size t + gap) ts

/-- Moves the beginning of a piece past the characters that satisfy a test, and trims its end. -/
def trimPiece (p : Char → Bool) (piece : Nat × Text) : Nat × Text :=
  let kept := piece.2.dropWhile p
  (piece.1 + (Text.size piece.2 - Text.size kept), Text.trimEnd kept)

/-- Paragraphs, which blank lines separate, with their byte offsets. -/
def paragraphs (t : Text) : List (Nat × Text) :=
  -- two newlines part the pieces; further ones are left at the beginning of the next
  ((withOffsets 2 0 (Text.splitOnText "\n\n" t)).map (trimPiece (· == '\n'))).filter
    (!Text.isBlank ·.2)

/-- Sentences with their byte offsets. -/
def sentences (t : Text) : List (Nat × Text) :=
  ((withOffsets 0 0 (Text.sentences t)).map (trimPiece Text.isSpace)).filter (!·.2.isEmpty)

def lastSection (scope : Text) : Text := ((Text.splitOn '.' scope).getLast?).getD []

/-- The scope of the paragraphs or sentences of a block: their kind and the last section of the
block's own. -/
def pieceScope (kind scope : Text) : Text := kind ++ '.' :: lastSection scope

/-- Whether a block falls into pieces of some kind: a rule asks for that kind, and the block is no
heading. -/
def cuts (l : Linter) (b : Block) (kind : Text) : Bool :=
  l.rules.usesScope kind && !hasSection b.scope "heading"

/-- The alerts on the pieces of some kind that a block falls into. -/
def lintPieces (l : Linter) (b : Block) (kind : Text) (pieces : Text → List (Nat × Text)) :
    Except LintError (List Alert) := do
  if l.cuts b kind then
    return (← (pieces b.text).mapM (l.runPiece b.text (pieceScope kind b.scope))).flatten
  else return []

/-- The alerts on a block, placed in its text. The rules see the block, then its paragraphs and then
its sentences. -/
def lintBlock (l : Linter) (b : Block) : Except LintError (List Alert) := do
  if l.ignores b.scope then return []
  else
    let whole ← l.runRules b
    let onParagraphs ← l.lintPieces b "paragraph" paragraphs
    let onSentences ← l.lintPieces b "sentence" sentences
    return whole ++ onParagraphs ++ onSentences

/-- A scope with the extension of the file. The middle part may be empty. -/
def scopeOf (t : Target) (name : Text) : Text :=
  Text.join ['.'] (["text".toList] ++ (if name.isEmpty then [] else [name]) ++ [t.ext])

def lintPlain (l : Linter) (t : Target) (name text : Text) : Except LintError (List Alert) :=
  l.lintBlock (.ofText text (scopeOf t name))

/-- The HTML of markup. AsciiDoc renderers make quotes curly, which is undone. -/
def renderMarkup (l : Linter) (t : Target) (format : Format) (text : Text) :
    Except LintError Text := do
  let prepared ← (Markup.prepare l.config t.path format text).mapError LintError.config
  match l.renderers.find? format with
  | none => return prepared
  | some r =>
    if format = .asciidoc then
      return Markup.straightenQuotes (← r.render (Markup.straightenQuotes prepared))
    else r.render prepared

/-- The source of markup as rendered prose is searched for in it. -/
def searchable (format : Format) (text : Text) : Text :=
  match format with
  | .markdown | .mdx => Markup.searchable format (Markup.fenceFrontMatter text)
  | _ => Markup.searchable format text

def locator (format : Format) (path text : Text) : Position.Locator :=
  { source := text, searchable := searchable format text, path }

/-- Places the alerts of a block one after another. -/
def placeAll (loc : Position.Locator) :
    List Alert → Except LintError (List Alert × Position.Locator)
  | [] => .ok ([], loc)
  | a :: as => do
    let (a, loc) ← loc.place a
    let (as, loc) ← placeAll loc as
    return (a :: as, loc)

def lintBlocks (l : Linter) (loc : Position.Locator) : List Block → Except LintError (List Alert)
  | [] => .ok []
  | b :: bs => do
    let (as, loc) ← placeAll (loc.enterBlock b.text) (← l.lintBlock b)
    return as ++ (← lintBlocks l loc bs)

/-- The blocks of rendered markup. -/
def markupBlocks (l : Linter) (t : Target) (format : Format) (name text : Text) :
    Except LintError (List Block) := do
  let html ← l.renderMarkup t format text
  let ext := if name.isEmpty then t.ext else name ++ '.' :: t.ext
  let walker := Html.Walker.ofTags l.config.settings.skippedTags l.config.settings.ignoredScopes ext
  return walker.walk html

def lintMarkup (l : Linter) (t : Target) (format : Format) (name text : Text) :
    Except LintError (List Alert) := do
  l.lintBlocks (locator format t.path text) (← l.markupBlocks t format name text)

/-- Checks a text of some format. A step of a blueprint gives its name to the scopes. -/
def lintFormat (l : Linter) (t : Target) (format : Format) (name text : Text) :
    Except LintError (List Alert) :=
  match format with
  | .plain | .code | .data => l.lintPlain t name text
  | _ => l.lintMarkup t format name text

def movedOrFail (r : List Alert × Option LintError) : Except LintError (List Alert) :=
  match r with
  | (_, some e) => .error e
  | (as, none) => .ok as

def commentBlock (t : Target) (c : Comment) : Block where
  text := c.text
  source := c.source
  scope := c.scope ++ '.' :: t.ext
  line := c.line
  column := c.offset

def lintComment (l : Linter) (t : Target) (text : Text) (padding : Option (Text → Nat))
    (c : Comment) : Except LintError (List Alert) := do
  let b := commentBlock t c
  let columns := (padding.map (Position.paddedColumns b)).getD []
  movedOrFail (Position.remapAnchored b.text ⟨b.line, b.column⟩ columns text t.path
    (← l.lintBlock b))

def lintCode (l : Linter) (t : Target) (queries : Option (List Comment.Query)) (text : Text) :
    Except LintError (List Alert) := do
  match ← Comment.extract? l.languages t.ext queries (l.config.delimitersFor? t.path) text with
  | none => return []
  | some e => return (← e.comments.mapM (l.lintComment t text e.padding)).flatten

def lintValues (l : Linter) (t : Target) (name : Text) (format : Format) (text : Text) :
    Position.Cursor → List Text → Except LintError (List Alert)
  | _, [] => .ok []
  | cursor, v :: vs => do
    -- a blank value has no place, so the cursor stays
    if Text.isBlank v then lintValues l t name format text cursor vs
    else
      let found ← l.lintFormat t format name v
      let moved ← movedOrFail (Position.remapValue v text cursor t.path found)
      return moved ++ (← lintValues l t name format text (Position.advance v text cursor) vs)

def lintData (l : Linter) (t : Target) (b : Blueprint) (text : Text) :
    Except LintError (List Alert) := do
  let found ← b.apply l.tools text (Extension.ofPath t.path) t.path
  return (← found.mapM fun f => l.lintValues t f.scope f.format text {} f.values).flatten

inductive Route
  /-- Structured data for which there is no blueprint. -/
  | skipped
  /-- Source code, whose comments its language or a blueprint finds. -/
  | comments (queries : Option (List Comment.Query))
  /-- Structured data that a blueprint finds values in. -/
  | values (b : Blueprint)
  | prose (format : Format)
  /-- A file for a blueprint that was not loaded. -/
  | missing (blueprint : Text)

/-- A blueprint for the path goes before the extension. -/
def route (l : Linter) (t : Target) : Route :=
  match l.config.blueprintFor? t.path with
  | some name => match l.blueprints.lookup name with
    | some b => match b.body with
      | .queries steps => .comments (some (steps.map fun s => ⟨s.name, s.query⟩))
      | .selectors _ | .commands _ => .values b
    | none => .missing name
  | none => match Format.ofExtension t.ext with
    | .data => .skipped
    | .code => .comments none
    | format => .prose format

/-- All alerts on a text, in the order they are found. -/
def lintTarget (l : Linter) (t : Target) (text : Text) : Except LintError (List Alert) :=
  match l.route t with
  | .skipped => .ok []
  | .comments queries => l.lintCode t queries text
  | .values b => l.lintData t b text
  | .prose format => l.lintFormat t format [] text
  | .missing name => .error (.config (.blueprint name "not loaded"))

/-- The alerts on a text that is checked as the file at `path`, from the least level on and in the
order of their places. -/
def lint (l : Linter) (path text : Text) : Except LintError (List Alert) := do
  let found ← l.lintTarget (l.target path) text
  return Alert.sort (found.filter fun a => l.rules.minLevel.le a.level)

def lintFile (l : Linter) (files : FileTree) (path : Text) : Except LintError (List Alert) :=
  match files.read path with
  | .error f => .error (.io f.message)
  | .ok text => l.lint path text

end Linter

end Copydesk
