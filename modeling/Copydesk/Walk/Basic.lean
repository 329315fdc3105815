import Copydesk.Comment.Extract
import Copydesk.Config.Basic
import Copydesk.Format
import Copydesk.Walk.Ignore

/-! Finding the files to check below a folder. -/

namespace Copydesk.Walk

inductive Fault
  | invalidGlob (pattern : Text) (f : Glob.Fault)
  | unreadable (root : Text) (f : FileTree.Fault)
  deriving DecidableEq, Repr

def Fault.message : Fault → Text
  | invalidGlob p f =>
    "Invalid glob pattern ".toList ++ quoted p ++ ": ".toList ++ Glob.describe p f
  | unreadable root f =>
    "Walk error: ".toList ++ root ++ ": IO error for operation on ".toList ++ root
      ++ ": ".toList ++ f.message

def readGlobs (patterns : List Text) : Except Fault (List Glob) :=
  patterns.mapM fun p => (Glob.ofText p).mapError (Fault.invalidGlob p)

/-- What decides whether a file is checked, and as what. -/
structure Detector where
  aliases : List (Text × Text)
  /-- The extensions of languages whose comments are found in a syntax tree. -/
  grammars : List Text
  blueprints : List Glob
  delimiters : List Glob

namespace Detector

def ofConfig (c : Config) (languages : Comment.Registry) : Except Fault Detector := do
  return {
    aliases := c.formats
    grammars := languages.extensions
    blueprints := ← readGlobs (c.blueprints.map (·.1))
    delimiters := ← readGlobs (c.delimiters.map (·.1)) }

/-- Whether there is a way to find the comments of a file with a normalized extension. -/
def findsComments (d : Detector) (ext path : Text) : Bool :=
  d.grammars.contains ext || (Comment.Syntax.ofExtension? ext).isSome
    || d.delimiters.any (·.admits path)

/-- The format that a file is checked as. Data needs a blueprint, and code a known way to find its
comments. -/
def detect? (d : Detector) (path : Text) : Option Format := do
  let ext := Extension.normalize d.aliases (← Path.extension? path)
  let format := Format.ofExtension ext
  if d.blueprints.any (·.admits path) then return format
  match format with
  | .data => none
  | .code => if d.findsComments ext path then return .code else none
  | format => return format

end Detector

/-- The format that a file is checked as under a configuration. -/
def detect? (c : Config) (languages : Comment.Registry) (path : Text) : Option Format := do
  (← (Detector.ofConfig c languages).toOption).detect? path

inductive SkipReason
  | excludedByPattern | unsupportedFormat | notAFile
  deriving DecidableEq, Repr

def SkipReason.name : SkipReason → Text
  | excludedByPattern => "ExcludedByPattern"
  | unsupportedFormat => "UnsupportedFormat"
  | notAFile => "NotAFile"

structure Entry where
  path : Text
  outcome : Except SkipReason Format

structure Options where
  detector : Detector
  /-- Without any, everything is included. -/
  includes : List Glob
  excludes : List Glob

namespace Options

/-- Options with the given patterns. What repositories hold for themselves is always excluded. -/
def ofPatterns (c : Config) (languages : Comment.Registry) (includes excludes : List Text) :
    Except Fault Options := do
  return {
    detector := ← Detector.ofConfig c languages
    includes := ← readGlobs includes
    excludes := ← readGlobs (excludes ++ ["**/.git/**".toList]) }

def outcome (o : Options) (path : Text) : Except SkipReason Format :=
  if !o.includes.isEmpty && !o.includes.any (·.admits path) then .error .excludedByPattern
  else if o.excludes.any (·.admits path) then .error .excludedByPattern
  else match o.detector.detect? path with
    | some f => .ok f
    | none => .error .unsupportedFormat

end Options

mutual

/-- The entries at and below a node at some path, whose components are known. -/
def entriesOf (o : Options) (levels : List Level) (path : Text) (components : List Text) :
    FileTree → List Entry
  | .file _ => [⟨path, o.outcome path⟩]
  | .folder entries =>
    ⟨path, .error .notAFile⟩ ::
      entriesBelow o (.ofFolder components.length (.folder entries) :: levels) path components
        entries

def entriesBelow (o : Options) (levels : List Level) (path : Text) (components : List Text) :
    List (Text × FileTree) → List Entry
  | [] => []
  | (name, node) :: rest =>
    let inner := components ++ [name]
    -- nothing below an ignored folder is met
    (if Level.ignores levels inner (!node.isFile) then []
      else entriesOf o levels (Path.join path name) inner node)
      ++ entriesBelow o levels path components rest

end

def resolve (path : Text) : List Text :=
  (Path.components path).foldl (fun done c =>
    if c = ['.'] then done else if c = ['.', '.'] then done.dropLast else done ++ [c]) []

def levelsAbove (files : FileTree) (components : List Text) : List Level :=
  ((List.range components.length).filterMap fun n =>
    match FileTree.follow [] files (components.take n) with
    | .ok folder => some (.ofFolder n folder)
    | .error _ => none).reverse

/-- The entries at and below a path. -/
def walk (o : Options) (files : FileTree) (root : Text) : Except Fault (List Entry) :=
  match files.find root with
  | .error f => .error (.unreadable root f)
  | .ok node =>
    let components := resolve root
    .ok (entriesOf o (levelsAbove files components) root components node)

end Copydesk.Walk
