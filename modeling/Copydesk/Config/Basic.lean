import Copydesk.FileTree
import Copydesk.Glob.Basic
import Copydesk.Level

/-! The configuration of a run. -/

namespace Copydesk

inductive Config.RuleEntry
  | enabled (b : Bool)
  | level (l : Level)
  | settings (level : Option Level) (enabled : Option Bool)
  deriving DecidableEq, Repr

structure Config.Settings where
  version : Text := "1".toList
  stylesPath : Text := "styles".toList
  searchPaths : List Text := []
  /-- Alerts below this level are dropped. -/
  minLevel : Level := .suggestion
  styles : List Text := []
  ignoredScopes : List Text := ["code".toList, "tt".toList]
  skippedTags : List Text := ["script".toList, "style".toList, "pre".toList, "figure".toList]
  includes : List Text := ["**/*".toList]
  excludes : List Text := []
  filter : Option Text := none
  vocabularies : List Text := []
  accepted : List Text := []
  rejected : List Text := []
  deriving DecidableEq, Repr

/-- All tables are in the order of their keys. -/
structure Config where
  settings : Config.Settings := {}
  rules : List (Text × Config.RuleEntry) := []
  /-- Extensions and those they are read as. -/
  formats : List (Text × Text) := []
  /-- Globs and the names of blueprints. -/
  blueprints : List (Text × Text) := []
  /-- Globs and pairs of comment delimiters. -/
  delimiters : List (Text × List Text) := []
  /-- Globs and the patterns of what counts as code. -/
  tokenIgnores : List (Text × List Text) := []
  /-- Attributes passed to the AsciiDoc renderer. -/
  attributes : List (Text × Text) := []
  /-- The folder that relative paths start from. -/
  root : Text := ".".toList
  deriving DecidableEq, Repr

namespace Config

/-- The folders that hold styles, in the order they are searched. -/
def stylePaths (c : Config) : List Text :=
  (c.settings.stylesPath :: c.settings.searchPaths).map (Path.join c.root)

def asset? (c : Config) (files : FileTree) (kind name : Text) : Option Text :=
  (c.stylePaths.map fun p => Path.join (Path.join (Path.join p "config") kind) name).find?
    files.holdsFile

def levelOf? (c : Config) (rule : Text) : Option Level :=
  match c.rules.lookup rule with
  | some (.level l) => some l
  | some (.settings l _) => l
  | _ => none

def disables (c : Config) (rule : Text) : Bool :=
  match c.rules.lookup rule with
  | some (.enabled b) => !b
  | some (.settings _ e) => e == some false
  | _ => false

def matching {α : Type} (table : List (Text × α)) (path : Text) : List α :=
  (table.filter fun (glob, _) => Glob.accepts glob path).map (·.2)

def blueprintFor? (c : Config) (path : Text) : Option Text := (matching c.blueprints path).getLast?

/-- The first pair of comment delimiters for a path. -/
def delimitersFor? (c : Config) (path : Text) : Option (Text × Text) :=
  match (matching c.delimiters path).head? with
  | some [start, stop] => some (start, stop)
  | _ => none

def tokenIgnoresFor (c : Config) (path : Text) : List Text :=
  (matching c.tokenIgnores path).flatten

end Config

end Copydesk
