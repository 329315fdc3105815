import Copydesk.Config.Basic
import Copydesk.Data.Toml.Document
import Copydesk.Error
import Copydesk.Regex.Basic

/-! Configuration files, written in TOML. -/

namespace Copydesk.Config

open Data (Value)

inductive Fault
  | toml (e : Data.Toml.Error)
  | badField (field : Text)
  deriving DecidableEq, Repr

def Fault.message : Fault → Text
  | toml e => e.message
  | badField f => "the field ".toList ++ quoted f ++ " has a wrong type".toList

abbrev Fields := List (Text × Value)

def text? : Value → Option Text
  | .str t => some t
  | _ => none

def texts? : Value → Option (List Text)
  | .list items => items.mapM text?
  | _ => none

def level? (v : Value) : Option Level := (text? v).bind Level.ofName?

def sortByKey {α : Type} (table : List (Text × α)) : List (Text × α) :=
  table.mergeSort fun a b => Text.le a.1 b.1

/-- A table of values of one type. -/
def tableOf? {α : Type} (read : Value → Option α) : Value → Option (List (Text × α))
  | .table fields => do
    let entries ← fields.mapM fun f => (read f.2).map fun a => (f.1, a)
    return sortByKey entries
  | _ => none

/-- The fields of a section; a list gives them in order. -/
def section? (names : List Text) : Value → Option Fields
  | .table fields => some fields
  | .list items => some (names.zip items)
  | _ => none

def field {α : Type} (fs : Fields) (name : Text) (read : Value → Option α) (default : α) :
    Except Fault α :=
  match fs.lookup name with
  | none => .ok default
  | some v => match read v with
    | some a => .ok a
    | none => .error (.badField name)

def ruleSettings? (level enabled : Option Value) : Option RuleEntry := do
  let l ← match level with
    | none => some none
    | some v => (level? v).map some
  let e ← match enabled with
    | none => some none
    | some (.bool b) => some (some b)
    | some _ => none
  return .settings l e

def ruleEntry? : Value → Option RuleEntry
  | .bool b => some (.enabled b)
  | .str t => (Level.ofName? t).map .level
  | .table fields => ruleSettings? (fields.lookup "level".toList) (fields.lookup "enabled".toList)
  | .list [level, enabled] => ruleSettings? (some level) (some enabled)
  | _ => none

def settingNames : List Text :=
  (["version", "styles_path", "search_paths", "min_alert_level", "based_on_styles",
    "ignored_scopes", "skipped_scopes", "include", "exclude", "filter", "vocab", "accept",
    "reject"] : List String).map String.toList

def readSettings (fs : Fields) : Except Fault Settings := do
  let d : Settings := {}
  return {
    version := ← field fs "version" text? d.version
    stylesPath := ← field fs "styles_path" text? d.stylesPath
    searchPaths := ← field fs "search_paths" texts? d.searchPaths
    minLevel := ← field fs "min_alert_level" level? d.minLevel
    styles := ← field fs "based_on_styles" texts? d.styles
    ignoredScopes := ← field fs "ignored_scopes" texts? d.ignoredScopes
    skippedTags := ← field fs "skipped_scopes" texts? d.skippedTags
    includes := ← field fs "include" texts? d.includes
    excludes := ← field fs "exclude" texts? d.excludes
    filter := ← field fs "filter" (fun v => (text? v).map some) d.filter
    vocabularies := ← field fs "vocab" texts? d.vocabularies
    accepted := ← field fs "accept" texts? d.accepted
    rejected := ← field fs "reject" texts? d.rejected }

def ofFields (fs : Fields) : Except Fault Config := do
  let main ← field fs "vellum" (section? settingNames) []
  return {
    settings := ← readSettings main
    rules := ← field fs "rules" (tableOf? ruleEntry?) []
    formats := ← field fs "formats" (tableOf? text?) []
    blueprints := ← field fs "blueprints" (tableOf? text?) []
    delimiters := ← field fs "comment_delimiters" (tableOf? texts?) []
    tokenIgnores := ← field fs "token_ignores" (tableOf? texts?) []
    attributes := ← field fs "asciidoctor" (tableOf? text?) []
    root := [] }

def checkGlob (kind pattern : Text) : Except ConfigError Unit :=
  match Glob.ofText pattern with
  | .ok _ => .ok ()
  | .error f => .error (.invalid ("Invalid ".toList ++ kind ++ " glob pattern ".toList
      ++ quoted pattern ++ ": ".toList ++ Glob.describe pattern f))

def checkDelimiters (glob : Text) (pair : List Text) : Except ConfigError Unit := do
  checkGlob "comment_delimiters" glob
  if pair.length != 2 || pair.any List.isEmpty then
    throw (.invalid ("comment_delimiters for ".toList ++ quoted glob
      ++ " must name both a start and an end delimiter".toList))

def checkTokenIgnore (glob pattern : Text) : Except ConfigError Unit :=
  match Regex.compile pattern with
  | .ok _ => .ok ()
  | .error e => .error (.invalid ("Invalid token_ignores pattern ".toList ++ quoted pattern
      ++ " for ".toList ++ quoted glob ++ ": ".toList ++ e.message))

/-- Refuses what no run could use. -/
def validate (c : Config) : Except ConfigError Unit := do
  if c.settings.version != ['1'] then
    throw (.invalid ("Unsupported configuration version ".toList ++ quoted c.settings.version
      ++ ". Expected '1'".toList))
  (c.settings.includes ++ c.settings.excludes).forM (checkGlob "file")
  c.blueprints.forM fun (glob, _) => checkGlob "blueprint" glob
  c.tokenIgnores.forM fun (glob, _) => checkGlob "token_ignores" glob
  c.delimiters.forM fun (glob, pair) => checkDelimiters glob pair
  c.tokenIgnores.forM fun (glob, patterns) => patterns.forM (checkTokenIgnore glob)

/-- Reads and checks the text of a configuration file; its root is left empty. -/
def ofText (t : Text) : Except ConfigError Config := do
  let fs ← (Data.Toml.read t).mapError fun e => .malformed (Fault.toml e).message
  let c ← (ofFields fs).mapError fun f => .malformed f.message
  c.validate
  return c

/-- Reads a configuration file, whose folder becomes the root. -/
def load (files : FileTree) (path : Text) : Except ConfigError Config := do
  match files.read path with
  | .error f => throw (.io f.message)
  | .ok t =>
    let c ← ofText t
    let folder := Path.parent path
    return { c with root := if folder.isEmpty then ['.'] else folder }

end Copydesk.Config
