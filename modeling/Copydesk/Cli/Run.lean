import Copydesk.Cli.Arguments
import Copydesk.Config.Reader
import Copydesk.Report.Human
import Copydesk.Report.RuleList
import Copydesk.Walk.Basic

/-! What an invocation does: its exit code and what it writes. -/

namespace Copydesk.Cli

structure Outcome where
  code : Nat
  stdout : Text := []
  /-- Lines for standard error. -/
  messages : List Text := []
  deriving DecidableEq, Repr

inductive Fault
  | config (e : ConfigError)
  | run (e : RunError)
  | walk (f : Walk.Fault)
  deriving DecidableEq, Repr

namespace Fault

def message : Fault → Text
  | config e => "Configuration error: ".toList ++ e.message
  | run e => e.message
  | walk f => "File walker error: ".toList ++ f.message

/-- A configuration that cannot be read as such has a code of its own. -/
def code : Fault → Nat
  | config (.malformed _) | run (.config (.malformed _)) => 3
  | _ => 2

def outcome (f : Fault) (messages : List Text) : Outcome where
  code := f.code
  messages := messages ++ ["Error: ".toList ++ f.message]

end Fault

def loadConfig (files : FileTree) (path : Text) : Except ConfigError Config :=
  if files.holds path then Config.load files path
  else .error (.io (path ++ " not found".toList))

/-- The configuration and the rules of a run. A level given here takes the place of the configured
one. -/
def loadRules (files : FileTree) (path : Text) (filter : Option Text) (minLevel : Option Level) :
    Except Fault (Config × RuleSet) := do
  let c ← (loadConfig files path).mapError Fault.config
  let c := { c with settings := { c.settings with minLevel := minLevel.getD c.settings.minLevel } }
  return (c, ← (RuleSet.build c files filter []).mapError Fault.run)

structure Discovery where
  paths : List Text := []
  skipped : List Text := []
  fault : Option Walk.Fault := none

namespace Discovery

def addEntry (d : Discovery) (e : Walk.Entry) : Discovery :=
  match e.outcome with
  | .ok _ => { d with paths := d.paths ++ [e.path] }
  | .error r =>
    { d with skipped := d.skipped ++ ["Skipped ".toList ++ e.path ++ ": ".toList ++ r.name] }

def addRoot (l : Linter) (files : FileTree) (d : Discovery) (root : Text) : Discovery :=
  if d.fault.isSome then d
  else
    let s := l.config.settings
    match (Walk.Options.ofPatterns l.config l.languages s.includes s.excludes).bind
        (Walk.walk · files root) with
    | .ok entries => entries.foldl addEntry d
    | .error f => { d with fault := some f }

def ofRoots (l : Linter) (files : FileTree) (roots : List Text) : Discovery :=
  roots.foldl (addRoot l files) {}

end Discovery

def UsageError.message : UsageError → Text
  | invalidValue => "a value is missing or not one of those possible"
  | valueValidation => "a value is not valid"
  | unknownArgument => "an argument is unknown"
  | argumentConflict => "an argument cannot be used multiple times"
  | tooManyValues => "an argument takes no value"
  | invalidSubcommand => "the command is unknown"
  | missingSubcommand => "a command is required"
  | displayHelp | displayHelpOnMissing | displayVersion => []

def usage : Text :=
  Text.join ['\n'] ((["A linter for prose", "", "Usage: copydesk [OPTIONS] <COMMAND>", "",
    "Commands:",
    "  check  Lint files and folders", "  list   List the active rules", "", "Options:",
    "  --color <COLOR>    auto, always or never", "  --config <CONFIG>  The configuration file"] :
    List String).map String.toList)

def version : Text := "copydesk 1\n"

/-- Arguments that make no invocation are answered with help, the version or what is wrong. -/
def UsageError.outcome (e : UsageError) : Outcome :=
  match e with
  | displayHelp => { code := 0, stdout := usage }
  | displayVersion => { code := 0, stdout := version }
  | displayHelpOnMissing => { code := 2, messages := [usage] }
  | e => { code := 2, messages := ["error: ".toList ++ e.message] }

def usesColor (choice : ColorChoice) (isTerminal : Bool) : Bool :=
  match choice with
  | .always => true
  | .never => false
  | .auto => isTerminal

def formatReport (format : OutputFormat) (colored : Bool) (r : Report) : Text :=
  match format with
  | .human => if colored then r.toColoredText else r.toText
  | .jsonLines => r.toJsonLines

/-- Exit code 1 means that some alert is an error. -/
def check (files : FileTree) (tools : Tools) (colored : Bool) (config : Text)
    (o : CheckOptions) : Outcome :=
  let linter? := do
    let (c, rules) ← loadRules files config o.filter o.minLevel
    (Linter.build c files rules tools).mapError Fault.config
  match linter? with
  | .error f => f.outcome []
  | .ok l =>
    let d := Discovery.ofRoots l files o.paths
    let messages := if o.verbose then d.skipped else []
    match d.fault with
    | some f => (Fault.walk f).outcome messages
    | none =>
      let r := Report.ofPaths l files d.paths
      { code := if r.hasErrors then 1 else 0, stdout := formatReport o.format colored r, messages }

def list (files : FileTree) (config : Text) (o : ListOptions) : Outcome :=
  match loadRules files config o.filter none with
  | .error f => f.outcome []
  | .ok (_, rules) =>
    let ds := rules.rules.map (·.definition)
    { code := 0
      stdout := match o.format with
        | .human => Rule.listing ds
        | .jsonLines => Rule.jsonListing ds }

def run (files : FileTree) (tools : Tools) (isTerminal : Bool) (i : Invocation) : Outcome :=
  match i.command with
  | .check o => check files tools (usesColor i.color isTerminal) i.config o
  | .list o => list files i.config o

end Copydesk.Cli
