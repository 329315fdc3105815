import Copydesk.Level

/-! The command line. -/

namespace Copydesk.Cli

inductive OutputFormat
  | human | jsonLines
  deriving DecidableEq, Repr

inductive ColorChoice
  | auto | always | never
  deriving DecidableEq, Repr

structure CheckOptions where
  paths : List Text
  format : OutputFormat
  filter : Option Text
  /-- The lowest level to report. -/
  minLevel : Option Level
  /-- Whether skipped files are reported. -/
  verbose : Bool
  deriving DecidableEq, Repr

structure ListOptions where
  format : OutputFormat
  filter : Option Text
  deriving DecidableEq, Repr

inductive Command
  | check (o : CheckOptions)
  | list (o : ListOptions)
  deriving DecidableEq, Repr

structure Invocation where
  command : Command
  color : ColorChoice
  config : Text
  deriving DecidableEq, Repr

/-- Why the arguments make no invocation; asking for help or the version is one reason. -/
inductive UsageError
  | invalidValue
  | valueValidation
  | unknownArgument
  | argumentConflict
  | tooManyValues
  | invalidSubcommand
  | missingSubcommand
  | displayHelp
  | displayVersion
  | displayHelpOnMissing
  deriving DecidableEq, Repr

/-- What an option belongs to: the program or one of its commands. -/
inductive Scope
  | program | check | list
  deriving DecidableEq, Repr

inductive Opt
  | color | config | format | filter | minLevel | verbose | help | version
  deriving DecidableEq, Repr

namespace Opt

def takesValue : Opt → Bool
  | verbose | help | version => false
  | _ => true

/-- Whether an option may be given there; color and configuration may be given anywhere. -/
def allowedIn (s : Scope) : Opt → Bool
  | color | config | help => true
  | version => s == .program
  | format | filter => s != .program
  | minLevel | verbose => s == .check

def ofLongName? (t : Text) : Option Opt :=
  match String.ofList t with
  | "color" => some color
  | "config" => some config
  | "format" => some format
  | "filter" => some filter
  | "min-level" => some minLevel
  | "verbose" => some verbose
  | "help" => some help
  | "version" => some version
  | _ => none

def ofShortName? : Char → Option Opt
  | 'f' => some format
  | 'v' => some verbose
  | 'h' => some help
  | 'V' => some version
  | _ => none

def long? (s : Scope) (t : Text) : Option Opt := (ofLongName? t).filter (allowedIn s)

def short? (s : Scope) (c : Char) : Option Opt := (ofShortName? c).filter (allowedIn s)

end Opt

def OutputFormat.ofText? (t : Text) : Option OutputFormat :=
  match String.ofList t with
  | "human" => some human
  | "jsonl" => some jsonLines
  | _ => none

def ColorChoice.ofText? (t : Text) : Option ColorChoice :=
  match String.ofList t with
  | "auto" => some auto
  | "always" => some always
  | "never" => some never
  | _ => none

structure Given where
  color : Option ColorChoice := none
  config : Option Text := none
  format : Option OutputFormat := none
  filter : Option Text := none
  minLevel : Option Level := none
  verbose : Bool := false
  deriving DecidableEq, Repr

namespace Given

def fresh {α : Type} (old : Option α) : Except UsageError Unit :=
  if old.isSome then .error .argumentConflict else .ok ()

def known {α : Type} (value : Option α) : Except UsageError (Option α) :=
  match value with
  | some a => .ok (some a)
  | none => .error .invalidValue

def set (g : Given) (o : Opt) (v : Text) : Except UsageError Given := do
  match o with
  | .color =>
    fresh g.color
    return { g with color := ← known (ColorChoice.ofText? v) }
  | .config =>
    fresh g.config
    return { g with config := ← known (if v.isEmpty then none else some v) }
  | .format =>
    fresh g.format
    return { g with format := ← known (OutputFormat.ofText? v) }
  | .filter =>
    fresh g.filter
    return { g with filter := some v }
  | .minLevel =>
    fresh g.minLevel
    match Level.ofText v with
    | .ok l => return { g with minLevel := some l }
    | .error _ => throw .valueValidation
  | .verbose | .help | .version => return g

def raise (g : Given) : Opt → Except UsageError Given
  | .help => .error .displayHelp
  | .version => .error .displayVersion
  | .verbose => if g.verbose then .error .argumentConflict else .ok { g with verbose := true }
  | _ => .ok g

end Given

/-- The arguments read so far. A value is checked only when the next argument has been
understood. -/
structure Reading where
  given : Given := {}
  paths : List Text := []
  /-- The last option, with its value once there is one. -/
  pending : Option (Opt × Option Text) := none
  deriving DecidableEq, Repr

namespace Reading

def settle (r : Reading) : Except UsageError Reading := do
  match r.pending with
  | none => return r
  | some (_, none) => throw .invalidValue
  | some (o, some v) => return { r with given := ← r.given.set o v, pending := none }

def raise (r : Reading) (o : Opt) : Except UsageError Reading := do
  let r ← r.settle
  return { r with given := ← r.given.raise o }

def expect (r : Reading) (o : Opt) (attached : Option Text) : Except UsageError Reading := do
  let r ← r.settle
  match attached with
  | some v => return { r with given := ← r.given.set o v }
  | none => return { r with pending := some (o, none) }

def long (s : Scope) (r : Reading) (t : Text) : Except UsageError Reading :=
  let (name, value) := match Text.splitOnce? '=' t with
    | some (n, v) => (n, some v)
    | none => (t, none)
  match Opt.long? s name with
  | none => .error .unknownArgument
  | some o =>
    if o.takesValue then r.expect o value
    else if value.isSome then .error .tooManyValues
    else r.raise o

/-- Options of one letter; what follows one that takes a value is its value. -/
def short (s : Scope) : Reading → Text → Except UsageError Reading
  | r, [] => .ok r
  | r, c :: t =>
    match Opt.short? s c with
    | none => .error .unknownArgument
    | some o =>
      if o.takesValue then
        r.expect o (match t with
          | [] => none
          | '=' :: v => some v
          | v => some v)
      else do short s (← r.raise o) t

/-- An argument that is no option: the pending option's value or a path. -/
def plain (s : Scope) (r : Reading) (t : Text) : Except UsageError Reading := do
  match r.pending with
  | some (o, none) => return { r with pending := some (o, some t) }
  | _ =>
    if s != .check then throw .unknownArgument
    let r ← r.settle
    return { r with paths := r.paths ++ [t] }

/-- An argument after `--`, which is a path whatever it looks like. -/
def trailing (s : Scope) (r : Reading) (t : Text) : Except UsageError Reading := do
  if s != .check then throw .unknownArgument
  let r ← r.settle
  return { r with paths := r.paths ++ [t] }

inductive Shape
  | escape
  | long (t : Text)
  | short (t : Text)
  | plain

def shape : Text → Shape
  | ['-', '-'] => .escape
  | '-' :: '-' :: t => .long t
  | ['-'] => .plain
  | '-' :: t => .short t
  | _ => .plain

def ofArguments (s : Scope) : Reading → List Text → Except UsageError Reading
  | r, [] => r.settle
  | r, t :: ts =>
    match shape t with
    | .escape => do (← ts.foldlM (trailing s) r).settle
    | .long t => do ofArguments s (← r.long s t) ts
    | .short t => do ofArguments s (← r.short s t) ts
    | .plain => do ofArguments s (← r.plain s t) ts

end Reading

def scopeOf? (t : Text) : Option Scope :=
  match String.ofList t with
  | "check" => some .check
  | "list" => some .list
  | _ => none

def isSubcommand (t : Text) : Bool := (scopeOf? t).isSome || t == "help".toList

def helpOn : List Text → UsageError
  | [] => .displayHelp
  | [t] => if isSubcommand t then .displayHelp else .invalidSubcommand
  | _ => .invalidSubcommand

def commandOf (s : Scope) (r : Reading) : Command :=
  let format := r.given.format.getD .human
  match s with
  | .list => .list { format, filter := r.given.filter }
  | _ => .check {
      paths := if r.paths.isEmpty then [['.']] else r.paths
      format
      filter := r.given.filter
      minLevel := r.given.minLevel
      verbose := r.given.verbose }

/-- The command's own options win over those before the command. -/
def invocation (outer inner : Given) (command : Command) : Invocation where
  command
  color := (inner.color.or outer.color).getD .auto
  config := (inner.config.or outer.config).getD "vellum.toml"

def endWithout (r : Reading) : Except UsageError Invocation := do
  let r ← r.settle
  if r.given.color.isNone && r.given.config.isNone then throw .displayHelpOnMissing
  throw .missingSubcommand

def parseFrom : Reading → List Text → Except UsageError Invocation
  | r, [] => endWithout r
  | r, t :: ts =>
    match Reading.shape t with
    | .escape => match ts with
      | [] => endWithout r
      | t :: _ => .error (if isSubcommand t then .unknownArgument else .invalidSubcommand)
    | .long t => do parseFrom (← r.long .program t) ts
    | .short t => do parseFrom (← r.short .program t) ts
    | .plain =>
      match r.pending with
      | some (o, none) => parseFrom { r with pending := some (o, some t) } ts
      | _ =>
        if t = "help" then .error (helpOn ts)
        else match scopeOf? t with
          | none => .error .invalidSubcommand
          | some s => do
            let inner ← Reading.ofArguments s {} ts
            let outer ← r.settle
            return invocation outer.given inner.given (commandOf s inner)

def parse (args : List Text) : Except UsageError Invocation := parseFrom {} args

end Copydesk.Cli
