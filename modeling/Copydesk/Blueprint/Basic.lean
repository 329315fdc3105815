import Copydesk.Blueprint.Document
import Copydesk.Blueprint.Selector
import Copydesk.Data.Yaml.Typed
import Copydesk.Format
import Copydesk.Tool.Basic

/-! Blueprints: named queries that pick the prose out of a file. -/

namespace Copydesk

/-- A query with the scope of what it finds and the name of the format of it. -/
structure Blueprint.Step (α : Type) where
  name : Text
  query : α
  kind : Text := []
  deriving DecidableEq, Repr

inductive Blueprint.Body
  /-- Queries on the syntax tree of a program. -/
  | queries (steps : List (Blueprint.Step Text))
  /-- Selectors of structured data. -/
  | selectors (steps : List (Blueprint.Step Selector))
  /-- Programs that answer a JSON array of strings. -/
  | commands (steps : List (Blueprint.Step Text))
  deriving DecidableEq, Repr

structure Blueprint where
  name : Text
  body : Blueprint.Body
  deriving DecidableEq, Repr

namespace Blueprint

structure Found where
  scope : Text
  format : Format
  values : List Text
  deriving DecidableEq, Repr

inductive Fault
  | yaml (e : Data.Yaml.Error)
  | badField (field : Text)
  | missingEngine
  | unsupportedEngine (name : Text)
  | missingQueries
  | selector (expr : Text) (f : Selector.Fault)
  deriving DecidableEq, Repr

def Fault.message : Fault → Text
  | yaml e => e.message
  | badField f => "YAML: the field ".toList ++ quoted f ++ " is missing or has a wrong type".toList
  | missingEngine => "missing engine"
  | unsupportedEngine e => "unsupported engine ".toList ++ quoted e
  | missingQueries => "missing queries"
  | selector expr f => expr ++ ": ".toList ++ f.message

open Data.Yaml (Node)

/-- The entries of a mapping; an empty document is an empty one. -/
def entries? : Node → Option (List (Node × Node))
  | .mapping entries _ => some entries
  | .scalar [] true _ => some []
  | _ => none

def items? : Node → Option (List Node)
  | .sequence items _ => some items
  | .scalar [] true _ => some []
  | _ => none

/-- A field that goes by one of several names and may be given once. -/
def field (entries : List (Node × Node)) (names : List Text) : Except Fault (Option Node) :=
  match entries.filter fun (k, _) => k.rawText?.any fun t => names.contains t with
  | [] => .ok none
  | [(_, n)] => .ok (some n)
  | _ => .error (.badField (names.head?.getD []))

def textField (entries : List (Node × Node)) (names : List Text) : Except Fault (Option Text) := do
  match ← field entries names with
  | none => return none
  | some n => match n.rawText? with
    | some t => return some t
    | none => throw (.badField (names.head?.getD []))

def readStep (n : Node) : Except Fault (Step Text) := do
  let some entries := entries? n | throw (.badField "scopes")
  let some name ← textField entries ["name", "scope"] | throw (.badField "name")
  let some query ← textField entries ["expr", "operation"] | throw (.badField "expr")
  return { name, query, kind := (← textField entries ["type"]).getD [] }

def readSteps (entries : List (Node × Node)) (name : Text) : Except Fault (List (Step Text)) := do
  match ← field entries [name] with
  | none => return []
  | some n => match items? n with
    | some items => items.mapM readStep
    | none => throw (.badField name)

def selectorStep (s : Step Text) : Except Fault (Step Selector) :=
  match Selector.ofText s.query with
  | .ok query => .ok { s with query }
  | .error f => .error (.selector s.query f)

/-- What an engine makes of the steps. -/
def bodyOf (engine : Text) : Except Fault (List (Step Text) → Except Fault Body) :=
  match String.ofList engine with
  | "" => .error .missingEngine
  | "tree-sitter" => .ok fun steps => .ok (.queries steps)
  | "dasel" => .ok fun steps => (steps.mapM selectorStep).map .selectors
  | "command" => .ok fun steps => .ok (.commands steps)
  | _ => .error (.unsupportedEngine engine)

def readBody (n : Node) : Except Fault Body := do
  let some entries := entries? n | throw (.badField "engine")
  if entries.any fun (k, _) => k.rawText?.isNone then throw (.yaml .badKey)
  let engine := (← textField entries ["engine"]).getD []
  let steps := (← readSteps entries "scopes") ++ (← readSteps entries "steps")
  let body ← bodyOf engine
  if steps.isEmpty then throw .missingQueries
  body steps

/-- Reads the text of a blueprint file. -/
def ofText (name source : Text) : Except ConfigError Blueprint :=
  let body : Except Fault Body := do
    let n ← (Data.Yaml.readNode source).mapError Fault.yaml
    readBody (n.getD Node.missing)
  match body with
  | .ok body => .ok ⟨name, body⟩
  | .error f => .error (.blueprint name f.message)

/-- The steps with their queries as they are written. -/
def steps (b : Blueprint) : List (Step Text) :=
  match b.body with
  | .queries steps | .commands steps => steps
  | .selectors steps => steps.map fun s => { s with query := s.query.expr }

/-- The words of a command line, which blanks separate. -/
def commandWords (expr : Text) : List Text :=
  (Text.splitWhere Text.isSpace expr).filter (!·.isEmpty)

def textsOfJson (t : Text) : Except Text (List Text) :=
  match Data.Json.read t with
  | .error e => .error e.message
  | .ok (.list items) =>
    match items.mapM fun v => match v with | .str s => some s | _ => none with
    | some texts => .ok texts
    | none => .error "expected a string"
  | .ok _ => .error "expected a sequence"

def runCommand (tools : Tools) (expr content : Text) : Except LintError (List Text) := do
  match commandWords expr with
  | [] => throw (.selector expr "empty command")
  | program :: args =>
    let out ← tools.run program args content
    match textsOfJson out with
    | .ok texts => return texts
    | .error m => throw (.selector expr ("expected a JSON array of strings: ".toList ++ m))

/-- What the steps find in a file of structured data. -/
def apply (tools : Tools) (b : Blueprint) (content ext path : Text) :
    Except LintError (List Found) :=
  match b.body with
  | .selectors steps => do
    let doc ← Document.read content ext path
    return steps.map fun s => ⟨s.name, Format.ofStepType s.kind, s.query.selectTexts doc⟩
  | .commands steps => steps.mapM fun s => do
    return ⟨s.name, Format.ofStepType s.kind, ← runCommand tools s.query content⟩
  | .queries _ =>
    .error (.selector b.name "tree-sitter blueprints apply to code, not structured data")

end Blueprint

end Copydesk
