import Copydesk.Data.Yaml.Typed
import Copydesk.Error
import Copydesk.Level
import Copydesk.Path
import Copydesk.Scope

/-! Rule definitions, as they are written in rule files. -/

namespace Copydesk.Rule

structure Existence where
  tokens : List Text := []
  /-- Pieces of one pattern, which takes the place of the tokens. -/
  raw : List Text := []
  ignoreCase : Bool := false
  nonword : Bool := false
  exceptions : List Text := []
  deriving DecidableEq, Repr

/-- Suggests a replacement for each key that occurs. -/
structure Substitution where
  /-- Keys in lexical order. -/
  swap : List (Text × Text) := []
  ignoreCase : Bool := false
  nonword : Bool := false
  exceptions : List Text := []
  deriving DecidableEq, Repr

/-- Bounds how often a token occurs in a block. -/
structure Occurrence where
  token : Text := []
  max : Option Nat := none
  min : Option Nat := none
  ignoreCase : Bool := false
  deriving DecidableEq, Repr

/-- Flags a token that follows itself. -/
structure Repetition where
  tokens : List Text := []
  alpha : Bool := false
  ignoreCase : Bool := false
  exceptions : List Text := []
  deriving DecidableEq, Repr

structure Capitalization where
  pattern : Text := []
  exceptions : List Text := []
  deriving DecidableEq, Repr

inductive Kind
  | existence (e : Existence)
  | substitution (s : Substitution)
  | occurrence (o : Occurrence)
  | repetition (r : Repetition)
  | capitalization (c : Capitalization)
  /-- Left to a provider of language services. -/
  | delegated
  deriving DecidableEq, Repr

structure Definition where
  /-- Style and rule, joined by a dot. -/
  name : Text
  checkType : Text
  level : Level
  scope : ScopeSet
  message : Text
  description : Text := []
  link : Text := []
  pos : Text := []
  /-- The file it was read from; built-in rules have none. -/
  path : Option Text := none
  kind : Kind
  deriving DecidableEq, Repr

inductive Fault
  | yaml (e : Data.Yaml.Error)
  | badField (field : Text)
  | unknownType (t : Text)
  | missing (field : Text)
  | misplaced
  | unreadable (path cause : Text)
  deriving DecidableEq, Repr

def Fault.message : Fault → Text
  | yaml e => e.message
  | badField f => "YAML: the field ".toList ++ quoted f ++ " is missing or has a wrong type".toList
  | unknownType t => "unknown check type ".toList ++ quoted t
  | missing f => "missing ".toList ++ quoted f
  | misplaced => "rule files live at <style>/<rule>.yml"
  | unreadable path cause => "failed to read ".toList ++ path ++ ": ".toList ++ cause

namespace Definition

open Data.Yaml (Node)

/-- Positional and part-of-speech rules need the text to be tagged. -/
def needsTagging (d : Definition) : Bool := d.checkType == "sequence" || !d.pos.isEmpty

def style (d : Definition) : Text := d.name.takeWhile (· != '.')

def scopeBases (d : Definition) : List Text := d.scope.selectors.map ScopeSelector.base

abbrev Fields := List (Text × Node)

/-- A field that may be absent, in which case it has a default. -/
def field {α : Type} (fs : Fields) (name : Text) (read : Node → Option α) (default : α) :
    Except Fault α :=
  match fs.lookup name with
  | none => .ok default
  | some n => match read n with
    | some a => .ok a
    | none => .error (.badField name)

def text (fs : Fields) (name : Text) : Except Fault Text := field fs name Node.text? []

def texts (fs : Fields) (name : Text) : Except Fault (List Text) := field fs name Node.texts? []

def flag (fs : Fields) (name : Text) : Except Fault Bool := field fs name Node.bool? false

/-- Null stands for an absent field. -/
def optional {α : Type} (read : Node → Option α) (n : Node) : Option (Option α) :=
  if n.isNull then some none else (read n).map some

def level? (n : Node) : Option Level := n.text?.bind Level.ofName?

def scopeTexts? (n : Node) : Option (List Text) :=
  (n.text?.map fun t => [t]).or n.texts?

def swap? (n : Node) : Option (List (Text × Text)) := do
  let fs ← n.fields?
  let pairs ← fs.mapM fun (k, v) => v.text?.map fun t => (k, t)
  return pairs.mergeSort fun a b => Text.le a.1 b.1

def readExistence (fs : Fields) : Except Fault Existence := do
  return {
    tokens := ← texts fs "tokens"
    raw := ← texts fs "raw"
    ignoreCase := ← flag fs "ignorecase"
    nonword := ← flag fs "nonword"
    exceptions := ← texts fs "exceptions" }

def readSubstitution (fs : Fields) : Except Fault Substitution := do
  return {
    swap := ← field fs "swap" swap? []
    ignoreCase := ← flag fs "ignorecase"
    nonword := ← flag fs "nonword"
    exceptions := ← texts fs "exceptions" }

def readOccurrence (fs : Fields) : Except Fault Occurrence := do
  return {
    token := ← text fs "token"
    max := ← field fs "max" (optional Node.nat?) none
    min := ← field fs "min" (optional Node.nat?) none
    ignoreCase := ← flag fs "ignorecase" }

def readRepetition (fs : Fields) : Except Fault Repetition := do
  return {
    tokens := ← texts fs "tokens"
    alpha := ← flag fs "alpha"
    ignoreCase := ← flag fs "ignorecase"
    exceptions := ← texts fs "exceptions" }

def readCapitalization (fs : Fields) : Except Fault Capitalization := do
  return { pattern := ← text fs "match", exceptions := ← texts fs "exceptions" }

def readKind (checkType : Text) (fs : Fields) : Except Fault Kind :=
  match String.ofList checkType with
  | "existence" => (readExistence fs).map .existence
  | "substitution" => (readSubstitution fs).map .substitution
  | "occurrence" => (readOccurrence fs).map .occurrence
  | "repetition" => (readRepetition fs).map .repetition
  | "capitalization" => (readCapitalization fs).map .capitalization
  | "sequence" | "spelling" | "consistency" | "conditional" | "metric" | "readability"
  | "script" => .ok .delegated
  | _ => .error (.unknownType checkType)

def ofFields (name : Text) (fs : Fields) : Except Fault Definition := do
  let checkType ← match fs.lookup "extends".toList with
    | none => throw (.badField "extends")
    | some n => match n.text? with
      | some t => pure t
      | none => throw (.badField "extends")
  let message ← text fs "message"
  let description ← text fs "description"
  let link ← text fs "link"
  let level ← field fs "level" (optional level?) none
  let scope ← field fs "scope" (optional scopeTexts?) none
  let pos ← field fs "pos" (optional Node.text?) none
  let kind ← readKind checkType fs
  if message.isEmpty then throw (.missing "message")
  let scope := (scope.filter (!·.isEmpty)).getD ["text"]
  return {
    name, checkType, message, description, link, kind
    level := level.getD .standard
    scope := ⟨scope.map ScopeSelector.ofText⟩
    pos := pos.getD [] }

def invalid (name : Text) (f : Fault) : RuleError := .invalidDefinition name f.message

def ofNode (name : Text) (n : Node) : Except Fault Definition := do
  if n.isAmbiguous then throw (.yaml .duplicateKey)
  match n.fields? with
  | none => throw (.badField "extends")
  | some fs => ofFields name fs

/-- Reads the text of a rule file. -/
def ofText (name source : Text) : Except RuleError Definition :=
  match Data.Yaml.readNode source with
  | .error e => .error (invalid name (.yaml e))
  | .ok n => match ofNode name (n.getD Node.missing) with
    | .error f => .error (invalid name f)
    | .ok d => .ok d

/-- The name of the rule at `<style>/<rule>.yml`. -/
def nameOfPath? (path : Text) : Option Text := do
  let rule ← Path.stem? path
  let style ← Path.parentName? path
  return style ++ '.' :: rule

end Definition

end Copydesk.Rule
