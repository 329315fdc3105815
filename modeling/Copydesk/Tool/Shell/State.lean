import Copydesk.Tool.Basic
import Copydesk.Tool.Shell.Word

/-! The state of a running script, and what its words stand for. -/

namespace Copydesk.Shell

inductive Sink
  | output | errors | pipe | nowhere
  deriving DecidableEq, Repr

structure State where
  name : Text := "/bin/sh"
  arguments : List Text := []
  bindings : List (Text × Text) := []
  input : Text
  output : Text := []
  errors : Text := []
  /-- What a pipe holds. -/
  piped : Text := []
  onOutput : Sink := .output
  onErrors : Sink := .errors
  status : Nat := 0
  hasExited : Bool := false
  deriving DecidableEq, Repr

namespace State

def write (t : Text) (s : State) : Sink → State
  | .output => { s with output := s.output ++ t }
  | .errors => { s with errors := s.errors ++ t }
  | .pipe => { s with piped := s.piped ++ t }
  | .nowhere => s

def print (s : State) (t : Text) : State := s.write t s.onOutput

def printError (s : State) (t : Text) : State := s.write t s.onErrors

def finish (s : State) (status : Nat) : State := { s with status }

def complain (s : State) (status : Nat) (message : Text) : State :=
  (s.printError (s.name ++ ": 1: ".toList ++ message ++ ['\n'])).finish status

def exit (s : State) : State := { s with hasExited := true }

def set (s : State) (name value : Text) : State :=
  { s with bindings := (name, value) :: s.bindings.filter (·.1 != name) }

def value (s : State) (name : Text) : Text := (s.bindings.lookup name).getD []

def separators (s : State) : Text := (s.bindings.lookup "IFS".toList).getD " \t\n".toList

def parameter (s : State) (name : Text) : Text :=
  match name with
  | ['?'] => Text.ofNat s.status
  | ['#'] => Text.ofNat s.arguments.length
  | ['@'] | ['*'] => Text.join [' '] s.arguments
  | ['0'] => s.name
  | _ =>
    match Text.toNat? name with
    | some n => (s.arguments[n - 1]?).getD []
    | none => match Text.splitOnText ":-".toList name with
      | [name, standard] => if (s.value name).isEmpty then standard else s.value name
      | _ => s.value name

/-- Fields, of which the last may still grow. -/
structure Fields where
  done : List Text := []
  current : Option Text := none

namespace Fields

def extend (f : Fields) (t : Text) : Fields := { f with current := some (f.current.getD [] ++ t) }

def close (f : Fields) : Fields := ⟨f.done ++ f.current.toList, none⟩

/-- Adds a text that its separators split. -/
def addSplit (isSeparator : Char → Bool) (f : Fields) (t : Text) : Fields :=
  let add (f : Fields) (piece : Text) : Fields := if piece.isEmpty then f else f.extend piece
  match Text.splitWhere isSeparator t with
  | [] => f
  | first :: rest => rest.foldl (fun f piece => add f.close piece) (add f first)

end Fields

def expand (s : State) (w : Word) : List Text :=
  if w = [.parameter ['@'] true] then s.arguments
  else
    let add (f : Fields) (p : Part) : Fields := match p with
      | .literal t _ => f.extend t
      | .parameter name true => f.extend (s.parameter name)
      | .parameter name false => f.addSplit (fun c => s.separators.any (· == c)) (s.parameter name)
    (w.foldl add {}).close.done

/-- What a word stands for where fields are not split. -/
def expandWhole (s : State) (w : Word) : Text :=
  w.flatMap fun p => match p with
    | .literal t _ => t
    | .parameter name _ => s.parameter name

def assign (s : State) (as : List (Text × Word)) : State :=
  as.foldl (fun s (name, w) => s.set name (s.expandWhole w)) s

/-- Sets the variables back that the assignments of one command changed. -/
def restore (before : State) (as : List (Text × Word)) (s : State) : State :=
  as.foldl (fun s (name, _) => match before.bindings.lookup name with
    | some v => s.set name v
    | none => { s with bindings := s.bindings.filter (·.1 != name) }) s

def sink (s : State) : Stream → Sink
  | .output => s.onOutput
  | .errors => s.onErrors
  | .input => .nowhere

def setSink (s : State) (k : Sink) : Stream → State
  | .output => { s with onOutput := k }
  | .errors => { s with onErrors := k }
  | .input => s

/-- Redirects a stream. Files that are written are not kept, and none can be read. -/
def redirect (s : State) (r : Redirect) : Except State State :=
  match r.target with
  | .stream t => .ok (s.setSink (s.sink t) r.source)
  | .file w =>
    let name := s.expandWhole w
    if r.source = .input then
      if name = "/dev/null".toList then .ok { s with input := [] }
      else .error (s.complain 2 ("cannot open ".toList ++ name ++ ": No such file".toList))
    else if name = "/dev/stdout".toList then .ok (s.setSink s.onOutput r.source)
    else if name = "/dev/stderr".toList then .ok (s.setSink s.onErrors r.source)
    else .ok (s.setSink .nowhere r.source)

end State

end Copydesk.Shell
