import Copydesk.Tool.Shell.Builtin
import Copydesk.Tool.Shell.Command

/-! Running shell scripts. A script has the shell's own commands and programs with absolute
paths. -/

namespace Copydesk.Shell

/-- Runs a program, which reads all the input there is or none of it. -/
def runProgram (tools : Tools) (name : Text) (args : List Text) (s : State) : State :=
  match (if name.any (· == '/') then tools name else none) with
  | none => s.complain 127 (name ++ ": not found".toList)
  | some tool =>
    let o := tool args s.input
    let s := if (tool args []).stdout = o.stdout then s else { s with input := [] }
    ((s.print o.stdout).printError o.stderr).finish o.status

def runSimple (tools : Tools) (as : List (Text × Word)) (ws : List Word) (s : State) : State :=
  match ws.flatMap s.expand with
  | [] => { s.assign as with status := 0 }
  | name :: args =>
    let run := (builtin? name).getD (runProgram tools name)
    s.restore as (run args (s.assign as))

def withRedirects (rs : List Redirect) (run : State → State) (s : State) : State :=
  match rs.foldlM State.redirect s with
  | .error failed =>
    { failed with onOutput := s.onOutput, onErrors := s.onErrors, input := s.input }
  | .ok redirected =>
    let ended := run redirected
    { ended with
      onOutput := s.onOutput
      onErrors := s.onErrors
      input := if rs.any (·.source == .input) then s.input else ended.input }

def runPipe (first second : State → State) (s : State) : State :=
  let a := first { s with piped := [], onOutput := .pipe }
  -- neither command changes the variables of the shell
  let b := second { s with input := a.piped, output := a.output, errors := a.errors }
  { s with input := a.input, output := b.output, errors := b.errors, piped := b.piped
           status := b.status }

mutual

/-- Runs a command, with a limit on how deep it goes. -/
def run (tools : Tools) : Nat → Command → State → State
  | 0, _, s => s.exit
  | n + 1, c, s =>
    if s.hasExited then s
    else match c with
      | .nothing => s
      | .simple as ws => runSimple tools as ws s
      | .redirected rs c => withRedirects rs (run tools n c) s
      | .sequence c d => run tools n d (run tools n c s)
      | .both c d =>
        let s := run tools n c s
        if s.status = 0 then run tools n d s else s
      | .either c d =>
        let s := run tools n c s
        if s.status = 0 then s else run tools n d s
      | .negated c =>
        let s := run tools n c s
        if s.hasExited then s else s.finish (if s.status = 0 then 1 else 0)
      | .pipe c d => runPipe (run tools n c) (run tools n d) s
      | .whileLoop cond body => loop tools n true cond body (s.finish 0)
      | .untilLoop cond body => loop tools n false cond body (s.finish 0)
      | .branch cond yes no =>
        let s := run tools n cond s
        if s.status = 0 then run tools n yes s else run tools n no (s.finish 0)
      | .each name ws body =>
        (ws.flatMap s.expand).foldl (fun s v => run tools n body (s.set name v)) (s.finish 0)
      | .subshell c =>
        { run tools n c s with
          bindings := s.bindings, arguments := s.arguments, hasExited := false }

/-- Repeats the body as long as the condition ends as wanted; the status is that of the last
body. -/
def loop (tools : Tools) : Nat → Bool → Command → Command → State → State
  | 0, _, _, _, s => s.exit
  | n + 1, wanted, cond, body, s =>
    let asked := run tools n cond s
    if asked.hasExited then asked
    else if (asked.status == 0) == wanted then
      loop tools n wanted cond body (run tools n body asked)
    else asked.finish s.status

end

def depth : Nat := 100000

def outcome (s : State) : Tool.Outcome := ⟨s.status, s.output, s.errors⟩

def runScript (tools : Tools) (script : Text) (s : State) : Tool.Outcome :=
  match Command.ofText script with
  | .error f => outcome (s.complain 2 f.message)
  | .ok c => outcome (run tools depth c s)

/-- A shell: it runs its `-c` argument with the arguments after it, or else its input. -/
def tool (tools : Tools) : Tool := fun args input =>
  match args with
  | [['-', 'c']] => outcome (({ input : State }).complain 2 "-c requires an argument")
  | ['-', 'c'] :: script :: [] => runScript tools script { input }
  | ['-', 'c'] :: script :: name :: arguments => runScript tools script { input, name, arguments }
  | _ => runScript tools input { input := [] }

end Copydesk.Shell
