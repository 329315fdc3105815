import Copydesk.Error

/-! External programs, as functions of their arguments and standard input. -/

namespace Copydesk

structure Tool.Outcome where
  status : Nat := 0
  stdout : Text := []
  stderr : Text := []
  deriving DecidableEq, Repr

abbrev Tool := List Text → Text → Tool.Outcome

abbrev Tools := Text → Option Tool

namespace Tool

def succeed (stdout : Text) : Outcome := { stdout }

/-- Writes its standard input, once for each argument that is a dash. There are no files. -/
def cat : Tool := fun args input =>
  let missing := args.filter (· != ['-'])
  { status := if missing.isEmpty then 0 else 1
    stdout := if missing.isEmpty || args.length != missing.length then input else []
    stderr := missing.flatMap fun f =>
      "/bin/cat: ".toList ++ f ++ ": No such file or directory\n".toList }

/-- Writes its arguments on a line, which a leading `-n` leaves open. -/
def echo : Tool := fun args _ =>
  match args with
  | ['-', 'n'] :: args => succeed (Text.join [' '] args)
  | args => succeed (Text.join [' '] args ++ ['\n'])

def failing : Tool := fun _ _ => { status := 1 }

def succeeding : Tool := fun _ _ => {}

end Tool

namespace Tools

def none : Tools := fun _ => Option.none

/-- The output of a program that succeeds; one that fails is reported by what it wrote to standard
error, if it is not blank. -/
def run (tools : Tools) (program : Text) (args : List Text) (input : Text) :
    Except LintError Text :=
  match tools program with
  | Option.none => .error (.missingTool program)
  | some tool =>
    let o := tool args input
    if o.status = 0 then .ok o.stdout
    else if Text.isBlank o.stderr then
      .error (.render program ("exited with exit status: ".toList ++ Text.ofNat o.status))
    else .error (.render program o.stderr)

end Tools

end Copydesk
