import Copydesk.Linter

/-! The results of checking files. A file that cannot be checked does not keep the others from it. -/

namespace Copydesk

structure FileResult where
  path : Text
  outcome : Except LintError (List Alert)

structure Report where
  /-- In the order of their paths. -/
  files : List FileResult
  /-- Number of rules in the rule set. -/
  ruleCount : Nat

namespace FileResult

def ofPath (l : Linter) (files : FileTree) (path : Text) : FileResult :=
  ⟨path, l.lintFile files path⟩

def alerts (r : FileResult) : List Alert :=
  match r.outcome with
  | .ok as => as
  | .error _ => []

def failure? (r : FileResult) : Option LintError :=
  match r.outcome with
  | .ok _ => none
  | .error e => some e

end FileResult

namespace Report

/-- The results for files, in the order of their paths. -/
def ofPaths (l : Linter) (files : FileTree) (paths : List Text) : Report where
  files := (paths.map (.ofPath l files)).mergeSort fun a b => Path.le a.path b.path
  ruleCount := l.rules.rules.length

def alerts (r : Report) : List (Text × Alert) :=
  r.files.flatMap fun f => f.alerts.map fun a => (f.path, a)

def failures (r : Report) : List (Text × LintError) :=
  r.files.filterMap fun f => f.failure?.map fun e => (f.path, e)

def count (r : Report) (l : Level) : Nat := r.alerts.countP fun a => a.2.level == l

def hasErrors (r : Report) : Bool := 0 < r.count .error

end Report

end Copydesk
