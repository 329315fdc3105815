import Copydesk.FileTree
import Copydesk.Glob.Basic

/-! Ignore files: which entries of a file system to pass over. -/

namespace Copydesk.Walk

structure IgnoreRule where
  glob : Glob
  /-- Takes an entry back that an earlier rule ignores. -/
  keeps : Bool
  foldersOnly : Bool

namespace IgnoreRule

/-- The pattern that a line stands for. Without a slash it matches at any depth, and two stars at
its end match what a folder holds but not the folder. -/
def patternOf (rooted : Bool) (line : Text) : Text :=
  let p := if rooted || line.any (· == '/') || Text.startsWith line "**/" || line == "**".toList
    then line else "**/".toList ++ line
  if Text.endsWith p "/**" then p ++ "/*".toList else p

/-- Drops a slash at the end, with the backslash that may hide it. -/
def dropSlash (line : Text) : Text × Bool :=
  match Text.beforeSuffix? ['/'] line with
  | none => (line, false)
  | some l => ((Text.beforeSuffix? ['\\'] l).getD l, true)

/-- Splits the marks at the beginning off: whether the rule keeps, and whether it is rooted. -/
def marks (line : Text) : Bool × Bool × Text :=
  match line with
  | '\\' :: '!' :: rest => (false, false, '!' :: rest)
  | '\\' :: '#' :: rest => (false, false, '#' :: rest)
  | '!' :: '/' :: rest => (true, true, rest)
  | '!' :: rest => (true, false, rest)
  | '/' :: rest => (false, true, rest)
  | rest => (false, false, rest)

/-- The rule of a line; comments, blank lines and malformed patterns have none. -/
def ofLine? (line : Text) : Option IgnoreRule :=
  -- an escaped blank at the end belongs to the pattern
  let line := if Text.endsWith line "\\ " then line else Text.trimEnd line
  if line.isEmpty || line.head? == some '#' then none
  else
    let (keeps, rooted, rest) := marks line
    let (body, foldersOnly) := dropSlash rest
    match Glob.ofText (patternOf rooted body) with
    | .ok glob => some { glob, keeps, foldersOnly }
    | .error _ => none

def ofText (t : Text) : List IgnoreRule :=
  (Text.lines ((Text.afterPrefix? ['\uFEFF'] t).getD t)).filterMap ofLine?

/-- Whether the last rule that matches a path keeps the entry; nothing if none matches. -/
def verdict? (rules : List IgnoreRule) (path : Text) (isFolder : Bool) : Option Bool :=
  ((rules.reverse.find? fun r =>
    (isFolder || !r.foldersOnly) && r.glob.admitsByComponent path)).map (·.keeps)

end IgnoreRule

/-- The ignore files of a folder. -/
structure Level where
  /-- Components of the folder's path. -/
  depth : Nat
  own : List IgnoreRule
  git : List IgnoreRule
  exclude : List IgnoreRule
  /-- Whether the folder is the root of a repository. -/
  hasGit : Bool

namespace Level

def rulesOf (folder : FileTree) (path : Text) : List IgnoreRule :=
  match folder.read path with
  | .ok t => IgnoreRule.ofText t
  | .error _ => []

def ofFolder (depth : Nat) (folder : FileTree) : Level where
  depth
  own := rulesOf folder ".ignore"
  git := rulesOf folder ".gitignore"
  exclude := rulesOf folder ".git/info/exclude"
  hasGit := folder.holds ".git"

def withinRepository : List Level → List Level
  | [] => []
  | l :: ls => if l.hasGit then [l] else l :: withinRepository ls

/-- Whether an entry is ignored. The innermost file with a say decides; files of a repository count
only within one, and after those for any folder. -/
def ignores (levels : List Level) (components : List Text) (isFolder : Bool) : Bool :=
  let ask (rules : Level → List IgnoreRule) (levels : List Level) : Option Bool :=
    levels.findSome? fun l =>
      IgnoreRule.verdict? (rules l) (Text.join ['/'] (components.drop l.depth)) isFolder
  let repository := if levels.any (·.hasGit) then withinRepository levels else []
  ((ask own levels).or (ask git repository) |>.or (ask exclude repository)) == some false

end Level

end Copydesk.Walk
