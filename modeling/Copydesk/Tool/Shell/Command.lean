import Copydesk.Tool.Shell.Word

/-! Shell commands. -/

namespace Copydesk.Shell

inductive Command
  | nothing
  | simple (assignments : List (Text × Word)) (words : List Word)
  | redirected (rs : List Redirect) (c : Command)
  | sequence (first second : Command)
  | both (first second : Command)
  | either (first second : Command)
  | negated (c : Command)
  | pipe (first second : Command)
  | whileLoop (cond body : Command)
  | untilLoop (cond body : Command)
  | branch (cond yes no : Command)
  | each (name : Text) (words : List Word) (body : Command)
  | subshell (c : Command)
  deriving Repr

namespace Command

abbrev Reader := Except Fault (Command × List Token)

/-- The words that end or divide compound commands. -/
def closers : List Text :=
  (["then", "do", "done", "else", "elif", "fi", "\x7d", "esac"] : List String).map String.toList

def keyword? : List Token → Option Text
  | .word w :: _ => Word.bare? w
  | _ => none

def describe : List Token → Text
  | [] => "end of file"
  | .newline :: _ => "newline"
  | .redirect _ :: _ => "redirection"
  | .operator t :: _ => '"' :: t ++ ['"']
  | .word w :: _ => match Word.bare? w with
    | some t => if closers.contains t then '"' :: t ++ ['"'] else "word"
    | none => "word"

def unexpected {α : Type} (ts : List Token) (expected : Option Text) : Except Fault α :=
  .error (.unexpected (describe ts) expected)

def pass (k : Text) (ts : List Token) : Except Fault (List Token) :=
  if keyword? ts = some k then .ok (ts.drop 1) else unexpected ts (some k)

def skipNewlines : List Token → List Token
  | .newline :: ts => skipNewlines ts
  | ts => ts

def endsList (ts : List Token) : Bool :=
  match ts with
  | [] => true
  | .operator t :: _ => t == ")".toList || t == ";;".toList
  | _ => (keyword? ts).any (closers.contains ·)

def redirects : List Token → List Redirect × List Token
  | .redirect r :: ts => let (rs, ts) := redirects ts; (r :: rs, ts)
  | ts => ([], ts)

def withRedirects (r : Command × List Token) : Command × List Token :=
  match redirects r.2 with
  | ([], ts) => (r.1, ts)
  | (rs, ts) => (.redirected rs r.1, ts)

/-- A command of words; assignments come before them. -/
def readSimple (as : List (Text × Word)) (ws : List Word) (rs : List Redirect) :
    List Token → Command × List Token
  | .word w :: ts =>
    match (if ws.isEmpty then Word.assignment? w else none) with
    | some a => readSimple (as ++ [a]) ws rs ts
    | none => readSimple as (ws ++ [w]) rs ts
  | .redirect r :: ts => readSimple as ws (rs ++ [r]) ts
  | ts => (if rs.isEmpty then .simple as ws else .redirected rs (.simple as ws), ts)

def readWords : List Token → List Word × List Token
  | .word w :: ts => let (ws, ts) := readWords ts; (w :: ws, ts)
  | ts => ([], ts)

mutual

def readList : Nat → List Token → Reader
  | 0, ts => .ok (.nothing, ts)
  | n + 1, ts => do
    let ts := skipNewlines ts
    if endsList ts then return (.nothing, ts)
    let (c, ts) ← readConditional n ts
    match ts with
    | .operator [';'] :: ts | .operator ['&'] :: ts | .newline :: ts =>
      let (d, ts) ← readList n ts
      return (.sequence c d, ts)
    | ts => if endsList ts then return (c, ts) else unexpected ts none

def readConditional : Nat → List Token → Reader
  | 0, ts => .ok (.nothing, ts)
  | n + 1, ts => do
    let (c, ts) ← readPipe n ts
    readConditionals n c ts

def readConditionals : Nat → Command → List Token → Reader
  | 0, c, ts => .ok (c, ts)
  | n + 1, c, ts => do
    match ts with
    | .operator ['&', '&'] :: ts =>
      let (d, ts) ← readPipe n (skipNewlines ts)
      readConditionals n (.both c d) ts
    | .operator ['|', '|'] :: ts =>
      let (d, ts) ← readPipe n (skipNewlines ts)
      readConditionals n (.either c d) ts
    | ts => return (c, ts)

def readPipe : Nat → List Token → Reader
  | 0, ts => .ok (.nothing, ts)
  | n + 1, ts => do
    if keyword? ts = some ['!'] then
      let (c, ts) ← readPipe n (ts.drop 1)
      return (.negated c, ts)
    let (c, ts) ← readCommand n ts
    match ts with
    | .operator ['|'] :: ts =>
      let (d, ts) ← readPipe n (skipNewlines ts)
      return (.pipe c d, ts)
    | ts => return (c, ts)

def readCommand : Nat → List Token → Reader
  | 0, ts => .ok (.nothing, ts)
  | n + 1, ts => do
    match ts with
    | .operator ['('] :: ts =>
      let (c, ts) ← readBody n ts
      match ts with
      | .operator [')'] :: ts => return withRedirects (.subshell c, ts)
      | ts => unexpected ts (some [')'])
    | .word w :: rest =>
      match (Word.bare? w).map String.ofList with
      | some "while" =>
        let (cond, body, ts) ← readLoop n rest
        return withRedirects (.whileLoop cond body, ts)
      | some "until" =>
        let (cond, body, ts) ← readLoop n rest
        return withRedirects (.untilLoop cond body, ts)
      | some "if" =>
        let (c, ts) ← readBranches n rest
        return withRedirects (c, ts)
      | some "for" => return withRedirects (← readFor n rest)
      | some "\x7b" =>
        let (c, ts) ← readBody n rest
        return withRedirects (c, ← pass ['}'] ts)
      | some t =>
        if closers.contains t.toList then unexpected ts none
        else return readSimple [] [] [] ts
      | none => return readSimple [] [] [] ts
    | .redirect _ :: _ => return readSimple [] [] [] ts
    | ts => unexpected ts none

def readBody : Nat → List Token → Reader
  | 0, ts => .ok (.nothing, ts)
  | n + 1, ts =>
    let ts := skipNewlines ts
    if endsList ts && !ts.isEmpty then unexpected ts none else readList n ts

def readLoop : Nat → List Token → Except Fault (Command × Command × List Token)
  | 0, ts => .ok (.nothing, .nothing, ts)
  | n + 1, ts => do
    let (cond, ts) ← readBody n ts
    let (body, ts) ← readBody n (← pass "do" ts)
    return (cond, body, ← pass "done" ts)

def readBranches : Nat → List Token → Reader
  | 0, ts => .ok (.nothing, ts)
  | n + 1, ts => do
    let (cond, ts) ← readBody n ts
    let (yes, ts) ← readBody n (← pass "then" ts)
    if keyword? ts = some "elif".toList then
      let (no, ts) ← readBranches n (ts.drop 1)
      return (.branch cond yes no, ts)
    if keyword? ts = some "else".toList then
      let (no, ts) ← readBody n (ts.drop 1)
      return (.branch cond yes no, ← pass "fi" ts)
    return (.branch cond yes .nothing, ← pass "fi" ts)

def readFor : Nat → List Token → Reader
  | 0, ts => .ok (.nothing, ts)
  | n + 1, ts => do
    match keyword? ts with
    | none => unexpected ts none
    | some name =>
      let (words, ts) := if keyword? (ts.drop 1) = some "in".toList then readWords (ts.drop 2)
        else ([[.parameter ['@'] true]], ts.drop 1)
      let ts := match ts with
        | .operator [';'] :: ts => ts
        | ts => ts
      let (body, ts) ← readBody n (← pass "do" (skipNewlines ts))
      return (.each name words body, ← pass "done" ts)

end

/-- The command that a script is. -/
def ofText (script : Text) : Except Fault Command := do
  let ts ← tokens script
  match ← readList (8 * (ts.length + 1)) ts with
  | (c, []) => return c
  | (_, ts) => unexpected ts none

end Command

end Copydesk.Shell
