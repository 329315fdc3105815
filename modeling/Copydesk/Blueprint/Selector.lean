import Copydesk.Data.Json

/-! Selectors that reach nodes of structured data, such as `.info.[0]..title`. A step that does not
apply to a node selects nothing. -/

namespace Copydesk

inductive Selector.Step
  | key (k : Text)
  | index (i : Nat)
  | all
  | properties (ks : List Text)
  /-- The key anywhere below a node. -/
  | recursive (k : Text)
  deriving DecidableEq, Repr

structure Selector where
  expr : Text
  steps : List Selector.Step
  deriving DecidableEq, Repr

namespace Selector

inductive Fault
  | unterminatedEscape
  | unterminated (quote : Char)
  | expected (close : Char)
  | invalidIndex (t : Text)
  | unsupportedFunction (name : Text) (args : List Text)
  | missingKey (at' : Nat)
  | emptyStep (at' : Nat)
  | unexpected (c : Char) (at' : Nat)
  deriving DecidableEq, Repr

def Fault.message : Fault → Text
  | unterminatedEscape => "unterminated escape"
  | unterminated q => "unterminated ".toList ++ [q]
  | expected c => "expected '".toList ++ [c, '\'']
  | invalidIndex t => "invalid index '".toList ++ t ++ ['\'']
  | unsupportedFunction name args =>
    "unsupported function '".toList ++ name ++ '(' :: Text.join [','] args ++ [')', '\'']
  | missingKey i => "missing key after '..' at ".toList ++ Text.ofNat i
  | emptyStep i => "empty step at ".toList ++ Text.ofNat i
  | unexpected c i => "unexpected '".toList ++ [c] ++ "' at ".toList ++ Text.ofNat i

def indexLimit : Nat := Nat.pow 2 64

def readIndex (t : Text) : Except Fault Step :=
  match Text.toNat? ((Text.afterPrefix? ['+'] t).getD t) with
  | some n => if n < indexLimit then .ok (.index n) else .error (.invalidIndex t)
  | none => .error (.invalidIndex t)

def endsName (c : Char) : Bool := c == '.' || c == '[' || c == '(' || c == ')' || c == ','

def readName (t : Text) : Text × Text :=
  let name := t.takeWhile (!endsName ·)
  (Text.trim name, t.drop name.length)

/-- A name up to its closing quote, where a backslash keeps the next character. -/
def readQuoted (quote : Char) : Text → Except Fault (Text × Text)
  | [] => .error (.unterminated quote)
  | '\\' :: [] => .error .unterminatedEscape
  | '\\' :: c :: t => do
    let (name, rest) ← readQuoted quote t
    return (c :: name, rest)
  | c :: t =>
    if c = quote then .ok ([], t)
    else do
      let (name, rest) ← readQuoted quote t
      return (c :: name, rest)

def readUntil (close : Char) (t : Text) : Except Fault (Text × Text) :=
  match Text.splitOnce? close t with
  | some r => .ok r
  | none => .error (.expected close)

def readBracket (t : Text) : Except Fault (Step × Text) := do
  let (inner, rest) ← readUntil ']' t
  let inner := Text.trim inner
  if inner = ['*'] then return (.all, rest)
  match (Text.afterPrefix? ['"'] inner).bind (Text.beforeSuffix? ['"']) with
  | some k => return (.key k, rest)
  | none => return (← readIndex inner, rest)

def trimQuotes (t : Text) : Text := Text.dropEndWhile (· == '"') (t.dropWhile (· == '"'))

def callStep (name args : Text) : Except Fault Step :=
  let args := ((Text.splitOn ',' args).map fun a => trimQuotes (Text.trim a)).filter (!·.isEmpty)
  match String.ofList name, args with
  | "all", [] => .ok .all
  | "property", _ :: _ => .ok (.properties args)
  | "index", [i] => readIndex i
  | _, _ => .error (.unsupportedFunction name args)

def readQuoted? : Text → Option (Except Fault (Text × Text))
  | '"' :: t => some (readQuoted '"' t)
  | '\'' :: t => some (readQuoted '\'' t)
  | _ => none

/-- The steps after a dot that stands at byte `at'`; a dot at the end adds none. -/
def readDotted (at' : Nat) (t : Text) : Except Fault (Option Step × Text) := do
  match t with
  | '.' :: t =>
    let (k, rest) ← (readQuoted? t).getD (.ok (readName t))
    if k.isEmpty then throw (.missingKey at')
    return (some (.recursive k), rest)
  | [] => return (none, [])
  | '[' :: t =>
    let (s, rest) ← readBracket t
    return (some s, rest)
  | '*' :: t => return (some .all, t)
  | t => match readQuoted? t with
    | some r =>
      let (k, rest) ← r
      return (some (.key k), rest)
    | none =>
      let (name, rest) := readName t
      if name.isEmpty then throw (.emptyStep at')
      match rest with
      | '(' :: rest =>
        let (args, rest) ← readUntil ')' rest
        return (some (← callStep name args), rest)
      | _ => return (some (.key name), rest)

/-- The steps of what is left of a selector of `total` bytes. -/
def readSteps (total : Nat) : Nat → Text → Except Fault (List Step)
  | 0, _ => .ok []
  | _, [] => .ok []
  | fuel + 1, c :: t => do
    let at' := total - Text.size (c :: t)
    if c = '[' then
      let (s, rest) ← readBracket t
      return s :: (← readSteps total fuel rest)
    else if c = '.' then
      let (s, rest) ← readDotted at' t
      return s.toList ++ (← readSteps total fuel rest)
    else throw (.unexpected c at')

/-- The first step may be a bare key. -/
def leadingKey (t : Text) : List Step × Text :=
  match t with
  | [] | '.' :: _ | '[' :: _ => ([], t)
  | _ => let (k, rest) := readName t; ([.key k], rest)

def ofText (expr : Text) : Except Fault Selector := do
  let t := Text.trim expr
  let (first, rest) := leadingKey t
  return ⟨expr, first ++ (← readSteps (Text.size t) rest.length rest)⟩

open Data

mutual

/-- Everything below a node that stands under the key, parents before their descendants. -/
def descend (key : Text) : Value → List Value
  | .table fields => descendFields key fields
  | .list items => descendItems key items
  | _ => []

def descendFields (key : Text) : List (Text × Value) → List Value
  | [] => []
  | (k, v) :: fs => (if k = key then [v] else []) ++ descend key v ++ descendFields key fs

def descendItems (key : Text) : List Value → List Value
  | [] => []
  | v :: vs => descend key v ++ descendItems key vs

end

def Step.apply : Step → Value → List Value
  | key k, .table fields => (get? fields k).toList
  | index i, .list items => items[i]?.toList
  | all, .list items => items
  | all, .table fields => fields.map (·.2)
  | properties ks, .table fields => ks.filterMap (get? fields)
  | recursive k, v => descend k v
  | _, _ => []

def selectBy : List Step → List Value → List Value
  | [], vs => vs
  | s :: ss, vs => selectBy ss (vs.flatMap s.apply)

def select (s : Selector) (root : Value) : List Value := selectBy s.steps [root]

mutual

/-- The scalars below a node as texts; nulls have none. -/
def leaves : Value → List Text
  | .null => []
  | .str t => [t]
  | .list items => leavesOfItems items
  | .table fields => leavesOfFields fields
  | v => [Json.write v]

def leavesOfItems : List Value → List Text
  | [] => []
  | v :: vs => leaves v ++ leavesOfItems vs

def leavesOfFields : List (Text × Value) → List Text
  | [] => []
  | (_, v) :: fs => leaves v ++ leavesOfFields fs

end

def selectTexts (s : Selector) (root : Value) : List Text := (s.select root).flatMap leaves

end Selector

end Copydesk
