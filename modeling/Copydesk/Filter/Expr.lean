import Copydesk.Filter.Token

/-! Filter expressions and how they are read. From the loosest to the tightest bind `or`, `and`,
`not`, and comparisons and memberships. -/

namespace Copydesk.Filter

inductive BinOp
  | or | and | eq | ne | lt | le | gt | ge | within | notIn | contains | startsWith | endsWith
  | matching
  deriving DecidableEq, Repr

def BinOp.level : BinOp → Nat
  | or => 1
  | and => 2
  | _ => 4

inductive Expr
  | field (name : Text)
  | str (t : Text)
  | num (x : Float)
  | bool (b : Bool)
  | array (items : List Expr)
  | not (e : Expr)
  | call (name : Text) (args : List Expr)
  | binary (op : BinOp) (left right : Expr)

namespace Expr

/-- The level that the operand of `not` is read at. -/
def notLevel : Nat := 3

def binaryOp? : List Token → Option (BinOp × List Token)
  | .op .or :: ts => some (.or, ts)
  | .op .and :: ts => some (.and, ts)
  | .op .eq :: ts => some (.eq, ts)
  | .op .ne :: ts => some (.ne, ts)
  | .op .lt :: ts => some (.lt, ts)
  | .op .le :: ts => some (.le, ts)
  | .op .gt :: ts => some (.gt, ts)
  | .op .ge :: ts => some (.ge, ts)
  | .ident w :: ts => match String.ofList w with
    | "or" => some (.or, ts)
    | "and" => some (.and, ts)
    | "in" => some (.within, ts)
    | "contains" => some (.contains, ts)
    | "startsWith" => some (.startsWith, ts)
    | "endsWith" => some (.endsWith, ts)
    | "matches" => some (.matching, ts)
    | "not" => match ts with
      | .ident v :: ts => if v = "in" then some (.notIn, ts) else none
      | _ => none
    | _ => none
  | _ => none

def expect (want : Token) : List Token → Except Fault (List Token)
  | [] => .error (.expected want none)
  | t :: ts => if t == want then .ok ts else .error (.expected want (some t))

mutual

/-- An expression whose operators bind at least as tightly as `level`. -/
def read : Nat → Nat → List Token → Except Fault (Expr × List Token)
  | 0, _, _ => .error .unexpectedEnd
  | fuel + 1, level, ts => do
    let (left, rest) ← operand fuel ts
    climb fuel level left rest

def climb : Nat → Nat → Expr → List Token → Except Fault (Expr × List Token)
  | 0, _, left, ts => .ok (left, ts)
  | fuel + 1, level, left, ts => match binaryOp? ts with
    | none => .ok (left, ts)
    | some (op, rest) =>
      if op.level < level then .ok (left, ts)
      else do
        -- operators of one level group to the left
        let (right, rest) ← read fuel (op.level + 1) rest
        climb fuel level (.binary op left right) rest

def operand : Nat → List Token → Except Fault (Expr × List Token)
  | 0, _ => .error .unexpectedEnd
  | _, [] => .error .unexpectedEnd
  | fuel + 1, t :: ts => match t with
    | .op .not => do
      let (e, rest) ← read fuel notLevel ts
      return (.not e, rest)
    | .ident w => match String.ofList w with
      | "not" => do
        let (e, rest) ← read fuel notLevel ts
        return (.not e, rest)
      | "true" => .ok (.bool true, ts)
      | "false" => .ok (.bool false, ts)
      | _ => do
        let rest ← expect .openParen ts
        let (args, rest) ← listed fuel .closeParen rest
        return (.call w args, rest)
    | .field n => .ok (.field n, ts)
    | .str s => .ok (.str s, ts)
    | .num x => .ok (.num x, ts)
    | .openBracket => do
      let (items, rest) ← listed fuel .closeBracket ts
      return (.array items, rest)
    | .openParen => do
      let (e, rest) ← read fuel 0 ts
      return (e, ← expect .closeParen rest)
    | t => .error (.unexpected t)

def listed : Nat → Token → List Token → Except Fault (List Expr × List Token)
  | 0, _, _ => .error .unexpectedEnd
  | fuel + 1, close, ts =>
    if ts.head? == some close then .ok ([], ts.tail) else listItems fuel close ts

def listItems : Nat → Token → List Token → Except Fault (List Expr × List Token)
  | 0, _, _ => .error .unexpectedEnd
  | fuel + 1, close, ts => do
    let (e, rest) ← read fuel 0 ts
    match rest with
    | [] => throw (.expectedInList close none)
    | .comma :: rest =>
      let (es, rest) ← listItems fuel close rest
      return (e :: es, rest)
    | t :: rest => if t == close then return ([e], rest) else throw (.expectedInList close (some t))

end

def ofTokens (ts : List Token) : Except Fault Expr := do
  -- every token takes at most four steps
  let (e, rest) ← read (4 * ts.length + 4) 0 ts
  match rest with
  | [] => return e
  | t :: _ => throw (.trailing t)

end Expr

end Copydesk.Filter
