import Copydesk.Filter.Expr
import Copydesk.Regex.Basic
import Copydesk.Rule.Definition

/-! Filters: predicates on rules that choose the rules of a run. -/

namespace Copydesk

namespace Filter

inductive Val
  | str (t : Text)
  | num (x : Float)
  | bool (b : Bool)
  | list (items : List Val)

namespace Val

mutual

def beq : Val → Val → Bool
  | str a, str b => a == b
  | num a, num b => a == b
  | bool a, bool b => a == b
  | list a, list b => beqList a b
  | _, _ => false

def beqList : List Val → List Val → Bool
  | [], [] => true
  | a :: as, b :: bs => beq a b && beqList as bs
  | _, _ => false

end

def typeName : Val → Text
  | str _ => "string"
  | num _ => "number"
  | bool _ => "bool"
  | list _ => "array"

def toBool : Val → Except Fault Bool
  | bool b => .ok b
  | v => .error (.wrongType "bool" v.typeName)

def toText : Val → Except Fault Text
  | str t => .ok t
  | v => .error (.wrongType "string" v.typeName)

/-- Numbers that cannot be ordered count as equal. -/
def compare (a b : Val) : Except Fault Ordering :=
  match a, b with
  | num x, num y => .ok (if x < y then .lt else if y < x then .gt else .eq)
  | str s, str t => .ok (if s = t then .eq else if Text.le s t then .lt else .gt)
  | a, b => .error (.incomparable a.typeName b.typeName)

def contains (haystack needle : Val) : Except Fault Bool :=
  match haystack with
  | list items => .ok (items.any (beq · needle))
  | str t => return Text.contains t (← needle.toText)
  | v => .error (.unsearchable v.typeName)

end Val

def fieldOf (d : Rule.Definition) (name : Text) : Except Fault Val :=
  match String.ofList name with
  | "Name" => .ok (.str d.name)
  | "Level" => .ok (.str d.level.name)
  | "Scope" => .ok (.list (d.scope.selectors.map fun s => .str s.raw))
  | "Message" => .ok (.str d.message)
  | "Description" => .ok (.str d.description)
  | "Extends" => .ok (.str d.checkType)
  | "Link" => .ok (.str d.link)
  | _ => .error (.unknownField name)

def callOf (name : Text) (v : Val) : Except Fault Val :=
  match String.ofList name, v with
  | "len", .str t => .ok (.num (Float.ofNat t.length))
  | "len", .list items => .ok (.num (Float.ofNat items.length))
  | "lower", .str t => .ok (.str (Text.toLower t))
  | "upper", .str t => .ok (.str (Text.toUpper t))
  | "len", v | "lower", v | "upper", v => .error (.wrongArgument name v.typeName)
  | _, _ => .error (.unknownFunction name)

def patternFault : Regex.SyntaxError → Text
  | .tooLarge => Regex.SyntaxError.message .tooLarge
  | e => "regex parse error: ".toList ++ e.message

/-- The result of an operator whose operands are both needed. -/
def BinOp.apply (op : BinOp) (l r : Val) : Except Fault Bool := do
  match op with
  | .or => return (← l.toBool) || (← r.toBool)
  | .and => return (← l.toBool) && (← r.toBool)
  | .eq => return l.beq r
  | .ne => return !l.beq r
  | .lt => return (← l.compare r) == .lt
  | .le => return (← l.compare r) != .gt
  | .gt => return (← l.compare r) == .gt
  | .ge => return (← l.compare r) != .lt
  | .within => r.contains l
  | .notIn => return !(← r.contains l)
  | .contains => l.contains r
  | .startsWith =>
    let t ← l.toText
    return Text.startsWith t (← r.toText)
  | .endsWith =>
    let t ← l.toText
    return Text.endsWith t (← r.toText)
  | .matching =>
    let p ← r.toText
    match Regex.compile p with
    | .error e => throw (.pattern (patternFault e))
    | .ok re => return re.isMatch (← l.toText)

mutual

def eval (d : Rule.Definition) : Expr → Except Fault Val
  | .field n => fieldOf d n
  | .str t => .ok (.str t)
  | .num x => .ok (.num x)
  | .bool b => .ok (.bool b)
  | .array items => do return .list (← evalAll d items)
  | .not e => do
    let v ← eval d e
    return .bool (!(← v.toBool))
  | .call name args => match args with
    | [a] => do
      let v ← eval d a
      callOf name v
    | _ => .error (.arity name)
  | .binary op l r => do
    let a ← eval d l
    match op with
    | .or =>
      -- an operand that is not needed may fail
      if ← a.toBool then return .bool true
      let b ← eval d r
      return .bool (← b.toBool)
    | .and =>
      if !(← a.toBool) then return .bool false
      let b ← eval d r
      return .bool (← b.toBool)
    | op =>
      let b ← eval d r
      return .bool (← op.apply a b)

def evalAll (d : Rule.Definition) : List Expr → Except Fault (List Val)
  | [] => return []
  | e :: es => do
    let v ← eval d e
    return v :: (← evalAll d es)

end

end Filter

/-- A filter that has been read, with the text it was read from. -/
structure Filter where
  fragment : Text
  expr : Filter.Expr

namespace Filter

def error (fragment message : Text) : ConfigError := .filter (Text.trim fragment) message

def compile (fragment : Text) : Except ConfigError Filter :=
  match tokenize fragment >>= Expr.ofTokens with
  | .ok e => .ok ⟨fragment, e⟩
  | .error f => .error (error fragment f.message)

/-- Whether the filter looks at levels. -/
def referencesLevel (f : Filter) : Bool := Text.contains f.fragment ".Level"

def accepts (f : Filter) (d : Rule.Definition) : Except ConfigError Bool :=
  match eval d f.expr >>= Val.toBool with
  | .ok b => .ok b
  | .error e =>
    .error (error f.fragment (e.message ++ " (evaluating ".toList ++ d.name ++ [')']))

def shortName (name : Text) : Text := Text.join ['.'] ((Text.splitOn '.' name).take 2)

def keptNames (f : Filter) : List Rule.Definition → Except ConfigError (List Text)
  | [] => .ok []
  | d :: ds => do
    let keep ← f.accepts d
    let more ← f.keptNames ds
    return if keep then shortName d.name :: more else more

end Filter

end Copydesk
