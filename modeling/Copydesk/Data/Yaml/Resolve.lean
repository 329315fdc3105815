import Copydesk.Data.Yaml.Node
import Copydesk.Data.Value
import Copydesk.Data.Decimal

/-! What plain scalars stand for, and YAML documents as structured data. -/

namespace Copydesk.Data.Yaml

def isNullText (t : Text) : Bool :=
  t.isEmpty || ["null", "Null", "NULL", "~"].any fun (s : String) => t == s

def boolText? (t : Text) : Option Bool :=
  if ["true", "True", "TRUE"].any fun (s : String) => t == s then some true
  else if ["false", "False", "FALSE"].any fun (s : String) => t == s then some false
  else none

def digit? (base : Nat) (c : Char) : Option Nat :=
  let d :=
    if c.isDigit then c.toNat - '0'.toNat
    else if 'a' ≤ c ∧ c ≤ 'f' then c.toNat - 'a'.toNat + 10
    else if 'A' ≤ c ∧ c ≤ 'F' then c.toNat - 'A'.toNat + 10
    else base
  if d < base then some d else none

def digits? (base : Nat) (t : Text) : Option Nat := do
  if t.isEmpty then none
  let ds ← t.mapM (digit? base)
  return ds.foldl (fun n d => base * n + d) 0

/-- A leading zero before other digits makes a string. -/
def hasLeadingZero (t : Text) : Bool :=
  match t with
  | '0' :: c :: r => (c :: r).all Char.isDigit
  | _ => false

def natural? (t : Text) : Option Nat :=
  (((Text.afterPrefix? "0x" t).bind (digits? 16)).or
    ((Text.afterPrefix? "0o" t).bind (digits? 8))).or
    (((Text.afterPrefix? "0b" t).bind (digits? 2)).or
      (if hasLeadingZero t then none else digits? 10 t))

def intText? (t : Text) : Option Int :=
  match t with
  | '+' :: r => ((natural? r).filter (· < Nat.pow 2 64)).map Int.ofNat
  | '-' :: r => ((natural? r).filter (· ≤ Nat.pow 2 63)).map fun n => -(n : Int)
  | r => ((natural? r).filter (· < Nat.pow 2 64)).map Int.ofNat

def floatText? (t : Text) : Option Float :=
  let (negative, body) := match t with
    | '-' :: r => (true, r)
    | '+' :: r => (false, r)
    | r => (false, r)
  if hasLeadingZero body || body.head?.any fun c => c == '+' || c == '-' then none
  else if [".inf", ".Inf", ".INF"].any fun (s : String) => body == s then
    some (if negative then -1.0 / 0.0 else 1.0 / 0.0)
  else if [".nan", ".NaN", ".NAN"].any fun (s : String) => t == s then some (0.0 / 0.0)
  else ((readFloat? body).filter Float.isFinite).map fun x => if negative then -x else x

def resolve (t : Text) : Value :=
  if isNullText t then .null
  else match boolText? t, intText? t, floatText? t with
    | some b, _, _ => .bool b
    | none, some n, _ => .int n
    | none, none, some x => .float x
    | none, none, none => .str t

def coreTag? (tag : Text) : Option Text :=
  (Text.afterPrefix? "!!" tag).or (Text.afterPrefix? "tag:yaml.org,2002:" tag)

/-- The value of a scalar with a tag of the core schema; other tags are refused. -/
def resolveTagged (t : Text) (tag : Text) : Except Error Value :=
  match (coreTag? tag).map String.ofList with
  | some "str" => .ok (.str t)
  | some "null" => if isNullText t then .ok .null else .error .badTagged
  | some "bool" => match boolText? t with
    | some b => .ok (.bool b)
    | none => .error .badTagged
  | some "int" => match intText? t with
    | some n => .ok (.int n)
    | none => .error .badTagged
  | some "float" => match floatText? t with
    | some x => .ok (.float x)
    | none => .error .badTagged
  | some _ => .ok (.str t)
  | none => if tag = ['!'] then .ok (.str t) else .error .badTagged

def hasLocalTag (tag : Text) : Bool := (coreTag? tag).isNone && tag != ['!']

namespace Node

/-- The value of a scalar; tags outside of the core schema are refused. -/
def scalarValue (t : Text) (isPlain : Bool) (tag : Option Text) : Except Error Value :=
  match tag with
  | none => .ok (if isPlain then resolve t else .str t)
  | some tag => resolveTagged t tag

def checkTag (tag : Option Text) : Except Error Unit :=
  if tag.any hasLocalTag then .error .badTagged else .ok ()

def rawText? : Node → Option Text
  | scalar t _ _ => some t
  | _ => none

mutual

/-- Structured data of a node. Keys stand for their texts, and the last entry of a key counts. -/
def toValue : Node → Except Error Value
  | .scalar t isPlain tag => scalarValue t isPlain tag
  | .sequence items tag => do
    checkTag tag
    return .list (← itemsToValues items)
  | .mapping entries tag => do
    checkTag tag
    return .table (← entriesToFields entries [])

def itemsToValues : List Node → Except Error (List Value)
  | [] => return []
  | n :: ns => do
    let v ← toValue n
    return v :: (← itemsToValues ns)

def entriesToFields :
    List (Node × Node) → List (Text × Value) → Except Error (List (Text × Value))
  | [], acc => return acc
  | (k, n) :: es, acc => do
    let some key := k.rawText? | throw .badKey
    let v ← toValue n
    entriesToFields es (put key v acc)

end

end Node

def readValue (t : Text) : Except Error Value := do
  match ← readNode t with
  | none => return .null
  | some n => n.toValue

end Copydesk.Data.Yaml
