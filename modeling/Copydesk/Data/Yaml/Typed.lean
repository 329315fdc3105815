import Copydesk.Data.Yaml.Resolve

/-! Reading YAML nodes as values of expected types. -/

namespace Copydesk.Data.Yaml.Node

/-- What a scalar stands for; tags outside of the core schema make no difference. -/
def scalar? : Node → Option Value
  | scalar t isPlain tag =>
    match tag with
    | none => some (if isPlain then resolve t else .str t)
    | some tag =>
      if hasLocalTag tag then some (if isPlain then resolve t else .str t)
      else (resolveTagged t tag).toOption
  | _ => none

def isNull (n : Node) : Bool :=
  match n.scalar? with
  | some .null => true
  | _ => false

def text? (n : Node) : Option Text :=
  match n.scalar? with
  | some (.str t) => some t
  | _ => none

def bool? (n : Node) : Option Bool :=
  match n.scalar? with
  | some (.bool b) => some b
  | _ => none

def nat? (n : Node) : Option Nat :=
  match n.scalar? with
  | some (.int i) => if 0 ≤ i then some i.toNat else none
  | _ => none

/-- The items of a sequence; null is an empty one. -/
def items? (n : Node) : Option (List Node) :=
  match n with
  | sequence items _ => some items
  | n => if n.isNull then some [] else none

/-- The entries of a mapping; null is an empty one. -/
def entries? (n : Node) : Option (List (Node × Node)) :=
  match n with
  | mapping entries _ => some entries
  | n => if n.isNull then some [] else none

def texts? (n : Node) : Option (List Text) := n.items?.bind fun ns => ns.mapM text?

def fields? (n : Node) : Option (List (Text × Node)) :=
  n.entries?.bind fun es => es.mapM fun (k, v) => k.text?.map fun t => (t, v)

def sameScalar (a b : Node) : Bool :=
  match a.scalar?, b.scalar? with
  | some .null, some .null => true
  | some (.bool x), some (.bool y) => x == y
  | some (.int x), some (.int y) => x == y
  | some (.float x), some (.float y) => x == y
  | some (.str x), some (.str y) => x == y
  | _, _ => false

mutual

/-- Whether some mapping in the document has two entries of one key, or a scalar does not fit its
tag. -/
def isAmbiguous : Node → Bool
  | scalar t isPlain tag => (scalar? (scalar t isPlain tag)).isNone
  | sequence items _ => anyAmbiguous items
  | mapping entries _ => anyAmbiguousEntry entries

def anyAmbiguous : List Node → Bool
  | [] => false
  | n :: ns => isAmbiguous n || anyAmbiguous ns

def anyAmbiguousEntry : List (Node × Node) → Bool
  | [] => false
  | (k, v) :: es =>
    es.any (fun e => sameScalar k e.1) || isAmbiguous k || isAmbiguous v || anyAmbiguousEntry es

end

end Copydesk.Data.Yaml.Node
