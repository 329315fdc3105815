import Copydesk.Text.Basic

/-! Syntax trees of source code, as far as comments and strings call for them. -/

namespace Copydesk.Source

/-- A piece of source code between two character offsets. -/
inductive Node
  | node (kind : Text) (isNamed : Bool) (field : Text) (start stop : Nat) (children : List Node)
  deriving Repr

namespace Node

def kind : Node → Text
  | node k .. => k

def isNamed : Node → Bool
  | node _ n .. => n

/-- The role that the node has in the one above it; empty if it has none. -/
def field : Node → Text
  | node _ _ f .. => f

def start : Node → Nat
  | node _ _ _ s .. => s

def stop : Node → Nat
  | node _ _ _ _ e _ => e

def children : Node → List Node
  | node _ _ _ _ _ cs => cs

def leaf (kind : Text) (start stop : Nat) : Node := node kind true [] start stop []

/-- A token that has no name. -/
def token (text : Text) (start stop : Nat) : Node := node text false [] start stop []

def branch (kind field : Text) (children : List Node) : Node :=
  node kind true field ((children.head?.map start).getD 0) ((children.getLast?.map stop).getD 0)
    children

def inRole (field : Text) : Node → Node
  | node k n _ s e cs => node k n field s e cs

def text (source : Text) (n : Node) : Text := (source.drop n.start).take (n.stop - n.start)

mutual

def descendants : Node → List Node
  | node k n f s e cs => node k n f s e cs :: descendantsOf cs

def descendantsOf : List Node → List Node
  | [] => []
  | c :: cs => descendants c ++ descendantsOf cs

end

end Node

end Copydesk.Source
