import Copydesk.Data.Yaml.Token

/-! The nodes of a YAML document. -/

namespace Copydesk.Data.Yaml

inductive Node
  | scalar (t : Text) (isPlain : Bool) (tag : Option Text)
  | sequence (items : List Node) (tag : Option Text)
  | mapping (entries : List (Node × Node)) (tag : Option Text)

namespace Node

def missing : Node := scalar [] true none

structure Reader where
  tokens : List Token
  anchors : List (Text × Node) := []

abbrev Read := StateT Reader (Except Error)

namespace Read

def peek : Read (Option Token) := return (← get).tokens.head?

def skip : Read Unit := modify fun r => { r with tokens := r.tokens.drop 1 }

def accept (t : Token) : Read Bool := do
  if (← peek) == some t then
    skip
    return true
  return false

/-- Anchor and tag of a node, in either order. -/
def properties : Nat → Option Text → Option Text → Read (Option Text × Option Text)
  | 0, anchor, tag => return (anchor, tag)
  | fuel + 1, anchor, tag => do
    match (← peek), anchor, tag with
    | some (.anchor a), none, _ => skip; properties fuel (some a) tag
    | some (.tag t), _, none => skip; properties fuel anchor (some t)
    | _, _, _ => return (anchor, tag)

def endsBlockItem : Option Token → Bool
  | some .entry | some .blockEnd | none => true
  | _ => false

def endsPair : Option Token → Bool
  | some .key | some .value | some .blockEnd | none => true
  | _ => false

def endsIndentless (t : Option Token) : Bool := t == some .entry || endsPair t

def endsFlowPair : Option Token → Bool
  | some .value | some .separator | some .closeSequence | some .closeMapping | none => true
  | _ => false

inductive Opening
  | scalar (t : Text) (isPlain : Bool)
  | sequence | mapping | flowSequence | flowMapping | indentless
  | nothing

def opening (inBlock indentless : Bool) : Read Opening := do
  match ← peek with
  | some .entry => return if indentless then .indentless else .nothing
  | some (.scalar t p) => skip; return .scalar t p
  | some .openSequence => skip; return .flowSequence
  | some .openMapping => skip; return .flowMapping
  | some .blockSequence => if inBlock then skip; return .sequence else return .nothing
  | some .blockMapping => if inBlock then skip; return .mapping else return .nothing
  | _ => return .nothing

mutual

def node : Nat → Bool → Bool → Read Node
  | 0, _, _ => throw .expectedNode
  | fuel + 1, inBlock, indentless => do
    if let some (.alias name) ← peek then
      skip
      match (← get).anchors.lookup name with
      | some n => return n
      | none => throw .unknownAnchor
    let (anchor, tag) ← properties 2 none none
    let n ← match ← opening inBlock indentless with
      | .scalar t p => pure (Node.scalar t p tag)
      | .flowSequence => pure (.sequence (← flowItems fuel true) tag)
      | .flowMapping => pure (.mapping (← flowPairs fuel true) tag)
      | .sequence => pure (.sequence (← blockItems fuel) tag)
      | .mapping => pure (.mapping (← blockPairs fuel) tag)
      | .indentless => pure (.sequence (← indentlessItems fuel) tag)
      | .nothing =>
        if anchor.isSome || tag.isSome then pure (Node.scalar [] true tag)
        else throw .expectedNode
    if let some a := anchor then modify fun r => { r with anchors := (a, n) :: r.anchors }
    return n

def blockItems : Nat → Read (List Node)
  | 0 => throw .expectedEntry
  | fuel + 1 => do
    if ← accept .blockEnd then return []
    if !(← accept .entry) then throw .expectedEntry
    let n ← if endsBlockItem (← peek) then pure missing else node fuel true false
    return n :: (← blockItems fuel)

def indentlessItems : Nat → Read (List Node)
  | 0 => throw .expectedEntry
  | fuel + 1 => do
    if !(← accept .entry) then return []
    let n ← if endsIndentless (← peek) then pure missing else node fuel true false
    return n :: (← indentlessItems fuel)

def blockPairs : Nat → Read (List (Node × Node))
  | 0 => throw .expectedKey
  | fuel + 1 => do
    if ← accept .blockEnd then return []
    if !(← accept .key) then throw .expectedKey
    let k ← if endsPair (← peek) then pure missing else node fuel true true
    let v ← if ← accept .value then
        (if endsPair (← peek) then pure missing else node fuel true true)
      else pure missing
    return (k, v) :: (← blockPairs fuel)

def flowPair : Nat → Read (Node × Node)
  | 0 => throw .expectedKey
  | fuel + 1 => do
    let k ← if endsFlowPair (← peek) then pure missing else node fuel false false
    let v ← if ← accept .value then
        (if endsFlowPair (← peek) then pure missing else node fuel false false)
      else pure missing
    return (k, v)

def flowItems : Nat → Bool → Read (List Node)
  | 0, _ => throw .expectedSeparator
  | fuel + 1, first => do
    if ← accept .closeSequence then return []
    if !first then
      if !(← accept .separator) then throw .expectedSeparator
      if ← accept .closeSequence then return []
    let n ← if ← accept .key then pure (Node.mapping [← flowPair fuel] none)
      else node fuel false false
    return n :: (← flowItems fuel false)

def flowPairs : Nat → Bool → Read (List (Node × Node))
  | 0, _ => throw .expectedSeparator
  | fuel + 1, first => do
    if ← accept .closeMapping then return []
    if !first then
      if !(← accept .separator) then throw .expectedSeparator
      if ← accept .closeMapping then return []
    let p ← if ← accept .key then flowPair fuel
      else do
        let k ← node fuel false false
        pure (k, missing)
    return p :: (← flowPairs fuel false)

end

def skipEnds : Nat → Read Unit
  | 0 => return
  | fuel + 1 => do if ← accept .documentEnd then skipEnds fuel

/-- The root of a stream's only document; an empty stream has none. -/
def document (fuel : Nat) : Read (Option Node) := do
  skipEnds fuel
  if (← peek).isNone then return none
  let _ ← accept .documentStart
  let root ← match ← peek with
    | none | some .documentStart | some .documentEnd => pure missing
    | _ => node fuel true false
  skipEnds fuel
  if (← peek).isSome then throw .manyDocuments
  return some root

end Read

end Node

def readNode (t : Text) : Except Error (Option Node) := do
  let tokens ← tokenize t
  let (root, _) ← (Node.Read.document (2 * tokens.length + 4)).run { tokens }
  return root

end Copydesk.Data.Yaml
