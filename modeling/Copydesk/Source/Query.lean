import Copydesk.Source.Kind
import Copydesk.Source.Node
import Copydesk.Regex.Basic

/-! Patterns over syntax trees, written as nested lists of node kinds with captures. -/

namespace Copydesk.Source

inductive Repeat
  | one | optional | many | atLeastOne
  deriving DecidableEq, Repr

mutual

inductive Pattern
  /-- A named node; without a kind, any. -/
  | named (kind : Option Text) (children : List Item) (closed : Bool)
  | anyNode
  | token (text : Text)
  | choice (alternatives : List Item)
  /-- Nodes that follow one another. -/
  | sequence (items : List Item)

/-- A pattern with its role, its captures and whether it comes right after what is before it. -/
inductive Item
  | item (anchored : Bool) (field : Text) (pattern : Pattern) (times : Repeat)
      (captures : List Text)

end

structure Predicate where
  name : Text
  arguments : List (Bool × Text)
  deriving DecidableEq, Repr

structure Rule where
  item : Item
  predicates : List Predicate

namespace Query

inductive Token
  | opens | closes | opensChoice | closesChoice | anchor
  | times (r : Repeat)
  | name (t : Text)
  | field (t : Text)
  | capture (t : Text)
  | predicate (t : Text)
  | string (t : Text)
  deriving DecidableEq, Repr

def isNameChar (c : Char) : Bool :=
  c.isAlphanum || c == '_' || c == '-' || c == '.' || c == '?' || c == '!'

def isKindChar (c : Char) : Bool := c.isAlphanum || c == '_' || c == '-'

def stringToken? : Text → Option (Text × Text)
  | [] => none
  | '\\' :: c :: t => (stringToken? t).map fun (s, rest) => (unescaped c :: s, rest)
  | c :: t =>
    if c = '"' then some ([], t)
    else if c = '\n' then none
    else (stringToken? t).map fun (s, rest) => (c :: s, rest)
where
  unescaped : Char → Char
    | 'n' => '\n'
    | 'r' => '\r'
    | 't' => '\t'
    | '0' => '\x00'
    | c => c

def single? : Char → Option Token
  | '(' => some .opens
  | ')' => some .closes
  | '[' => some .opensChoice
  | ']' => some .closesChoice
  | '.' => some .anchor
  | '+' => some (.times .atLeastOne)
  | '*' => some (.times .many)
  | '?' => some (.times .optional)
  | _ => none

def tokens : Nat → Text → Option (List Token)
  | 0, _ => none
  | _, [] => some []
  | fuel + 1, c :: t =>
    if Text.isSpace c then tokens fuel t
    else if c = ';' then tokens fuel (t.dropWhile (· != '\n'))
    else match single? c with
    | some token => (tokens fuel t).map (token :: ·)
    | none =>
      if c = '"' then do
        let (s, rest) ← stringToken? t
        return .string s :: (← tokens fuel rest)
      else if c = '@' || c = '#' then
        let name := t.takeWhile isNameChar
        if name.isEmpty then none
        else (tokens fuel (t.drop name.length)).map
          ((if c = '@' then .capture name else .predicate name) :: ·)
      else
        let name := (c :: t).takeWhile isKindChar
        let rest := (c :: t).drop name.length
        if name.isEmpty then none
        else match rest with
        | ':' :: rest => (tokens fuel rest).map (.field name :: ·)
        | _ => (tokens fuel rest).map (.name name :: ·)

structure Names where
  kinds : List Text
  fields : List Text

/-- Repetitions and captures after a pattern. -/
def suffix : Repeat → List Text → List Token → (Repeat × List Text) × List Token
  | _, cs, .times r :: ts => suffix r cs ts
  | r, cs, .capture c :: ts => suffix r (cs ++ [c]) ts
  | r, cs, ts => ((r, cs), ts)

def predicateArguments : List Token → Option (List (Bool × Text) × List Token)
  | .closes :: ts => some ([], ts)
  | .capture c :: ts => (predicateArguments ts).map fun (as, ts) => ((true, c) :: as, ts)
  | .string s :: ts => (predicateArguments ts).map fun (as, ts) => ((false, s) :: as, ts)
  | .name s :: ts => (predicateArguments ts).map fun (as, ts) => ((false, s) :: as, ts)
  | _ => none

structure Body where
  items : List Item := []
  predicates : List Predicate := []
  /-- Whether the last item comes last of all named nodes. -/
  closed : Bool := false

mutual

/-- Reads one pattern with its suffix. -/
def item (names : Names) (anchored : Bool) (field : Text) :
    Nat → List Token → Option (Item × List Predicate × List Token)
  | 0, _ => none
  | fuel + 1, ts => do
    let (pattern, predicates, ts) ← pattern names fuel ts
    let ((times, captures), ts) := suffix .one [] ts
    return (.item anchored field pattern times captures, predicates, ts)

def pattern (names : Names) :
    Nat → List Token → Option (Pattern × List Predicate × List Token)
  | 0, _ => none
  | fuel + 1, ts =>
    match ts with
    | .name t :: ts => if t = "_" then some (.anyNode, [], ts) else none
    | .string t :: ts => some (.token t, [], ts)
    | .opensChoice :: ts => do
      let (b, ts) ← body names .closesChoice false fuel ts
      if b.items.isEmpty then none
      return (.choice b.items, b.predicates, ts)
    | .opens :: .name kind :: ts => do
      let kind ← if kind = "_" then some none
        else if kind = "ERROR" || kind = "MISSING" || names.kinds.contains kind then
          some (some kind)
        else none
      let (b, ts) ← body names .closes false fuel ts
      return (.named kind b.items b.closed, b.predicates, ts)
    | .opens :: ts => do
      let (b, ts) ← body names .closes false fuel ts
      if b.items.isEmpty then none
      return (.sequence b.items, b.predicates, ts)
    | _ => none

/-- Reads patterns up to a closing bracket. -/
def body (names : Names) (close : Token) (anchored : Bool) :
    Nat → List Token → Option (Body × List Token)
  | 0, _ => none
  | fuel + 1, ts =>
    match ts with
    | [] => none
    | .anchor :: ts => body names close true fuel ts
    | .opens :: .predicate name :: ts => do
      let (arguments, ts) ← predicateArguments ts
      let (b, ts) ← body names close anchored fuel ts
      return ({ b with predicates := ⟨name, arguments⟩ :: b.predicates }, ts)
    | .field f :: ts => do
      if !names.fields.contains f then none
      let (i, ps, ts) ← item names anchored f fuel ts
      let (b, ts) ← body names close false fuel ts
      return ({ b with items := i :: b.items, predicates := ps ++ b.predicates }, ts)
    | t :: ts => do
      if t = close then return ({ closed := anchored }, ts)
      let (i, ps, ts) ← item names anchored [] fuel (t :: ts)
      let (b, ts) ← body names close false fuel ts
      return ({ b with items := i :: b.items, predicates := ps ++ b.predicates }, ts)

end

def rules (names : Names) : Nat → List Token → Option (List Rule)
  | _, [] => some []
  | 0, _ => none
  | fuel + 1, ts => do
    let (i, ps, ts) ← item names false [] (ts.length + 2) ts
    return ⟨i, ps⟩ :: (← rules names fuel ts)

/-- The rules of a query; nothing if it is malformed or mentions unknown kinds or fields. -/
def read? (g : Comment.Grammar) (t : Text) : Option (List Rule) := do
  let ts ← tokens (t.length + 1) t
  rules ⟨kinds g, fields⟩ (ts.length + 1) ts

/-- Captured nodes with the names they are captured by. -/
abbrev Captures := List (Text × Node)

def hasField (field : Text) (n : Node) : Bool := field.isEmpty || n.field == field

/-- The tails of a list of nodes that a pattern may begin at. An anchored pattern allows no named
node before it. -/
def starts (anchored : Bool) : List Node → List (List Node)
  | [] => []
  | n :: ns => (n :: ns) :: if anchored && n.isNamed then [] else starts anchored ns

mutual

/-- The ways in which a pattern matches at the first of some nodes, each with the nodes after the
match. -/
def matchPattern : Nat → Pattern → List Node → List (Captures × List Node)
  | 0, _, _ => []
  | _, _, [] => []
  | fuel + 1, p, n :: ns =>
    match p with
    | .anyNode => [([], ns)]
    | .token t => if !n.isNamed && n.kind = t then [([], ns)] else []
    | .named kind items closed =>
      if n.isNamed && kind.all (· == n.kind) then
        ((matchItems fuel items n.children).filter fun (_, rest) =>
          !closed || !rest.any Node.isNamed).map fun (cs, _) => (cs, ns)
      else []
    | .choice items => items.flatMap fun i => matchItem fuel i (n :: ns)
    | .sequence items => matchItems fuel items (n :: ns)

/-- The ways in which an item matches at the first of some nodes, once. -/
def matchItem : Nat → Item → List Node → List (Captures × List Node)
  | 0, _, _ => []
  | _, _, [] => []
  | fuel + 1, .item _ field p _ captures, n :: ns =>
    if hasField field n then
      (matchPattern fuel p (n :: ns)).map fun (cs, rest) =>
        (captures.map (fun c => (c, n)) ++ cs, rest)
    else []

/-- The ways in which items match among some nodes, in order. -/
def matchItems : Nat → List Item → List Node → List (Captures × List Node)
  | 0, _, _ => []
  | _, [], ns => [([], ns)]
  | fuel + 1, .item anchored field p times captures :: is, ns =>
    let i := Item.item anchored field p times captures
    let once := (starts anchored ns).flatMap (matchItem fuel i)
    let again := match times with
      -- repetitions come right after one another
      | .many | .atLeastOne => [Item.item true field p .many captures]
      | _ => []
    let matched := once.flatMap fun (cs, rest) =>
      (matchItems fuel (again ++ is) rest).map fun (more, rest) => (cs ++ more, rest)
    let skipped := match times with
      | .optional | .many => matchItems fuel is ns
      | _ => []
    matched ++ skipped

end

def textOf (source : Text) (cs : Captures) (a : Bool × Text) : List Text :=
  if a.1 then (cs.filter (·.1 == a.2)).map fun (_, n) => n.text source else [a.2]

/-- Whether a predicate holds of captures; unknown ones always do. -/
def holds (source : Text) (cs : Captures) (p : Predicate) : Bool :=
  match p.arguments with
  | first :: rest =>
    let texts := textOf source cs first
    let others := rest.flatMap (textOf source cs)
    let matching (t : Text) : Bool := others.all fun o => match Regex.compile o with
      | .ok r => (r.find? t).isSome
      | .error _ => false
    match String.ofList p.name with
    | "eq?" => texts.all fun t => others.all (· == t)
    | "not-eq?" => texts.all fun t => others.all (· != t)
    | "match?" => texts.all matching
    | "not-match?" => texts.all (!matching ·)
    | "any-of?" => texts.all others.contains
    | "not-any-of?" => texts.all (!others.contains ·)
    | _ => true
  | [] => true

def captured (source : Text) (rules : List Rule) (root : Node) : List Node :=
  let depth := 64
  let at' (ns : List Node) : List Node := rules.flatMap fun r =>
    ((matchItem depth r.item ns).filter fun (cs, _) =>
      r.predicates.all (holds source cs)).flatMap fun (cs, _) => cs.map (·.2)
  let rec tails : List Node → List (List Node)
    | [] => []
    | n :: ns => (n :: ns) :: tails ns
  at' [root] ++ (Node.descendants root).flatMap fun n => (tails n.children).flatMap at'

end Query

end Copydesk.Source
