import Copydesk.Data.Toml.Scalar

/-! TOML documents: values, and the tables that headers and dotted keys build. -/

namespace Copydesk.Data.Toml

/-- How a table came to be, which decides what may still be added to it. -/
inductive Origin
  /-- Named by a longer header only. -/
  | implied
  | dotted
  | header
  deriving DecidableEq, Repr

inductive Entry
  | value (v : Value)
  | table (origin : Origin) (fields : List (Text × Entry))
  | tables (each : List (List (Text × Entry)))

abbrev Fields := List (Text × Entry)

namespace Entry

mutual

def toValue : Entry → Value
  | value v => v
  | table _ fields => .table (toFields fields)
  | tables each => .list (toTables each)

def toFields : List (Text × Entry) → List (Text × Value)
  | [] => []
  | (k, e) :: rest => (k, toValue e) :: toFields rest

def toTables : List (List (Text × Entry)) → List Value
  | [] => []
  | t :: ts => .table (toFields t) :: toTables ts

end

end Entry

namespace Fields

def onLast (f : Fields → Except Error Fields) : List Fields → Except Error (List Fields)
  | [] => (f []).map fun t => [t]
  | [t] => (f t).map fun t => [t]
  | t :: ts => (onLast f ts).map (t :: ·)

/-- Adds a key of a line to a table. Dotted keys extend only what dotted keys or longer headers have
made, and put values only into the table of the line itself or what dotted keys have made. -/
def addAt (key : Text) (v : Value) : Bool → List Text → Fields → Except Error Fields
  | isFree, [], fs =>
    if !isFree || (get? fs key).isSome then .error (.duplicateKey key)
    else .ok (put key (.value v) fs)
  | _, k :: path, fs => match get? fs k with
    | none => (addAt key v true path []).map fun t => put k (.table .dotted t) fs
    | some (.table .header _) | some (.value _) => .error (.duplicateKey k)
    | some (.table origin t) =>
      (addAt key v (origin == .dotted) path t).map fun t => put k (.table origin t) fs
    | some (.tables ts) =>
      (onLast (addAt key v false path) ts).map fun ts => put k (.tables ts) fs

def add (path : List Text) (v : Value) (fs : Fields) : Except Error Fields :=
  addAt (path.getLast?.getD []) v (path.length ≤ 1) path.dropLast fs

def atPath (f : Fields → Except Error Fields) : List Text → Fields → Except Error Fields
  | [], fs => f fs
  | k :: path, fs => match get? fs k with
    | none => (atPath f path []).map fun t => put k (.table .implied t) fs
    | some (.table origin t) => (atPath f path t).map fun t => put k (.table origin t) fs
    | some (.tables ts) => (onLast (atPath f path) ts).map fun ts => put k (.tables ts) fs
    | some (.value _) => .error (.duplicateKey k)

end Fields

structure Section where
  path : List Text
  /-- Whether the header adds a table to a list of tables. -/
  isItem : Bool := false
  lines : List (List Text × Value) := []

namespace Section

def addLines (s : Section) (fs : Fields) : Except Error Fields :=
  s.lines.foldlM (fun fs (path, v) => Fields.add path v fs) fs

/-- Adds a section to the document. A header may name only what no header or dotted key has made. -/
def addTo (root : Fields) (s : Section) : Except Error Fields :=
  match s.path.getLast? with
  | none => s.addLines root
  | some key =>
    let place (fs : Fields) : Except Error Fields :=
      if s.isItem then
        match get? fs key with
        | none => (s.addLines []).map fun t => put key (.tables [t]) fs
        | some (.tables ts) => (s.addLines []).map fun t => put key (.tables (ts ++ [t])) fs
        | some _ => .error (.duplicateKey key)
      else
        match get? fs key with
        | none => (s.addLines []).map fun t => put key (.table .header t) fs
        | some (.table .implied t) =>
          (s.addLines t).map fun t => fs.filter (·.1 != key) ++ [(key, .table .header t)]
        | some _ => .error (.duplicateKey key)
    Fields.atPath place s.path.dropLast root

end Section

namespace Reader

mutual

def value : Nat → Nat → Reader Value
  | 0, _ => throw .unexpectedEnd
  | fuel + 1, depth => do
    match (← get).head? with
    | some '"' | some '\'' => return .str (← string)
    | some '[' => match depth with
      | 0 => throw .tooDeep
      | d + 1 =>
        expect ['[']
        return .list (← items fuel d)
    | some '{' => match depth with
      | 0 => throw .tooDeep
      | d + 1 =>
        expect ['{']
        skipBlank
        if ← accept ['}'] then return .table []
        return .table (Entry.toFields (← pairs fuel d []))
    | some 't' => expect "true"; return .bool true
    | some 'f' => expect "false"; return .bool false
    | some 'i' | some 'n' => number
    | some c => if c = '+' ∨ c = '-' ∨ c.isDigit then number else unexpected
    | none => unexpected

def items : Nat → Nat → Reader (List Value)
  | 0, _ => throw .unexpectedEnd
  | fuel + 1, depth => do
    skipSpace (← get).length
    if ← accept [']'] then return []
    let v ← value fuel depth
    skipSpace (← get).length
    if ← accept [','] then return v :: (← items fuel depth)
    expect [']']
    return [v]

def pairs : Nat → Nat → Fields → Reader Fields
  | 0, _, _ => throw .unexpectedEnd
  | fuel + 1, depth, acc => do
    let path ← key
    expect ['=']
    skipBlank
    let v ← value fuel depth
    skipBlank
    let acc ← (Fields.add path v acc : Except Error Fields)
    if ← accept [','] then pairs fuel depth acc
    else
      expect ['}']
      return acc

end

def header : Reader Section := do
  expect ['[']
  let isItem ← accept ['[']
  let path ← key
  expect (if isItem then [']', ']'] else [']'])
  lineEnd
  return { path, isItem }

/-- The lines up to the end; those before the first header belong to the document itself. -/
def sections : Nat → Section → Reader (List Section)
  | 0, s => return [s]
  | fuel + 1, s => do
    skipBlank
    let t ← get
    match t.head? with
    | none => return [s]
    | some '#' | some '\n' | some '\r' => lineEnd; sections fuel s
    | some '[' =>
      let next ← header
      return s :: (← sections fuel next)
    | some _ =>
      let path ← key
      expect ['=']
      skipBlank
      let v ← value (2 * t.length + 2) (nestingLimit - 1)
      lineEnd
      sections fuel { s with lines := s.lines ++ [(path, v)] }

end Reader

/-- Reads a whole document, which is a table. -/
def read (t : Text) : Except Error (List (Text × Value)) := do
  let t := if t.head? == some '\ufeff' then t.drop 1 else t
  let (sections, _) ← (Reader.sections (t.length + 1) { path := [] }).run t
  return Entry.toFields (← sections.foldlM Section.addTo [])

end Copydesk.Data.Toml
