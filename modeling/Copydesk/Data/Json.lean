import Copydesk.Data.Value
import Copydesk.Data.Decimal

/-! JSON documents: reading with ordered tables, and compact writing. -/

namespace Copydesk.Data.Json

inductive Error
  | unexpectedEnd
  | unexpected (c : Char)
  | badNumber
  | badEscape
  | controlCharacter
  | tooDeep
  deriving DecidableEq, Repr

def Error.message : Error → Text
  | unexpectedEnd => "EOF while parsing a value"
  | unexpected _ => "expected value"
  | badNumber => "invalid number"
  | badEscape => "invalid escape"
  | controlCharacter => "control character found while parsing a string"
  | tooDeep => "recursion limit exceeded"

abbrev Reader := StateT Text (Except Error)

namespace Reader

def unexpected {α : Type} : Reader α := do
  match ← get with
  | [] => throw .unexpectedEnd
  | c :: _ => throw (.unexpected c)

def isBlank (c : Char) : Bool := c == ' ' || c == '\n' || c == '\t' || c == '\r'

def skipBlank : Reader Unit := modify fun t => t.dropWhile isBlank

def expect (p : Text) : Reader Unit := do
  match Text.afterPrefix? p (← get) with
  | some t => set t
  | none => unexpected

def hexDigit? (c : Char) : Option Nat :=
  if c.isDigit then some (c.toNat - '0'.toNat)
  else if 'a' ≤ c ∧ c ≤ 'f' then some (c.toNat - 'a'.toNat + 10)
  else if 'A' ≤ c ∧ c ≤ 'F' then some (c.toNat - 'A'.toNat + 10)
  else none

def hex4? : Text → Option (Nat × Text)
  | a :: b :: c :: d :: t => do
    let a ← hexDigit? a
    let b ← hexDigit? b
    let c ← hexDigit? c
    let d ← hexDigit? d
    return (((a * 16 + b) * 16 + c) * 16 + d, t)
  | _ => none

def scalar (n : Nat) : Except Error Char :=
  if h : n.isValidChar then .ok (Char.ofNatAux n h) else .error .badEscape

/-- A character written as `\u`, after those two characters; a pair stands for one character. -/
def unicodeEscape (t : Text) : Except Error (Char × Text) := do
  let some (hi, t) := hex4? t | throw .badEscape
  if 0xd800 ≤ hi ∧ hi < 0xdc00 then
    let some t := Text.afterPrefix? "\\u" t | throw .badEscape
    let some (lo, t) := hex4? t | throw .badEscape
    if 0xdc00 ≤ lo ∧ lo < 0xe000 then
      return (← scalar (0x10000 + (hi - 0xd800) * 0x400 + (lo - 0xdc00)), t)
    throw .badEscape
  return (← scalar hi, t)

def simpleEscape? : Char → Option Char
  | '"' => some '"'
  | '\\' => some '\\'
  | '/' => some '/'
  | 'b' => some '\x08'
  | 'f' => some '\x0c'
  | 'n' => some '\n'
  | 'r' => some '\r'
  | 't' => some '\t'
  | _ => none

def stringBody : Nat → Text → Except Error (Text × Text)
  | 0, _ => throw .unexpectedEnd
  | _, [] => throw .unexpectedEnd
  | _, '"' :: t => return ([], t)
  | fuel + 1, '\\' :: 'u' :: t => do
    let (c, t) ← unicodeEscape t
    let (s, t) ← stringBody fuel t
    return (c :: s, t)
  | fuel + 1, '\\' :: e :: t => do
    let some c := simpleEscape? e | throw .badEscape
    let (s, t) ← stringBody fuel t
    return (c :: s, t)
  | fuel + 1, c :: t => do
    if c = '\\' then throw .unexpectedEnd
    if c.toNat < 32 then throw .controlCharacter
    let (s, t) ← stringBody fuel t
    return (c :: s, t)

def string : Reader Text := do
  expect ['"']
  let t ← get
  let (s, t) ← (stringBody (t.length + 1) t : Except Error (Text × Text))
  set t
  return s

/-- A significand below `2 ^ 64` and the power of ten that the digits past it leave. -/
structure Significand where
  value : Nat := 0
  exponent : Int := 0
  full : Bool := false

def maxWord : Nat := Nat.pow 2 64 - 1

def Significand.digit (fraction : Bool) (s : Significand) (c : Char) : Significand :=
  let n := 10 * s.value + (c.toNat - '0'.toNat)
  if s.full || maxWord < n then
    { s with full := true, exponent := if fraction then s.exponent else s.exponent + 1 }
  else { s with value := n, exponent := if fraction then s.exponent - 1 else s.exponent }

/-- Scales by powers of ten in floating arithmetic, at most `10 ^ 308` at a time. -/
def scaleFloat : Nat → Float → Int → Except Error Float
  | 0, x, _ => return x
  | fuel + 1, x, e =>
    if e.natAbs ≤ 308 then
      let pow := Float.ofScientific 1 false e.natAbs
      if 0 ≤ e then
        let y := x * pow
        if y.isInf then throw .badNumber else return y
      else return x / pow
    else if x == 0.0 then return x
    else if 0 ≤ e then throw .badNumber
    else scaleFloat fuel (x / Float.ofScientific 1 false 308) (e + 308)

def number : Reader Value := do
  let t ← get
  let (negative, t) := match t with
    | '-' :: r => (true, r)
    | r => (false, r)
  let whole := t.takeWhile Char.isDigit
  let t := t.drop whole.length
  if whole.isEmpty || (whole.head? == some '0' && whole.length != 1) then throw .badNumber
  let s := whole.foldl (Significand.digit false) {}
  let (s, t, pointed) ← match t with
    | '.' :: r => do
      let part := r.takeWhile Char.isDigit
      if part.isEmpty then throw .badNumber
      pure (part.foldl (Significand.digit true) s, r.drop part.length, true)
    | r => pure (s, r, false)
  let finish (e : Int) : Except Error Value := do
    let x ← scaleFloat 40 (Float.ofNat s.value) e
    return .float (if negative then -x else x)
  match t with
  | c :: r =>
    if c = 'e' ∨ c = 'E' then
      let (down, r) := match r with
        | '-' :: r => (true, r)
        | '+' :: r => (false, r)
        | r => (false, r)
      let ds := r.takeWhile Char.isDigit
      let some n := Text.toNat? ds | throw .badNumber
      set (r.drop ds.length)
      -- whatever the digits, so large an exponent overflows or leaves zero
      if 2147483647 < n then
        if s.value != 0 && !down then throw .badNumber
        return .float (if negative then -0.0 else 0.0)
      return ← finish (if down then s.exponent - n else s.exponent + n)
  | [] => pure ()
  set t
  if pointed || s.full then return ← finish s.exponent
  if !negative then return .int s.value
  -- negative zero, and what no signed word holds
  if s.value = 0 ∨ Nat.pow 2 63 < s.value then return .float (-(Float.ofNat s.value))
  return .int (-(s.value : Int))

mutual

def value : Nat → Nat → Reader Value
  | 0, _ => throw .unexpectedEnd
  | fuel + 1, depth => do
    skipBlank
    match (← get).head? with
    | some 'n' => expect "null"; return .null
    | some 't' => expect "true"; return .bool true
    | some 'f' => expect "false"; return .bool false
    | some '"' => return .str (← string)
    | some '[' =>
      expect ['[']
      match depth with
      | 0 => throw .tooDeep
      | d + 1 =>
        skipBlank
        if (← get).head? == some ']' then
          expect [']']
          return .list []
        return .list (← items fuel d)
    | some '{' =>
      expect ['{']
      match depth with
      | 0 => throw .tooDeep
      | d + 1 =>
        skipBlank
        if (← get).head? == some '}' then
          expect ['}']
          return .table []
        return .table (← fields fuel d [])
    | some c => if c = '-' ∨ c.isDigit then number else unexpected
    | none => unexpected

def items : Nat → Nat → Reader (List Value)
  | 0, _ => throw .unexpectedEnd
  | fuel + 1, depth => do
    let v ← value fuel depth
    skipBlank
    match (← get).head? with
    | some ',' => expect [',']; return v :: (← items fuel depth)
    | some ']' => expect [']']; return [v]
    | _ => unexpected

def fields : Nat → Nat → List (Text × Value) → Reader (List (Text × Value))
  | 0, _, _ => throw .unexpectedEnd
  | fuel + 1, depth, acc => do
    skipBlank
    let k ← string
    skipBlank
    expect [':']
    let v ← value fuel depth
    let acc := put k v acc
    skipBlank
    match (← get).head? with
    | some ',' => expect [',']; fields fuel depth acc
    | some '}' => expect ['}']; return acc
    | _ => unexpected

end

end Reader

def nestingLimit : Nat := 127

/-- Reads a whole document. -/
def read (t : Text) : Except Error Value := do
  let (v, rest) ← (Reader.value (2 * t.length + 2) nestingLimit).run t
  match rest.dropWhile Reader.isBlank with
  | [] => return v
  | c :: _ => throw (.unexpected c)

def hexDigit (n : Nat) : Char := Char.ofNat (if n < 10 then 48 + n else 87 + n)

def escapeChar (c : Char) : Text :=
  match c with
  | '"' => ['\\', '"']
  | '\\' => ['\\', '\\']
  | '\x08' => ['\\', 'b']
  | '\x0c' => ['\\', 'f']
  | '\n' => ['\\', 'n']
  | '\r' => ['\\', 'r']
  | '\t' => ['\\', 't']
  | c =>
    if c.toNat < 32 then
      ['\\', 'u', '0', '0', hexDigit (c.toNat / 16), hexDigit (c.toNat % 16)]
    else [c]

def writeString (t : Text) : Text := '"' :: (t.flatMap escapeChar ++ ['"'])

def floatFormat : FloatFormat := ⟨-5⟩

mutual

def write : Value → Text
  | .null => "null"
  | .bool b => if b then "true" else "false"
  | .int n => (toString n).toList
  | .float x => if x.isFinite then floatFormat.write x else "null"
  | .str t => writeString t
  | .list items => '[' :: (writeItems items ++ [']'])
  | .table fields => '{' :: (writeFields fields ++ ['}'])

def writeItems : List Value → Text
  | [] => []
  | [v] => write v
  | v :: vs => write v ++ ',' :: writeItems vs

def writeFields : List (Text × Value) → Text
  | [] => []
  | [(k, v)] => writeString k ++ ':' :: write v
  | (k, v) :: fs => writeString k ++ ':' :: write v ++ ',' :: writeFields fs

end

end Copydesk.Data.Json
