import Copydesk.Data.Json

/-! The lexical part of TOML: blanks, keys, strings, numbers and dates. -/

namespace Copydesk.Data.Toml

inductive Error
  | unexpectedEnd
  | unexpected (c : Char)
  | badString
  | badEscape
  | badNumber
  | badDate
  | tooDeep
  | duplicateKey (key : Text)
  deriving DecidableEq, Repr

def Error.message : Error → Text
  | unexpectedEnd => "unexpected end of the document"
  | unexpected _ => "unexpected character"
  | badString => "invalid string"
  | badEscape => "invalid escape sequence"
  | badNumber => "invalid number"
  | badDate => "invalid date or time"
  | tooDeep => "recursion limit exceeded"
  | duplicateKey k => "duplicate key ".toList ++ k

abbrev Reader := StateT Text (Except Error)

namespace Reader

def unexpected {α : Type} : Reader α := do
  match ← get with
  | [] => throw .unexpectedEnd
  | c :: _ => throw (.unexpected c)

def accept (p : Text) : Reader Bool := do
  match Text.afterPrefix? p (← get) with
  | some t => set t; return true
  | none => return false

def expect (p : Text) : Reader Unit := do
  if !(← accept p) then unexpected

def takeWhile (p : Char → Bool) : Reader Text := do
  let t ← get
  let taken := t.takeWhile p
  set (t.drop taken.length)
  return taken

def isBlank (c : Char) : Bool := c == ' ' || c == '\t'

def skipBlank : Reader Unit := modify fun t => t.dropWhile isBlank

def isPrintable (c : Char) : Bool := c == '\t' || (32 ≤ c.toNat && c.toNat != 127)

def afterNewline? : Text → Option Text
  | '\n' :: t => some t
  | '\r' :: '\n' :: t => some t
  | _ => none

def skipComment : Reader Unit := do
  if (← get).head? == some '#' then
    let _ ← takeWhile isPrintable

def lineEnd : Reader Unit := do
  skipBlank
  skipComment
  let t ← get
  if t.isEmpty then return
  match afterNewline? t with
  | some t => set t
  | none => unexpected

/-- Blanks, newlines and comments between the items of an array. -/
def skipSpace : Nat → Reader Unit
  | 0 => return
  | fuel + 1 => do
    skipBlank
    skipComment
    match afterNewline? (← get) with
    | some t => set t; skipSpace fuel
    | none => return

def scalar (n : Nat) : Except Error Char :=
  if h : n.isValidChar then .ok (Char.ofNatAux n h) else .error .badEscape

def hexEscape (width : Nat) (t : Text) : Except Error (Char × Text) := do
  let ds := t.take width
  let some ns := ds.mapM Json.Reader.hexDigit? | throw .badEscape
  if ds.length < width then throw .badEscape
  return (← scalar (ns.foldl (fun n d => 16 * n + d) 0), t.drop width)

def simpleEscape? : Char → Option Char
  | '"' => some '"'
  | '\\' => some '\\'
  | 'b' => some '\x08'
  | 'f' => some '\x0c'
  | 'n' => some '\n'
  | 'r' => some '\r'
  | 't' => some '\t'
  | _ => none

/-- What a backslash stands for, which is already read. -/
def escape : Text → Except Error (Char × Text)
  | 'u' :: t => hexEscape 4 t
  | 'U' :: t => hexEscape 8 t
  | c :: t => match simpleEscape? c with
    | some d => .ok (d, t)
    | none => .error .badEscape
  | [] => .error .unexpectedEnd

def basicBody : Nat → Text → Except Error (Text × Text)
  | 0, _ | _, [] => throw .badString
  | _, '"' :: t => return ([], t)
  | fuel + 1, '\\' :: t => do
    let (c, t) ← escape t
    let (s, t) ← basicBody fuel t
    return (c :: s, t)
  | fuel + 1, c :: t => do
    if !isPrintable c then throw .badString
    let (s, t) ← basicBody fuel t
    return (c :: s, t)

def literalBody : Text → Except Error (Text × Text)
  | [] => throw .badString
  | '\'' :: t => return ([], t)
  | c :: t => do
    if !isPrintable c then throw .badString
    let (s, t) ← literalBody t
    return (c :: s, t)

def afterLineBreak? (t : Text) : Option Text :=
  (afterNewline? (t.dropWhile isBlank)).map fun t =>
    let blank := t.takeWhile fun c => isBlank c || c == '\n' || c == '\r'
    let rest := t.drop blank.length
    if blank.getLast? == some '\r' then '\r' :: rest else rest

/-- Up to two quotes right before the closing three belong to the string. -/
def closing? (quote : Char) (t : Text) : Option (Text × Text) :=
  let run := (t.takeWhile (· == quote)).length
  if run < 3 then none
  else
    let inside := Nat.min (run - 3) 2
    some (List.replicate inside quote, t.drop (inside + 3))

/-- The rest of a string between three quotes. -/
def longBody (quote : Char) (escapes : Bool) : Nat → Text → Except Error (Text × Text)
  | 0, _ | _, [] => throw .badString
  | fuel + 1, c :: t => do
    if let some closed := closing? quote (c :: t) then return closed
    if let some t := afterNewline? (c :: t) then
      let (s, t) ← longBody quote escapes fuel t
      return ('\n' :: s, t)
    if escapes && c == '\\' then
      if let some t := afterLineBreak? t then return ← longBody quote escapes fuel t
      let (d, t) ← escape t
      let (s, t) ← longBody quote escapes fuel t
      return (d :: s, t)
    if !isPrintable c then throw .badString
    let (s, t) ← longBody quote escapes fuel t
    return (c :: s, t)

def piece (f : Text → Except Error (Text × Text)) : Reader Text := do
  let (s, t) ← (f (← get) : Except Error (Text × Text))
  set t
  return s

def longString (quote : Char) (escapes : Bool) : Reader Text := do
  modify fun t => (afterNewline? t).getD t
  piece fun t => longBody quote escapes (t.length + 1) t

def string : Reader Text := do
  if ← accept "\"\"\"" then longString '"' true
  else if ← accept "'''" then longString '\'' false
  else if ← accept "\"" then piece fun t => basicBody (t.length + 1) t
  else
    expect ['\'']
    piece literalBody

def isBareKeyChar (c : Char) : Bool := c.isAlphanum || c == '_' || c == '-'

def simpleKey : Reader Text := do
  match (← get).head? with
  | some '"' => expect ['"']; piece fun t => basicBody (t.length + 1) t
  | some '\'' => expect ['\'']; piece literalBody
  | _ =>
    let k ← takeWhile isBareKeyChar
    if k.isEmpty then unexpected
    return k

/-- How deep values nest and how many parts a key has. -/
def nestingLimit : Nat := 80

def dottedKey : Nat → Reader (List Text)
  | 0 => throw .tooDeep
  | fuel + 1 => do
    skipBlank
    let k ← simpleKey
    skipBlank
    if ← accept ['.'] then return k :: (← dottedKey fuel)
    return [k]

def key : Reader (List Text) := dottedKey (nestingLimit - 1)

/-- The digits at the front of a text, with single underscores between two of them dropped, and what
follows. -/
def digitsFrom (isDigit : Char → Bool) : Bool → Text → Text × Text
  | _, [] => ([], [])
  | afterDigit, c :: t =>
    if isDigit c then
      let (ds, r) := digitsFrom isDigit true t
      (c :: ds, r)
    else if afterDigit && c == '_' && (t.head?.map isDigit).getD false then
      digitsFrom isDigit false t
    else ([], c :: t)

def digits (isDigit : Char → Bool) (t : Text) : Text × Text := digitsFrom isDigit false t

def decimal? (t : Text) : Option (Bool × Text × Text) :=
  let (negative, t) := match t with
    | '-' :: r => (true, r)
    | '+' :: r => (false, r)
    | r => (false, r)
  match t with
  | '0' :: r => some (negative, ['0'], r)
  | _ =>
    let (ds, r) := digits Char.isDigit t
    if ds.isEmpty then none else some (negative, ds, r)

/-- An exponent's text without underscores, and what follows. -/
def exponent? : Text → Option (Text × Text)
  | c :: t =>
    if c = 'e' ∨ c = 'E' then
      let (sign, t) : Text × Text := match t with
        | '-' :: r => (['-'], r)
        | '+' :: r => ([], r)
        | r => ([], r)
      let (ds, r) := digits Char.isDigit t
      if ds.isEmpty then none else some ('e' :: sign ++ ds, r)
    else none
  | [] => none

def fraction? : Text → Option (Text × Text)
  | '.' :: t =>
    let (ds, r) := digits Char.isDigit t
    if ds.isEmpty then none else some ('.' :: ds, r)
  | _ => none

/-- A decimal with a fraction, an exponent or both. -/
def float? (t : Text) : Option (Text × Text) := do
  let (negative, ds, r) ← decimal? t
  let sign : Text := if negative then ['-'] else []
  match exponent? r with
  | some (e, r) => return (sign ++ ds ++ e, r)
  | none =>
    let (f, r) ← fraction? r
    match exponent? r with
    | some (e, r) => return (sign ++ ds ++ f ++ e, r)
    | none => return (sign ++ ds ++ f, r)

def notANumber : Float := 0.0 / 0.0

def infinity : Float := 1.0 / 0.0

def special? (t : Text) : Option (Float × Text) :=
  let (negative, t) := match t with
    | '-' :: r => (true, r)
    | '+' :: r => (false, r)
    | r => (false, r)
  match Text.afterPrefix? "inf" t, Text.afterPrefix? "nan" t with
  | some r, _ => some (if negative then -infinity else infinity, r)
  | _, some r => some (notANumber, r)
  | _, _ => none

def wordLimit : Nat := Nat.pow 2 63

/-- Digits of another base, after `0x`, `0o` or `0b`. -/
def based? (t : Text) : Option (Nat × Text) :=
  let (base, t) : Nat × Text := match t with
    | '0' :: 'x' :: r => (16, r)
    | '0' :: 'o' :: r => (8, r)
    | '0' :: 'b' :: r => (2, r)
    | _ => (0, [])
  let isDigit c := match Json.Reader.hexDigit? c with
    | some d => d < base
    | none => false
  let (ds, r) := digits isDigit t
  if ds.isEmpty then none
  else some (ds.foldl (fun n c => base * n + (Json.Reader.hexDigit? c).getD 0) 0, r)

def integer : Reader Value := do
  let t ← get
  match t with
  | '0' :: c :: _ =>
    if c = 'x' ∨ c = 'o' ∨ c = 'b' then
      let some (n, r) := based? t | throw .badNumber
      if wordLimit ≤ n then throw .badNumber
      set r
      return .int n
  | _ => pure ()
  let some (negative, ds, r) := decimal? t | throw .badNumber
  let some n := Text.toNat? ds | throw .badNumber
  if (if negative then wordLimit < n else wordLimit ≤ n) then throw .badNumber
  set r
  return .int (if negative then -(n : Int) else n)

/-- Numbers without an end are written as null. -/
def ofFloat (x : Float) : Value := if x.isFinite then .float x else .null

/-- A number of exactly `width` digits between two bounds. -/
def bounded? (width low high : Nat) (t : Text) : Option (Nat × Text) := do
  let ds := t.take width
  if ds.length < width then none
  let n ← Text.toNat? ds
  if n < low ∨ high < n then none else return (n, t.drop width)

def daysIn (year month : Nat) : Nat :=
  let leap := year % 4 = 0 ∧ (year % 100 ≠ 0 ∨ year % 400 = 0)
  if month = 2 then (if leap then 29 else 28)
  else if month = 4 ∨ month = 6 ∨ month = 9 ∨ month = 11 then 30
  else 31

def padded (width n : Nat) : Text :=
  let ds := Text.ofNat n
  List.replicate (width - ds.length) '0' ++ ds

def date? (t : Text) : Except Error (Option (Text × Text)) := do
  let some (y, '-' :: t) := bounded? 4 0 9999 t | return none
  let some (m, '-' :: t) := bounded? 2 1 12 t | throw .badDate
  let some (d, t) := bounded? 2 1 31 t | throw .badDate
  if daysIn y m < d then throw .badDate
  return some (padded 4 y ++ '-' :: padded 2 m ++ '-' :: padded 2 d, t)

def time? (t : Text) : Except Error (Option (Text × Text)) := do
  let some (h, ':' :: t) := bounded? 2 0 23 t | return none
  let some (m, ':' :: t) := bounded? 2 0 59 t | throw .badDate
  let some (s, t) := bounded? 2 0 60 t | throw .badDate
  let whole := padded 2 h ++ ':' :: padded 2 m ++ ':' :: padded 2 s
  let (part, t) := match t with
    | '.' :: r =>
      let ds := r.takeWhile Char.isDigit
      if ds.isEmpty then ([], t) else (Text.dropEndWhile (· == '0') (ds.take 9), r.drop ds.length)
    | r => ([], r)
  return some (whole ++ (if part.isEmpty then [] else '.' :: part), t)

def offset? (t : Text) : Except Error (Option (Text × Text)) := do
  match t with
  | 'Z' :: r | 'z' :: r => return some (['Z'], r)
  | c :: r =>
    if c = '+' ∨ c = '-' then
      let some (h, ':' :: r) := bounded? 2 0 23 r | throw .badDate
      let some (m, r) := bounded? 2 0 59 r | throw .badDate
      let sign := if c = '-' && (h != 0 || m != 0) then '-' else '+'
      return some (sign :: padded 2 h ++ ':' :: padded 2 m, r)
    return none
  | [] => return none

def moment? (t : Text) : Except Error (Option (Text × Text)) := do
  let some (d, t) ← date? t | time? t
  match t with
  | c :: r =>
    if c = 'T' ∨ c = 't' ∨ c = ' ' then
      match ← time? r with
      | none => return some (d, t)
      | some (h, r) => match ← offset? r with
        | none => return some (d ++ 'T' :: h, r)
        | some (o, r) => return some (d ++ 'T' :: h ++ o, r)
    return some (d, t)
  | [] => return some (d, t)

/-- The field under which a date or time stands in a table of its own. -/
def momentField : Text := "$__toml_private_datetime".toList

def number : Reader Value := do
  let t ← get
  if let some (m, r) ← (moment? t : Except Error _) then
    set r
    return .table [(momentField, .str m)]
  if let some (s, r) := float? t then
    let some x := readFloat? s | throw .badNumber
    if x == infinity then throw .badNumber
    set r
    return ofFloat x
  if let some (x, r) := special? t then
    set r
    return ofFloat x
  integer

end Reader

end Copydesk.Data.Toml
