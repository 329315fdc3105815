import Copydesk.Regex.Syntax

/-! Reading the text of a regular expression. -/

namespace Copydesk.Regex

inductive SyntaxError
  | unclosedGroup | unopenedGroup | unclosedClass | unclosedRepetition
  | nothingToRepeat | badRepetition | badEscape | badClassEscape | badClassRange
  | badFlag | badGroupName | duplicateGroupName | unknownProperty | lookAround
  | invalidUtf8 | tooLarge
  deriving DecidableEq, Repr

namespace SyntaxError

def message : SyntaxError → Text
  | unclosedGroup => "unclosed group"
  | unopenedGroup => "unopened group"
  | unclosedClass => "unclosed character class"
  | unclosedRepetition => "unclosed counted repetition"
  | nothingToRepeat => "repetition operator missing expression"
  | badRepetition => "invalid repetition count"
  | badEscape => "unrecognized escape sequence"
  | badClassEscape => "invalid escape sequence found in character class"
  | badClassRange => "invalid character class range"
  | badFlag => "unrecognized flag"
  | badGroupName => "invalid capture group name"
  | duplicateGroupName => "duplicate capture group name"
  | unknownProperty => "Unicode property not found"
  | lookAround => "look-around is not supported"
  | invalidUtf8 => "pattern can match invalid UTF-8"
  | tooLarge => "compiled regex exceeds size limit"

end SyntaxError

structure Flags where
  ignoreCase : Bool := false
  multiLine : Bool := false
  dotAll : Bool := false
  swapGreed : Bool := false
  unicode : Bool := true
  extended : Bool := false
  crlf : Bool := false

structure ReadState where
  rest : Text
  flags : Flags
  groups : Nat := 0
  names : List Text := []

abbrev Reader := StateT ReadState (Except SyntaxError)

namespace Reader

def fail {α : Type} (e : SyntaxError) : Reader α := throw e

def peek : Reader (Option Char) := return (← get).rest.head?

def advance (n : Nat) : Reader Unit := modify fun s => { s with rest := s.rest.drop n }

def next? : Reader (Option Char) := do
  let c ← peek
  advance 1
  return c

def upcoming (t : Text) : Reader Bool := return Text.startsWith (← get).rest t

def flags : Reader Flags := return (← get).flags

/-- Drops blanks and comments, one pass over the text ahead. -/
def skipLayout : Bool → Text → Text
  | _, [] => []
  | true, c :: t => skipLayout (c != '\n') t
  | false, c :: t =>
    if Text.isSpace c then skipLayout false t
    else if c = '#' then skipLayout true t
    else c :: t

/-- In extended mode, skips blanks and comments. -/
def skipBlank : Reader Unit := do
  if (← flags).extended then modify fun s => { s with rest := skipLayout false s.rest }

def fold (s : CharSet) : Reader CharSet := do
  let f ← flags
  if !f.ignoreCase then return s
  if f.unicode then return s.folded
  return s.union ((s.folded).inter (CharSet.range '\x00' '\x7f'))

def negate (s : CharSet) : Reader CharSet := do
  if (← flags).unicode then return s.compl else fail .invalidUtf8

def literal (c : Char) : Reader Node := return .one (← fold (CharSet.single c))

def asciiDigits : CharSet := .range '0' '9'

def asciiSpaces : CharSet := .ofRanges [('\t', '\r'), (' ', ' ')]

def asciiWords : CharSet := .ofRanges [('0', '9'), ('A', 'Z'), ('_', '_'), ('a', 'z')]

def perlClass (c : Char) : Reader (Option CharSet) := do
  let u := (← flags).unicode
  match c with
  | 'd' => return some (if u then .named .digit else asciiDigits)
  | 's' => return some (if u then .named .space else asciiSpaces)
  | 'w' => return some (if u then .named .word else asciiWords)
  | 'D' => return some (← negate (.named .digit))
  | 'S' => return some (← negate (.named .space))
  | 'W' => return some (← negate (.named .word))
  | _ => return none

def posixClass? (name : Text) : Option CharSet :=
  match String.ofList name with
  | "alnum" => some (.ofRanges [('0', '9'), ('A', 'Z'), ('a', 'z')])
  | "alpha" => some (.ofRanges [('A', 'Z'), ('a', 'z')])
  | "ascii" => some (.range '\x00' '\x7f')
  | "blank" => some (.ofRanges [('\t', '\t'), (' ', ' ')])
  | "cntrl" => some (.ofRanges [('\x00', '\x1f'), ('\x7f', '\x7f')])
  | "digit" => some asciiDigits
  | "graph" => some (.range '!' '~')
  | "lower" => some (.range 'a' 'z')
  | "print" => some (.range ' ' '~')
  | "punct" => some (.ofRanges [('!', '/'), (':', '@'), ('[', '\x60'), ('\x7b', '~')])
  | "space" => some asciiSpaces
  | "upper" => some (.range 'A' 'Z')
  | "word" => some asciiWords
  | "xdigit" => some (.ofRanges [('0', '9'), ('A', 'F'), ('a', 'f')])
  | _ => none

def categoryNames : List (String × List String) :=
  [("C", ["c", "other"]), ("Cc", ["cc", "control", "cntrl"]), ("Cf", ["cf", "format"]),
   ("Cn", ["cn", "unassigned"]), ("Co", ["co", "privateuse"]),
   ("L", ["l", "letter"]), ("Ll", ["ll", "lowercaseletter"]), ("Lm", ["lm", "modifierletter"]),
   ("Lo", ["lo", "otherletter"]), ("Lt", ["lt", "titlecaseletter"]),
   ("Lu", ["lu", "uppercaseletter"]), ("M", ["m", "mark", "combiningmark"]),
   ("Mc", ["mc", "spacingmark"]), ("Me", ["me", "enclosingmark"]),
   ("Mn", ["mn", "nonspacingmark"]), ("N", ["n", "number"]),
   ("Nd", ["nd", "decimalnumber", "digit"]), ("Nl", ["nl", "letternumber"]),
   ("No", ["no", "othernumber"]), ("P", ["p", "punctuation", "punct"]),
   ("Pc", ["pc", "connectorpunctuation"]), ("Pd", ["pd", "dashpunctuation"]),
   ("Pe", ["pe", "closepunctuation"]), ("Pf", ["pf", "finalpunctuation"]),
   ("Pi", ["pi", "initialpunctuation"]), ("Po", ["po", "otherpunctuation"]),
   ("Ps", ["ps", "openpunctuation"]), ("S", ["s", "symbol"]),
   ("Sc", ["sc", "currencysymbol"]), ("Sk", ["sk", "modifiersymbol"]),
   ("Sm", ["sm", "mathsymbol"]), ("So", ["so", "othersymbol"]), ("Z", ["z", "separator"]),
   ("Zl", ["zl", "lineseparator"]), ("Zp", ["zp", "paragraphseparator"]),
   ("Zs", ["zs", "spaceseparator"])]

def property? (name : Text) : Option CharSet :=
  let plain := Text.asciiLower (name.filter fun c => c != '_' && c != '-' && c != ' ')
  let plain := match String.ofList plain with
    | "isc" => plain
    | _ => (Text.afterPrefix? "is" plain).getD plain
  match String.ofList plain with
  | "any" => some (.named .any)
  | "ascii" => some (.range '\x00' '\x7f')
  | "assigned" => some (CharSet.compl (.named (.category "Cn")))
  | "alphabetic" | "alpha" => some (.named .alphabetic)
  | "lowercase" | "lower" => some (.named .lowercase)
  | "uppercase" | "upper" => some (.named .uppercase)
  | "whitespace" | "wspace" | "space" => some (.named .space)
  | "lc" | "casedletter" =>
    some (.union (.named (.category "Lu"))
      (.union (.named (.category "Ll")) (.named (.category "Lt"))))
  | s => (categoryNames.find? fun (_, names) => names.contains s).map
      fun (key, _) => .named (.category key)

def propertyClass (inverted : Bool) : Reader CharSet := do
  if !(← flags).unicode then fail .unknownProperty
  match ← next? with
  | none => fail .badEscape
  | some '{' =>
    let body := (← get).rest.takeWhile (· != '}')
    if (← get).rest.length = body.length then fail .badEscape
    advance (body.length + 1)
    let (inner, body) := match body with
      | '^' :: b => (true, b)
      | b => (false, b)
    let (unequal, value) :=
      match Text.splitOnText "!=" body with
      | [k, v] => (true, if property? v == none then k else v)
      | _ => match Text.splitWhere (fun c => c == '=' || c == ':') body with
        | [_, v] => (false, v)
        | _ => (false, body)
    match property? value with
    | some s => return if inverted != (inner != unequal) then s.compl else s
    | none => fail .unknownProperty
  | some c => match property? [c] with
    | some s => return if inverted then s.compl else s
    | none => fail .unknownProperty

def hexDigit? (c : Char) : Option Nat :=
  if c.isDigit then some (c.toNat - '0'.toNat)
  else if 'a' ≤ c ∧ c ≤ 'f' then some (c.toNat - 'a'.toNat + 10)
  else if 'A' ≤ c ∧ c ≤ 'F' then some (c.toNat - 'A'.toNat + 10)
  else none

def hexChar (digits : Text) : Reader Char := do
  if digits.isEmpty then fail .badEscape
  match digits.mapM hexDigit? with
  | none => fail .badEscape
  | some ds =>
    let n := ds.foldl (fun n d => 16 * n + d) 0
    if h : n.isValidChar then return Char.ofNatAux n h else fail .badEscape

def hexEscape (width : Nat) : Reader Char := do
  if (← peek) == some '{' then
    advance 1
    let body := (← get).rest.takeWhile (· != '}')
    if (← get).rest.length = body.length then fail .badEscape
    advance (body.length + 1)
    hexChar body
  else
    let body := (← get).rest.take width
    if body.length < width then fail .badEscape
    advance width
    hexChar body

inductive Escape
  | char (c : Char)
  | set (s : CharSet)
  | look (l : Look)

def metaChars : Text := "\\.+*?()|[]\x7b\x7d^$#&-~".toList

def wordKind : Reader WordKind := return if (← flags).unicode then .unicode else .ascii

def boundaryEscape : Reader Escape := do
  let k ← wordKind
  match (← get).rest with
  | '{' :: rest =>
    match rest with
    | c :: _ =>
      if c.isAlpha || c == '-' then
        let name := rest.takeWhile fun c => c.isAlpha || c == '-'
        if (rest.drop name.length).head? != some '}' then fail .badEscape
        advance (name.length + 2)
        match String.ofList name with
        | "start" => return .look (.wordStart k)
        | "end" => return .look (.wordEnd k)
        | "start-half" => return .look (.wordStartHalf k)
        | "end-half" => return .look (.wordEndHalf k)
        | _ => fail .badEscape
      else return .look (.wordBoundary k)
    | [] => fail .badEscape
  | _ => return .look (.wordBoundary k)

/-- Reads an escape after its backslash. -/
def escape : Reader Escape := do
  match ← next? with
  | none => fail .badEscape
  | some c =>
    if let some s ← perlClass c then return .set s
    match c with
    | 'x' => return .char (← hexEscape 2)
    | 'u' => return .char (← hexEscape 4)
    | 'U' => return .char (← hexEscape 8)
    | 'p' => return .set (← propertyClass false)
    | 'P' => return .set (← propertyClass true)
    | 'a' => return .char '\x07'
    | 'f' => return .char '\x0c'
    | 't' => return .char '\t'
    | 'n' => return .char '\n'
    | 'r' => return .char '\r'
    | 'v' => return .char '\x0b'
    | 'A' => return .look .textStart
    | 'z' => return .look .textEnd
    | 'b' => boundaryEscape
    | 'B' => do
      if !(← flags).unicode then fail .invalidUtf8
      return .look (.notWordBoundary .unicode)
    | '<' => return .look (.wordStart (← wordKind))
    | '>' => return .look (.wordEnd (← wordKind))
    | _ =>
      if c ∈ metaChars || (c.toNat < 128 && !c.isAlphanum) then return .char c
      fail .badEscape

/-- One member of a bracketed class: a character, which may open a range, or a set. -/
def classItem : Reader (Char ⊕ CharSet) := do
  match ← next? with
  | none => fail .unclosedClass
  | some '\\' => match ← escape with
    | .char c => return .inl c
    | .set s => return .inr s
    | .look _ => fail .badClassEscape
  | some c => return .inl c

def classRange : Reader CharSet := do
  let item ← classItem
  skipBlank
  let rest := (← get).rest
  let ranged := match rest with
    | '-' :: c :: _ => c != ']' && c != '-'
    | _ => false
  if rest.isEmpty then fail .unclosedClass
  if !ranged then
    match item with
    | .inl c => return CharSet.single c
    | .inr s => return s
  advance 1
  skipBlank
  match item, ← classItem with
  | .inl lo, .inl hi => if lo ≤ hi then return .range lo hi else fail .badClassRange
  | _, _ => fail .badClassRange

inductive SetOp
  | inter | diff | symmDiff

def SetOp.apply : SetOp → CharSet → CharSet → CharSet
  | inter, s, t => s.inter t
  | diff, s, t => s.diff t
  | symmDiff, s, t => s.symmDiff t

def setOp? : Reader (Option SetOp) := do
  match (← get).rest with
  | '&' :: '&' :: _ => return some .inter
  | '-' :: '-' :: _ => return some .diff
  | '~' :: '~' :: _ => return some .symmDiff
  | _ => return none

/-- A named ASCII class such as `[:alpha:]`, after its opening bracket. -/
def posixItem? : Reader (Option CharSet) := do
  match (← get).rest with
  | ':' :: rest =>
    let (inverted, body) := match rest with
      | '^' :: r => (true, r)
      | r => (false, r)
    let name := body.takeWhile (· != ':')
    if Text.startsWith (body.drop name.length) ":]" then
      match posixClass? name with
      | some s =>
        advance (1 + (if inverted then 1 else 0) + name.length + 2)
        if inverted then return some (← negate s) else return some s
      | none => return none
    else return none
  | _ => return none

def finish (pending : Option (SetOp × CharSet)) (s : CharSet) : Reader CharSet := do
  let s ← fold s
  match pending with
  | none => return s
  | some (op, lhs) => return op.apply lhs s

mutual

def bracketed : Nat → Reader CharSet
  | 0 => fail .unclosedClass
  | fuel + 1 => do
    skipBlank
    let inverted := (← peek) == some '^'
    if inverted then advance 1
    skipBlank
    let dashes := (← get).rest.takeWhile (· == '-')
    advance dashes.length
    skipBlank
    let mut first : CharSet := if dashes.isEmpty then .empty else CharSet.single '-'
    if dashes.isEmpty && (← peek) == some ']' then
      advance 1
      first := CharSet.single ']'
    let s ← classUnion fuel none first
    if inverted then negate s else return s

def classUnion : Nat → Option (SetOp × CharSet) → CharSet → Reader CharSet
  | 0, _, _ => fail .unclosedClass
  | fuel + 1, pending, acc => do
    skipBlank
    match ← peek with
    | none => fail .unclosedClass
    | some ']' => advance 1; finish pending acc
    | some '[' =>
      advance 1
      match ← posixItem? with
      | some s => classUnion fuel pending (acc.union s)
      | none =>
        let s ← bracketed fuel
        classUnion fuel pending (acc.union s)
    | some _ =>
      match ← setOp? with
      | some op =>
        advance 2
        -- operators group to the left
        let lhs ← finish pending acc
        classUnion fuel (some (op, lhs)) .empty
      | none =>
        let s ← classRange
        classUnion fuel pending (acc.union s)

end

def dot : Reader CharSet := do
  let f ← flags
  if !f.unicode then fail .invalidUtf8
  if f.dotAll then return .named .any
  if f.crlf then return CharSet.compl (.ofRanges [('\r', '\r'), ('\n', '\n')])
  return CharSet.compl (CharSet.single '\n')

def setFlag (on : Bool) (c : Char) (f : Flags) : Option Flags :=
  match c with
  | 'i' => some { f with ignoreCase := on }
  | 'm' => some { f with multiLine := on }
  | 's' => some { f with dotAll := on }
  | 'U' => some { f with swapGreed := on }
  | 'u' => some { f with unicode := on }
  | 'x' => some { f with extended := on }
  | 'R' => some { f with crlf := on }
  | _ => none

def flagItems : Text → Option Bool → List Char → Flags → Reader Flags
  | [], negated, _, f => if negated == some false then fail .badFlag else return f
  | '-' :: cs, none, seen, f => flagItems cs (some false) seen f
  | '-' :: _, some _, _, _ => fail .badFlag
  | c :: cs, negated, seen, f =>
    match setFlag negated.isNone c f with
    | some f' =>
      if seen.contains c then fail .badFlag
      else flagItems cs (negated.map fun _ => true) (c :: seen) f'
    | none => fail .badFlag

def groupName : Reader Unit := do
  let name := (← get).rest.takeWhile (· != '>')
  if (← get).rest.length = name.length then fail .badGroupName
  advance (name.length + 1)
  let inner (c : Char) := c == '_' || c == '.' || c == '[' || c == ']' || Text.isAlphanumeric c
  match name with
  | [] => fail .badGroupName
  | c :: cs =>
    if !((c == '_' || Text.isAlphabetic c) && cs.all inner) then fail .badGroupName
    if (← get).names.contains name then fail .duplicateGroupName
    modify fun s => { s with names := name :: s.names }

def repetition (lo : Nat) (hi : Option Nat) (a : Node) : Reader Node := do
  let lazyMark := (← peek) == some '?'
  if lazyMark then advance 1
  return .rep lo hi (lazyMark == (← flags).swapGreed) a

def decimal? : Reader (Option Nat) := do
  modify fun s => { s with rest := Text.trimStart s.rest }
  let digits := (← get).rest.takeWhile Char.isDigit
  advance digits.length
  modify fun s => { s with rest := Text.trimStart s.rest }
  match Text.toNat? digits with
  | some n => if n < 4294967296 then return some n else fail .badRepetition
  | none => return none

def counted (a : Node) : Reader Node := do
  let some lo ← decimal? | fail .badRepetition
  match ← next? with
  | some '}' => repetition lo (some lo) a
  | some ',' =>
    skipBlank
    if (← peek) == some '}' then
      advance 1
      repetition lo none a
    else
      let some hi ← decimal? | fail .badRepetition
      if (← next?) != some '}' then fail .unclosedRepetition
      if hi < lo then fail .badRepetition
      repetition lo (some hi) a
  | _ => fail .unclosedRepetition

inductive Opening
  | directive (f : Flags)
  | inner (f : Flags) (index : Option Nat)

def numbered : Reader Opening := do
  let n := (← get).groups + 1
  modify fun s => { s with groups := n }
  return .inner (← flags) (some n)

def opening : Reader Opening := do
  if (← upcoming "?=") || (← upcoming "?!") || (← upcoming "?<=") || (← upcoming "?<!") then
    fail .lookAround
  if ← upcoming "?P<" then
    advance 3
    groupName
    numbered
  else if ← upcoming "?<" then
    advance 2
    groupName
    numbered
  else if ← upcoming "?" then
    advance 1
    let items := (← get).rest.takeWhile fun c => c != ':' && c != ')'
    let f ← flagItems items none [] (← flags)
    match (← get).rest.drop items.length with
    | ')' :: _ =>
      if items.isEmpty then fail .nothingToRepeat
      advance (items.length + 1)
      return .directive f
    | ':' :: _ =>
      advance (items.length + 1)
      return .inner f none
    | _ => fail .unclosedGroup
  else numbered

mutual

def alternation : Nat → Reader Node
  | 0 => fail .tooLarge
  | fuel + 1 => do
    let a ← concatenation fuel []
    if (← peek) == some '|' then
      advance 1
      return .alt a (← alternation fuel)
    else return a

/-- Items read so far stand last first; `none` is a flag directive. -/
def concatenation : Nat → List (Option Node) → Reader Node
  | 0, _ => fail .tooLarge
  | fuel + 1, items => do
    skipBlank
    let repeatLast (f : Node → Reader Node) : Reader Node := do
      match items with
      | some a :: before => concatenation fuel (some (← f a) :: before)
      | _ => fail .nothingToRepeat
    let push (a : Node) : Reader Node := concatenation fuel (some a :: items)
    match ← peek with
    | none | some '|' | some ')' => return Node.ofList (items.reverse.filterMap id)
    | some c =>
      advance 1
      let f ← flags
      match c with
      | '*' => repeatLast (repetition 0 none)
      | '+' => repeatLast (repetition 1 none)
      | '?' => repeatLast (repetition 0 (some 1))
      | '{' => repeatLast counted
      | '.' => push (.one (← dot))
      | '^' => push (.look (if f.multiLine then .lineStart f.crlf else .textStart))
      | '$' => push (.look (if f.multiLine then .lineEnd f.crlf else .textEnd))
      | '[' => push (.one (← bracketed fuel))
      | '\\' => match ← escape with
        | .char c => push (← literal c)
        | .set s => push (.one s)
        | .look l => push (.look l)
      | '(' => match ← opening with
        | .directive f' =>
          modify fun s => { s with flags := f' }
          concatenation fuel (none :: items)
        | .inner f' index =>
          modify fun s => { s with flags := f' }
          let a ← alternation fuel
          if (← next?) != some ')' then fail .unclosedGroup
          -- flags that are set in a group end with it
          modify fun s => { s with flags := f }
          push (match index with
            | some i => .group i a
            | none => a)
      | c => push (← literal c)

end

end Reader

/-- States that a node unfolds to, about: a character has one for each of its bytes. This is an
estimate of what a compiled pattern takes. A class counts as one state, whatever its ranges, and
those that look for the beginning of a match are left out. -/
def Node.weight : Node → Nat
  | empty => 1
  | one (.range _ hi) => hi.utf8Size
  | one _ => 1
  | look _ => 1
  | cat a b => a.weight + b.weight
  | alt a b => a.weight + b.weight + 1
  | rep lo hi _ a => (max 1 (hi.getD (lo + 1))) * a.weight
  | group _ a => a.weight + 2

/-- Ten megabytes, at 32 bytes a state. For patterns near the limit a measure of the memory itself may
decide otherwise. -/
def weightLimit : Nat := 10 * 1024 * 1024 / 32

def Node.ofText (pattern : Text) (flags : Flags) : Except SyntaxError (Node × Nat) := do
  let (node, s) ← (Reader.alternation (4 * pattern.length + 8)).run { rest := pattern, flags }
  if !s.rest.isEmpty then throw .unopenedGroup
  if weightLimit < node.weight then throw .tooLarge
  return (node, s.groups)

end Copydesk.Regex
