import Copydesk.Text.Basic

/-! Tokens of a YAML stream. Indentation shows as tokens that open and close block collections. -/

namespace Copydesk.Data.Yaml

inductive Error
  | badCharacter | tabIndent | missingColon
  | entryNotAllowed | keyNotAllowed | valueNotAllowed
  | unclosedScalar | badEscape | badBlockHeader | badAnchor | badTag | badDirective
  | unexpectedColon
  | expectedNode | expectedEntry | expectedKey | expectedSeparator
  | manyDocuments | unknownAnchor | badKey | badTagged | duplicateKey
  deriving DecidableEq, Repr

/-- Every wording begins with the name of the format. -/
def Error.message : Error → Text
  | badCharacter => "YAML: found character that cannot start any token"
  | tabIndent => "YAML: found a tab character where an indentation space is expected"
  | missingColon => "YAML: could not find expected ':'"
  | entryNotAllowed => "YAML: block sequence entries are not allowed in this context"
  | keyNotAllowed => "YAML: mapping keys are not allowed in this context"
  | valueNotAllowed => "YAML: mapping values are not allowed in this context"
  | unclosedScalar => "YAML: found unexpected end of stream in a quoted scalar"
  | badEscape => "YAML: found unknown escape character"
  | badBlockHeader => "YAML: did not find expected comment or line break"
  | badAnchor => "YAML: did not find expected alphabetic or numeric character"
  | badTag => "YAML: did not find expected tag"
  | badDirective => "YAML: found unknown directive name"
  | unexpectedColon => "YAML: found unexpected ':'"
  | expectedNode => "YAML: did not find expected node content"
  | expectedEntry => "YAML: did not find expected '-' indicator"
  | expectedKey => "YAML: did not find expected key"
  | expectedSeparator => "YAML: did not find expected ',' or closing bracket"
  | manyDocuments => "YAML: more than one document"
  | unknownAnchor => "YAML: unknown anchor"
  | badKey => "YAML: a key is not a scalar"
  | badTagged => "YAML: a value has an unknown tag"
  | duplicateKey => "YAML: duplicate entry"

inductive Token
  | documentStart | documentEnd
  | blockSequence | blockMapping | blockEnd
  | openSequence | closeSequence | openMapping | closeMapping
  | entry | separator | key | value
  | alias (name : Text) | anchor (name : Text)
  | tag (t : Text)
  | scalar (t : Text) (isPlain : Bool)
  deriving DecidableEq, Repr

structure SimpleKey where
  tokenIndex : Nat
  required : Bool
  index : Nat
  line : Nat
  column : Nat

structure Scanner where
  rest : Text
  index : Nat := 0
  line : Nat := 0
  column : Nat := 0
  flow : Nat := 0
  indent : Int := -1
  indents : List Int := []
  keyAllowed : Bool := true
  /-- A possible key for each open flow collection and the block around them, innermost first. -/
  keys : List (Option SimpleKey) := [none]
  tokens : Array Token := #[]

abbrev Scan := StateT Scanner (Except Error)

namespace Scan

def isBreak (c : Char) : Bool :=
  c == '\n' || c == '\r' || c == '\u0085' || c == '\u2028' || c == '\u2029'

def isBlank (c : Char) : Bool := c == ' ' || c == '\t'

def atBlank (t : Text) : Bool := t.head?.all fun c => isBlank c || isBreak c

def skip (n : Nat) : Scan Unit := modify fun s =>
  { s with rest := s.rest.drop n, index := s.index + n, column := s.column + n }

def takeBreak : Scan Text := do
  let s ← get
  let next (n : Nat) : Scanner :=
    { s with rest := s.rest.drop n, index := s.index + n, column := 0, line := s.line + 1 }
  match s.rest with
  | '\r' :: '\n' :: _ => set (next 2); return ['\n']
  | c :: _ =>
    if isBreak c then
      set (next 1)
      return if c = '\u2028' ∨ c = '\u2029' then [c] else ['\n']
    else return []
  | [] => return []

def skipWhile (p : Char → Bool) : Scan Unit := do
  skip ((← get).rest.takeWhile p).length

def takeWhile (p : Char → Bool) : Scan Text := do
  let t := (← get).rest.takeWhile p
  skip t.length
  return t

def push (t : Token) : Scan Unit := modify fun s => { s with tokens := s.tokens.push t }

def insert (i : Nat) (t : Token) : Scan Unit := modify fun s =>
  { s with tokens := (s.tokens.extract 0 i).push t ++ s.tokens.extract i s.tokens.size }

def allowKey (b : Bool) : Scan Unit := modify fun s => { s with keyAllowed := b }

def dropKey : Scan Unit := do
  let s ← get
  match s.keys with
  | some k :: ks => if k.required then throw .missingColon else set { s with keys := none :: ks }
  | _ => return

def saveKey : Scan Unit := do
  let s ← get
  if s.keyAllowed then
    dropKey
    let k : SimpleKey :=
      ⟨s.tokens.size, s.flow == 0 && s.indent == s.column, s.index, s.line, s.column⟩
    modify fun s => { s with keys := some k :: s.keys.drop 1 }

/-- Gives up keys that did not stay on one line or went on for too long. -/
def dropStaleKeys : Scan Unit := do
  let s ← get
  let stale (k : SimpleKey) := k.line < s.line || k.index + 1024 < s.index
  if s.keys.any fun k => k.any fun k => stale k && k.required then throw .missingColon
  set { s with keys := s.keys.map fun k => Option.filter (fun k => !stale k) k }

def unrollFrom : Nat → Int → Scan Unit
  | 0, _ => return
  | fuel + 1, column => do
    let s ← get
    if s.flow = 0 ∧ column < s.indent then
      set { s with
        indent := s.indents.head?.getD (-1), indents := s.indents.drop 1
        tokens := s.tokens.push .blockEnd }
      unrollFrom fuel column

def unroll (column : Int) : Scan Unit := do unrollFrom ((← get).indents.length + 1) column

def roll (column : Nat) (i : Nat) (t : Token) : Scan Unit := do
  let s ← get
  if s.flow = 0 ∧ s.indent < column then
    set { s with indent := column, indents := s.indent :: s.indents }
    insert i t

def skipLayout : Nat → Scan Unit
  | 0 => return
  | fuel + 1 => do
    let s ← get
    match s.rest with
    | [] => return
    | c :: _ =>
      if c = '\ufeff' ∧ s.index = 0 then
        modify fun s => { s with rest := s.rest.drop 1 }
        skipLayout fuel
      else if c = ' ' ∨ (c = '\t' ∧ (s.flow ≠ 0 ∨ !s.keyAllowed)) then
        skip 1
        skipLayout fuel
      else if c = '#' then
        skipWhile (!isBreak ·)
        skipLayout fuel
      else if isBreak c then
        let _ ← takeBreak
        if s.flow = 0 then allowKey true
        skipLayout fuel

/-- Line breaks between the lines of a scalar: a lone one reads as a space. -/
def joinBreaks (leading trailing : Text) : Text :=
  if leading = ['\n'] then (if trailing.isEmpty then [' '] else trailing) else leading ++ trailing

structure Gap where
  spaces : Text := []
  leading : Text := []
  trailing : Text := []
  /-- Whether a line break has been passed. -/
  broken : Bool := false

def Gap.text (g : Gap) : Text := if g.broken then joinBreaks g.leading g.trailing else g.spaces

/-- Takes blanks and line breaks. In a plain scalar a tab may not stand in for indentation. -/
def takeGap (least : Option Int) : Nat → Gap → Scan Gap
  | 0, g => return g
  | fuel + 1, g => do
    let s ← get
    match s.rest with
    | [] => return g
    | c :: _ =>
      if isBlank c then
        if g.broken && c == '\t' && least.any fun n => (s.column : Int) < n then throw .tabIndent
        skip 1
        takeGap least fuel (if g.broken then g else { g with spaces := g.spaces ++ [c] })
      else if isBreak c then
        let b ← takeBreak
        takeGap least fuel (if g.broken then { g with trailing := g.trailing ++ b }
          else { g with spaces := [], leading := b, broken := true })
      else return g

def atDocumentMark : Scan Bool := do
  let s ← get
  return s.column == 0
    && (Text.startsWith s.rest "---" || Text.startsWith s.rest "...") && atBlank (s.rest.drop 3)

def hexDigit? (c : Char) : Option Nat :=
  if c.isDigit then some (c.toNat - '0'.toNat)
  else if 'a' ≤ c ∧ c ≤ 'f' then some (c.toNat - 'a'.toNat + 10)
  else if 'A' ≤ c ∧ c ≤ 'F' then some (c.toNat - 'A'.toNat + 10)
  else none

def hexEscape (width : Nat) : Scan Text := do
  let body := (← get).rest.take width
  match body.mapM hexDigit? with
  | none => throw .badEscape
  | some ds =>
    if body.length < width then throw .badEscape
    skip width
    let n := ds.foldl (fun n d => 16 * n + d) 0
    if h : n.isValidChar then return [Char.ofNatAux n h] else throw .badEscape

/-- The character of an escape, after its backslash. -/
def escape : Scan Text := do
  let s ← get
  skip 1
  match s.rest with
  | [] => throw .badEscape
  | c :: _ => match c with
    | '0' => return ['\x00']
    | 'a' => return ['\x07']
    | 'b' => return ['\x08']
    | 't' | '\t' => return ['\t']
    | 'n' => return ['\n']
    | 'v' => return ['\x0b']
    | 'f' => return ['\x0c']
    | 'r' => return ['\r']
    | 'e' => return ['\x1b']
    | ' ' => return [' ']
    | '"' => return ['"']
    | '/' => return ['/']
    | '\\' => return ['\\']
    | 'N' => return ['\u0085']
    | '_' => return ['\u00a0']
    | 'L' => return ['\u2028']
    | 'P' => return ['\u2029']
    | 'x' => hexEscape 2
    | 'u' => hexEscape 4
    | 'U' => hexEscape 8
    | _ => throw .badEscape

/-- A run of non-blank characters of a quoted scalar; an escaped line break ends the run and
counts as broken already. -/
def quotedRun (quote : Char) : Nat → Scan (Text × Bool)
  | 0 => return ([], false)
  | fuel + 1 => do
    match (← get).rest with
    | [] => return ([], false)
    | c :: t =>
      if isBlank c || isBreak c then return ([], false)
      let more (piece : Text) : Scan (Text × Bool) := do
        let (r, b) ← quotedRun quote fuel
        return (piece ++ r, b)
      if c = quote then
        -- two quotes in a row stand for one
        if quote = '\'' ∧ t.head? = some '\'' then
          skip 2
          more ['\'']
        else return ([], false)
      else if c = '\\' ∧ quote = '"' then
        skip 1
        if t.head?.any isBreak then
          let _ ← takeBreak
          return ([], true)
        let piece ← escape
        more piece
      else
        skip 1
        more [c]

def quoted (quote : Char) : Nat → Scan Text
  | 0 => throw .unclosedScalar
  | fuel + 1 => do
    if ← atDocumentMark then throw .unclosedScalar
    if (← get).rest.isEmpty then throw .unclosedScalar
    let (run, broken) ← quotedRun quote ((← get).rest.length + 1)
    if (← get).rest.head? == some quote then
      skip 1
      return run
    let g ← takeGap none ((← get).rest.length + 1) { broken }
    let more ← quoted quote fuel
    return run ++ g.text ++ more

def endsPlain (flow : Bool) (c : Char) (t : Text) : Bool :=
  (c == ':' && atBlank t)
    || (flow && (c == ',' || c == '[' || c == ']' || c == '\x7b' || c == '\x7d'))

def plainRun : Nat → Scan Text
  | 0 => return []
  | fuel + 1 => do
    let s ← get
    match s.rest with
    | [] => return []
    | c :: t =>
      if isBlank c || isBreak c then return []
      let flow := s.flow != 0
      if flow && c == ':' && t.head?.any fun d =>
          d == ',' || d == '?' || d == '[' || d == ']' || d == '\x7b' || d == '\x7d' then
        throw .unexpectedColon
      if endsPlain flow c t then return []
      skip 1
      return c :: (← plainRun fuel)

/-- A plain scalar and whether a line break follows it. -/
def plain : Nat → Gap → Scan (Text × Bool)
  | 0, _ => return ([], false)
  | fuel + 1, gap => do
    let s ← get
    let least := s.indent + 1
    if (← atDocumentMark) || s.rest.head? == some '#' then return ([], gap.broken)
    let run ← plainRun (s.rest.length + 1)
    if run.isEmpty then return ([], gap.broken)
    let s ← get
    if !s.rest.head?.any fun c => isBlank c || isBreak c then return (gap.text ++ run, false)
    let next ← takeGap (some least) (s.rest.length + 1) {}
    let s ← get
    if s.flow = 0 ∧ (s.column : Int) < least then return (gap.text ++ run, next.broken)
    let (more, broken) ← plain fuel next
    return (gap.text ++ run ++ more, broken)

/-- Line breaks before a line of a block scalar, and the deepest indentation among them. -/
def blockBreaks (indent : Nat) : Nat → Nat → Scan (Text × Nat)
  | 0, deepest => return ([], deepest)
  | fuel + 1, deepest => do
    let s ← get
    let blanks := s.rest.takeWhile (· == ' ')
    -- no indentation is known yet if it is zero
    let room := if indent = 0 then blanks.length else min blanks.length (indent - s.column)
    skip room
    let s ← get
    let deepest := max deepest s.column
    match s.rest with
    | [] => return ([], deepest)
    | c :: _ =>
      -- a tab may be content, but no part of the indentation
      if (indent = 0 ∨ s.column < indent) ∧ c = '\t' then throw .tabIndent
      if isBreak c then
        let b ← takeBreak
        let (more, deepest) ← blockBreaks indent fuel deepest
        return (b ++ more, deepest)
      return ([], deepest)

/-- The lines of a block scalar. Folding joins lines with a space unless one of the two begins
with a blank. -/
def blockLines (literal : Bool) (indent : Nat) :
    Nat → (leading trailing : Text) → (leadingBlank : Bool) → Scan (Text × Text × Text)
  | 0, leading, trailing, _ => return ([], leading, trailing)
  | fuel + 1, leading, trailing, leadingBlank => do
    let s ← get
    match s.rest with
    | [] => return ([], leading, trailing)
    | c :: _ =>
      if s.column ≠ indent then return ([], leading, trailing)
      let blank := isBlank c
      let joint :=
        if !literal && leading == ['\n'] && !leadingBlank && !blank then
          (if trailing.isEmpty then [' '] else [])
        else leading
      let line ← takeWhile (!isBreak ·)
      let leading' ← takeBreak
      let (trailing', _) ← blockBreaks indent ((← get).rest.length + 1) 0
      let (more, l, t) ← blockLines literal indent fuel leading' trailing' blank
      return (joint ++ trailing ++ line ++ more, l, t)

inductive Chomp
  | strip | clip | keep

def chompMark? : Char → Option Chomp
  | '+' => some .keep
  | '-' => some .strip
  | _ => none

def blockHeader : Scan (Chomp × Nat) := do
  let digit (t : Text) : Scan Nat := do
    match t with
    | c :: _ =>
      if c = '0' then throw .badBlockHeader
      if c.isDigit then
        skip 1
        return c.toNat - '0'.toNat
      return 0
    | [] => return 0
  match (← get).rest.head?.bind chompMark? with
  | some k =>
    skip 1
    return (k, ← digit (← get).rest)
  | none =>
    let n ← digit (← get).rest
    match (← get).rest.head?.bind chompMark? with
    | some k => if n ≠ 0 then skip 1; return (k, n) else return (.clip, n)
    | none => return (.clip, n)

def blockScalar (literal : Bool) : Scan Text := do
  skip 1
  let (chomp, increment) ← blockHeader
  skipWhile isBlank
  if (← get).rest.head? == some '#' then skipWhile (!isBreak ·)
  if (← get).rest.head?.any (!isBreak ·) then throw .badBlockHeader
  let _ ← takeBreak
  let s ← get
  let given := if increment = 0 then 0 else (max s.indent 0).toNat + increment
  let (breaks, deepest) ← blockBreaks given (s.rest.length + 1) 0
  let indent := if given ≠ 0 then given else max (max deepest (s.indent + 1).toNat) 1
  let (body, leading, trailing) ←
    blockLines literal indent ((← get).rest.length + 1) [] breaks false
  match chomp with
  | .strip => return body
  | .clip => return body ++ leading
  | .keep => return body ++ leading ++ trailing

def isAnchorChar (c : Char) : Bool := c.isAlphanum || c == '_' || c == '-'

def anchorName : Scan Text := do
  skip 1
  let name ← takeWhile isAnchorChar
  let rest := (← get).rest
  let ended := atBlank rest || rest.head?.any fun c =>
    c == '?' || c == ':' || c == ',' || c == ']' || c == '\x7d' || c == '%' || c == '@'
      || c == '\x60'
  if name.isEmpty || !ended then throw .badAnchor
  return name

def isUriChar (c : Char) : Bool :=
  isAnchorChar c || [';', '/', '?', ':', '@', '&', '=', '+', '$', '.', '!', '~', '*', '\'', '(',
    ')', '%', '#'].contains c

def tagText : Scan Text := do
  skip 1
  let flow := (← get).flow != 0
  let t ←
    if (← get).rest.head? == some '<' then
      skip 1
      let uri ← takeWhile fun c => isUriChar c || c == ',' || c == '[' || c == ']'
      if (← get).rest.head? != some '>' then throw .badTag
      skip 1
      pure uri
    else do
      let name ← takeWhile isUriChar
      pure ('!' :: name)
  let rest := (← get).rest
  if !(atBlank rest || (flow && rest.head? == some ',')) then throw .badTag
  return t

def directive : Scan Unit := do
  skip 1
  let name ← takeWhile isAnchorChar
  if !(name == "YAML" || name == "TAG") then throw .badDirective
  skipWhile (!isBreak ·)

def startsPlain (flow : Bool) (c : Char) (t : Text) : Bool :=
  let indicators : Text := "-?:,[]\x7b\x7d#&*!|>'\"%@\x60"
  (c ∉ indicators && !isBlank c && !isBreak c)
    || (c == '-' && !t.head?.any isBlank)
    || (!flow && (c == '?' || c == ':') && !atBlank t)

def fetchValue : Scan Unit := do
  let s ← get
  match s.keys with
  | some k :: ks =>
    set { s with keys := none :: ks }
    insert k.tokenIndex .key
    roll k.column k.tokenIndex .blockMapping
    allowKey false
  | _ =>
    if s.flow = 0 then
      if !s.keyAllowed then throw .valueNotAllowed
      roll s.column s.tokens.size .blockMapping
    allowKey (s.flow = 0)
  skip 1
  push .value

def fetchIndicator (t : Token) : Scan Unit := do
  let s ← get
  if s.flow = 0 then
    if !s.keyAllowed then throw (if t = .entry then .entryNotAllowed else .keyNotAllowed)
    roll s.column s.tokens.size (if t = .entry then .blockSequence else .blockMapping)
  dropKey
  allowKey (t = .entry || s.flow = 0)
  skip 1
  push t

def fetchOpen (t : Token) : Scan Unit := do
  saveKey
  modify fun s => { s with flow := s.flow + 1, keys := none :: s.keys }
  allowKey true
  skip 1
  push t

def fetchClose (t : Token) : Scan Unit := do
  dropKey
  modify fun s =>
    if s.flow = 0 then s else { s with flow := s.flow - 1, keys := s.keys.drop 1 }
  allowKey false
  skip 1
  push t

/-- One token, and whether there may be more. -/
def fetch : Scan Bool := do
  skipLayout ((← get).rest.length + 1)
  dropStaleKeys
  unroll (← get).column
  let s ← get
  let flow := s.flow != 0
  match s.rest with
  | [] =>
    unroll (-1)
    dropKey
    return false
  | c :: t =>
    if s.column = 0 ∧ c = '%' then
      unroll (-1)
      dropKey
      allowKey false
      directive
    else if ← atDocumentMark then
      unroll (-1)
      dropKey
      allowKey false
      skip 3
      push (if c = '-' then .documentStart else .documentEnd)
    else match c with
      | '[' => fetchOpen .openSequence
      | '{' => fetchOpen .openMapping
      | ']' => fetchClose .closeSequence
      | '}' => fetchClose .closeMapping
      | ',' =>
        dropKey
        allowKey true
        skip 1
        push .separator
      | _ =>
        if c = '-' ∧ atBlank t then fetchIndicator .entry
        else if c = '?' ∧ (flow ∨ atBlank t) then fetchIndicator .key
        else if c = ':' ∧ (flow ∨ atBlank t) then fetchValue
        else if c = '*' ∨ c = '&' then
          saveKey
          allowKey false
          let name ← anchorName
          push (if c = '*' then .alias name else .anchor name)
        else if c = '!' then
          saveKey
          allowKey false
          let t ← tagText
          push (.tag t)
        else if (c = '|' ∨ c = '>') ∧ !flow then
          dropKey
          allowKey true
          let t ← blockScalar (c = '|')
          push (.scalar t false)
        else if c = '\'' ∨ c = '"' then
          saveKey
          allowKey false
          skip 1
          let t ← quoted c (s.rest.length + 1)
          push (.scalar t false)
        else if startsPlain flow c t then
          saveKey
          allowKey false
          let (t, broken) ← plain (s.rest.length + 1) {}
          -- a key may begin on the line that the scalar has led to
          if broken then allowKey true
          push (.scalar t true)
        else throw .badCharacter
    return true

def fetchAll : Nat → Scan Unit
  | 0 => return
  | fuel + 1 => do if ← fetch then fetchAll fuel

end Scan

def isAllowed (c : Char) : Bool :=
  c == '\t' || c == '\n' || c == '\r' || (' ' ≤ c && c ≤ '~') || c == '\u0085'
    || ('\u00a0' ≤ c && c != '\ufffe' && c != '\uffff')

def tokenize (t : Text) : Except Error (List Token) := do
  if !t.all isAllowed then throw .badCharacter
  let ((), s) ← (Scan.fetchAll (t.length + 2)).run { rest := t }
  return s.tokens.toList

end Copydesk.Data.Yaml
