import Copydesk.Text.Basic

/-! Character references: the named ones met in rendered output, and numeric ones. -/

namespace Copydesk.Html

def namedEntity? (name : Text) : Option Char :=
  match String.ofList name with
  | "amp" => some '&'
  | "lt" => some '<'
  | "gt" => some '>'
  | "quot" => some '"'
  | "apos" => some '\''
  | "nbsp" => some ' '
  | "rsquo" => some '\u2019'
  | "lsquo" => some '\u2018'
  | "rdquo" => some '\u201d'
  | "ldquo" => some '\u201c'
  | "mdash" => some '\u2014'
  | "ndash" => some '\u2013'
  | "hellip" => some '\u2026'
  | "copy" => some '\u00a9'
  | _ => none

def scalar? (n : Nat) : Option Char :=
  if h : n.isValidChar then some (Char.ofNatAux n h) else none

def digit? (base : Nat) (c : Char) : Option Nat :=
  let d :=
    if c.isDigit then c.toNat - '0'.toNat
    else if 'a' ≤ c ∧ c ≤ 'f' then c.toNat - 'a'.toNat + 10
    else if 'A' ≤ c ∧ c ≤ 'F' then c.toNat - 'A'.toNat + 10
    else base
  if d < base then some d else none

def number? (base : Nat) (t : Text) : Option Nat := do
  let t := (Text.afterPrefix? ['+'] t).getD t
  if t.isEmpty then none
  let ds ← t.mapM (digit? base)
  return ds.foldl (fun n d => base * n + d) 0

def entity? (name : Text) : Option Char :=
  (namedEntity? name).or <| match name with
    | '#' :: 'x' :: hex => (number? 16 hex).bind scalar?
    | '#' :: 'X' :: hex => (number? 16 hex).bind scalar?
    | '#' :: digits => (number? 10 digits).bind scalar?
    | _ => none

/-- The longest reference, in bytes from the ampersand up to the semicolon. -/
def entityLimit : Nat := 10

def leadingEntity? (t : Text) : Option (Char × Text) := do
  let stop ← Text.find? [';'] t
  if entityLimit < stop then none
  let c ← entity? ((Text.before t stop).drop 1)
  return (c, Text.after t (stop + 1))

def decodeFrom : Nat → Text → Text
  | 0, t => t
  | _, [] => []
  | fuel + 1, c :: t =>
    if c = '&' then
      match leadingEntity? (c :: t) with
      | some (d, rest) => d :: decodeFrom fuel rest
      | none => c :: decodeFrom fuel t
    else c :: decodeFrom fuel t

/-- Replaces the references that are known; other ampersands stand for themselves. -/
def decodeEntities (t : Text) : Text := decodeFrom t.length t

/-- Writes the characters that would begin a tag or a reference as references. -/
def escape (t : Text) : Text :=
  t.flatMap fun c => match c with
    | '&' => "&amp;".toList
    | '<' => "&lt;".toList
    | '>' => "&gt;".toList
    | c => [c]

end Copydesk.Html
