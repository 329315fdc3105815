import Copydesk.Comment.Basic
import Copydesk.Regex.Basic

/-! Comments found line by line, for languages known by their delimiters alone. -/

namespace Copydesk.Comment

structure Syntax where
  /-- A comment within one line; its first group that takes part is the comment. -/
  single : Regex
  /-- Where a comment over several lines begins. -/
  start : Option Regex
  stop : Option Regex
  delims : Regex

namespace Syntax

def ofStrings (single : String) (block : Option (String × String)) (delims : String) : Syntax :=
  ⟨.ofString single, block.map fun b => .ofString b.1, block.map fun b => .ofString b.2,
    .ofString delims⟩

def slashes : Syntax :=
  ofStrings "(?:^|\\s)(//.+)|(/\\*.+\\*/)" (some ("/\\*", "\\*/")) "/\x7b2,3\x7d!?|/\\*\\*?|\\*/"

def hashes : Syntax := ofStrings "(?:^|\\s)(#.+)" none "#+"

def dashes : Syntax := ofStrings "(?:^|\\s)(--.+)" none "--"

def hashesAndQuotes : Syntax :=
  ofStrings "(?:^|\\s)(#.+)" (some ("^\\s*(?:\"\"\"|''')", "(?:\"\"\"|''')")) "#+|\"\"\"|'''"

def hashesAndBegin : Syntax :=
  ofStrings "(?:^|\\s)(#.+)" (some ("^=begin", "^=end")) "#+|^=begin|^=end"

def dashesAndBrackets : Syntax :=
  ofStrings "(?:^|\\s)(--[^\\[].*)" (some ("--\\[\\[", "\\]\\]")) "--(?:\\[\\[)?|\\]\\]"

def stars : Syntax := ofStrings "(/\\*.+\\*/)" (some ("/\\*", "\\*/")) "/\\*|\\*/"

/-- The delimiters of a normalized extension. -/
def ofExtension? (ext : Text) : Option Syntax :=
  match String.ofList (ext.dropWhile (· == '.')) with
  | "c" | "cpp" | "cs" | "java" | "js" | "ts" | "tsx" | "go" | "rs" | "swift" | "kt" | "scala"
  | "php" | "dart" | "proto" => some slashes
  | "sh" | "bash" | "pl" | "r" | "jl" | "ps1" | "coffee" | "ex" | "nim" | "cmake" => some hashes
  | "sql" | "hs" | "ada" => some dashes
  | "py" => some hashesAndQuotes
  | "rb" => some hashesAndBegin
  | "lua" => some dashesAndBrackets
  | "css" | "less" | "scss" => some stars
  | _ => none

/-- A configured pair of delimiters. -/
def ofDelimiters? (start stop : Text) : Option Syntax :=
  let (s, e) := (Regex.escape start, Regex.escape stop)
  match Regex.compile ('(' :: s ++ ['.', '+'] ++ e ++ [')']), Regex.compile s, Regex.compile e,
      Regex.compile (s ++ '|' :: e) with
  | .ok single, .ok s, .ok e, .ok delims => some ⟨single, some s, some e, delims⟩
  | _, _, _, _ => none

end Syntax

def scanned (syn : Syntax) (raw : Text) (line offset : Nat) : Comment :=
  { text := Text.trimEnd (trimSpaces (syn.delims.replaceAll raw fun _ => []))
    source := raw, line, offset, scope := "text.comment.line" }

def scannedBlock (syn : Syntax) (raw : Text) (line offset : Nat) : Comment :=
  let text := trimSpaces (syn.delims.replaceAll raw fun _ => [])
  { text := Text.join ['\n']
      ((Text.splitOn '\n' text).map fun l => l.dropWhile fun c => c == ' ' || c == '*')
    source := raw, line, offset, scope := "text.comment.block" }

structure OpenBlock where
  line : Nat
  offset : Nat
  lines : List Text

inductive LineFind
  | comment (c : Comment)
  | opens (b : OpenBlock)
  | nothing

def firstGroup? (m : Regex.Match) (groups : Nat) : Option (Nat × Nat) :=
  (List.range groups).findSome? fun i => m.group? (i + 1)

def inlineComment? (syn : Syntax) (l : Text) (line : Nat) : Option Comment := do
  let m ← syn.single.find? l
  let (a, b) ← firstGroup? m syn.single.groups
  return scanned syn (Text.slice l a b) line (Text.before l a).length

def endsBlock? (syn : Syntax) (l : Text) : Option Regex.Match := syn.stop.bind (·.find? l)

def blockComment (syn : Syntax) (l : Text) (line : Nat) (skipping : Bool) : LineFind :=
  match syn.start.bind (·.find? l), skipping with
  | some m, false =>
    let offset := (Text.before l m.start).length
    let rest := Text.after l m.start
    let opener := m.stop - m.start
    -- where both delimiters are the same, the opening one does not close
    match endsBlock? syn (Text.after rest opener) with
    | some e => .comment (scanned syn (Text.before rest (opener + e.stop)) line offset)
    | none => .opens ⟨line, offset, [rest]⟩
  | _, _ => .nothing

/-- A closing delimiter without an opening one makes the next opening ones be passed over, up to
another such delimiter. -/
def scanFrom (syn : Syntax) : Nat → Option OpenBlock → Bool → List Text → List Comment
  | _, _, _, [] => []
  | line, some b, skipping, l :: ls => match endsBlock? syn l with
    | some e =>
      let raw := Text.join ['\n'] (Text.before l e.stop :: b.lines).reverse
      scannedBlock syn raw b.line b.offset :: scanFrom syn (line + 1) none skipping ls
    | none => scanFrom syn (line + 1) (some { b with lines := l :: b.lines }) skipping ls
  | line, none, skipping, l :: ls => match inlineComment? syn l line with
    | some c => c :: scanFrom syn (line + 1) none skipping ls
    | none => match blockComment syn l line skipping with
      | .comment c => c :: scanFrom syn (line + 1) none skipping ls
      | .opens b => scanFrom syn (line + 1) (some b) skipping ls
      | .nothing =>
        scanFrom syn (line + 1) none (skipping != (endsBlock? syn l).isSome) ls

def scan (syn : Syntax) (source : Text) : List Comment :=
  scanFrom syn 1 none false (Text.lines source)

end Copydesk.Comment
