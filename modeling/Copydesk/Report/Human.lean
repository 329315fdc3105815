import Copydesk.Report.Basic

/-! Reports for people: a table of alerts for each file, the failures and a summary. -/

namespace Copydesk.Report

inductive Color
  | red | green | yellow | blue
  deriving DecidableEq, Repr

structure Style where
  bold : Bool := false
  dimmed : Bool := false
  underline : Bool := false
  color : Option Color := none
  deriving DecidableEq, Repr

structure Piece where
  text : Text
  style : Option Style := none
  deriving DecidableEq, Repr

def Color.code : Color → Nat
  | red => 31
  | green => 32
  | yellow => 33
  | blue => 34

def displayCode (n : Nat) : Text := '\x1b' :: '[' :: Text.ofNat n ++ ['m']

def Style.codes (s : Style) : List Nat :=
  [0] ++ (if s.bold then [1] else []) ++ (if s.dimmed then [2] else [])
    ++ (if s.underline then [4] else []) ++ (s.color.map Color.code).toList

def Piece.colored (p : Piece) : Text :=
  match p.style with
  | none => p.text
  | some s => s.codes.flatMap displayCode ++ p.text ++ displayCode 0

def levelColor : Level → Color
  | .error => .red
  | .warning => .yellow
  | .suggestion => .blue

def plural (n : Nat) (word : Text) : Text :=
  Text.ofNat n ++ ' ' :: word ++ (if n = 1 then [] else ['s'])

def padEnd (width : Nat) (t : Text) : Text := t ++ List.replicate (width - t.length) ' '

def plain (t : Text) : Piece := ⟨t, none⟩

def styled (s : Style) (t : Text) : Piece := ⟨t, some s⟩

def alertPieces (width : Nat) (a : Alert) : List Piece :=
  [plain (' ' :: padEnd 7 (Text.ofNat a.line ++ ':' :: Text.ofNat a.span.start)),
    styled { color := some (levelColor a.level) } (padEnd 12 a.level.name),
    plain (padEnd width a.message ++ [' ', ' ']),
    styled { dimmed := true } a.check,
    plain ['\n']]

/-- A heading with the path and a line for each alert; nothing without alerts. -/
def filePieces (f : FileResult) : List Piece :=
  if f.alerts.isEmpty then []
  else
    let width := (f.alerts.map fun a => a.message.length).foldl Nat.max 0
    [styled { bold := true, underline := true } (' ' :: f.path), plain ['\n']]
      ++ f.alerts.flatMap (alertPieces width) ++ [plain ['\n']]

def failurePieces (path : Text) (e : LintError) : List Piece :=
  [styled { bold := true, color := some .red } "error",
    plain (": ".toList ++ path ++ ": ".toList ++ e.message ++ ['\n'])]

def summary (r : Report) : Text :=
  plural (r.count .error) "error" ++ ", ".toList ++ plural (r.count .warning) "warning"
    ++ " and ".toList ++ plural (r.count .suggestion) "suggestion" ++ " in ".toList
    ++ plural r.files.length "file" ++ ['.']

def pieces (r : Report) : List Piece :=
  r.files.flatMap filePieces ++ r.failures.flatMap (fun (p, e) => failurePieces p e)
    ++ [if r.hasErrors then styled { color := some .red } "✖ "
        else styled { color := some .green } "✔ ",
      plain (r.summary ++ ['\n'])]

def toText (r : Report) : Text := r.pieces.flatMap Piece.text

def toColoredText (r : Report) : Text := r.pieces.flatMap Piece.colored

end Copydesk.Report
