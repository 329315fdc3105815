import Copydesk.Tool.Shell.State

/-! The commands that a shell has of its own. -/

namespace Copydesk.Shell

def isOctal (c : Char) : Bool := '0' ≤ c && c ≤ '7'

def escapeOf? : Char → Option Char
  | 'n' => some '\n'
  | 't' => some '\t'
  | 'r' => some '\r'
  | 'a' => some '\x07'
  | 'b' => some '\x08'
  | 'f' => some '\x0c'
  | 'v' => some '\x0b'
  | '\\' => some '\\'
  | _ => none

/-- Replaces escapes; whether `\c` ended the output comes with it. -/
def unescape : Nat → Text → Text × Bool
  | 0, _ | _, [] => ([], false)
  | _ + 1, '\\' :: 'c' :: _ => ([], true)
  | n + 1, '\\' :: c :: cs =>
    match escapeOf? c with
    | some e => let (t, ended) := unescape n cs; (e :: t, ended)
    | none =>
      if isOctal c then
        let digits := ((if c = '0' then cs else c :: cs).take 3).takeWhile isOctal
        let code := digits.foldl (fun v d => 8 * v + (d.toNat - '0'.toNat)) 0
        let used := if c = '0' then digits.length else digits.length - 1
        let (t, ended) := unescape n (cs.drop used)
        (Char.ofNat (code % 256) :: t, ended)
      else let (t, ended) := unescape n cs; ('\\' :: c :: t, ended)
  | n + 1, c :: cs => let (t, ended) := unescape n cs; (c :: t, ended)

def unescaped (t : Text) : Text × Bool := unescape (t.length + 1) t

def echo (args : List Text) (s : State) : State :=
  let (open', args) := match args with
    | ['-', 'n'] :: args => (true, args)
    | args => (false, args)
  let (t, ended) := unescaped (Text.join [' '] args)
  (s.print (if open' || ended then t else t ++ ['\n'])).finish 0

def pad (flags : Text) (width : Nat) (t : Text) : Text :=
  let fill (c : Char) : Text := List.replicate (width - t.length) c
  if flags.any (· == '-') then t ++ fill ' '
  else if flags.any (· == '0') then fill '0' ++ t
  else fill ' ' ++ t

/-- One pass through a format: the output, the arguments left, and whether any was asked for. -/
def formatOnce : Nat → Text → List Text → Text × List Text × Bool
  | 0, _, args | _, [], args => ([], args, false)
  | n + 1, '%' :: '%' :: cs, args => let (t, r) := formatOnce n cs args; ('%' :: t, r)
  | n + 1, '%' :: cs, args =>
    let flags := cs.takeWhile fun c => c == '-' || c == '0'
    let width := (cs.drop flags.length).takeWhile Char.isDigit
    let rest := (cs.drop flags.length).drop width.length
    let arg := args.head?.getD []
    let converted := match rest.head? with
      | some 's' => arg
      | some 'b' => (unescaped arg).1
      | some 'c' => arg.take 1
      | _ => if arg.isEmpty then ['0'] else arg
    let (t, left, _) := formatOnce n (rest.drop 1) (args.drop 1)
    (pad flags ((Text.toNat? width).getD 0) converted ++ t, left, true)
  | n + 1, c :: cs, args => let (t, r) := formatOnce n cs args; (c :: t, r)

def formatAll (format : Text) : Nat → List Text → Text
  | 0, _ => []
  | n + 1, args =>
    let (t, left, asked) := formatOnce (format.length + 1) format args
    if left.isEmpty || !asked then t else t ++ formatAll format n left

def printf (args : List Text) (s : State) : State :=
  match args with
  | [] => s.complain 2 "printf: usage: printf format [arg ...]"
  | format :: args => (s.print (formatAll (unescaped format).1 (args.length + 1) args)).finish 0

/-- A line with marks on the characters that a backslash quotes, whether it is complete, and the
text after it. -/
def readLine (raw : Bool) : Text → List (Char × Bool) × Bool × Text
  | [] => ([], false, [])
  | '\n' :: cs => ([], true, cs)
  | '\\' :: c :: cs =>
    if raw then let (l, r) := readLine raw (c :: cs); (('\\', false) :: l, r)
    else
      let (l, r) := readLine raw cs
      (if c = '\n' then l else (c, true) :: l, r)
  | c :: cs => let (l, r) := readLine raw cs; ((c, false) :: l, r)

/-- A line's fields, as many as there are names; the last takes all that is left. -/
def fieldsOf (isSeparator : Char × Bool → Bool) : Nat → List (Char × Bool) → List Text
  | 0, _ => []
  | 1, l =>
    [(((l.dropWhile isSeparator).reverse.dropWhile isSeparator).reverse).map (·.1)]
  | n + 1, l =>
    let l := l.dropWhile isSeparator
    (l.takeWhile (!isSeparator ·)).map (·.1)
      :: fieldsOf isSeparator n (l.dropWhile (!isSeparator ·))

def read (args : List Text) (s : State) : State :=
  let (raw, names) := match args with
    | ['-', 'r'] :: names => (true, names)
    | names => (false, names)
  if names.isEmpty then s.complain 2 "read: arg count"
  else
    let (line, complete, rest) := readLine raw s.input
    let isSeparator (c : Char × Bool) : Bool := !c.2 && s.separators.any (· == c.1)
    let s := { s with input := rest, status := if complete then 0 else 1 }
    (names.zip (fieldsOf isSeparator names.length line)).foldl (fun s (n, v) => s.set n v) s

def exit (args : List Text) (s : State) : State :=
  match args with
  | [] => s.exit
  | n :: _ => match Text.toNat? n with
    | some n => (s.finish (n % 256)).exit
    | none => (s.complain 2 ("exit: Illegal number: ".toList ++ n)).exit

def toInt? (t : Text) : Option Int :=
  match t with
  | '-' :: t => (Text.toNat? t).map fun n => -(n : Int)
  | t => (Text.toNat? t).map fun n => (n : Int)

/-- Whether a condition holds, or what is wrong with it. -/
def holds : List Text → Except Text Bool
  | [] => .ok false
  | [t] => .ok (!t.isEmpty)
  | [['!'], t] => .ok t.isEmpty
  | [op, t] =>
    match String.ofList op with
    | "-n" => .ok (!t.isEmpty)
    | "-z" => .ok t.isEmpty
    | "-e" | "-f" | "-d" | "-r" | "-x" | "-s" => .ok false
    | _ => .error (op ++ ": unexpected operator".toList)
  | ['!'] :: rest => (holds rest).map (!·)
  | [a, op, b] =>
    match String.ofList op with
    | "=" => .ok (a == b)
    | "!=" => .ok (a != b)
    | "-eq" => compare a b (fun x y => decide (x = y))
    | "-ne" => compare a b (fun x y => decide (x ≠ y))
    | "-lt" => compare a b (fun x y => decide (x < y))
    | "-le" => compare a b (fun x y => decide (x ≤ y))
    | "-gt" => compare a b (fun x y => decide (x > y))
    | "-ge" => compare a b (fun x y => decide (x ≥ y))
    | _ => .error (op ++ ": unexpected operator".toList)
  | a :: _ => .error (a ++ ": unexpected operator".toList)
where
  compare (a b : Text) (f : Int → Int → Bool) : Except Text Bool :=
    match toInt? a, toInt? b with
    | some x, some y => .ok (f x y)
    | none, _ => .error ("Illegal number: ".toList ++ a)
    | _, none => .error ("Illegal number: ".toList ++ b)

def test (name : Text) (args : List Text) (s : State) : State :=
  match holds args with
  | .ok b => s.finish (if b then 0 else 1)
  | .error m => s.complain 2 (name ++ ": ".toList ++ m)

def bracket (args : List Text) (s : State) : State :=
  if args.getLast? = some [']'] then test ['['] args.dropLast s
  else s.complain 2 "[: missing ]"

def shift (s : State) : State :=
  if s.arguments.isEmpty then (s.complain 2 "shift: can't shift that many").exit
  else { s with arguments := s.arguments.drop 1, status := 0 }

def builtin? (name : Text) : Option (List Text → State → State) :=
  match String.ofList name with
  | "echo" => some echo
  | "printf" => some printf
  | "read" => some read
  | "exit" => some exit
  | "test" => some (test name)
  | "[" => some bracket
  | "shift" => some fun _ => shift
  | ":" | "true" => some fun _ s => s.finish 0
  | "false" => some fun _ s => s.finish 1
  | _ => none

end Copydesk.Shell
