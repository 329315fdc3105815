import Copydesk.Text.Basic

/-! Shell scripts as words and operators. -/

namespace Copydesk.Shell

inductive Part
  | literal (t : Text) (isQuoted : Bool)
  | parameter (name : Text) (isQuoted : Bool)
  deriving DecidableEq, Repr

abbrev Word := List Part

inductive Stream
  | input | output | errors
  deriving DecidableEq, Repr

inductive Target
  | stream (s : Stream)
  | file (name : Word)
  deriving DecidableEq, Repr

structure Redirect where
  source : Stream
  target : Target
  deriving DecidableEq, Repr

inductive Token
  | word (w : Word)
  | operator (t : Text)
  | newline
  | redirect (r : Redirect)
  deriving DecidableEq, Repr

inductive Fault
  | unterminated
  /-- What was met, and what was due. -/
  | unexpected (found : Text) (expected : Option Text)
  deriving DecidableEq, Repr

def Fault.message : Fault → Text
  | unterminated => "Syntax error: Unterminated quoted string"
  | unexpected found expected =>
    "Syntax error: ".toList ++ found ++ " unexpected".toList
      ++ ((expected.map fun e => " (expecting \"".toList ++ e ++ "\")".toList).getD [])

def isNameStart (c : Char) : Bool := c.isAlpha || c == '_'

def isName (t : Text) : Bool :=
  (t.head?.any isNameStart) && t.all fun c => c.isAlphanum || c == '_'

def endsWord (c : Char) : Bool := " \t\n;&|()<>".toList.any (· == c)

def readParameter? : Text → Option (Text × Text)
  | '{' :: cs =>
    let name := cs.takeWhile (· != '}')
    match cs.drop name.length with
    | _ :: rest => some (name, rest)
    | [] => none
  | c :: cs =>
    if isNameStart c then
      let more := cs.takeWhile fun c => c.isAlphanum || c == '_'
      some (c :: more, cs.drop more.length)
    else if c.isDigit || "?#@*$".toList.any (· == c) then some ([c], cs)
    else none
  | [] => none

def readQuoted : Nat → Text → Except Fault (Word × Text)
  | 0, _ | _, [] => .error .unterminated
  | _ + 1, '"' :: cs => .ok ([.literal [] true], cs)
  | n + 1, '\\' :: c :: cs => do
    let (w, rest) ← readQuoted n cs
    let t := if c = '\n' then [] else if "$\"\\\u0060".toList.any (· == c) then [c] else ['\\', c]
    return (.literal t true :: w, rest)
  | n + 1, '$' :: cs =>
    match readParameter? cs with
    | some (p, rest) => do
      let (w, rest) ← readQuoted n rest
      return (.parameter p true :: w, rest)
    | none => do
      let (w, rest) ← readQuoted n cs
      return (.literal ['$'] true :: w, rest)
  | n + 1, c :: cs => do
    let (w, rest) ← readQuoted n cs
    return (.literal [c] true :: w, rest)

def readWord : Nat → Text → Except Fault (Word × Text)
  | 0, cs => .ok ([], cs)
  | _, [] => .ok ([], [])
  | n + 1, '\'' :: cs => do
    let inner := cs.takeWhile (· != '\'')
    match cs.drop inner.length with
    | [] => throw .unterminated
    | _ :: rest =>
      let (w, rest) ← readWord n rest
      return (.literal inner true :: w, rest)
  | n + 1, '"' :: cs => do
    let (q, rest) ← readQuoted (cs.length + 1) cs
    let (w, rest) ← readWord n rest
    return (q ++ w, rest)
  | n + 1, '\\' :: c :: cs => do
    let (w, rest) ← readWord n cs
    return (if c = '\n' then w else .literal [c] true :: w, rest)
  | n + 1, '$' :: cs =>
    match readParameter? cs with
    | some (p, rest) => do
      let (w, rest) ← readWord n rest
      return (.parameter p false :: w, rest)
    | none => do
      let (w, rest) ← readWord n cs
      return (.literal ['$'] false :: w, rest)
  | n + 1, c :: cs =>
    if endsWord c then .ok ([], c :: cs)
    else do
      let (w, rest) ← readWord n cs
      return (.literal [c] false :: w, rest)

def streamOf? : Char → Option Stream
  | '0' => some .input
  | '1' => some .output
  | '2' => some .errors
  | _ => none

def readRedirect? (source : Option Stream) : Text → Option (Except Fault (Redirect × Text))
  | '>' :: '&' :: d :: rest => do
    let target ← streamOf? d
    return .ok (⟨source.getD .output, .stream target⟩, rest)
  | '>' :: '>' :: rest => some (fileTarget .output rest)
  | '>' :: rest => some (fileTarget .output rest)
  | '<' :: rest => some (fileTarget .input rest)
  | _ => none
where
  fileTarget (standard : Stream) (rest : Text) : Except Fault (Redirect × Text) := do
    let rest := rest.dropWhile (· == ' ')
    let (w, after) ← readWord (rest.length + 1) rest
    if w.isEmpty then throw (.unexpected "newline" none)
    return (⟨source.getD standard, .file w⟩, after)

def readOperator? : Text → Option (Text × Text)
  | '&' :: '&' :: rest => some (['&', '&'], rest)
  | '|' :: '|' :: rest => some (['|', '|'], rest)
  | ';' :: ';' :: rest => some ([';', ';'], rest)
  | c :: rest => if ";&|()".toList.any (· == c) then some ([c], rest) else none
  | [] => none

def startRedirect? : Text → Option (Except Fault (Redirect × Text))
  | c :: cs =>
    match streamOf? c with
    | some s => readRedirect? (some s) cs
    | none => readRedirect? none (c :: cs)
  | [] => none

def tokensFrom : Nat → Text → Except Fault (List Token)
  | 0, _ | _, [] => .ok []
  | n + 1, '\\' :: '\n' :: cs => tokensFrom n cs
  | n + 1, '\n' :: cs => return .newline :: (← tokensFrom n cs)
  | n + 1, '#' :: cs => tokensFrom n (cs.dropWhile (· != '\n'))
  | n + 1, c :: cs =>
    if c = ' ' ∨ c = '\t' then tokensFrom n cs
    else match startRedirect? (c :: cs) with
      | some r => do
        let (r, rest) ← r
        return .redirect r :: (← tokensFrom n rest)
      | none => match readOperator? (c :: cs) with
        | some (o, rest) => return .operator o :: (← tokensFrom n rest)
        | none => do
          let (w, rest) ← readWord (cs.length + 2) (c :: cs)
          return .word w :: (← tokensFrom n rest)

def tokens (script : Text) : Except Fault (List Token) := tokensFrom (script.length + 1) script

def Word.bare? : Word → Option Text
  | [] => some []
  | .literal t false :: w => (bare? w).map (t ++ ·)
  | _ => none

def Word.assignment? (w : Word) : Option (Text × Word) :=
  let name := w.takeWhile fun p => match p with
    | .literal t false => t != ['=']
    | _ => false
  match Word.bare? name, w.drop name.length with
  | some n, .literal ['='] false :: value => if isName n then some (n, value) else none
  | _, _ => none

end Copydesk.Shell
