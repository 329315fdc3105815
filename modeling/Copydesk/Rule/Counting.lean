import Copydesk.Rule.Pattern

/-! Rules about how often tokens occur: at all, too often or too rarely, and twice in a row. -/

namespace Copydesk.Rule

namespace Existence

def pattern (e : Existence) : Text :=
  if e.raw.isEmpty then wordBounded (Text.join ['|'] e.tokens) e.nonword else e.raw.flatten

def run (e : Existence) (d : Definition) (r : Regex) (t : Text) : List Alert :=
  ((r.findAll t).filter fun m =>
      !m.isEmpty && !isException e.exceptions e.ignoreCase (m.text t)).map
    fun m => d.alert t m.start m.stop [m.text t]

end Existence

namespace Occurrence

/-- The first line of a text from its first character that is no blank: a byte range. -/
def opening (t : Text) : Nat × Nat :=
  let t := Text.trimEnd t
  let start := Text.size t - Text.size (Text.trimStart t)
  -- a newline among the leading blanks must not end the range before it begins
  (start, Nat.max ((Text.find? ['\n'] t).getD (Text.size t)) start)

def run (o : Occurrence) (d : Definition) (r : Regex) (t : Text) : List Alert :=
  let found := (r.findAll t).filter (!·.isEmpty)
  let count := Text.ofNat found.length
  match o.max.bind fun n => found[n]? with
  | some excess => [d.alert t excess.start excess.stop [count]]
  | none =>
    let (start, stop) := opening t
    if o.min.any (found.length < ·) && start < stop then [d.alert t start stop [count]] else []

end Occurrence

namespace Repetition

def anyToken : Text := "[^\\s]+"

def pattern (r : Repetition) : Text :=
  if r.tokens.isEmpty then anyToken else Text.join ['|'] r.tokens

def same (r : Repetition) (a b : Text) : Bool :=
  if r.ignoreCase then Text.toLower a == Text.toLower b else a == b

def repeats (r : Repetition) (t : Text) (previous m : Regex.Match) : Bool :=
  r.same (previous.text t) (m.text t) && Text.isBlank (Text.slice t previous.stop m.start)
    && !r.exceptions.any fun e => r.same e (m.text t)

/-- The pairs of a match and its repetition; a match takes part in one pair at most. -/
def pairs (r : Repetition) (t : Text) :
    Option Regex.Match → List Regex.Match → List (Regex.Match × Regex.Match)
  | _, [] => []
  | previous, m :: ms =>
    -- what is no word parts the words around it
    if r.alpha && !(m.text t).all Text.isAlphabetic then pairs r t none ms
    else match previous with
      | some p => if r.repeats t p m then (p, m) :: pairs r t none ms else pairs r t (some m) ms
      | none => pairs r t (some m) ms

def run (r : Repetition) (d : Definition) (re : Regex) (t : Text) : List Alert :=
  (r.pairs t none (re.findAll t)).map fun (p, m) => d.alert t p.start m.stop [m.text t]

end Repetition

end Copydesk.Rule
