import Copydesk.Alert
import Copydesk.Rule.Capitalization
import Copydesk.Rule.Counting
import Copydesk.Rule.Substitution

/-! Rules ready to run: definitions whose patterns have been compiled. -/

namespace Copydesk

/-- Language services for the rules that need them: the alerts on a block, or why there are none. -/
abbrev Service := Rule.Definition → Block → Except LintError (List Alert)

/-- Language services that see no more than the text of a block and never fail. -/
abbrev Provider := Rule.Definition → Text → List Alert

def Provider.service (p : Provider) : Service := fun d b => .ok (p d b.text)

instance : CoeOut (Option Provider) (Option Service) := ⟨Option.map Provider.service⟩

namespace Rule

inductive Compiled
  | existence (e : Existence) (r : Regex)
  | substitution (s : Substitution) (r : Regex)
  | occurrence (o : Occurrence) (r : Regex)
  | repetition (rep : Repetition) (r : Regex)
  | capitalization (c : Capitalization) (style : CaseStyle)
  | delegated
  deriving DecidableEq, Repr

structure Check where
  definition : Definition
  compiled : Compiled
  deriving DecidableEq, Repr

def Definition.caseStyle (d : Definition) (pattern : Text) : Except RuleError CaseStyle :=
  match String.ofList pattern with
  | "" => .error (d.lacks "match")
  | "$title" => .ok .title
  | "$sentence" => .ok .sentence
  | "$lower" => .ok .lower
  | "$upper" => .ok .upper
  | _ => (d.regex pattern false).map .pattern

namespace Check

def compileKind (d : Definition) : Except RuleError Compiled := do
  match d.kind with
  | .existence e =>
    if e.raw.isEmpty && e.tokens.isEmpty then throw (d.lacks "tokens")
    return .existence e (← d.regex e.pattern e.ignoreCase)
  | .substitution s =>
    if s.swap.isEmpty then throw (d.lacks "swap")
    return .substitution s (← d.regex s.pattern s.ignoreCase)
  | .occurrence o =>
    if o.token.isEmpty then throw (d.lacks "token")
    if o.max.isNone && o.min.isNone then throw (d.lacks "max' or 'min")
    return .occurrence o (← d.regex o.token o.ignoreCase)
  | .repetition r => return .repetition r (← d.regex r.pattern r.ignoreCase)
  | .capitalization c => return .capitalization c (← d.caseStyle c.pattern)
  | .delegated => return .delegated

def compile (d : Definition) : Except RuleError Check := do
  return ⟨d, ← compileKind d⟩

/-- Alerts on a text, placed in that text. Delegated rules have none without a provider. -/
def run (provider : Option Provider) (c : Check) (t : Text) : List Alert :=
  match c.compiled with
  | .existence e r => e.run c.definition r t
  | .substitution s r => s.run c.definition r t
  | .occurrence o r => o.run c.definition r t
  | .repetition rep r => rep.run c.definition r t
  | .capitalization cap style => cap.run c.definition style t
  | .delegated => match provider with
    | some p => p c.definition t
    | none => []

/-- Alerts on a block, placed in its text. Only services look at more of it than the text. -/
def runOn (service : Option Service) (c : Check) (b : Block) : Except LintError (List Alert) :=
  match c.compiled, service with
  | .delegated, some s => s c.definition b
  | _, _ => .ok (c.run none b.text)

theorem runOn_provider (provider : Option Provider) (c : Check) (b : Block) :
    c.runOn provider b = .ok (c.run provider b.text) := by
  unfold runOn run
  cases c.compiled <;> cases provider <;> rfl

end Check

end Rule

end Copydesk
