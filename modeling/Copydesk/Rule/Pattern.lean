import Copydesk.Alert
import Copydesk.Regex.Basic
import Copydesk.Rule.Definition

/-! What the kinds of rules share: messages, alerts and patterns. -/

namespace Copydesk.Rule

def fillFrom : Nat → Text → List Text → Text
  | 0, t, _ => t
  | _, [], _ => []
  | fuel + 1, '%' :: 's' :: t, args => args.head?.getD [] ++ fillFrom fuel t args.tail
  | fuel + 1, c :: t, args => c :: fillFrom fuel t args

/-- Replaces each `%s` by the next argument, and by nothing when there is none left. -/
def formatMessage (template : Text) (args : List Text) : Text :=
  fillFrom template.length template args

namespace Definition

/-- An alert of the rule on a byte range of a text. -/
def alert (d : Definition) (t : Text) (start stop : Nat) (args : List Text) : Alert :=
  { Alert.located ⟨d.name, d.level, formatMessage d.message args, [], [], 1, ⟨1, 1⟩, []⟩ t start
      stop
      with description := d.description, link := d.link }

def regex (d : Definition) (pattern : Text) (ignoreCase : Bool) : Except RuleError Regex :=
  match (if ignoreCase then Regex.compileIgnoringCase pattern else Regex.compile pattern) with
  | .ok r => .ok r
  | .error e => .error (.invalidRegex d.name e.message)

def lacks (d : Definition) (field : Text) : RuleError := invalid d.name (.missing field)

end Definition

/-- The alternatives as whole words, or anywhere. -/
def wordBounded (alternatives : Text) (nonword : Bool) : Text :=
  if nonword then "(?:".toList ++ alternatives ++ ")".toList
  else "\\b(?:".toList ++ alternatives ++ ")\\b".toList

/-- Whether a match equals one of the exceptions, up to ASCII case if case is ignored. -/
def isException (exceptions : List Text) (ignoreCase : Bool) (matched : Text) : Bool :=
  exceptions.any fun e => if ignoreCase then Text.eqIgnoreAsciiCase e matched else e == matched

end Copydesk.Rule
