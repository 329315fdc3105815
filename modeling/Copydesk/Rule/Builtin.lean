import Copydesk.Rule.Definition
import Copydesk.Text.Classes

/-! The style that needs no files: repetition, spelling and a vocabulary. -/

namespace Copydesk.Rule.Builtin

def style : Text := "Vellum"

def ruleName (rule : Text) : Text := style ++ '.' :: rule

def anyText : ScopeSet := ⟨[ScopeSelector.ofText "text"]⟩

def repetition : Definition where
  name := ruleName "Repetition"
  checkType := "repetition"
  level := .error
  scope := anyText
  message := "'%s' is repeated!"
  kind := .repetition { tokens := ["[^\\s]+"], alpha := true, ignoreCase := true }

def spelling : Definition where
  name := ruleName "Spelling"
  checkType := "spelling"
  level := .error
  scope := anyText
  message := "Did you really mean '%s'?"
  kind := .delegated

def base : List Definition := [repetition, spelling]

/-- The accepted spelling of each term, by its lower-cased form; of several the last. -/
def spellings (accepted : List Text) : List (Text × Text) :=
  (accepted.foldl (fun m t => Data.put (Text.toLower t) t m) []).mergeSort
    fun a b => Text.le a.1 b.1

/-- Suggests the accepted spelling of each term. -/
def terms? (accepted : List Text) : Option Definition :=
  if accepted.isEmpty then none
  else some {
    name := ruleName "Terms"
    checkType := "substitution"
    level := .error
    scope := anyText
    message := "Use '%s' instead of '%s'."
    kind := .substitution { swap := spellings accepted, ignoreCase := true } }

def avoid? (rejected : List Text) : Option Definition :=
  if rejected.isEmpty then none
  else some {
    name := ruleName "Avoid"
    checkType := "existence"
    level := .error
    scope := anyText
    message := "Avoid using '%s'."
    kind := .existence { tokens := rejected } }

end Copydesk.Rule.Builtin
