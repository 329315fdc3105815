import Copydesk.Report.JsonLines
import Copydesk.Rule.Definition

/-! Listings of rules. -/

namespace Copydesk.Rule

/-- Where a rule comes from. -/
def Definition.source (d : Definition) : Text := if d.path.isSome then "style" else "builtin"

def Definition.scopeTexts (d : Definition) : List Text := d.scope.selectors.map ScopeSelector.raw

def listingEntry (d : Definition) : Text :=
  d.name ++ " (".toList ++ d.source ++ ")\n".toList
    ++ "  Extends: ".toList ++ d.checkType ++ ['\n']
    ++ "  Level: ".toList ++ d.level.name ++ ['\n']
    ++ "  Scope: ".toList ++ Text.join ", " d.scopeTexts ++ ['\n']
    ++ (if d.message.isEmpty then [] else "  Message: ".toList ++ d.message ++ ['\n'])
    ++ ['\n']

def listing (ds : List Definition) : Text :=
  "Rules (".toList ++ Text.ofNat ds.length ++ " active):\n\n".toList ++ ds.flatMap listingEntry

def jsonListing (ds : List Definition) : Text :=
  jsonLines (ds.map fun d => jsonObject [("name", .str d.name), ("extends", .str d.checkType),
    ("level", .str d.level.name), ("scope", .list (d.scopeTexts.map .str)),
    ("source", .str d.source), ("message", .str d.message)])

end Copydesk.Rule
