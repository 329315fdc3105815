import Copydesk.Config.Basic
import Copydesk.Rule.Definition

/-! Styles: folders of rule files on the style paths. -/

namespace Copydesk.Rule

namespace Definition

/-- Reads a rule file; the rule is named after the file and its folder. -/
def load (files : FileTree) (path : Text) : Except RuleError Definition :=
  match nameOfPath? path with
  | none => .error (invalid path .misplaced)
  | some name => match files.read path with
    | .error f => .error (invalid name (.unreadable path f.message))
    | .ok source => (ofText name source).map fun d => { d with path := some path }

end Definition

namespace Style

def isRuleFile (name : Text) : Bool :=
  match Path.extension? name with
  | some e => e == "yml".toList || e == "yaml".toList
  | none => false

def ruleFiles (files : FileTree) (folder : Text) : List Text :=
  match files.entriesAt folder with
  | .error _ => []
  | .ok entries =>
    (entries.filter fun (name, node) => node.isFile && isRuleFile name).map
      fun e => Path.join folder e.1

def folders (c : Config) (files : FileTree) (style : Text) : List Text :=
  (c.stylePaths.map fun p => Path.join p style).filter files.holdsFolder

def load (c : Config) (files : FileTree) (style : Text) : Except RunError (List Definition) := do
  match folders c files style with
  | [] => throw (.config (.missingStyle style (Text.join ", " c.stylePaths)))
  | dirs =>
    (dirs.flatMap (ruleFiles files)).mapM fun path =>
      (Definition.load files path).mapError RunError.rule

def ruleFile? (c : Config) (files : FileTree) (style rule : Text) : Option Text :=
  let candidates := c.stylePaths.flatMap fun p =>
    ([".yml", ".yaml"] : List String).map fun e => Path.join (Path.join p style) (rule ++ e.toList)
  candidates.find? files.holdsFile

end Style

end Copydesk.Rule
