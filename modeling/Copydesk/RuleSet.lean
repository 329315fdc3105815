import Copydesk.Filter.Basic
import Copydesk.Rule.Builtin
import Copydesk.Rule.Check
import Copydesk.Rule.Style

/-! The rules of a run: those the configuration asks for, less those it disables and the filter
rejects. -/

namespace Copydesk

/-- Rules by name, as they are collected. -/
abbrev RuleSet.Draft := List (Text × Rule.Definition)

structure RuleSet where
  /-- In the order of their names. -/
  rules : List Rule.Check
  /-- Leading sections of the scopes that the rules choose, in order. -/
  scopes : List Text
  needsTagging : Bool
  /-- Alerts below this level are dropped. -/
  minLevel : Level
  deriving DecidableEq, Repr

namespace RuleSet

namespace Draft

def insert (d : Rule.Definition) : Draft → Draft
  | [] => [(d.name, d)]
  | (n, e) :: rest =>
    -- the rule that has the name keeps it
    if d.name = n then (n, e) :: rest
    else if Text.le d.name n then (d.name, d) :: (n, e) :: rest
    else (n, e) :: insert d rest

def holds (draft : Draft) (name : Text) : Bool := (draft.lookup name).isSome

def add (draft : Draft) (d : Rule.Definition) : Except RuleError Draft :=
  if draft.holds d.name then .error (.duplicate d.name) else .ok (draft.insert d)

/-- Adds rules, of which those with a name already taken are left out. -/
def addNew (draft : Draft) (ds : List Rule.Definition) : Draft :=
  ds.foldl (fun draft d => draft.insert d) draft

end Draft

def needsBuiltin (c : Config) : Bool :=
  c.settings.styles.contains Rule.Builtin.style
    || c.rules.any fun (k, _) => Text.startsWith k (Rule.Builtin.ruleName [])

/-- Terms, one a line, without blank lines and comments. -/
def readTerms (t : Text) : List Text :=
  ((Text.lines t).map Text.trim).filter fun l => !l.isEmpty && l.head? != some '#'

def vocabularyTerms (c : Config) (files : FileTree) (file : Text) :
    Except ConfigError (List Text) := do
  let found := c.settings.vocabularies.filterMap fun v =>
    c.asset? files "vocabularies" (v ++ '/' :: file)
  let terms ← found.mapM fun path => match files.read path with
    | .ok t => .ok (readTerms t)
    | .error f => .error (.io f.message)
  return terms.flatten

/-- The built-in rules with the configured vocabulary. No folder may shadow their style. -/
def builtinRules (c : Config) (files : FileTree) : Except ConfigError (List Rule.Definition) := do
  match (Rule.Style.folders c files Rule.Builtin.style).head? with
  | some shadow => throw (.builtinCollision shadow)
  | none =>
    let accepted ← vocabularyTerms c files "accept.txt"
    let rejected ← vocabularyTerms c files "reject.txt"
    return Rule.Builtin.base
      ++ (Rule.Builtin.terms? (c.settings.accepted ++ accepted)).toList
      ++ (Rule.Builtin.avoid? (c.settings.rejected ++ rejected)).toList

/-- Adds a rule that is configured by name and whose style is not loaded as a whole. -/
def addConfigured (c : Config) (files : FileTree) (styles : List Text) (draft : Draft)
    (name : Text) : Except RunError Draft := do
  match Text.splitOnce? '.' name with
  | none => return draft
  | some (style, rule) =>
    if c.disables name || styles.contains style || draft.holds name then return draft
    match Rule.Style.ruleFile? c files style rule with
    | none => return draft
    | some path =>
      let d ← (Rule.Definition.load files path).mapError RunError.rule
      return draft.insert d

def addBuiltin (c : Config) (files : FileTree) (draft : Draft) : Except RunError Draft :=
  if needsBuiltin c then (builtinRules c files).map draft.addNew |>.mapError RunError.config
  else .ok draft

def addStyle (c : Config) (files : FileTree) (draft : Draft) (style : Text) :
    Except RunError Draft := do
  return draft.addNew (← Rule.Style.load c files style)

/-- Every rule that the configuration asks for. -/
def collect (c : Config) (files : FileTree) (draft : Draft) : Except RunError Draft := do
  let requested := c.settings.styles.filter (· != Rule.Builtin.style)
  let styles := if needsBuiltin c then Rule.Builtin.style :: requested else requested
  let draft ← addBuiltin c files draft
  let draft ← requested.foldlM (addStyle c files) draft
  (c.rules.map (·.1)).foldlM (addConfigured c files styles) draft

/-- Drops disabled rules and sets the levels that the configuration gives. -/
def configure (c : Config) (draft : Draft) : Draft :=
  (draft.filter fun (n, _) => !c.disables n).map
    fun (n, d) => (n, { d with level := (c.levelOf? n).getD d.level })

/-- The text of a filter: that of a file, of an asset, or the argument itself. -/
def resolveFragment (c : Config) (files : FileTree) (fragment : Text) :
    Except ConfigError Text :=
  let file? :=
    if files.holdsFile fragment then some fragment else c.asset? files "filters" fragment
  match file? with
  | none => .ok fragment
  | some path => (files.read path).mapError fun f => .io f.message

def lowest (draft : Draft) (level : Level) : Level :=
  draft.foldl (fun l (_, d) => l.min d.level) level

/-- Drops the rules that the filter rejects. A filter that looks at levels lowers the least level to
that of the rules it keeps. -/
def applyFilter (c : Config) (files : FileTree) (filter : Option Text) (draft : Draft) :
    Except ConfigError (Draft × Level) := do
  match (filter.or c.settings.filter).filter (!Text.isBlank ·) with
  | none => return (draft, c.settings.minLevel)
  | some fragment =>
    let f ← Filter.compile (← resolveFragment c files fragment)
    let kept ← f.keptNames (draft.map (·.2))
    let draft := draft.filter fun (n, _) => kept.contains n
    return (draft,
      if f.referencesLevel then lowest draft c.settings.minLevel else c.settings.minLevel)

def sortUnique (ts : List Text) : List Text := Text.sort ts.eraseDups

def chosenScopes (d : Rule.Definition) : List Text :=
  (d.scope.selectors.filter (!·.negated)).map ScopeSelector.base

/-- Compiles the rules. -/
def freeze (draft : Draft) (minLevel : Level) : Except RuleError RuleSet := do
  let rules ← draft.mapM fun e => Rule.Check.compile e.2
  return {
    rules, minLevel
    scopes := sortUnique (draft.flatMap fun e => chosenScopes e.2)
    needsTagging := draft.any fun e => e.2.needsTagging }

/-- The rules of a run, with those already in the draft. A filter given here takes the place of the
configured one. -/
def build (c : Config) (files : FileTree) (filter : Option Text) (draft : Draft) :
    Except RunError RuleSet := do
  let draft ← collect c files draft
  let (draft, minLevel) ←
    (applyFilter c files filter (configure c draft)).mapError RunError.config
  (freeze draft minLevel).mapError RunError.rule

def names (s : RuleSet) : List Text := s.rules.map fun r => r.definition.name

def usesScope (s : RuleSet) (base : Text) : Bool := s.scopes.contains base

end RuleSet

end Copydesk
