import Copydesk.Proofs.Rule.Style
import Copydesk.Proofs.RuleSet.Draft

/-! Where the rules of a run come from, and which of two origins goes first. The origins listed in
order are those that the configuration, the files and the registered rules have to offer. -/

namespace Copydesk.RuleSet

open Rule

/-- The built-in style is asked for as a whole or by one of its rules. -/
def RequestsBuiltin (c : Config) : Prop :=
  Builtin.style ∈ c.settings.styles ∨
    ∃ e ∈ c.rules, Builtin.style ++ ['.'] <+: e.1

def LoadsWhole (c : Config) (style : Text) : Prop :=
  style ∈ c.settings.styles ∨ (style = Builtin.style ∧ RequestsBuiltin c)

/-- A rule on offer, with its definition or why it cannot be read. -/
structure Offer where
  name : Text
  definition : Except RuleError Definition

namespace Offer

def given (d : Definition) : Offer := ⟨d.name, .ok d⟩

def ofFile (files : FileTree) (style rule path : Text) : Offer :=
  ⟨style ++ '.' :: rule, Definition.load files path⟩

end Offer

inductive Origin
  /-- Registered before the configuration is read. -/
  | registered (index : Nat)
  | builtin (index : Nat)
  /-- A file in the folder that a style has on a style path. -/
  | style (index path : Nat) (file : Text)
  /-- Configured by name. -/
  | configured

namespace Origin

/-- The second origin does not go before the first. -/
def le : Origin → Origin → Prop
  | registered i, registered j => i ≤ j
  | registered _, _ => True
  | builtin _, registered _ => False
  | builtin i, builtin j => i ≤ j
  | builtin _, _ => True
  | style .., registered _ | style .., builtin _ => False
  | style i j file, style i' j' file' =>
    i < i' ∨ (i = i' ∧ (j < j' ∨ (j = j' ∧ Text.le file file' = true)))
  | style .., configured => True
  | configured, configured => True
  | configured, _ => False

/-- What stands at an origin. -/
def Offers (c : Config) (files : FileTree) (ds : List Definition) : Origin → Offer → Prop
  | registered i, offer => ∃ d, ds[i]? = some d ∧ offer = .given d
  | builtin i, offer => RequestsBuiltin c ∧ ∃ rules, builtinRules c files = .ok rules ∧
      ∃ d, rules[i]? = some d ∧ offer = .given d
  | style i j file, offer => ∃ name path rule, c.settings.styles[i]? = some name ∧
      c.stylePaths[j]? = some path ∧ Style.Keeps files (Path.join path name) file rule ∧
        offer = .ofFile files name rule (Path.join (Path.join path name) file)
  | configured, offer => ∃ name rule path, name ++ '.' :: rule ∈ c.rules.map (·.1) ∧
      '.' ∉ name ∧ c.disables (name ++ '.' :: rule) = false ∧ ¬LoadsWhole c name ∧
        Style.ruleFile? c files name rule = some path ∧ offer = .ofFile files name rule path

theorem le_refl (o : Origin) : o.le o := by
  cases o with
  | registered i => exact Nat.le_refl i
  | builtin i => exact Nat.le_refl i
  | style i j file =>
    exact .inr ⟨rfl, .inr ⟨rfl, (Text.le_total file file).elim id id⟩⟩
  | configured => trivial

theorem le_antisymm {o o' : Origin} (h : o.le o') (h' : o'.le o) : o = o' := by
  cases o with
  | registered i =>
    cases o' with
    | registered j => exact congrArg registered (Nat.le_antisymm h h')
    | builtin | style | configured => cases h'
  | builtin i =>
    cases o' with
    | builtin j => exact congrArg builtin (Nat.le_antisymm h h')
    | registered => cases h
    | style | configured => cases h'
  | style i j file =>
    cases o' with
    | style i' j' file' =>
      simp only [le] at h h'
      obtain rfl : i = i' := by omega
      obtain rfl : j = j' := by omega
      have hfile : Text.le file file' = true := by simpa using h
      have hfile' : Text.le file' file = true := by simpa using h'
      rw [Text.le_antisymm hfile hfile']
    | registered | builtin => cases h
    | configured => cases h'
  | configured =>
    cases o' with
    | configured => rfl
    | registered | builtin | style => cases h

theorem Offers.unique {c : Config} {files : FileTree} {ds : List Definition} {o : Origin}
    {offer offer' : Offer} (h : o.Offers c files ds offer) (h' : o.Offers c files ds offer')
    (hname : offer.name = offer'.name) : offer = offer' := by
  cases o with
  | registered i =>
    obtain ⟨d, hd, rfl⟩ := h
    obtain ⟨d', hd', rfl⟩ := h'
    rw [Option.some.inj (hd.symm.trans hd')]
  | builtin i =>
    obtain ⟨-, rules, hrules, d, hd, rfl⟩ := h
    obtain ⟨-, rules', hrules', d', hd', rfl⟩ := h'
    obtain rfl := Except.ok.inj (hrules.symm.trans hrules')
    rw [Option.some.inj (hd.symm.trans hd')]
  | style i j file =>
    obtain ⟨style, path, rule, hstyle, hpath, ⟨-, -, -, -, -, hrule⟩, rfl⟩ := h
    obtain ⟨style', path', rule', hstyle', hpath', ⟨-, -, -, -, -, hrule'⟩, rfl⟩ := h'
    rw [Option.some.inj (hstyle.symm.trans hstyle'), Option.some.inj (hpath.symm.trans hpath'),
      ← hrule.stem_eq, ← hrule'.stem_eq]
  | configured =>
    obtain ⟨style, rule, path, -, hdot, -, -, hpath, rfl⟩ := h
    obtain ⟨style', rule', path', -, hdot', -, -, hpath', rfl⟩ := h'
    have hname : style ++ '.' :: rule = style' ++ '.' :: rule' := hname
    have hsplit : Text.splitOnce? '.' (style ++ '.' :: rule) = some (style, rule) :=
      Text.splitOnce?_eq_some_iff.mpr ⟨rfl, hdot⟩
    have hsplit' := Text.splitOnce?_eq_some_iff.mpr ⟨hname, hdot'⟩
    obtain ⟨rfl, rfl⟩ := Prod.mk.inj (Option.some.inj (hsplit.symm.trans hsplit'))
    rw [Option.some.inj (hpath.symm.trans hpath')]

end Origin

def numbered (origin : Nat → Origin) (ds : List Definition) : List (Origin × Offer) :=
  ds.zipIdx.map fun (d, i) => (origin i, .given d)

def fileOffer (files : FileTree) (path : Text) : Offer :=
  ⟨(Definition.nameOfPath? path).getD [], Definition.load files path⟩

variable {c : Config} {files : FileTree} {ds : List Definition} {o : Origin} {offer : Offer}

section Builtin

end Builtin

section Mem

theorem fileOffer_eq {folder style file rule : Text} (hplain : files.hasPlainNames = true)
    (hstyle : Path.IsPlain style) (h : Style.Keeps files (Path.join folder style) file rule) :
    fileOffer files (Path.join (Path.join folder style) file) =
      .ofFile files style rule (Path.join (Path.join folder style) file) := by
  obtain ⟨entries, node, hentries, hmem, -, hrule⟩ := h
  have hslash := FileTree.no_slash_of_entriesAt hplain hentries hmem
  rw [fileOffer, Definition.nameOfPath?_join hstyle hrule hslash]
  rfl

end Mem

section Order

end Order

end Copydesk.RuleSet
