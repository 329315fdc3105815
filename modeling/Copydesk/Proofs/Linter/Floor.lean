import Copydesk.Proofs.Linter.Extraction
import Copydesk.Proofs.Linter.Levels
import Mathlib

/-! The configured least level. Rules are collected, blocks taken, findings made and placed whatever
it is; at the end the alerts below it are dropped and the others put in the order of their places. -/

namespace Copydesk

open Outcome

/-- The configuration with another least level. -/
def Config.atLevel (c : Config) (level : Level) : Config :=
  { c with settings := { c.settings with minLevel := level } }

namespace Alert

def atLeast (level : Level) (as : List Alert) : List Alert := as.filter fun a => level.le a.level

theorem atLeast_sort (level : Level) (as : List Alert) :
    atLeast level (sort as) = sort (atLeast level as) := filter_sort _ as

theorem atLeast_atLeast {low high : Level} (h : low.le high = true) (as : List Alert) :
    atLeast high (atLeast low as) = atLeast high as := by
  rw [atLeast, atLeast, List.filter_filter]
  refine List.filter_congr fun a _ => ?_
  rw [Bool.eq_iff_iff, Bool.and_eq_true]
  exact and_iff_left_of_imp (Level.le_trans h)

/-- The same alerts by line and then by column, those at one place in the order they had. -/
structure IsSorting (found as : List Alert) : Prop where
  perm : as.Perm found
  ordered : as.Pairwise fun a b => a.le b = true
  stable : ∀ line column, as.filter (fun a => a.line = line ∧ a.span.start = column) =
    found.filter fun a => a.line = line ∧ a.span.start = column

theorem isSorting_sort (found : List Alert) : IsSorting found (sort found) := by
  refine ⟨List.mergeSort_perm found le, List.pairwise_mergeSort le_trans le_total found, ?_⟩
  intro line column
  rw [filter_sort]
  -- alerts at one place are in order already
  refine List.mergeSort_of_pairwise (List.pairwise_of_forall_mem_list fun a ha b hb => ?_)
  obtain ⟨hline, hcolumn⟩ := of_decide_eq_true (List.mem_filter.mp ha).2
  obtain ⟨hline', hcolumn'⟩ := of_decide_eq_true (List.mem_filter.mp hb).2
  rw [le_iff]
  omega

end Alert

namespace RuleSet

variable {c : Config} {files : FileTree} {filter : Option Text} {draft : Draft}

def atLevel (s : RuleSet) (level : Level) : RuleSet := { s with minLevel := level }

theorem freeze_atLevel (draft : Draft) (low high : Level) :
    freeze draft high = (freeze draft low).map (·.atLevel high) := by
  rw [freeze, freeze]
  cases draft.mapM fun e => Rule.Check.compile e.2 <;> rfl

/-- The rules of a run do not depend on the least level. -/
theorem build_atLevel (h : IsUnfiltered c filter) (low high : Level) :
    build (c.atLevel high) files filter draft =
      (build (c.atLevel low) files filter draft).map (·.atLevel high) := by
  have hcollect (level : Level) : collect (c.atLevel level) files draft = collect c files draft :=
    rfl
  have hconfigure (level : Level) : configure (c.atLevel level) = configure c := rfl
  rw [build_of_isUnfiltered (c := c.atLevel high) h, build_of_isUnfiltered (c := c.atLevel low) h,
    hcollect, hcollect, hconfigure, hconfigure]
  cases collect c files draft with
  | error e => rfl
  | ok collected =>
    change (freeze (configure c collected) high).mapError RunError.rule =
      ((freeze (configure c collected) low).mapError RunError.rule).map (·.atLevel high)
    rw [freeze_atLevel (configure c collected) low high]
    cases freeze (configure c collected) low <;> rfl

theorem minLevel_of_build (h : IsUnfiltered c filter) {s : RuleSet}
    (hs : build c files filter draft = .ok s) : s.minLevel = c.settings.minLevel := by
  rw [build_of_isUnfiltered h] at hs
  obtain ⟨collected, -, hs⟩ := bind_eq_ok_iff.mp hs
  exact minLevel_of_freeze (mapError_eq_ok_iff.mp hs)

end RuleSet

namespace Linter

variable (l : Linter) (level : Level)

/-- The linter of the configuration with another least level. -/
def atLevel : Linter :=
  { l with config := l.config.atLevel level, rules := l.rules.atLevel level }

theorem build_atLevel (c : Config) (files : FileTree) (rules : RuleSet) (tools : Tools)
    (low high : Level) : build (c.atLevel high) files (rules.atLevel high) tools =
      (build (c.atLevel low) files rules tools).map (·.atLevel high) := by
  have hblueprints (level : Level) :
      loadBlueprints (c.atLevel level) files = loadBlueprints c files := rfl
  rw [build, build, hblueprints, hblueprints]
  cases loadBlueprints c files <;> rfl

theorem lintBlock_atLevel : (l.atLevel level).lintBlock = l.lintBlock := rfl

theorem lintBlocks_atLevel (loc : Position.Locator) (bs : List Block) :
    (l.atLevel level).lintBlocks loc bs = l.lintBlocks loc bs := by
  induction bs generalizing loc with
  | nil => rfl
  | cons b bs ih => simp only [lintBlocks, lintBlock_atLevel, ih]

theorem lintFormat_atLevel (t : Target) (format : Format) (name text : Text) :
    (l.atLevel level).lintFormat t format name text = l.lintFormat t format name text := by
  have hmarkup : (l.atLevel level).lintMarkup t format name text =
      l.lintMarkup t format name text :=
    congrArg (l.markupBlocks t format name text >>= ·) (funext (lintBlocks_atLevel l level _))
  cases format with
  | plain | code | data => rfl
  | _ => exact hmarkup

theorem lintValues_atLevel (t : Target) (name : Text) (format : Format) (text : Text)
    (cursor : Position.Cursor) (vs : List Text) :
    (l.atLevel level).lintValues t name format text cursor vs =
      l.lintValues t name format text cursor vs := by
  induction vs generalizing cursor with
  | nil => rfl
  | cons v vs ih => simp only [lintValues, lintFormat_atLevel, ih]

/-- What is found in a file does not depend on the least level. -/
theorem lintTarget_atLevel (t : Target) (text : Text) :
    (l.atLevel level).lintTarget t text = l.lintTarget t text := by
  have hcode (queries : Option (List Comment.Query)) :
      (l.atLevel level).lintCode t queries text = l.lintCode t queries text := rfl
  have hdata (b : Blueprint) : (l.atLevel level).lintData t b text = l.lintData t b text := by
    simp only [lintData, lintValues_atLevel]
    rfl
  have hroute : (l.atLevel level).route t = l.route t := rfl
  simp only [lintTarget, hroute, hcode, hdata, lintFormat_atLevel]

variable {l} {path text : Text}

theorem lint_eq (path text : Text) : l.lint path text =
    (l.lintTarget (l.target path) text).map fun found =>
      Alert.sort (Alert.atLeast l.rules.minLevel found) := by
  cases h : l.lintTarget (l.target path) text with
  | error e => exact lint_eq_error h
  | ok found => exact lint_eq_sort h

theorem lint_atLevel {high : Level} (h : l.rules.minLevel.le high = true) (path text : Text) :
    (l.atLevel high).lint path text = (l.lint path text).map (Alert.atLeast high) := by
  have htarget : (l.atLevel high).lintTarget ((l.atLevel high).target path) text =
      l.lintTarget (l.target path) text := lintTarget_atLevel l high _ text
  rw [lint_eq, lint_eq, htarget]
  cases l.lintTarget (l.target path) text with
  | error e => rfl
  | ok found =>
    refine congrArg Except.ok ?_
    rw [Alert.atLeast_sort, Alert.atLeast_atLeast h]
    rfl

/-- What a higher least level does to a run. -/
structure OnlyFilters (c : Config) (files : FileTree) (filter : Option Text)
    (draft : RuleSet.Draft) (low high : Level) : Prop where
  rules : RuleSet.build (c.atLevel high) files filter draft =
    (RuleSet.build (c.atLevel low) files filter draft).map (·.atLevel high)
  linter : ∀ rules tools, build (c.atLevel high) files (rules.atLevel high) tools =
    (build (c.atLevel low) files rules tools).map (·.atLevel high)
  alerts : ∀ l : Linter, l.config = c.atLevel low →
    RuleSet.build (c.atLevel low) files filter draft = .ok l.rules → ∀ path text,
      (l.atLevel high).lint path text = (l.lint path text).map (Alert.atLeast high)
  ordered : ∀ l : Linter, ∀ path text as, l.lint path text = .ok as →
    ∃ found, l.lintTarget (l.target path) text = .ok found ∧
      Alert.IsSorting (Alert.atLeast l.rules.minLevel found) as

theorem onlyFilters {c : Config} {filter : Option Text} {low high : Level}
    (hfilter : RuleSet.IsUnfiltered c filter) (hle : low.le high = true) (files : FileTree)
    (draft : RuleSet.Draft) : OnlyFilters c files filter draft low high := by
  refine ⟨RuleSet.build_atLevel hfilter low high,
    fun rules tools => build_atLevel c files rules tools low high, ?alerts, ?ordered⟩
  case alerts =>
    intro l _ hrules path text
    have hlow : l.rules.minLevel = low :=
      RuleSet.minLevel_of_build (c := c.atLevel low) hfilter hrules
    exact lint_atLevel (hlow ▸ hle) path text
  case ordered =>
    intro l path text as h
    rw [lint_eq] at h
    cases hfound : l.lintTarget (l.target path) text with
    | error e =>
      rw [hfound] at h
      cases h
    | ok found =>
      rw [hfound] at h
      obtain rfl := Except.ok.inj h
      exact ⟨found, rfl, Alert.isSorting_sort _⟩

/-- The level of one of two rules is raised. -/
def raisedConfig : Config := { rules := [("House.Bad", .level .error)] }

def raisedDraft : RuleSet.Draft := RuleSet.Draft.register
  [.ofLiteral "House.Bad" "bad" ["text"], .ofLiteral "House.Slow" "slow" ["text"]]

def raisedRules : RuleSet :=
  { RuleSet.house ["text"] ["text"] with
    rules := [{ Rule.Check.ofLiteral "House.Bad" "bad" ["text"] with
      definition := { Rule.Definition.ofLiteral "House.Bad" "bad" ["text"] with level := .error } },
      .ofLiteral "House.Slow" "slow" ["text"]] }

def raisedLinter : Linter := ofRules raisedConfig raisedRules []

theorem raisedLinter_onlyFilters :
    RuleSet.build (raisedConfig.atLevel .suggestion) .empty none raisedDraft = .ok raisedRules ∧
      (raisedLinter.lint "a.txt" "slow bad").toOption.map (·.map (·.check)) =
        some ["House.Slow".toList, "House.Bad".toList] ∧
      ((raisedLinter.atLevel .error).lint "a.txt" "slow bad").toOption.map (·.map (·.check)) =
        some ["House.Bad".toList] ∧
      OnlyFilters raisedConfig .empty none raisedDraft .suggestion .error := by
  have hbuild : RuleSet.build (raisedConfig.atLevel .suggestion) .empty none raisedDraft =
      .ok raisedRules := toOption_eq_some_iff.mp (by decide +kernel)
  have hfilter : RuleSet.IsUnfiltered raisedConfig none := nofun
  have honly : OnlyFilters raisedConfig .empty none raisedDraft .suggestion .error :=
    onlyFilters hfilter (by decide) .empty raisedDraft
  have hlint : raisedLinter.lint "a.txt" "slow bad" = .ok
      [⟨"House.Slow", .warning, "Avoid 'slow'.", [], [], 1, ⟨1, 4⟩, "slow"⟩,
        ⟨"House.Bad", .error, "Avoid 'bad'.", [], [], 1, ⟨6, 8⟩, "bad"⟩] := by cbv
  refine ⟨hbuild, by rw [hlint]; rfl, ?_, honly⟩
  rw [honly.alerts raisedLinter rfl hbuild, hlint]
  rfl

end Linter

end Copydesk
