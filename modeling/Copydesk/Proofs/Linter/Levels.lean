import Copydesk.Proofs.Linter.Trace
import Copydesk.Proofs.RuleSet.Assembly
import Copydesk.Proofs.RuleSet.Filter

/-! The least level of a run. A filter that looks at levels brings it down to those of the rules
that it keeps, and alerts have the levels of their rules, so that none of them is dropped. -/

namespace Copydesk

namespace Level

theorem le_refl (a : Level) : a.le a = true := by
  cases a <;> rfl

theorem le_trans {a b c : Level} (hab : a.le b = true) (hbc : b.le c = true) :
    a.le c = true := by
  rw [le, decide_eq_true_eq] at *
  exact Nat.le_trans hab hbc

theorem min_le_left (a b : Level) : (a.min b).le a = true := by
  cases a <;> cases b <;> rfl

theorem min_le_right (a b : Level) : (a.min b).le b = true := by
  cases a <;> cases b <;> rfl

end Level

namespace RuleSet

open Rule

theorem lowest_le (draft : Draft) (level : Level) : (lowest draft level).le level = true ∧
    ∀ e ∈ draft, (lowest draft level).le e.2.level = true := by
  induction draft generalizing level with
  | nil => exact ⟨level.le_refl, fun e he => absurd he List.not_mem_nil⟩
  | cons e draft ih =>
    obtain ⟨hlevel, hdraft⟩ := ih (level.min e.2.level)
    refine ⟨Level.le_trans hlevel (level.min_le_left _), List.forall_mem_cons.mpr ⟨?_, hdraft⟩⟩
    exact Level.le_trans hlevel (level.min_le_right _)

end RuleSet

namespace Linter

open Rule

theorem exists_level_of_reports {l : Linter} {a : Alert} (hl : l.rules.IsPatternOnly)
    (h : l.Reports a) : ∃ r ∈ l.rules.rules, a.level = r.definition.level := by
  obtain ⟨r, hr, b, found, hfound, a₀, ha₀, p, rfl⟩ := h
  rw [Check.runOn_eq_ok (hl r hr)] at hfound
  obtain rfl := Except.ok.inj hfound
  obtain ⟨i, j, args, rfl⟩ := Check.exists_alert_of_mem_run (hl r hr) ha₀
  exact ⟨r, hr, rfl⟩

/-- A check gives all that it finds if no rule is below the least level. -/
theorem lint_eq_map_sort {l : Linter} (hl : l.rules.IsPatternOnly)
    (hlevel : ∀ r ∈ l.rules.rules, l.rules.minLevel.le r.definition.level = true)
    (path text : Text) :
    l.lint path text = (l.lintTarget (l.target path) text).map Alert.sort := by
  cases hfound : l.lintTarget (l.target path) text with
  | error e => exact lint_eq_error hfound
  | ok found =>
    have hall : found.filter (fun a => l.rules.minLevel.le a.level) = found := by
      refine List.filter_eq_self.mpr fun a ha => ?_
      obtain ⟨r, hr, ha⟩ := exists_level_of_reports hl (reports_of_mem_lintTarget hfound ha)
      rw [ha]
      exact hlevel r hr
    rw [lint_eq_sort hfound, hall]
    rfl

end Linter

namespace RuleSet

open Rule Outcome

variable {c : Config} {files : FileTree} {filter : Option Text} {source : Text} {s : RuleSet}

/-- Nothing that the rules find is below the least level of the run. -/
structure ShowsAll (c : Config) (s : RuleSet) : Prop where
  minLevel : s.minLevel.le c.settings.minLevel = true
  configured : ∀ r ∈ s.rules, ∀ level, c.levelOf? r.definition.name = some level →
    r.definition.level = level
  rules : ∀ r ∈ s.rules, s.minLevel.le r.definition.level = true
  lint : ∀ l : Linter, l.rules = s → s.IsPatternOnly → ∀ path text,
    l.lint path text = (l.lintTarget (l.target path) text).map Alert.sort

theorem showsAll_of_build {ds : List Definition} (hsource : IsFilteredBy c files filter source)
    (h : build c files filter (Draft.register ds) = .ok s) :
    (".Level".toList <:+: source → ShowsAll c s) ∧
      (¬".Level".toList <:+: source → s.minLevel = c.settings.minLevel) := by
  obtain ⟨collected, f, names, hcollected, hf, -, hfreeze⟩ := exists_freeze_of_build hsource h
  have hproper := collect_isProper (Draft.Collects.register ds).proper hcollected
  have hminLevel := minLevel_of_freeze hfreeze
  have hrule {r : Check} (hr : r ∈ s.rules) :
      ∃ e ∈ (configure c collected).named names, r.definition = e.2 :=
    (exists_rule_iff hfreeze).mp ⟨r, hr, rfl⟩
  refine ⟨fun hlevel => ?reads, fun hlevel => ?ignores⟩
  case reads =>
    -- the lowest level among the rules that the filter names is let through
    rw [if_pos ((Filter.referencesLevel_iff hf).mpr hlevel)] at hminLevel
    obtain ⟨hle, hlowest⟩ := lowest_le ((configure c collected).named names) c.settings.minLevel
    have hrules : ∀ r ∈ s.rules, s.minLevel.le r.definition.level = true := by
      intro r hr
      obtain ⟨e, he, hd⟩ := hrule hr
      rw [hminLevel, hd]
      exact hlowest e he
    refine ⟨hminLevel ▸ hle, ?configured, hrules, ?lint⟩
    case configured =>
      intro r hr level hlevel
      obtain ⟨⟨name, d'⟩, he, hd⟩ := hrule hr
      obtain ⟨-, d, hmem, hd'⟩ := mem_configure.mp (List.mem_filter.mp he).1
      have hname : name = d.name := hproper.named _ hmem
      rw [hd, ← hd', hname] at hlevel ⊢
      exact congrArg (fun l => l.getD d.level) hlevel
    case lint =>
      rintro l rfl hl path text
      exact Linter.lint_eq_map_sort hl hrules path text
  case ignores =>
    rwa [if_neg fun h => hlevel ((Filter.referencesLevel_iff hf).mp h)] at hminLevel

/-- A rule that is configured below the least level of the run, and chosen for it. -/
def quietConfig : Config where
  settings := { minLevel := .error }
  rules := [(wordRule.name, .level .suggestion)]

def levelFilter : Text := ".Level == \"suggestion\"".toList

theorem showsAll_wordRule : ∃ s,
    build quietConfig .empty (some levelFilter) (Draft.register [wordRule]) = .ok s ∧
      s.names = [wordRule.name] ∧ s.minLevel = .suggestion ∧ ShowsAll quietConfig s := by
  have hsource : IsFilteredBy quietConfig .empty (some levelFilter) levelFilter :=
    ⟨_, rfl, by decide, rfl⟩
  have hlevel : ".Level".toList <:+: levelFilter := by decide
  have hbuilt : (build quietConfig .empty (some levelFilter)
      (Draft.register [wordRule])).toOption.map (fun s => (s.names, s.minLevel)) =
        some ([wordRule.name], .suggestion) := by decide +kernel
  obtain ⟨s, hs, hbuilt⟩ := Option.map_eq_some_iff.mp hbuilt
  obtain ⟨hnames, hminLevel⟩ := Prod.mk.inj hbuilt
  have hbuild := toOption_eq_some_iff.mp hs
  exact ⟨s, hbuild, hnames, hminLevel, (showsAll_of_build hsource hbuild).1 hlevel⟩

end RuleSet

end Copydesk
