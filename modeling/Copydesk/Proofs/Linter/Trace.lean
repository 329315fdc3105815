import Copydesk.Proofs.Linter.Block
import Copydesk.Proofs.Linter.Extraction

/-! Where the alerts on a file come from. Whatever way a file is taken apart, each of them was found
by a rule in some text, and after that only its place has changed. -/

namespace Copydesk.Linter

open Outcome Position

variable {l : Linter} {t : Target} {text : Text} {as : List Alert} {a : Alert}

section Steps

/-- Alerts are placed one after another by the locators that the earlier ones lead to. -/
theorem placeAll_eq_run {loc loc' : Locator} {bs : List Alert}
    (h : placeAll loc as = .ok (bs, loc')) :
    loc' = loc.run (as.map .place) ∧
      ∀ a' ∈ bs, ∃ a ∈ as, ∃ calls loc₁, (loc.run calls).place a = .ok (a', loc₁) := by
  induction as generalizing loc bs with
  | nil =>
    obtain ⟨rfl, rfl⟩ := Prod.mk.inj (Except.ok.inj h)
    exact ⟨rfl, fun a' ha' => absurd ha' List.not_mem_nil⟩
  | cons a as ih =>
    obtain ⟨a₁, loc₁, as', hplace, has, rfl⟩ := placeAll_cons_eq_ok_iff.mp h
    obtain ⟨hrun, hplaced⟩ := ih has
    have hcall : loc.run [.place a] = loc₁ := Locator.afterPlace_of_place hplace
    refine ⟨by rw [hrun, ← hcall]; rfl, fun a' ha' => ?_⟩
    rcases List.mem_cons.mp ha' with rfl | ha'
    · exact ⟨a, List.mem_cons_self, [], loc₁, hplace⟩
    · obtain ⟨a₂, ha₂, calls, loc₂, hplace₂⟩ := hplaced a' ha'
      rw [← hcall, ← Locator.run_append] at hplace₂
      exact ⟨a₂, List.mem_cons_of_mem a ha₂, _, loc₂, hplace₂⟩

/-- Every alert on rendered markup was found on a block and placed by a locator that calls lead
to. -/
theorem exists_place_of_mem_lintBlocks {loc : Locator} {blocks : List Block}
    (h : l.lintBlocks loc blocks = .ok as) (ha : a ∈ as) :
    ∃ b ∈ blocks, ∃ found, l.lintBlock b = .ok found ∧ ∃ a₀ ∈ found, ∃ calls loc',
      (loc.run calls).place a₀ = .ok (a, loc') := by
  induction blocks generalizing loc as with
  | nil =>
    obtain rfl := Except.ok.inj h
    cases ha
  | cons b blocks ih =>
    obtain ⟨found, placed, loc₁, rest, hfound, hall, hrest, rfl⟩ := lintBlocks_cons_eq_ok_iff.mp h
    -- what was asked on the earlier blocks comes before the calls on this one
    obtain ⟨hrun, hplaced⟩ := placeAll_eq_run hall
    have hentered : loc.enterBlock b.text = loc.run [.enterBlock b.text] := rfl
    rcases List.mem_append.mp ha with ha | ha
    · obtain ⟨a₀, ha₀, calls, loc', hplace⟩ := hplaced a ha
      rw [hentered, ← Locator.run_append] at hplace
      exact ⟨b, List.mem_cons_self, found, hfound, a₀, ha₀, _, loc', hplace⟩
    · obtain ⟨b', hb', found', hfound', a₀, ha₀, calls, loc', hplace⟩ := ih hrest ha
      rw [hrun, hentered, ← Locator.run_append, ← Locator.run_append] at hplace
      exact ⟨b', List.mem_cons_of_mem b hb', found', hfound', a₀, ha₀, _, loc', hplace⟩

theorem exists_lintComment_of_mem_lintCode {queries : Option (List Comment.Query)}
    (h : l.lintCode t queries text = .ok as) (ha : a ∈ as) :
    ∃ padding c as', l.lintComment t text padding c = .ok as' ∧ a ∈ as' := by
  obtain ⟨extraction, -, h⟩ := bind_eq_ok_iff.mp h
  cases extraction with
  | none =>
    rw [← pure_eq_ok_iff.mp h] at ha
    cases ha
  | some e =>
    obtain ⟨found, hfound, h⟩ := bind_eq_ok_iff.mp h
    rw [← pure_eq_ok_iff.mp h] at ha
    obtain ⟨c, -, as', hc, ha⟩ := exists_of_mem_flatten hfound ha
    exact ⟨e.padding, c, as', hc, ha⟩

/-- Every alert on values was found on one of them and then moved. -/
theorem exists_remap_of_mem_lintValues {name : Text} {format : Format} {cursor : Cursor}
    {vs : List Text} (h : l.lintValues t name format text cursor vs = .ok as) (ha : a ∈ as) :
    ∃ v ∈ vs, ∃ found start, l.lintFormat t format name v = .ok found ∧
      ∃ a₀ ∈ found, remapValueOne v text start t.path a₀ = .ok a := by
  induction vs generalizing cursor as with
  | nil =>
    rw [← Except.ok.inj h] at ha
    cases ha
  | cons v vs ih =>
    have hlater (cursor : Cursor) (as : List Alert)
        (h : l.lintValues t name format text cursor vs = .ok as) (ha : a ∈ as) :
        ∃ w ∈ v :: vs, ∃ found start, l.lintFormat t format name w = .ok found ∧
          ∃ a₀ ∈ found, remapValueOne w text start t.path a₀ = .ok a := by
      obtain ⟨w, hw, hfound⟩ := ih h ha
      exact ⟨w, List.mem_cons_of_mem v hw, hfound⟩
    unfold lintValues at h
    split at h
    · exact hlater cursor as h ha
    · obtain ⟨found, hfound, h⟩ := bind_eq_ok_iff.mp h
      obtain ⟨moved, hmoved, h⟩ := bind_eq_ok_iff.mp h
      obtain ⟨rest, hrest, h⟩ := bind_eq_ok_iff.mp h
      rw [← pure_eq_ok_iff.mp h] at ha
      rcases List.mem_append.mp ha with ha | ha
      · rw [remapValue, movedOrFail_moveEach] at hmoved
        exact ⟨v, List.mem_cons_self, found, cursor, hfound, exists_of_mem_mapM hmoved ha⟩
      · exact hlater _ rest hrest ha

theorem exists_lintValues_of_mem_lintData {b : Blueprint} (h : l.lintData t b text = .ok as)
    (ha : a ∈ as) : ∃ found, b.apply l.tools text (Extension.ofPath t.path) t.path = .ok found ∧
      ∃ f ∈ found, ∃ as', l.lintValues t f.scope f.format text {} f.values = .ok as' ∧
        a ∈ as' := by
  obtain ⟨found, hfound, h⟩ := bind_eq_ok_iff.mp h
  obtain ⟨parts, hparts, h⟩ := bind_eq_ok_iff.mp h
  rw [← pure_eq_ok_iff.mp h] at ha
  exact ⟨found, hfound, exists_of_mem_flatten hparts ha⟩

end Steps

/-- The alert is one that a rule finds in some block, wherever it has been moved. -/
def Reports (l : Linter) (a : Alert) : Prop :=
  ∃ c ∈ l.rules.rules, ∃ b found, c.runOn l.provider b = .ok found ∧
    ∃ a₀ ∈ found, ∃ p, a = a₀.moveTo p

section Reports

theorem Reports.moveTo (h : l.Reports a) (p : Place) : l.Reports (a.moveTo p) := by
  obtain ⟨c, hc, b, found, hfound, a₀, ha₀, -, rfl⟩ := h
  exact ⟨c, hc, b, found, hfound, a₀, ha₀, p, rfl⟩

theorem reports_of_mem_runRules {b : Block} (h : l.runRules b = .ok as) (ha : a ∈ as) :
    l.Reports a := by
  obtain ⟨c, hc, -, found, hfound, ha⟩ := exists_of_mem_runRules h ha
  exact ⟨c, hc, b, found, hfound, a, ha, ⟨a.line, a.span⟩, rfl⟩

theorem reports_of_mem_lintBlock {b : Block} (h : l.lintBlock b = .ok as) (ha : a ∈ as) :
    l.Reports a := by
  rcases exists_of_mem_lintBlock h ha with
    ⟨found, hfound, ha⟩ | ⟨kind, piece, found, -, hfound, a₀, ha₀, rfl⟩
  · exact reports_of_mem_runRules hfound ha
  · exact (reports_of_mem_runRules hfound ha₀).moveTo ⟨_, _⟩

theorem reports_of_mem_lintBlocks {loc : Locator} {blocks : List Block}
    (h : l.lintBlocks loc blocks = .ok as) (ha : a ∈ as) : l.Reports a := by
  obtain ⟨b, -, found, hfound, a₀, ha₀, calls, loc', hplace⟩ := exists_place_of_mem_lintBlocks h ha
  obtain ⟨i, j, -, rfl, -⟩ := Locator.place_eq_ok_iff.mp hplace
  exact (reports_of_mem_lintBlock hfound ha₀).moveTo _

theorem reports_of_mem_lintFormat {format : Format} {name : Text}
    (h : l.lintFormat t format name text = .ok as) (ha : a ∈ as) : l.Reports a := by
  have hmarkup (h : l.lintMarkup t format name text = .ok as) : l.Reports a := by
    obtain ⟨blocks, -, h⟩ := bind_eq_ok_iff.mp h
    exact reports_of_mem_lintBlocks h ha
  cases format with
  | plain | code | data => exact reports_of_mem_lintBlock h ha
  | _ => exact hmarkup h

theorem reports_of_mem_lintComment {padding : Option (Text → Nat)} {c : Comment}
    (h : l.lintComment t text padding c = .ok as) (ha : a ∈ as) : l.Reports a := by
  obtain ⟨found, hfound, h⟩ := lintComment_eq_ok_iff.mp h
  obtain ⟨a₀, ha₀, hmove⟩ := exists_of_mem_mapM h ha
  obtain ⟨p, rfl⟩ := exists_moveTo_of_remapAnchoredOne hmove
  exact (reports_of_mem_lintBlock hfound ha₀).moveTo p

theorem reports_of_mem_lintValues {name : Text} {format : Format} {cursor : Cursor}
    {vs : List Text} (h : l.lintValues t name format text cursor vs = .ok as) (ha : a ∈ as) :
    l.Reports a := by
  obtain ⟨v, -, found, start, hfound, a₀, ha₀, hmove⟩ := exists_remap_of_mem_lintValues h ha
  obtain ⟨p, rfl⟩ := exists_moveTo_of_remapValueOne hmove
  exact (reports_of_mem_lintFormat hfound ha₀).moveTo p

/-- All alerts on a file come from the rules. -/
theorem reports_of_mem_lintTarget (h : l.lintTarget t text = .ok as) (ha : a ∈ as) :
    l.Reports a := by
  unfold lintTarget at h
  split at h
  · rw [← Except.ok.inj h] at ha
    cases ha
  · obtain ⟨padding, c, as', has', ha⟩ := exists_lintComment_of_mem_lintCode h ha
    exact reports_of_mem_lintComment has' ha
  · obtain ⟨found, -, f, -, as', has', ha⟩ := exists_lintValues_of_mem_lintData h ha
    exact reports_of_mem_lintValues has' ha
  · exact reports_of_mem_lintFormat h ha
  · cases h

end Reports

end Copydesk.Linter
