import Copydesk.Proofs.Linter.Trace
import Mathlib

/-! Alerts lead back to the text they are about. Where the blocks of a file are stretches of its own
text, every alert that is returned is read at its place in the file, whether the block was the file
itself, a comment, or a value of structured data. -/

namespace Copydesk.Linter

open Outcome Position

/-- The blocks of the file hold its text as it is written, and not as it was rendered. -/
def Route.IsVerbatim : Route → Prop
  | .prose format => format = .plain
  | .values b => ∀ s ∈ b.steps, Format.ofStepType s.kind = .plain
  | _ => True

section Blocks

variable {l : Linter} {t : Target} {text : Text} {as : List Alert} {a : Alert}

theorem readsIn_of_mem_lintComment (hl : l.rules.IsPatternOnly) {padding : Option (Text → Nat)}
    {c : Comment} (h : l.lintComment t text padding c = .ok as) (ha : a ∈ as)
    (hh : a.head ≠ []) : a.ReadsIn text := by
  obtain ⟨found, hfound, h⟩ := lintComment_eq_ok_iff.mp h
  obtain ⟨a₀, ha₀, hmove⟩ := exists_of_mem_mapM h ha
  have hstart := (standsIn_of_mem_lintBlock hl hfound ha₀).readsIn.2.1
  obtain ⟨p, rfl⟩ := exists_moveTo_of_remapAnchoredOne hmove
  exact readsIn_of_remapAnchoredOne (show a₀.head ≠ [] from hh) hstart hmove

theorem readsIn_of_mem_lintCode (hl : l.rules.IsPatternOnly)
    {queries : Option (List Comment.Query)} (h : l.lintCode t queries text = .ok as) (ha : a ∈ as)
    (hh : a.head ≠ []) : a.ReadsIn text := by
  obtain ⟨padding, c, as', hc, ha⟩ := exists_lintComment_of_mem_lintCode h ha
  exact readsIn_of_mem_lintComment hl hc ha hh

theorem readsIn_of_mem_lintValues (hl : l.rules.IsPatternOnly) {name : Text} {cursor : Cursor}
    {vs : List Text} (h : l.lintValues t name .plain text cursor vs = .ok as) (ha : a ∈ as)
    {c : Char} {r : Text} (hh : a.head = c :: r) (hc : Text.isSpace c = false) :
    a.ReadsIn text := by
  obtain ⟨v, -, found, start, hfound, a₀, ha₀, hmove⟩ := exists_remap_of_mem_lintValues h ha
  have hread := (standsIn_of_mem_lintBlock hl hfound ha₀).readsIn
  obtain ⟨p, rfl⟩ := exists_moveTo_of_remapValueOne hmove
  exact readsIn_of_remapValueOne hread (show a₀.head = c :: r from hh) hc hmove

theorem format_eq_of_mem_apply {tools : Tools} {b : Blueprint} {content ext path : Text}
    {format : Format} {found : List Blueprint.Found}
    (hb : ∀ s ∈ b.steps, Format.ofStepType s.kind = format)
    (h : b.apply tools content ext path = .ok found) : ∀ f ∈ found, f.format = format := by
  intro f hf
  unfold Blueprint.apply at h
  split at h
  · rename_i steps hsteps
    obtain ⟨doc, -, h⟩ := bind_eq_ok_iff.mp h
    rw [← pure_eq_ok_iff.mp h] at hf
    obtain ⟨s, hs, rfl⟩ := List.mem_map.mp hf
    refine hb { s with query := s.query.expr } ?_
    rw [Blueprint.steps, hsteps]
    exact List.mem_map_of_mem hs
  · rename_i steps hsteps
    obtain ⟨s, hs, hrun⟩ := exists_of_mem_mapM h hf
    obtain ⟨values, -, hrun⟩ := bind_eq_ok_iff.mp hrun
    rw [← pure_eq_ok_iff.mp hrun]
    refine hb s ?_
    rw [Blueprint.steps, hsteps]
    exact hs
  · cases h

theorem readsIn_of_mem_lintData (hl : l.rules.IsPatternOnly) {b : Blueprint}
    (hb : ∀ s ∈ b.steps, Format.ofStepType s.kind = .plain) (h : l.lintData t b text = .ok as)
    (ha : a ∈ as) {c : Char} {r : Text} (hh : a.head = c :: r) (hc : Text.isSpace c = false) :
    a.ReadsIn text := by
  obtain ⟨found, hfound, f, hf, as', hvalues, ha⟩ := exists_lintValues_of_mem_lintData h ha
  rw [format_eq_of_mem_apply hb hfound f hf] at hvalues
  exact readsIn_of_mem_lintValues hl hvalues ha hh hc

end Blocks

/-- Values are trimmed before they are searched for, so on that route a match that begins with a
blank may be placed anywhere. -/
theorem readsIn_of_mem_lint {l : Linter} {path text : Text} {as : List Alert} {a : Alert}
    (hl : l.rules.IsPatternOnly) (hroute : (l.route (l.target path)).IsVerbatim)
    (h : l.lint path text = .ok as) (ha : a ∈ as) (hh : a.head ≠ [])
    (hblank : ∀ b, l.route (l.target path) = .values b → a.head.head?.any Text.isSpace = false) :
    a.ReadsIn text := by
  obtain ⟨found, hfound, h⟩ := bind_eq_ok_iff.mp h
  have ha : a ∈ found := by
    rw [← pure_eq_ok_iff.mp h, Alert.sort, List.mem_mergeSort] at ha
    exact (List.mem_filter.mp ha).1
  unfold lintTarget at hfound
  split at hfound
  · rw [← Except.ok.inj hfound] at ha
    cases ha
  · exact readsIn_of_mem_lintCode hl hfound ha hh
  · rename_i b hb
    obtain ⟨c, r, hc⟩ := List.exists_cons_of_ne_nil hh
    have hspace := hblank b hb
    rw [hc] at hspace
    rw [hb] at hroute
    exact readsIn_of_mem_lintData hl hroute hfound ha hc (by simpa using hspace)
  · rename_i format hf
    rw [hf] at hroute
    rw [show format = .plain from hroute] at hfound
    exact (standsIn_of_mem_lintBlock hl hfound ha).readsIn
  · cases hfound

def memberBlueprint : Blueprint :=
  ⟨"Member", .selectors [{ name := "s", query := ⟨".s", [.key "s"]⟩ }]⟩

def memberLinter : Linter :=
  ofRules { blueprints := [("*.json", "Member")] } (.house ["text"] ["text"])
    [("Member", memberBlueprint)]

/-- The value has two lines, which stand on one line of the file. -/
def memberText : Text := "\x7b\n \"s\": \"one\\n  bad\"\x7d"

def memberAlert : Alert := Alert.house.moveTo ⟨2, ⟨15, 17⟩⟩

theorem memberAlert_readsIn :
    memberLinter.lint "a.json" memberText = .ok [memberAlert] ∧ memberAlert.ReadsIn memberText := by
  have hroute : memberLinter.route (memberLinter.target "a.json") = .values memberBlueprint := by
    cbv
  have hlint : memberLinter.lint "a.json" memberText = .ok [memberAlert] := by cbv
  have hsteps : ∀ s ∈ memberBlueprint.steps, Format.ofStepType s.kind = .plain := by decide
  refine ⟨hlint, readsIn_of_mem_lint ?_ ?_ hlint List.mem_cons_self ?_ ?_⟩
  · intro c hc
    rw [List.mem_singleton.mp hc]
    simp [Rule.Check.ofLiteral]
  · rw [hroute]
    exact hsteps
  · decide
  · intro b _
    decide

end Copydesk.Linter
