import Copydesk.Linter
import Copydesk.Proofs.Linter.RoundTrip
import Copydesk.Proofs.Markup.Neutralize
import Copydesk.Proofs.Position.Locator
import Mathlib

/-! Exact hits in rendered markup. Whatever was asked of the locator before, a match that it finds as
it is written stands in the file at that place. Stretches that count as code are searched too, though
they are no part of the blocks: an alert from elsewhere may be placed in one that reads like its
match. -/

namespace Copydesk.Linter

open Markup Outcome Position Text

theorem mem_marks {c : Char} : c ∈ ['*', '\x60'] ↔ c = '*' ∨ c = '\x60' := by
  simp only [List.mem_cons, List.not_mem_nil, or_false]

theorem marks_areBytes : AreBytes ['*', '\x60'] := by
  intro m hm
  rcases mem_marks.mp hm with rfl | rfl <;> rfl

theorem masks_searchable (format : Format) (text : Text) :
    Masks ['*', '\x60'] text (searchable format text) := by
  have hhide (t : Text) : Masks ['*', '\x60'] t (Markup.searchable format t) :=
    (Markup.masks_searchable format t).mono (by simp)
  have hfence : Masks ['*', '\x60'] text (fenceFrontMatter text) :=
    (masks_fenceFrontMatter text).mono (by simp)
  unfold searchable
  split
  · exact hfence.trans marks_areBytes (hhide _)
  · exact hfence.trans marks_areBytes (hhide _)
  · exact hhide text

/-- A match that is found as it is written stands in the file where its alert is placed. -/
theorem slice?_of_asWritten? {format : Format} {path text : Text} {calls : List Locator.Call}
    {a : Alert} {i j : Nat} (hn : ∀ c ∈ a.matched, c ≠ '*' ∧ c ≠ '\x60')
    (h : ((locator format path text).run calls).asWritten? a.check a.matched = some (i, j)) :
    isBoundary text i = true ∧ isBoundary text j = true ∧ slice? text i j = some a.matched ∧
      ∃ l', ((locator format path text).run calls).place a =
        .ok (a.moveTo (locate text i j), l') := by
  obtain ⟨hsource, hsearch⟩ := Locator.texts_run (locator format path text) calls
  generalize (locator format path text).run calls = l at h hsource hsearch
  have hmask : Masks ['*', '\x60'] l.source l.searchable := by
    rw [hsource, hsearch]
    exact masks_searchable format text
  have hplace : l.range? a.check a.matched = some (i, j) := by
    rw [Locator.range?, h, Option.some_or]
  obtain ⟨rfl, start, hmem⟩ := Locator.exists_mem_candidates_of_asWritten? h
  obtain ⟨hi, hj, -⟩ := Locator.exists_append_of_mem_candidates hmem
  have hslice := Locator.slice?_of_mem_candidates marks_areBytes hmask hmem fun c hc hm => by
    rcases mem_marks.mp hm with rfl | rfl
    · exact (hn _ hc).1 rfl
    · exact (hn _ hc).2 rfl
  have hsource : l.source = text := hsource
  rw [hsource] at hi hj hslice
  refine ⟨hi, hj, hslice, _, Locator.place_eq_ok_iff.mpr ⟨i, _, hplace, ?_, rfl⟩⟩
  rw [hsource]

/-- Three times the same word, at first within a tag. -/
def taggedText : Text := "<b id=bad>bad</b> bad"

def taggedAlert : Alert := ⟨"House.Bad", .warning, "Avoid 'bad'.", [], [], 1, ⟨1, 1⟩, "bad"⟩

def taggedCalls : List Locator.Call := [.enterBlock "bad bad", .place taggedAlert]

/-- The second alert passes over the tag and over what the first one claimed. -/
theorem slice?_taggedText :
    ((locator .html "a.html" taggedText).run taggedCalls).asWritten? taggedAlert.check
        taggedAlert.matched = some (18, 21) ∧
      slice? taggedText 18 21 = some taggedAlert.matched := by
  have h : ((locator .html "a.html" taggedText).run taggedCalls).asWritten? taggedAlert.check
      taggedAlert.matched = some (18, 21) := by cbv
  have hmarks : (taggedAlert.matched.all fun c => c ≠ '*' ∧ c ≠ '\x60') = true := by decide
  have hn : ∀ c ∈ taggedAlert.matched, c ≠ '*' ∧ c ≠ '\x60' := by
    intro c hc
    exact of_decide_eq_true (List.all_eq_true.mp hmarks c hc)
  exact ⟨h, (slice?_of_asWritten? hn h).2.2.1⟩

theorem slice?_of_asWritten?_html {path text : Text} {calls : List Locator.Call}
    {check needle : Text} {i j : Nat} (hstar : '*' ∉ needle)
    (h : ((locator .html path text).run calls).asWritten? check needle = some (i, j)) :
    slice? text i j = some needle := by
  obtain ⟨hsource, hsearch⟩ := Locator.texts_run (locator .html path text) calls
  generalize (locator .html path text).run calls = loc at h hsource hsearch
  have hsource : loc.source = text := hsource
  have hmask : Masks ['*'] loc.source loc.searchable := by
    rw [hsource, hsearch]
    exact Markup.masks_searchable .html text
  obtain ⟨rfl, start, hmem⟩ := Locator.exists_mem_candidates_of_asWritten? h
  rw [← hsource]
  refine Locator.slice?_of_mem_candidates asterisk_areBytes hmask hmem fun c hc hm => hstar ?_
  rwa [← List.mem_singleton.mp hm]

/-- The alert was found on a block of the file and then placed. Where the locator found its match as
it is written, the alert stands there, and every stretch of the file around it reads like the
match. -/
def StandsAlike (l : Linter) (path text : Text) (a : Alert) : Prop :=
  ∃ bs, l.markupBlocks (l.target path) .html [] text = .ok bs ∧
    ∃ b ∈ bs, ∃ found, l.lintBlock b = .ok found ∧ ∃ a₀ ∈ found, ∃ calls loc',
      ((locator .html path text).run calls).place a₀ = .ok (a, loc') ∧
        ∀ i j, ((locator .html path text).run calls).asWritten? a₀.check a₀.matched = some (i, j) →
          a = a₀.moveTo (locate text i j) ∧ ∀ p q m, slice? text p q = some m → p ≤ i → j ≤ q →
            a.matched <:+: m

/-- An excluded stretch of an HTML file receives an alert from elsewhere only if the match stands in
it word for word. -/
theorem standsAlike_of_mem_lint {l : Linter} {path text : Text} {as : List Alert} {a : Alert}
    (hroute : l.route (l.target path) = .prose .html) (h : l.lint path text = .ok as)
    (ha : a ∈ as) (hstar : '*' ∉ a.matched) : l.StandsAlike path text a := by
  obtain ⟨found, hfound, ha⟩ := exists_mem_of_mem_lint h ha
  rw [lintTarget, hroute] at hfound
  obtain ⟨bs, hbs, hfound⟩ := bind_eq_ok_iff.mp hfound
  have hfound : l.lintBlocks (locator .html path text) bs = .ok found := hfound
  obtain ⟨b, hb, onBlock, honBlock, a₀, ha₀, calls, loc', hplace⟩ :=
    exists_place_of_mem_lintBlocks hfound ha
  refine ⟨bs, hbs, b, hb, onBlock, honBlock, a₀, ha₀, calls, loc', hplace, fun i j hij => ?_⟩
  obtain ⟨i', j', hrange, rfl, -⟩ := Locator.place_eq_ok_iff.mp hplace
  rw [Locator.range?, hij, Option.some_or] at hrange
  obtain ⟨rfl, rfl⟩ := Prod.mk.inj (Option.some.inj hrange)
  obtain ⟨hsource, -⟩ := Locator.texts_run (locator .html path text) calls
  refine ⟨by rw [hsource]; rfl, fun p q m hm hp hq => ?_⟩
  exact infix_of_slice? (slice?_of_asWritten?_html hstar hij) hm hp hq

/-- A linter for which `x bad` is code in HTML. -/
def ignoringLinter : Linter :=
  ofRules { tokenIgnores := [("*.html", ["x bad"])] } (.house ["text"] ["text"]) []

def ignoredText : Text := "See x bad or bad."

def ignoredAlert : Alert := Alert.house.moveTo ⟨1, ⟨7, 9⟩⟩

theorem markupBlocks_ignoredText :
    ignoringLinter.markupBlocks (ignoringLinter.target "a.html") .html [] ignoredText =
      .ok [.ofText "See  or bad." "text.html"] := by
  cbv

theorem route_ignoringLinter :
    ignoringLinter.route (ignoringLinter.target "a.html") = .prose .html := by
  cbv

theorem lint_ignored : ignoringLinter.lint "a.html" ignoredText = .ok [ignoredAlert] := by
  have hfound : ignoringLinter.lintTarget (ignoringLinter.target "a.html") ignoredText =
      .ok [ignoredAlert] := by
    rw [lintTarget, route_ignoringLinter]
    exact bind_eq_ok_iff.mpr ⟨_, markupBlocks_ignoredText, by cbv⟩
  exact (lint_eq_sort hfound).trans (by cbv)

theorem standsAlike_ignoredAlert :
    ignoringLinter.lint "a.html" ignoredText = .ok [ignoredAlert] ∧
      ignoringLinter.StandsAlike "a.html" ignoredText ignoredAlert :=
  ⟨lint_ignored, standsAlike_of_mem_lint route_ignoringLinter lint_ignored List.mem_cons_self
    (by decide)⟩

/-- The word is no part of any block where it counts as code, but it is found there when the other
one is looked for. -/
theorem lint_ignoredText :
    Markup.prepare ignoringLinter.config "a.html" .html ignoredText =
        .ok "See <code>x bad</code> or bad." ∧
      ignoringLinter.markupBlocks (ignoringLinter.target "a.html") .html [] ignoredText =
        .ok [.ofText "See  or bad." "text.html"] ∧
      ignoringLinter.lint "a.html" ignoredText = .ok [ignoredAlert] ∧
      ((locator .html "a.html" ignoredText).run [.enterBlock "See  or bad."]).asWritten?
        "House.Bad" "bad" = some (6, 9) ∧
      slice? ignoredText 4 9 = some "x bad" := by
  refine ⟨by cbv, markupBlocks_ignoredText, lint_ignored, by cbv, by cbv⟩

end Copydesk.Linter
