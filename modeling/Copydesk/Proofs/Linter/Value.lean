import Copydesk.Proofs.Linter.Ending
import Copydesk.Proofs.Linter.RoundTrip
import Copydesk.Proofs.Position.Search

/-! A single value of structured data. Its alerts are placed in the value first and then, with the
value, in the file. Both stages agree on a match that is read where it was placed, but the second
one fails the file on a match that markup crosses, which the first one places by its words. -/

namespace Copydesk.Linter

open Outcome Position Text

section Value

variable {l : Linter} {b : Blueprint} {t : Target} {path file text v name : Text}
  {format : Format} {found : List Alert}

theorem lintValues_singleton (hblank : isBlank v = false) :
    l.lintValues t name format text {} [v] =
      l.lintFormat t format name v >>= fun found => found.mapM (remapValueOne v text {} t.path) := by
  rw [lintValues, hblank, if_neg Bool.false_ne_true]
  congr 1
  funext found
  have hmoved : movedOrFail (remapValue v text {} t.path found) =
      found.mapM (remapValueOne v text {} t.path) := movedOrFail_moveEach _ found
  change (movedOrFail (remapValue v text {} t.path found) >>= fun moved =>
    pure (moved ++ [])) = _
  rw [hmoved]
  simp

section Single

variable (hroute : l.route (l.target path) = .values b)
  (hvalue : b.apply l.tools text (Extension.ofPath path) path = .ok [⟨name, format, [v]⟩])

include hroute hvalue

theorem lintTarget_eq_lintValues :
    l.lintTarget (l.target path) text = l.lintValues (l.target path) name format text {} [v] := by
  have hpath : (l.target path).path = path := rfl
  rw [lintTarget, hroute]
  simp only [lintData]
  rw [hpath, hvalue]
  change (List.mapM (fun f : Blueprint.Found => l.lintValues (l.target path) f.scope f.format text
    {} f.values) [⟨name, format, [v]⟩] >>= fun parts => pure parts.flatten) = _
  rw [List.mapM_cons]
  simp

theorem lintTarget_of_isBlank (hblank : isBlank v = true) :
    l.lintTarget (l.target path) text = .ok [] := by
  rw [lintTarget_eq_lintValues hroute hvalue, lintValues, hblank, if_pos rfl]
  rfl

theorem lintTarget_eq_bind (hblank : isBlank v = false) :
    l.lintTarget (l.target path) text = l.lintFormat (l.target path) format name v >>= fun found =>
      found.mapM (remapValueOne v text {} path) :=
  (lintTarget_eq_lintValues hroute hvalue).trans (lintValues_singleton hblank)

theorem lintTarget_eq_mapM (hblank : isBlank v = false)
    (hfound : l.lintFormat (l.target path) format name v = .ok found) :
    l.lintTarget (l.target path) text = found.mapM (remapValueOne v text {} path) := by
  rw [lintTarget_eq_bind hroute hvalue hblank, hfound]
  rfl

end Single

/-- Alerts that go along with one occurrence keep their order. -/
theorem sort_map_along {before : Text} {n : Nat} {as : List Alert} (hv : '\n' ∉ v)
    (has : ∀ a ∈ as, ReadsInside a v) :
    Alert.sort (as.map (along v before n)) = (Alert.sort as).map (along v before n) := by
  refine (List.map_mergeSort fun a ha b hb => ?_).symm
  obtain ⟨hline, y, z, -, hspan⟩ := (has a ha).exists_append hv
  obtain ⟨hline', y', z', -, hspan'⟩ := (has b hb).exists_append hv
  rw [Bool.eq_iff_iff, Alert.le_iff, Alert.le_iff]
  simp only [along, Alert.moveTo, Span.beginAt, hline, hline', hspan, hspan', Nat.lt_irrefl,
    false_or, true_and]
  omega

theorem remapValueOne_eq_error {a : Alert} {e : LintError} {start : Cursor}
    (h : remapValueOne v text start path a = .error e) : e = .notFound path a.matched := by
  unfold remapValueOne at h
  simp only at h
  split at h
  · cases h
  · exact (Except.error.inj h).symm

end Value

/-- A value is checked in a file of structured data as it is in a file of its own, where no rule
tells the files apart: the same alerts are found in it, and if all are read in the value where they
were placed, they go along with it in their order. An alert that was placed on other text than its
own fails the file, unless its text is there by chance. -/
theorem lint_value_of_lint_alone {l : Linter} {b : Blueprint} {path file text v name : Text}
    {format : Format} {found : List Alert} (hroute : l.route (l.target path) = .values b)
    (hvalue : b.apply l.tools text (Extension.ofPath path) path = .ok [⟨name, format, [v]⟩])
    (halone : l.route (l.target file) = .prose format)
    (hprepare : Markup.prepare l.config file format v = Markup.prepare l.config path format v)
    (he : l.IsBlindTo (ending (l.target file) []))
    (he' : l.IsBlindTo (ending (l.target path) name)) (hv : '\n' ∉ v) (hblank : isBlank v = false)
    (hoccurs : ∃ c, Occurs (trim v) (splitOn '\n' text) c)
    (h : l.lintTarget (l.target file) v = .ok found) :
    ((∀ a ∈ found, ReadsInside a v) → ∃ before n,
      IsLeast {c | Occurs (trim v) (splitOn '\n' text) c} ⟨n, size before⟩ ∧
        l.lint path text = (l.lint file v).map (List.map (along v before n))) ∧
      ((∃ a ∈ found, ∀ raw ∈ splitOn '\n' text, ¬a.head <:+: raw) →
        ∃ m, l.lint path text = .error (.notFound path m)) := by
  have hfound : l.lintFormat (l.target path) format name v = .ok found := by
    rw [lintTarget, halone] at h
    exact lintFormat_congr he he' hprepare h
  have htarget := lintTarget_eq_mapM hroute hvalue hblank hfound
  constructor
  -- all alerts move by one distance, so they stay sorted
  · intro hinside
    obtain ⟨c, hc⟩ := hoccurs
    obtain ⟨n, before, rest, hhit, hline, hleast⟩ := exists_isLeast_occurs (trim_ne_nil hblank) hc
    have hmoved : found.mapM (remapValueOne v text {} path) =
        .ok (found.map (along v before n)) :=
      mapM_eq_map fun a ha => remapValueOne_eq_along hv hhit hline rfl (hinside a ha)
    refine ⟨before, n, hleast, ?_⟩
    rw [lint_eq_sort h, lint_eq_sort (htarget.trans hmoved), List.filter_map]
    exact congrArg Except.ok
      (sort_map_along hv fun a ha => hinside a (List.mem_filter.mp ha).1)
  -- one alert without a place is enough, though an earlier one may be reported
  · rintro ⟨a, ha, hnowhere⟩
    cases hmoved : found.mapM (remapValueOne v text {} path) with
    | ok moved =>
      obtain ⟨a', ha'⟩ := exists_ok_of_mapM hmoved ha
      exact absurd ha' (not_remapValueOne_eq_ok hnowhere)
    | error e =>
      obtain ⟨a', -, ha'⟩ := exists_error_of_mapM hmoved
      obtain rfl := remapValueOne_eq_error ha'
      exact ⟨a'.matched, lint_eq_error (htarget.trans hmoved)⟩

def htmlBlueprint : Blueprint :=
  ⟨"Html", .selectors [{ name := "a", query := ⟨".a", [.key "a"]⟩, kind := "html" }]⟩

/-- A linter with one rule, about a text of one's choice. -/
def htmlLinter (literal : Text) : Linter :=
  ofRules { blueprints := [("*.json", "Html")] }
    ⟨[.ofLiteral "House.Word" literal ["text"]], ["text"], false, .suggestion⟩
    [("Html", htmlBlueprint)]

/-- Two words, one of them within a tag. -/
def taggedValue : Text := "very <b>good</b>"

def taggedMember : Text := "\x7b\"a\": \"very <b>good</b>\"\x7d"

def goodAlert : Alert := ⟨"House.Word", .warning, "Avoid 'good'.", [], [], 1, ⟨9, 12⟩, "good"⟩

def veryGoodAlert : Alert :=
  ⟨"House.Word", .warning, "Avoid 'very good'.", [], [], 1, ⟨1, 12⟩, "very good"⟩

section Example

variable {literal : Text}

theorem route_htmlLinter :
    (htmlLinter literal).route ((htmlLinter literal).target "a.json") = .values htmlBlueprint ∧
      (htmlLinter literal).route ((htmlLinter literal).target "a.html") = .prose .html := by
  refine ⟨by cbv, by cbv⟩

theorem isBlindTo_htmlLinter :
    (htmlLinter literal).IsBlindTo (ending ((htmlLinter literal).target "a.html") []) ∧
      (htmlLinter literal).IsBlindTo (ending ((htmlLinter literal).target "a.json") "a") := by
  have hsection : ∀ part ∈ (["text", "code", "tt"] : List String),
      (ScopeSelector.ofText part.toList).sections = [part.toList] := by decide
  have hblind (e : Text) (he : Html.Walker.IsEnding e)
      (hsections : ∀ part ∈ (["text", "code", "tt", "heading"] : List String),
        part.toList ∉ splitOn '.' e) :
      (htmlLinter literal).IsBlindTo e := by
    refine ⟨he, ?_, ?_, hsections "heading" (by simp), nofun⟩
    · intro c hc s hs part hpart
      obtain rfl := List.mem_singleton.mp hc
      obtain rfl := List.mem_singleton.mp hs
      rw [hsection "text" (by simp), List.mem_singleton] at hpart
      exact hpart ▸ hsections "text" (by simp)
    · intro raw hraw part hpart
      rcases List.mem_pair.mp hraw with rfl | rfl
      · rw [hsection "code" (by simp), List.mem_singleton] at hpart
        exact hpart ▸ hsections "code" (by simp)
      · rw [hsection "tt" (by simp), List.mem_singleton] at hpart
        exact hpart ▸ hsections "tt" (by simp)
  have hhtml : ending ((htmlLinter literal).target "a.html") [] = "html".toList := by cbv
  have hjson : ending ((htmlLinter literal).target "a.json") "a" = "a.json".toList := by cbv
  rw [hhtml, hjson]
  exact ⟨hblind _ ⟨by decide, by decide, by decide⟩ (by decide),
    hblind _ ⟨by decide, by decide, by decide⟩ (by decide)⟩

theorem apply_taggedMember : htmlBlueprint.apply (htmlLinter literal).tools taggedMember
    (Extension.ofPath "a.json") "a.json" = .ok [⟨"a", .html, [taggedValue]⟩] := by
  cbv

theorem prepare_taggedValue :
    Markup.prepare (htmlLinter literal).config "a.html" .html taggedValue =
      Markup.prepare (htmlLinter literal).config "a.json" .html taggedValue := by
  cbv

theorem markupBlocks_taggedValue :
    (htmlLinter literal).markupBlocks ((htmlLinter literal).target "a.html") .html [] taggedValue =
      .ok [.ofText "very good" "text.html"] := by
  cbv

theorem lintTarget_taggedValue :
    (htmlLinter "good").lintTarget ((htmlLinter "good").target "a.html") taggedValue =
        .ok [goodAlert] ∧
      (htmlLinter "very good").lintTarget ((htmlLinter "very good").target "a.html") taggedValue =
        .ok [veryGoodAlert] := by
  rw [lintTarget, lintTarget, route_htmlLinter.2, route_htmlLinter.2]
  exact ⟨bind_eq_ok_iff.mpr ⟨_, markupBlocks_taggedValue, by cbv⟩,
    bind_eq_ok_iff.mpr ⟨_, markupBlocks_taggedValue, by cbv⟩⟩

end Example

/-- The word within the tag is read where it was placed, and goes along with the value. -/
theorem lint_taggedMember_good : ∃ before n,
    IsLeast {c | Occurs (trim taggedValue) (splitOn '\n' taggedMember) c} ⟨n, size before⟩ ∧
      (htmlLinter "good").lint "a.json" taggedMember =
        ((htmlLinter "good").lint "a.html" taggedValue).map
          (List.map (along taggedValue before n)) := by
  have hinside : ∀ a ∈ [goodAlert], ReadsInside a taggedValue := by
    intro a ha
    obtain rfl := List.mem_singleton.mp ha
    exact ⟨⟨by decide, by decide, taggedValue, by decide, by decide⟩, by decide, by decide⟩
  have hoccurs : ∃ c, Occurs (trim taggedValue) (splitOn '\n' taggedMember) c :=
    ⟨⟨0, 7⟩, "\x7b\"a\": \"".toList, "\"\x7d".toList, by decide, by decide⟩
  exact (lint_value_of_lint_alone route_htmlLinter.1 apply_taggedMember route_htmlLinter.2
    prepare_taggedValue isBlindTo_htmlLinter.1 isBlindTo_htmlLinter.2 (by decide) (by decide)
    hoccurs lintTarget_taggedValue.1).1 hinside

/-- A match that crosses the tag is placed by its words in a file of its own, but in the data it
fails the file. -/
theorem lint_taggedMember_veryGood :
    (htmlLinter "very good").lint "a.html" taggedValue = .ok [veryGoodAlert] ∧
      (htmlLinter "very good").lint "a.json" taggedMember =
        .error (.notFound "a.json" "very good") := by
  have hfound : (htmlLinter "very good").lintFormat ((htmlLinter "very good").target "a.json")
      .html "a" taggedValue = .ok [veryGoodAlert] := by
    have halone := lintTarget_taggedValue.2
    rw [lintTarget, route_htmlLinter.2] at halone
    exact lintFormat_congr isBlindTo_htmlLinter.1 isBlindTo_htmlLinter.2 prepare_taggedValue halone
  have htarget := lintTarget_eq_mapM route_htmlLinter.1 apply_taggedMember (by decide) hfound
  exact ⟨(lint_eq_sort lintTarget_taggedValue.2).trans (by cbv),
    lint_eq_error (htarget.trans (by cbv))⟩

end Copydesk.Linter
