import Copydesk.Comment.Extract
import Copydesk.Proofs.Config.Valid
import Copydesk.Proofs.Linter.Block
import Copydesk.Proofs.Linter.Extraction
import Copydesk.Proofs.Outcome
import Copydesk.Proofs.Regex.Literal
import Copydesk.Walk.Basic

/-! What is found below a folder is checked as what it was found to be. The exception is source code
for which only delimiters are configured that are too long to be searched for. -/

namespace Copydesk.Comment

open Regex Outcome
open Text (size)

variable {start stop : Text}

/-- A pair of delimiters too long for the longest of its patterns, which encloses a comment. -/
theorem Syntax.ofDelimiters?_eq_none_iff :
    Syntax.ofDelimiters? start stop = none ↔ weightLimit < size start + size stop + 4 := by
  simp only [Syntax.ofDelimiters?, compile_enclosed, compile_escape, compile_either]
  by_cases h : weightLimit < size start + size stop + 4
  · simp only [h, if_true]
  · have hstart : ¬weightLimit < max 1 (size start) := by omega
    have hstop : ¬weightLimit < max 1 (size stop) := by omega
    have heither : ¬weightLimit < max 1 (size start) + max 1 (size stop) + 1 := by omega
    simp only [h, hstart, hstop, heither, if_false, reduceCtorEq]

/-- Nothing is known of how to find the comments of an extension: it has no grammar and no syntax of
its own, and no delimiters that are short enough are configured for it. -/
def IsUnknown (languages : Registry) (ext : Text) (delimiters : Option (Text × Text)) : Prop :=
  languages.find? ext = none ∧ Syntax.ofExtension? ext = none ∧
    ∀ start stop, delimiters = some (start, stop) →
      weightLimit < size start + size stop + 4

theorem extract?_eq_none_iff {languages : Registry} {ext source : Text}
    {queries : Option (List Query)} {delimiters : Option (Text × Text)} :
    extract? languages ext queries delimiters source = .ok none ↔
      IsUnknown languages ext delimiters := by
  unfold extract? IsUnknown
  cases hlanguage : languages.find? ext with
  | some l =>
    simp only [bind_eq_ok_iff, pure_eq_ok_iff, reduceCtorEq, and_false, exists_false, false_and]
  | none =>
    simp only [pure_eq_ok_iff, Option.map_eq_none_iff, Option.or_eq_none_iff,
      Option.bind_eq_none_iff, Prod.forall, Syntax.ofDelimiters?_eq_none_iff, true_and]

end Copydesk.Comment

namespace Copydesk

open Outcome

namespace Extension

variable {aliases : List (Text × Text)} {ext : Text}

theorem eq_dot_of_toLower {c : Char} (h : c.toLower = '.') : c = '.' := by
  by_cases hupper : 'A'.val ≤ c.val ∧ c.val ≤ 'Z'.val
  · have hlower : c.toLower.val = c.val + 32 := congrArg Char.val (dif_pos hupper)
    have hlow : 65 ≤ c.val.toNat := UInt32.le_iff_toNat_le.mp hupper.1
    have hhigh : c.val.toNat ≤ 90 := UInt32.le_iff_toNat_le.mp hupper.2
    have hval := congrArg UInt32.toNat hlower
    rw [h, UInt32.toNat_add] at hval
    change 46 = (c.val.toNat + 32) % 4294967296 at hval
    omega
  · have hlower : c.toLower = c := dif_neg hupper
    exact hlower.symm.trans h

theorem head?_dropWhile_dot (t : Text) : (t.dropWhile (· == '.')).head? ≠ some '.' := by
  intro h
  have hnot := List.head?_dropWhile_not (· == '.') t
  rw [h] at hnot
  cases hnot

theorem head?_asciiLower_ne (h : ext.head? ≠ some '.') :
    (Text.asciiLower ext).head? ≠ some '.' := by
  rw [Text.asciiLower, List.head?_map]
  intro hlower
  obtain ⟨c, hc, hdot⟩ := Option.map_eq_some_iff.mp hlower
  exact h (hc.trans (congrArg some (eq_dot_of_toLower hdot)))

theorem head?_canonical_ne (h : ext.head? ≠ some '.') : (canonical ext).head? ≠ some '.' := by
  unfold canonical
  split
  all_goals first | exact h | decide

theorem head?_normalize_ne : (normalize aliases ext).head? ≠ some '.' := by
  unfold normalize
  simp only
  split
  · exact head?_dropWhile_dot _
  · exact head?_canonical_ne (head?_asciiLower_ne (head?_dropWhile_dot _))

end Extension

theorem Comment.Registry.isSome_find? (r : Comment.Registry) {ext : Text}
    (h : ext.head? ≠ some '.') : (r.find? ext).isSome = r.extensions.contains ext := by
  have hdrop : ext.dropWhile (· == '.') = ext := by
    cases ext with
    | nil => rfl
    | cons c t => exact List.dropWhile_cons_of_neg (by simpa using h)
  rw [find?, hdrop, Bool.eq_iff_iff]
  simp [extensions, List.lookup_isSome_iff]

namespace Config

variable {c : Config} {path : Text}

theorem blueprintFor?_eq_none_iff : c.blueprintFor? path = none ↔
    ∀ e ∈ c.blueprints, Glob.accepts e.1 path = false := by
  simp [blueprintFor?, matching]

theorem matching_delimiters (hc : c.IsValid) {pair : List Text}
    (h : pair ∈ matching c.delimiters path) : ∃ start stop, pair = [start, stop] := by
  obtain ⟨e, he, rfl⟩ := List.mem_map.mp h
  obtain ⟨-, start, stop, hpair, -⟩ := hc.delimiters e (List.mem_filter.mp he).1
  exact ⟨start, stop, hpair⟩

theorem delimitersFor?_eq_none_iff (hc : c.IsValid) : c.delimitersFor? path = none ↔
    ∀ e ∈ c.delimiters, Glob.accepts e.1 path = false := by
  have hmatching : matching c.delimiters path = [] ↔
      ∀ e ∈ c.delimiters, Glob.accepts e.1 path = false := by
    simp [matching]
  rw [← hmatching, delimitersFor?]
  cases h : matching c.delimiters path with
  | nil => simp
  | cons pair pairs =>
    obtain ⟨start, stop, rfl⟩ := matching_delimiters hc (h ▸ List.mem_cons_self)
    simp

end Config

namespace Walk

variable {patterns : List Text} {gs : List Glob} {path ext : Text} {c : Config}
  {languages : Comment.Registry} {d : Detector}

theorem exists_readGlobs_eq_ok (h : ∀ p ∈ patterns, Glob.IsWellFormed p) :
    ∃ gs, readGlobs patterns = .ok gs := by
  induction patterns with
  | nil => exact ⟨[], rfl⟩
  | cons p ps ih =>
    obtain ⟨g, hg⟩ := h p List.mem_cons_self
    obtain ⟨gs, hgs⟩ := ih fun q hq => h q (List.mem_cons_of_mem p hq)
    exact ⟨g :: gs, mapM_cons_eq_ok_iff.mpr ⟨g, gs, mapError_eq_ok_iff.mpr hg, hgs, rfl⟩⟩

theorem any_admits_of_readGlobs (h : readGlobs patterns = .ok gs) :
    gs.any (·.admits path) = patterns.any (Glob.accepts · path) := by
  induction patterns generalizing gs with
  | nil =>
    cases h
    rfl
  | cons p ps ih =>
    obtain ⟨g, gs, hg, hgs, rfl⟩ := mapM_cons_eq_ok_iff.mp h
    have haccepts : Glob.accepts p path = g.admits path := by
      rw [Glob.accepts, mapError_eq_ok_iff.mp hg]
    rw [List.any_cons, List.any_cons, ih hgs, haccepts]

namespace Detector

theorem exists_ofConfig_eq_ok (languages : Comment.Registry) (hc : c.IsValid) :
    ∃ d, ofConfig c languages = .ok d := by
  obtain ⟨bs, hbs⟩ : ∃ bs, readGlobs (c.blueprints.map (·.1)) = .ok bs :=
    exists_readGlobs_eq_ok (by simpa using fun g name he => hc.blueprints (g, name) he)
  obtain ⟨ds, hds⟩ : ∃ ds, readGlobs (c.delimiters.map (·.1)) = .ok ds :=
    exists_readGlobs_eq_ok (by simpa using fun g pair he => (hc.delimiters (g, pair) he).1)
  exact ⟨⟨c.formats, languages.extensions, bs, ds⟩, by rw [ofConfig, hbs, hds]; rfl⟩

/-- What a detector has of the configuration and the languages. -/
structure Knows (d : Detector) (c : Config) (languages : Comment.Registry) : Prop where
  aliases : d.aliases = c.formats
  grammars : d.grammars = languages.extensions
  blueprints : ∀ path, d.blueprints.any (·.admits path) = false ↔ c.blueprintFor? path = none
  delimiters : ∀ path, d.delimiters.any (·.admits path) = false ↔ c.delimitersFor? path = none

theorem knows_of_ofConfig (hc : c.IsValid) (h : ofConfig c languages = .ok d) :
    d.Knows c languages := by
  obtain ⟨bs, hbs, h⟩ := bind_eq_ok_iff.mp h
  obtain ⟨ds, hds, h⟩ := bind_eq_ok_iff.mp h
  obtain rfl := pure_eq_ok_iff.mp h
  refine ⟨rfl, rfl, fun path => ?_, fun path => ?_⟩
  · rw [any_admits_of_readGlobs hbs, Config.blueprintFor?_eq_none_iff]
    simp
  · rw [any_admits_of_readGlobs hds, Config.delimitersFor?_eq_none_iff hc]
    simp

variable {path ext : Text}

/-- Code is passed over where its extension has no grammar and no syntax and no delimiters are
configured. -/
theorem findsComments_eq_false_iff (hd : d.Knows c languages) (hext : ext.head? ≠ some '.') :
    d.findsComments ext path = false ↔ languages.find? ext = none ∧
      Comment.Syntax.ofExtension? ext = none ∧ c.delimitersFor? path = none := by
  rw [findsComments, hd.grammars, ← Comment.Registry.isSome_find? languages hext,
    Bool.or_eq_false_iff, Bool.or_eq_false_iff, hd.delimiters, Option.isSome_eq_false_iff,
    Option.isSome_eq_false_iff, Option.isNone_iff_eq_none, Option.isNone_iff_eq_none, and_assoc]

theorem detect?_eq_some_of_blueprint (hext : Path.extension? path = some ext)
    (h : d.blueprints.any (·.admits path) = true) :
    d.detect? path = some (Format.ofExtension (Extension.normalize d.aliases ext)) := by
  rw [detect?, hext]
  simp only [Option.bind_eq_bind, Option.bind_some, h, if_true]
  rfl

/-- Without a blueprint, the format is that of the extension, but data and code whose comments
cannot be found are passed over. -/
theorem detect?_eq_some_iff (hext : Path.extension? path = some ext)
    (h : d.blueprints.any (·.admits path) = false) {f : Format} :
    d.detect? path = some f ↔ f = Format.ofExtension (Extension.normalize d.aliases ext) ∧
      f ≠ .data ∧
        (f = .code → d.findsComments (Extension.normalize d.aliases ext) path = true) := by
  rw [detect?, hext]
  simp only [Option.bind_eq_bind, Option.bind_some, h, Bool.false_eq_true, if_false]
  generalize Format.ofExtension (Extension.normalize d.aliases ext) = format
  cases format with
  | data =>
    refine ⟨fun hnone => (by cases hnone), ?_⟩
    rintro ⟨rfl, hdata, -⟩
    exact absurd rfl hdata
  | code =>
    change (if d.findsComments _ path = true then some Format.code else none) = some f ↔ _
    by_cases hfinds : d.findsComments (Extension.normalize d.aliases ext) path = true
    · rw [if_pos hfinds, Option.some.injEq]
      exact ⟨fun hf => hf ▸ ⟨rfl, nofun, fun _ => hfinds⟩, fun hf => hf.1.symm⟩
    · rw [if_neg hfinds]
      exact ⟨fun hnone => (by cases hnone), fun ⟨hf, _, hcode⟩ => absurd (hcode hf) hfinds⟩
  | _ =>
    change some _ = some f ↔ _
    rw [Option.some.injEq]
    exact ⟨fun hf => hf ▸ ⟨rfl, nofun, nofun⟩, fun hf => hf.1.symm⟩

end Detector

theorem detect?_eq_some_iff {f : Format} : detect? c languages path = some f ↔
    ∃ d, Detector.ofConfig c languages = .ok d ∧ d.detect? path = some f := by
  rw [detect?, Option.bind_eq_bind, Option.bind_eq_some_iff]
  simp only [toOption_eq_some_iff]

end Walk

end Copydesk
