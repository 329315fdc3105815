import Copydesk.Config.Reader
import Copydesk.Proofs.Outcome

/-! The configurations that are accepted. -/

namespace Copydesk

open Outcome

def Glob.IsWellFormed (pattern : Text) : Prop := ∃ g, Glob.ofText pattern = .ok g

namespace Config

/-- The configuration names its version, its globs and the patterns of what counts as code can be
read, and delimiters come in pairs. -/
structure IsValid (c : Config) : Prop where
  version : c.settings.version = ['1']
  files : ∀ p ∈ c.settings.includes ++ c.settings.excludes, Glob.IsWellFormed p
  blueprints : ∀ e ∈ c.blueprints, Glob.IsWellFormed e.1
  tokenIgnores : ∀ e ∈ c.tokenIgnores, Glob.IsWellFormed e.1 ∧
    ∀ p ∈ e.2, ∃ r, Regex.compile p = .ok r
  delimiters : ∀ e ∈ c.delimiters, Glob.IsWellFormed e.1 ∧
    ∃ start stop, e.2 = [start, stop] ∧ start ≠ [] ∧ stop ≠ []

variable {kind glob pattern path start stop : Text} {pair : List Text} {c : Config}

theorem checkGlob_eq_ok_iff : checkGlob kind pattern = .ok () ↔ Glob.IsWellFormed pattern := by
  unfold checkGlob Glob.IsWellFormed
  cases Glob.ofText pattern with
  | ok g => exact ⟨fun _ => ⟨g, rfl⟩, fun _ => rfl⟩
  | error f =>
    constructor
    · intro h
      cases h
    · rintro ⟨g, hg⟩
      cases hg

theorem checkTokenIgnore_eq_ok_iff :
    checkTokenIgnore glob pattern = .ok () ↔ ∃ r, Regex.compile pattern = .ok r := by
  unfold checkTokenIgnore
  cases Regex.compile pattern with
  | ok r => exact ⟨fun _ => ⟨r, rfl⟩, fun _ => rfl⟩
  | error e =>
    constructor
    · intro h
      cases h
    · rintro ⟨r, hr⟩
      cases hr

theorem arePair_iff : ¬(pair.length != 2 || pair.any List.isEmpty) = true ↔
    ∃ start stop, pair = [start, stop] ∧ start ≠ [] ∧ stop ≠ [] := by
  match pair with
  | [] => simp
  | [_] => simp
  | [start, stop] =>
    constructor
    · intro h
      exact ⟨start, stop, rfl, by simpa using h⟩
    · rintro ⟨_, _, hpair, h⟩
      cases hpair
      simpa using h
  | _ :: _ :: _ :: _ => simp

theorem checkDelimiters_eq_ok_iff : checkDelimiters glob pair = .ok () ↔
    Glob.IsWellFormed glob ∧ ∃ start stop, pair = [start, stop] ∧ start ≠ [] ∧ stop ≠ [] := by
  unfold checkDelimiters
  rw [bind_unit_eq_ok_iff, checkGlob_eq_ok_iff, unless_eq_ok_iff, arePair_iff]

/-- Exactly the valid configurations are accepted. -/
theorem validate_eq_ok_iff : c.validate = .ok () ↔ c.IsValid := by
  unfold validate
  simp only [unless_bind_eq_ok_iff, bind_unit_eq_ok_iff, forM_eq_ok_iff, checkGlob_eq_ok_iff,
    checkDelimiters_eq_ok_iff, checkTokenIgnore_eq_ok_iff]
  constructor
  · rintro ⟨hversion, hfiles, hblueprints, hignores, hdelimiters, hpatterns⟩
    exact ⟨by simpa using hversion, hfiles, hblueprints,
      fun e he => ⟨hignores e he, hpatterns e he⟩, hdelimiters⟩
  · intro h
    exact ⟨by simpa using h.version, h.files, h.blueprints, fun e he => (h.tokenIgnores e he).1,
      h.delimiters, fun e he => (h.tokenIgnores e he).2⟩

theorem IsValid.ne_nil_of_delimitersFor? (hc : c.IsValid)
    (h : c.delimitersFor? path = some (start, stop)) : start ≠ [] ∧ stop ≠ [] := by
  unfold delimitersFor? at h
  split at h
  · rename_i start' stop' hhead
    obtain ⟨rfl, rfl⟩ := Prod.mk.inj (Option.some.inj h)
    obtain ⟨e, he, hpair⟩ := List.mem_map.mp (List.mem_of_head? hhead)
    obtain ⟨-, start, stop, heq, hstart, hstop⟩ := hc.delimiters e (List.mem_filter.mp he).1
    obtain ⟨rfl, hrest⟩ := List.cons.inj (hpair.symm.trans heq)
    obtain rfl := List.singleton_inj.mp hrest
    exact ⟨hstart, hstop⟩
  · cases h

end Config

end Copydesk
