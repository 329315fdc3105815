import Copydesk.Markup.Prepare
import Copydesk.Proofs.Linter.Detection

/-! What is checked of a configuration is what a run needs of it. The exception is the length of
comment delimiters: they are patterns in their own right where a file is searched for comments, and
nothing is said of those that are too long for it. -/

namespace Copydesk

open Outcome Walk

namespace Config

variable {c : Config} {path text p start stop : Text} {format : Format}

theorem IsValid.exists_compile_eq_ok (hc : c.IsValid) (hp : p ∈ c.tokenIgnoresFor path) :
    ∃ r, Regex.compile p = .ok r := by
  obtain ⟨patterns, hpatterns, hp⟩ := List.mem_flatten.mp hp
  obtain ⟨e, he, rfl⟩ := List.mem_map.mp hpatterns
  exact (hc.tokenIgnores e (List.mem_filter.mp he).1).2 p hp

section Prepare

open Markup

theorem IsValid.exists_withNativeComments_eq_ok (hc : c.IsValid) (path : Text) (format : Format)
    (t : Text) :
    ∃ t', withNativeComments c path format t = .ok t' := by
  unfold withNativeComments
  cases hpair : c.delimitersFor? path with
  | none => exact ⟨t, rfl⟩
  | some pair =>
    obtain ⟨hstart, hstop⟩ := hc.ne_nil_of_delimitersFor? hpair
    dsimp only
    rw [if_neg (by simp [hstart, hstop])]
    cases nativeDelimiters? format with
    | none => exact ⟨t, rfl⟩
    | some native => exact ⟨_, rfl⟩

theorem exists_markCode_eq_ok {marks : Text × Text} (hp : ∃ r, Regex.compile p = .ok r) (t : Text) :
    ∃ t', markCode marks t p = .ok t' := by
  obtain ⟨r, hr⟩ := hp
  rw [markCode, hr]
  exact ⟨_, rfl⟩

theorem IsValid.exists_prepare_eq_ok (hc : c.IsValid) (path : Text) (format : Format) (t : Text) :
    ∃ t', prepare c path format t = .ok t' := by
  refine exists_bind_eq_ok (hc.exists_withNativeComments_eq_ok path format _) fun t' => ?_
  cases codeMarks? format with
  | none => exact ⟨t', rfl⟩
  | some marks =>
    exact exists_foldlM_eq_ok (fun p hp => exists_markCode_eq_ok (hc.exists_compile_eq_ok hp)) t'

end Prepare

theorem IsValid.exists_ofPatterns_eq_ok (hc : c.IsValid) (languages : Comment.Registry) :
    ∃ o, Options.ofPatterns c languages c.settings.includes c.settings.excludes = .ok o := by
  obtain ⟨d, hd⟩ := Detector.exists_ofConfig_eq_ok languages hc
  obtain ⟨includes, hincludes⟩ := exists_readGlobs_eq_ok
    fun p (hp : p ∈ c.settings.includes) => hc.files p (List.mem_append_left _ hp)
  have hexcludes : ∀ p ∈ c.settings.excludes ++ ["**/.git/**".toList], Glob.IsWellFormed p := by
    intro p hp
    rcases List.mem_append.mp hp with hp | hp
    · exact hc.files p (List.mem_append_right _ hp)
    · obtain rfl := List.mem_singleton.mp hp
      exact ⟨_, rfl⟩
  obtain ⟨excludes, hexcludes⟩ := exists_readGlobs_eq_ok hexcludes
  refine ⟨⟨d, includes, excludes⟩, ?_⟩
  rw [Options.ofPatterns, hd, hincludes, hexcludes]
  rfl

/-- Nothing in the configuration makes a run fail. -/
structure IsSufficient (c : Config) : Prop where
  prepare : ∀ path format text, ∃ t, Markup.prepare c path format text = .ok t
  detector : ∀ languages, ∃ d, Detector.ofConfig c languages = .ok d
  options : ∀ languages, ∃ o,
    Options.ofPatterns c languages c.settings.includes c.settings.excludes = .ok o
  tokenIgnores : ∀ path, ∀ p ∈ c.tokenIgnoresFor path, ∃ r, Regex.compile p = .ok r
  delimiters : ∀ path start stop, c.delimitersFor? path = some (start, stop) →
    start ≠ [] ∧ stop ≠ []
  /-- Comments can be searched for, but only with delimiters that are short enough. The bound is that
  of `Regex.Node.weight`, which estimates the size of a pattern. -/
  comments : ∀ path start stop, c.delimitersFor? path = some (start, stop) →
    ((∃ s, Comment.Syntax.ofDelimiters? start stop = some s) ↔
      Text.size start + Text.size stop + 4 ≤ Regex.weightLimit)

theorem validate_of_ofText (h : ofText text = .ok c) : c.validate = .ok () := by
  obtain ⟨fields, -, h⟩ := bind_eq_ok_iff.mp h
  obtain ⟨c', -, h⟩ := bind_eq_ok_iff.mp h
  obtain ⟨hvalid, h⟩ := bind_unit_eq_ok_iff.mp h
  rwa [← pure_eq_ok_iff.mp h]

theorem exists_ofDelimiters?_iff : (∃ s, Comment.Syntax.ofDelimiters? start stop = some s) ↔
    Text.size start + Text.size stop + 4 ≤ Regex.weightLimit := by
  rw [← Option.isSome_iff_exists, Option.isSome_iff_ne_none, Ne,
    Comment.Syntax.ofDelimiters?_eq_none_iff, not_lt]

/-- What is read from a configuration file can be used. -/
theorem isSufficient_of_ofText (h : ofText text = .ok c) : c.IsSufficient := by
  have hc := validate_eq_ok_iff.mp (validate_of_ofText h)
  exact {
    prepare := hc.exists_prepare_eq_ok
    detector := fun languages => Detector.exists_ofConfig_eq_ok languages hc
    options := hc.exists_ofPatterns_eq_ok
    tokenIgnores := fun _ _ => hc.exists_compile_eq_ok
    delimiters := fun _ _ _ => hc.ne_nil_of_delimitersFor?
    comments := fun _ _ _ _ => exists_ofDelimiters?_iff }

/-- Comment delimiters for templates, and a pattern of what counts as code. -/
def templateText : Text :=
  "[comment_delimiters]\n\"*.tpl\" = [\"<#\", \"#>\"]\n[token_ignores]\n\"*.md\" = [\"x+\"]\n"

theorem isSufficient_templateText : ∃ c, ofText templateText = .ok c ∧ c.IsSufficient ∧
    c.delimitersFor? "a.tpl" = some ("<#".toList, "#>".toList) := by
  have hread : (ofText templateText).toOption.isSome = true := by decide +kernel
  obtain ⟨c, hc⟩ := Option.isSome_iff_exists.mp hread
  have hpair : (ofText templateText).toOption.map (·.delimitersFor? "a.tpl") =
      some (some ("<#".toList, "#>".toList)) := by decide +kernel
  rw [hc] at hpair
  exact ⟨c, toOption_eq_some_iff.mp hc, isSufficient_of_ofText (toOption_eq_some_iff.mp hc),
    Option.some.inj hpair⟩

section Half

open Linter

/-- A delimiter that a pattern can hold once, but not twice. -/
def halfDelimiter (c : Char) : Text := List.replicate 300000 c

variable {d : Char}

theorem size_halfDelimiter (hd : d.utf8Size = 1) : Text.size (halfDelimiter d) = 300000 := by
  rw [halfDelimiter, Text.size_replicate, hd]

theorem exists_compile_halfDelimiter (hd : d.utf8Size = 1) :
    ∃ r, Regex.compile (Regex.escape (halfDelimiter d)) = .ok r := by
  rw [Regex.compile_escape, size_halfDelimiter hd]
  exact ⟨_, rfl⟩

/-- Two such delimiters are accepted, and each is a pattern, but no comments can be searched for. -/
theorem ofDelimiters?_halfDelimiter :
    (templateLinter (halfDelimiter 'x') (halfDelimiter 'y')).config.validate = .ok () ∧
      (templateLinter (halfDelimiter 'x') (halfDelimiter 'y')).config.delimitersFor? "a.tpl" =
        some (halfDelimiter 'x', halfDelimiter 'y') ∧
      (∃ r, Regex.compile (Regex.escape (halfDelimiter 'x')) = .ok r) ∧
      (∃ r, Regex.compile (Regex.escape (halfDelimiter 'y')) = .ok r) ∧
      Comment.Syntax.ofDelimiters? (halfDelimiter 'x') (halfDelimiter 'y') = none := by
  refine ⟨validate_templateLinter nofun nofun, delimitersFor?_templateLinter,
    exists_compile_halfDelimiter rfl, exists_compile_halfDelimiter rfl, ?_⟩
  rw [Comment.Syntax.ofDelimiters?_eq_none_iff, size_halfDelimiter rfl, size_halfDelimiter rfl]
  decide

end Half

end Config

end Copydesk
