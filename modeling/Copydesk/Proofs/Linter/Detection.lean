import Copydesk.Proofs.Linter.Block
import Copydesk.Proofs.Linter.Extraction
import Copydesk.Proofs.Walk.Detector

/-! A file is checked as what it was found to be. The exception is source code of which nothing is
known but delimiters that are too long to be searched for: it is found, and then passed over. -/

namespace Copydesk.Linter

open Outcome Walk

/-- What is done with a file of some format for which there is no blueprint. -/
def Route.ofFormat : Format → Route
  | .data => .skipped
  | .code => .comments none
  | format => .prose format

variable {l : Linter} {t : Target} {path ext text : Text} {d : Detector} {f : Format}

theorem route_eq_ofFormat (h : l.config.blueprintFor? t.path = none) :
    l.route t = .ofFormat (Format.ofExtension t.ext) := by
  rw [route, h]
  rfl

theorem target_eq (h : Path.extension? path = some ext) :
    l.target path = ⟨path, Extension.normalize l.config.formats ext⟩ := by
  rw [target, Extension.ofPath, h]
  rfl

theorem lintCode_eq_nil {queries : Option (List Comment.Query)}
    (h : Comment.IsUnknown l.languages t.ext (l.config.delimitersFor? t.path)) :
    l.lintCode t queries text = .ok [] := by
  rw [lintCode, Comment.extract?_eq_none_iff.mpr h]
  rfl

theorem lint_eq_nil (h : l.lintTarget (l.target path) text = .ok []) :
    l.lint path text = .ok [] := by
  rw [lint_eq_sort h, List.filter_nil, Alert.sort, List.mergeSort_nil]

/-- Delimiters are all that is known of the comments of a file, and they are too long to be searched
for, by the estimate that `Regex.Node.weight` gives of the size of a pattern. -/
def HasLongDelimiters (l : Linter) (t : Target) : Prop :=
  l.languages.find? t.ext = none ∧ Comment.Syntax.ofExtension? t.ext = none ∧
    ∃ start stop, l.config.delimitersFor? t.path = some (start, stop) ∧
      Regex.weightLimit < Text.size start + Text.size stop + 4

section Agreement

variable (hd : d.Knows l.config l.languages)
include hd

theorem findsComments_eq_false_iff_target : d.findsComments (l.target path).ext path = false ↔
    l.languages.find? (l.target path).ext = none ∧
      Comment.Syntax.ofExtension? (l.target path).ext = none ∧
        l.config.delimitersFor? path = none :=
  Detector.findsComments_eq_false_iff hd Extension.head?_normalize_ne

theorem extract?_eq_none_iff_hasLongDelimiters {queries : Option (List Comment.Query)}
    (h : d.findsComments (l.target path).ext path = true) :
    Comment.extract? l.languages (l.target path).ext queries (l.config.delimitersFor? path) text =
      .ok none ↔ l.HasLongDelimiters (l.target path) := by
  rw [Comment.extract?_eq_none_iff]
  constructor
  · rintro ⟨hlanguage, hsyntax, hlong⟩
    cases hdelimiters : l.config.delimitersFor? path with
    | none =>
      have hfinds := (findsComments_eq_false_iff_target hd).mpr ⟨hlanguage, hsyntax, hdelimiters⟩
      cases h.symm.trans hfinds
    | some pair => exact ⟨hlanguage, hsyntax, pair.1, pair.2, hdelimiters, hlong _ _ hdelimiters⟩
  · rintro ⟨hlanguage, hsyntax, start, stop, hdelimiters, hlong⟩
    refine ⟨hlanguage, hsyntax, fun start' stop' h' => ?_⟩
    cases hdelimiters.symm.trans h'
    exact hlong

variable (hext : Path.extension? path = some ext)
include hext

theorem detect?_eq_some_iff_target (h : l.config.blueprintFor? path = none) :
    d.detect? path = some f ↔ f = Format.ofExtension (l.target path).ext ∧ f ≠ .data ∧
      (f = .code → d.findsComments (l.target path).ext path = true) := by
  rw [Detector.detect?_eq_some_iff hext ((hd.blueprints path).mpr h), hd.aliases, target_eq hext]

theorem lint_of_detect?_eq_none (h : d.detect? path = none) : l.lint path text = .ok [] := by
  have hblueprint : l.config.blueprintFor? path = none := by
    refine (hd.blueprints path).mp (Bool.eq_false_iff.mpr fun hany => ?_)
    cases h.symm.trans (Detector.detect?_eq_some_of_blueprint hext hany)
  have hnot (f : Format) (hf : f = Format.ofExtension (l.target path).ext)
      (hdata : f ≠ .data) (hcode : f = .code → d.findsComments (l.target path).ext path = true) :
      False := by
    cases h.symm.trans ((detect?_eq_some_iff_target hd hext hblueprint).mpr ⟨hf, hdata, hcode⟩)
  have hroute : l.route (l.target path) = .ofFormat (Format.ofExtension (l.target path).ext) :=
    route_eq_ofFormat hblueprint
  -- the linter goes by the same extension: it is data, or code whose comments cannot be found
  refine lint_eq_nil ?_
  rw [lintTarget, hroute]
  cases hformat : Format.ofExtension (l.target path).ext with
  | data => rfl
  | code =>
    have hfinds : d.findsComments (l.target path).ext path = false :=
      Bool.eq_false_iff.mpr fun hfinds => hnot .code hformat.symm (by decide) fun _ => hfinds
    obtain ⟨hlanguage, hsyntax, hdelimiters⟩ :=
      (findsComments_eq_false_iff_target hd).mp hfinds
    exact lintCode_eq_nil ⟨hlanguage, hsyntax, fun start stop h => by cases hdelimiters.symm.trans h⟩
  | _ => exact (hnot _ hformat.symm (by decide) fun hcode => absurd hcode (by decide)).elim

end Agreement

/-- What is passed over has no alerts, and what is found is checked as what it was found to be,
except that code with nothing but long delimiters is found and has no comments. -/
theorem exists_detect?_agrees (hvalid : l.config.validate = .ok ())
    (hext : Path.extension? path = some ext) :
    ∃ d, Detector.ofConfig l.config l.languages = .ok d ∧
      (d.detect? path = none → ∀ text, l.lint path text = .ok []) ∧
      ∀ f, d.detect? path = some f →
        (∀ e ∈ l.config.blueprints, Glob.accepts e.1 path = false) →
          l.route (l.target path) = .ofFormat f ∧ f ≠ .data ∧
            (f = .code → ∀ queries text,
              Comment.extract? l.languages (l.target path).ext queries
                  (l.config.delimitersFor? path) text = .ok none ↔
                l.HasLongDelimiters (l.target path)) := by
  have hc := Config.validate_eq_ok_iff.mp hvalid
  obtain ⟨d, hofConfig⟩ := Detector.exists_ofConfig_eq_ok l.languages hc
  have hd := Detector.knows_of_ofConfig hc hofConfig
  refine ⟨d, hofConfig, fun hnone text => lint_of_detect?_eq_none hd hext hnone, ?_⟩
  intro f hf hblueprints
  have hblueprint := Config.blueprintFor?_eq_none_iff.mpr hblueprints
  obtain ⟨rfl, hdata, hcode⟩ := (detect?_eq_some_iff_target hd hext hblueprint).mp hf
  refine ⟨route_eq_ofFormat hblueprint, hdata, fun hf queries text => ?_⟩
  exact extract?_eq_none_iff_hasLongDelimiters hd (hcode hf)

/-- A linter for templates, of whose comments the delimiters are known. -/
def templateLinter (start stop : Text) : Linter :=
  ofRules { delimiters := [("*.tpl", [start, stop])] } (.house [] []) []

section Template

variable {start stop : Text}

theorem validate_templateLinter (hstart : start ≠ []) (hstop : stop ≠ []) :
    (templateLinter start stop).config.validate = .ok () := by
  refine Config.validate_eq_ok_iff.mpr ⟨rfl, ?_, nofun, nofun, ?_⟩
  · intro p hp
    obtain rfl := List.mem_singleton.mp hp
    exact ⟨_, rfl⟩
  · intro e he
    obtain rfl := List.mem_singleton.mp he
    exact ⟨⟨_, rfl⟩, start, stop, rfl, hstart, hstop⟩

theorem extension?_template : Path.extension? "a.tpl" = some "tpl" := by decide

theorem target_templateLinter : (templateLinter start stop).target "a.tpl" = ⟨"a.tpl", "tpl"⟩ := by
  have hext : Extension.normalize [] "tpl" = "tpl" := by decide
  rw [target_eq extension?_template]
  exact congrArg (Target.mk "a.tpl") hext

theorem delimitersFor?_templateLinter :
    (templateLinter start stop).config.delimitersFor? "a.tpl" = some (start, stop) := by
  have haccepts : Glob.accepts "*.tpl" "a.tpl" = true := by decide +kernel
  have hmatching : Config.matching (templateLinter start stop).config.delimiters "a.tpl" =
      [[start, stop]] := by
    rw [Config.matching, templateLinter, ofRules, List.filter_cons_of_pos]
    · rfl
    · exact haccepts
  rw [Config.delimitersFor?, hmatching]
  rfl

theorem detect?_templateLinter (hstart : start ≠ []) (hstop : stop ≠ []) :
    ∃ d, Detector.ofConfig (templateLinter start stop).config [] = .ok d ∧
      d.detect? "a.tpl" = some .code := by
  have hc := Config.validate_eq_ok_iff.mp (validate_templateLinter hstart hstop)
  obtain ⟨d, hofConfig⟩ := Detector.exists_ofConfig_eq_ok [] hc
  have hd := Detector.knows_of_ofConfig hc hofConfig
  refine ⟨d, hofConfig, ?_⟩
  rw [detect?_eq_some_iff_target (l := templateLinter start stop) hd extension?_template rfl,
    target_templateLinter]
  refine ⟨by decide, nofun, fun _ => Bool.of_not_eq_false fun hfinds => ?_⟩
  have hnone := ((Detector.findsComments_eq_false_iff hd (by decide)).mp hfinds).2.2
  cases delimitersFor?_templateLinter.symm.trans hnone

end Template

/-- Templates are checked as code, and their comments can be found. -/
theorem template_detect?_agrees :
    (templateLinter "<#" "#>").config.validate = .ok () ∧ Path.extension? "a.tpl" = some "tpl" ∧
      ∃ d, Detector.ofConfig (templateLinter "<#" "#>").config [] = .ok d ∧
        d.detect? "a.tpl" = some .code ∧
          (templateLinter "<#" "#>").route ((templateLinter "<#" "#>").target "a.tpl") =
            .comments none ∧
          ∀ queries text, Comment.extract? [] "tpl" queries (some ("<#", "#>")) text ≠ .ok none := by
  have hvalid : (templateLinter "<#" "#>").config.validate = .ok () :=
    validate_templateLinter nofun nofun
  obtain ⟨d, hd, -, hfound⟩ := exists_detect?_agrees hvalid extension?_template
  obtain ⟨d', hd', hdetect⟩ : ∃ d, Detector.ofConfig (templateLinter "<#" "#>").config [] = .ok d ∧
      d.detect? "a.tpl" = some .code := detect?_templateLinter nofun nofun
  cases hd.symm.trans hd'
  obtain ⟨hroute, -, hextract⟩ := hfound .code hdetect nofun
  refine ⟨hvalid, extension?_template, d, hd, hdetect, hroute, fun queries text hnone => ?_⟩
  rw [target_templateLinter, delimitersFor?_templateLinter] at hextract
  obtain ⟨-, -, start, stop, hpair, hlong⟩ := (hextract rfl queries text).mp hnone
  cases delimitersFor?_templateLinter.symm.trans hpair
  exact absurd hlong (by decide)

/-- A delimiter that no pattern can hold. -/
def longDelimiter : Text := List.replicate 500000 'x'

/-- Templates with such a delimiter are found as code all the same, but not their comments. -/
theorem extract?_longDelimiter :
    (templateLinter longDelimiter "y").config.validate = .ok () ∧
      Path.extension? "a.tpl" = some "tpl" ∧
        (∃ d, Detector.ofConfig (templateLinter longDelimiter "y").config [] = .ok d ∧
          d.detect? "a.tpl" = some .code) ∧
        ∀ text, Comment.extract? [] ((templateLinter longDelimiter "y").target "a.tpl").ext none
          ((templateLinter longDelimiter "y").config.delimitersFor? "a.tpl") text = .ok none := by
  have hlong : longDelimiter ≠ [] := nofun
  refine ⟨validate_templateLinter hlong nofun, extension?_template,
    detect?_templateLinter hlong nofun, fun text => ?_⟩
  rw [target_templateLinter, delimitersFor?_templateLinter]
  refine Comment.extract?_eq_none_iff.mpr ⟨rfl, by decide, fun start stop hpair => ?_⟩
  cases hpair
  have hlength : longDelimiter.length = 500000 := List.length_replicate
  have hsize := Text.length_le_size longDelimiter
  have hlimit : Regex.weightLimit = 327680 := rfl
  omega

end Copydesk.Linter
