import Copydesk.Proofs.Filter
import Copydesk.Proofs.RuleSet.Collect

/-! What a filter leaves of the rules of a run. The rules are asked for with their own names, and
kept by the short names of those that are accepted. -/

namespace Copydesk.RuleSet

open Rule Outcome

variable {c : Config} {files : FileTree} {filter : Option Text} {source : Text} {s : RuleSet}

/-- The filter of a run is the one of the text. -/
def IsFilteredBy (c : Config) (files : FileTree) (filter : Option Text) (source : Text) : Prop :=
  ∃ fragment, filter.or c.settings.filter = some fragment ∧ Text.isBlank fragment = false ∧
    resolveFragment c files fragment = .ok source

def Draft.named (draft : Draft) (names : List Text) : Draft :=
  draft.filter fun e => names.contains e.1

theorem exists_freeze_of_build (hsource : IsFilteredBy c files filter source) {draft : Draft}
    (h : build c files filter draft = .ok s) :
    ∃ collected f names, collect c files draft = .ok collected ∧ Filter.compile source = .ok f ∧
      f.keptNames ((configure c collected).map (·.2)) = .ok names ∧
      freeze ((configure c collected).named names)
        (if f.referencesLevel then
          lowest ((configure c collected).named names) c.settings.minLevel
        else c.settings.minLevel) = .ok s := by
  obtain ⟨fragment, hfragment, hblank, hsource⟩ := hsource
  obtain ⟨collected, hcollected, h⟩ := bind_eq_ok_iff.mp h
  obtain ⟨⟨kept, level⟩, hkept, h⟩ := bind_eq_ok_iff.mp h
  have hkept := mapError_eq_ok_iff.mp hkept
  have hset : (filter.or c.settings.filter).filter (!Text.isBlank ·) = some fragment := by
    rw [hfragment, Option.filter_some, hblank]
    rfl
  rw [applyFilter, hset] at hkept
  obtain ⟨source', hsource', hkept⟩ := bind_eq_ok_iff.mp hkept
  obtain rfl := Except.ok.inj (hsource.symm.trans hsource')
  obtain ⟨f, hf, hkept⟩ := bind_eq_ok_iff.mp hkept
  obtain ⟨names, hnames, hkept⟩ := bind_eq_ok_iff.mp hkept
  obtain ⟨rfl, rfl⟩ := Prod.mk.inj (pure_eq_ok_iff.mp hkept)
  exact ⟨collected, f, names, hcollected, hf, hnames, mapError_eq_ok_iff.mp h⟩

/-- What is left of the loaded rules: those that have the short name of an accepted one. -/
structure IsFiltered (f : Filter) (loaded : Draft) (s : RuleSet) : Prop where
  answers : ∀ e ∈ loaded, ∃ b, f.accepts e.2 = .ok b
  kept : ∀ d, (∃ r ∈ s.rules, r.definition = d) ↔ (d.name, d) ∈ loaded ∧
    ∃ e ∈ loaded, f.accepts e.2 = .ok true ∧ Filter.shortName e.1 = d.name
  short : ∀ r ∈ s.rules, r.definition.name.count '.' ≤ 1
  /-- A rule is kept for its own sake if no other one is shortened to its name. -/
  exact : ∀ d, (d.name, d) ∈ loaded → d.name.count '.' ≤ 1 →
    (∀ e ∈ loaded, Filter.shortName e.1 = d.name → e.1 = d.name) →
      ((∃ r ∈ s.rules, r.definition = d) ↔ f.accepts d = .ok true)
  whole : (∀ e ∈ loaded, e.1.count '.' ≤ 1) → ∀ d, (∃ r ∈ s.rules, r.definition = d) ↔
    (d.name, d) ∈ loaded ∧ f.accepts d = .ok true

section Kept

variable {f : Filter} {loaded : Draft} {names : List Text} {level : Level} {d : Definition}
  (hproper : loaded.IsProper) (hnames : f.keptNames (loaded.map (·.2)) = .ok names)
  (h : freeze (loaded.named names) level = .ok s)

include hproper hnames h

theorem exists_rule_iff_exists_accepts : (∃ r ∈ s.rules, r.definition = d) ↔
    (d.name, d) ∈ loaded ∧ ∃ e ∈ loaded, f.accepts e.2 = .ok true ∧
      Filter.shortName e.1 = d.name := by
  rw [exists_rule_iff h (p := (· = d))]
  constructor
  · rintro ⟨e, he, rfl⟩
    obtain ⟨hmem, hname⟩ := List.mem_filter.mp he
    have hnamed := hproper.named e hmem
    obtain ⟨d, hd, haccepts, hshort⟩ :=
      (Filter.mem_keptNames_iff hnames).mp (List.contains_iff_mem.mp hname)
    obtain ⟨e', he', rfl⟩ := List.mem_map.mp hd
    refine ⟨hnamed ▸ hmem, e', he', haccepts, ?_⟩
    rw [hproper.named e' he', hshort, hnamed]
  · rintro ⟨hd, e, he, haccepts, hshort⟩
    refine ⟨(d.name, d), List.mem_filter.mpr ⟨hd, List.contains_iff_mem.mpr ?_⟩, rfl⟩
    rw [hproper.named e he] at hshort
    exact (Filter.mem_keptNames_iff hnames).mpr ⟨e.2, List.mem_map_of_mem he, haccepts, hshort⟩

theorem exists_rule_iff_accepts (hd : (d.name, d) ∈ loaded) (hcount : d.name.count '.' ≤ 1)
    (hother : ∀ e ∈ loaded, Filter.shortName e.1 = d.name → e.1 = d.name) :
    (∃ r ∈ s.rules, r.definition = d) ↔ f.accepts d = .ok true := by
  rw [exists_rule_iff_exists_accepts hproper hnames h]
  constructor
  · rintro ⟨-, e, he, haccepts, hshort⟩
    have he : (d.name, e.2) ∈ loaded := hother e he hshort ▸ he
    have hlookup := hproper.mem_iff_lookup.mp he
    rw [hproper.mem_iff_lookup.mp hd] at hlookup
    rwa [Option.some.inj hlookup]
  · intro haccepts
    exact ⟨hd, (d.name, d), hd, haccepts, Filter.shortName_of_count hcount⟩

theorem isFiltered_of_freeze : IsFiltered f loaded s where
  answers e he := Filter.exists_accepts_of_keptNames hnames (List.mem_map_of_mem he)
  kept d := exists_rule_iff_exists_accepts hproper hnames h
  short := by
    intro r hr
    obtain ⟨-, e, -, -, hshort⟩ :=
      (exists_rule_iff_exists_accepts hproper hnames h (d := r.definition)).mp ⟨r, hr, rfl⟩
    rw [← hshort]
    exact Filter.count_shortName e.1
  exact d hd hcount hother := exists_rule_iff_accepts hproper hnames h hd hcount hother
  whole := by
    intro hcount d
    have hother : ∀ e ∈ loaded, Filter.shortName e.1 = d.name → e.1 = d.name := by
      intro e he hshort
      rwa [Filter.shortName_of_count (hcount e he)] at hshort
    have haccepts (hd : (d.name, d) ∈ loaded) :=
      exists_rule_iff_accepts hproper hnames h hd (hcount _ hd) hother
    constructor
    · intro hrule
      have hd := ((exists_rule_iff_exists_accepts hproper hnames h).mp hrule).1
      exact ⟨hd, (haccepts hd).mp hrule⟩
    · rintro ⟨hd, haccept⟩
      exact (haccepts hd).mpr haccept

end Kept

/-- The rules of a filtered run are those loaded ones that have the short name of a rule that the
filter accepts. They are the accepted ones if no loaded name has a third section, and a rule with
such a name is never kept. -/
theorem isFiltered_of_build {ds : List Definition} (hsource : IsFilteredBy c files filter source)
    (h : build c files filter (Draft.register ds) = .ok s) :
    ∃ collected f, collect c files (Draft.register ds) = .ok collected ∧
      Filter.compile source = .ok f ∧ IsFiltered f (configure c collected) s := by
  obtain ⟨collected, f, names, hcollected, hf, hnames, hfreeze⟩ := exists_freeze_of_build hsource h
  have hproper := configure_isProper c
    (collect_isProper (Draft.Collects.register ds).proper hcollected)
  exact ⟨collected, f, hcollected, hf, isFiltered_of_freeze hproper hnames hfreeze⟩

def wordRule : Definition := { Builtin.repetition with name := "Acme.Word".toList }

/-- A rule whose name goes on where that of the other ends. -/
def extraRule : Definition := { Builtin.repetition with name := "Acme.Word.extra".toList }

def nestedDraft : Draft := Draft.register [wordRule, extraRule]

/-- The filter `.Name == "<name>"`. -/
def nameFilter (name : Text) : Text := ".Name == \"".toList ++ (name ++ ['"'])

theorem isFiltered_wordRule : ∃ s,
    build {} .empty (some (nameFilter wordRule.name)) nestedDraft = .ok s ∧
      s.names = [wordRule.name] ∧
      ∃ collected f, collect {} .empty nestedDraft = .ok collected ∧
        Filter.compile (nameFilter wordRule.name) = .ok f ∧
          IsFiltered f (configure {} collected) s := by
  have hsource : IsFilteredBy {} .empty (some (nameFilter wordRule.name))
      (nameFilter wordRule.name) := ⟨_, rfl, by decide, rfl⟩
  have hnames : (build {} .empty (some (nameFilter wordRule.name)) nestedDraft).toOption.map names =
      some [wordRule.name] := by decide +kernel
  obtain ⟨s, hs, hnames⟩ := Option.map_eq_some_iff.mp hnames
  have hbuild := toOption_eq_some_iff.mp hs
  exact ⟨s, hbuild, hnames, isFiltered_of_build hsource hbuild⟩

/-- The one rule that the filter accepts is dropped, and one that it rejects is kept. -/
theorem names_of_extraRule : ∃ s f,
    build {} .empty (some (nameFilter extraRule.name)) nestedDraft = .ok s ∧
      Filter.compile (nameFilter extraRule.name) = .ok f ∧
      collect {} .empty nestedDraft = .ok nestedDraft ∧
      configure {} nestedDraft = [(wordRule.name, wordRule), (extraRule.name, extraRule)] ∧
      f.accepts extraRule = .ok true ∧ extraRule.name ∉ s.names ∧
      f.accepts wordRule = .ok false ∧ wordRule.name ∈ s.names := by
  have hnames : (build {} .empty (some (nameFilter extraRule.name)) nestedDraft).toOption.map
      names = some [wordRule.name] := by decide +kernel
  have hanswers : ((Filter.compile (nameFilter extraRule.name)).toOption.map fun f =>
      ((f.accepts extraRule).toOption, (f.accepts wordRule).toOption)) =
        some (some true, some false) := by decide +kernel
  obtain ⟨s, hs, hnames⟩ := Option.map_eq_some_iff.mp hnames
  obtain ⟨f, hf, hanswers⟩ := Option.map_eq_some_iff.mp hanswers
  obtain ⟨hextra, hword⟩ := Prod.mk.inj hanswers
  refine ⟨s, f, toOption_eq_some_iff.mp hs, toOption_eq_some_iff.mp hf, rfl, by decide +kernel,
    toOption_eq_some_iff.mp hextra, ?_, toOption_eq_some_iff.mp hword, ?_⟩
  · rw [hnames]
    decide
  · rw [hnames]
    decide

end Copydesk.RuleSet
