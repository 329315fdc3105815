import Copydesk.Proofs.RuleSet.Collect

/-! Where a rule is read from. The files of a style are read in the order of their names when it is
loaded as a whole, and a rule that is asked for by its name is looked for ending by ending. Both find
it in the same folder, but of two files for it in that folder they do not choose the same one. -/

namespace Copydesk

namespace Rule.Style

open Copydesk.Path

variable {files : FileTree} {folder style rule ending : Text}

def yml : Text := ".yml".toList

def yaml : Text := ".yaml".toList

def hasFile (files : FileTree) (folder rule ending : Text) : Bool :=
  files.holdsFile (join folder (rule ++ ending))

/-- A folder's file for the rule with the first ending if there is one, else with the second. -/
def choose (files : FileTree) (folder rule first second : Text) : Text :=
  join folder (rule ++ if hasFile files folder rule first then first else second)

def hasAny (files : FileTree) (rule folder : Text) : Bool :=
  hasFile files folder rule yml || hasFile files folder rule yaml

def hasBoth (files : FileTree) (rule folder : Text) : Bool :=
  hasFile files folder rule yml && hasFile files folder rule yaml

/-- The first folder of a style that has a file for the rule. -/
def home? (c : Config) (files : FileTree) (style rule : Text) : Option Text :=
  (c.stylePaths.map (join · style)).find? (hasAny files rule)

theorem isFileOf_append (hrule : rule ≠ []) (hending : ending = yml ∨ ending = yaml) :
    IsFileOf (rule ++ ending) rule :=
  ⟨hrule, hending.imp (congrArg (rule ++ ·)) (congrArg (rule ++ ·))⟩

theorem find?_pair (files : FileTree) (folder rule first second : Text) :
    [join folder (rule ++ first), join folder (rule ++ second)].find? files.holdsFile =
      if hasFile files folder rule first || hasFile files folder rule second then
        some (choose files folder rule first second)
      else none := by
  rw [List.find?_cons, List.find?_singleton, choose, hasFile, hasFile]
  by_cases hfirst : files.holdsFile (join folder (rule ++ first)) = true
  · simp [hfirst]
  · simp [hfirst]

theorem ruleFile?_eq (c : Config) (files : FileTree) (style rule : Text) :
    ruleFile? c files style rule =
      (home? c files style rule).map fun folder => choose files folder rule yml yaml := by
  rw [ruleFile?, home?, List.find?_map, Option.map_map]
  exact find?_flatMap_eq fun path _ => find?_pair files (join path style) rule yml yaml

theorem le_append (s t u : Text) : Text.le (s ++ t) (s ++ u) = Text.le t u := by
  induction s with
  | nil => rfl
  | cons c s ih => simp [Text.le, ih]

section FileNames

variable (hplain : files.hasPlainNames = true) (hdistinct : files.hasDistinctNames = true)
  (hfolder : folder ≠ []) (hrule : rule ≠ []) (hslash : '/' ∉ rule)

include hplain hdistinct hfolder hrule hslash

theorem mem_fileNames_iff (hending : ending = yml ∨ ending = yaml) :
    rule ++ ending ∈ fileNames files folder ↔ hasFile files folder rule ending = true := by
  have hfile := isFileOf_append hrule hending
  have hkeeps (rule' : Text) : Keeps files folder (rule ++ ending) rule' ↔
      IsFileOf (rule ++ ending) rule' ∧ files.holdsFile (Path.join folder (rule ++ ending)) = true :=
    keeps_iff_holdsFile hdistinct hfolder (hfile.no_slash hslash)
  rw [mem_fileNames hplain, hasFile]
  constructor
  · rintro ⟨rule', h⟩
    exact ((hkeeps rule').mp h).2
  · exact fun h => ⟨rule, (hkeeps rule).mpr ⟨hfile, h⟩⟩

theorem find?_fileNames {p : Text → Bool}
    (hp : ∀ file ∈ fileNames files folder, p file = true ↔ IsFileOf file rule) :
    (fileNames files folder).find? p = if hasAny files rule folder then
      some (rule ++ if hasFile files folder rule yaml then yaml else yml) else none := by
  have hmem {ending : Text} (hending : ending = yml ∨ ending = yaml) :=
    mem_fileNames_iff hplain hdistinct hfolder hrule hslash hending
  have hpasses {ending : Text} (hending : ending = yml ∨ ending = yaml)
      (hfile : hasFile files folder rule ending = true) : p (rule ++ ending) = true :=
    (hp _ ((hmem hending).mpr hfile)).mpr (isFileOf_append hrule hending)
  cases hfind : (fileNames files folder).find? p with
  | none =>
    have hnone {ending : Text} (hending : ending = yml ∨ ending = yaml) :
        ¬hasFile files folder rule ending = true := fun hfile =>
      List.find?_eq_none.mp hfind _ ((hmem hending).mpr hfile) (hpasses hending hfile)
    simp [hasAny, hnone (.inl rfl), hnone (.inr rfl)]
  | some file =>
    have hin := List.mem_of_find?_eq_some hfind
    obtain ⟨-, rfl | rfl⟩ := (hp file hin).mp (List.find?_some hfind)
    · have hyml : hasFile files folder rule yml = true := (hmem (.inl rfl)).mp hin
      -- the other file would come first
      have hyaml : ¬hasFile files folder rule yaml = true := fun hyaml => by
        have hle := rel_of_find? (R := fun s t => Text.le s t = true)
          ((Text.le_total _ _).elim id id) (fileNames_pairwise files folder) hfind
          ((hmem (.inr rfl)).mpr hyaml) (hpasses (.inr rfl) hyaml)
        rw [le_append] at hle
        cases hle
      simp only [hasAny, hyml, hyaml]
      rfl
    · have hyaml : hasFile files folder rule yaml = true := (hmem (.inr rfl)).mp hin
      simp only [hasAny, hyaml, Bool.or_true, if_true]
      rfl

theorem exists_mem_fileNames_choose (h : hasAny files rule folder = true) :
    ∃ ending, (ending = yml ∨ ending = yaml) ∧ rule ++ ending ∈ fileNames files folder ∧
      choose files folder rule yml yaml = join folder (rule ++ ending) := by
  have hmem {ending : Text} (hending : ending = yml ∨ ending = yaml) :=
    mem_fileNames_iff hplain hdistinct hfolder hrule hslash hending
  rw [hasAny, Bool.or_eq_true] at h
  rw [choose]
  by_cases hyml : hasFile files folder rule yml = true
  · exact ⟨yml, .inl rfl, (hmem (.inl rfl)).mpr hyml, by rw [if_pos hyml]⟩
  · exact ⟨yaml, .inr rfl, (hmem (.inr rfl)).mpr (h.resolve_left hyml), by rw [if_neg hyml]⟩

end FileNames

section Choose

variable (hrule : rule ≠ []) (hslash : '/' ∉ rule)

include hrule hslash

theorem fileName?_ending (folder : Text) (hending : ending = yml ∨ ending = yaml) :
    fileName? (join folder (rule ++ ending)) = some (rule ++ ending) := by
  have hfile := isFileOf_append hrule hending
  exact fileName?_join (hfile.isPlain (hfile.no_slash hslash))

theorem exists_fileName?_choose {first second : Text} (hfirst : first = yml ∨ first = yaml)
    (hsecond : second = yml ∨ second = yaml) (files : FileTree) (folder : Text) :
    ∃ file, fileName? (choose files folder rule first second) = some file ∧ IsFileOf file rule := by
  rw [choose]
  split
  · exact ⟨_, fileName?_ending hrule hslash folder hfirst, isFileOf_append hrule hfirst⟩
  · exact ⟨_, fileName?_ending hrule hslash folder hsecond, isFileOf_append hrule hsecond⟩

/-- The two ways to choose a file differ where there are two. -/
theorem choose_eq_choose_iff (h : hasAny files rule folder = true) :
    choose files folder rule yaml yml = choose files folder rule yml yaml ↔
      hasBoth files rule folder = false := by
  have hname (ending : Text) (hending : ending = yml ∨ ending = yaml) :=
    fileName?_ending hrule hslash folder hending
  rw [hasAny, Bool.or_eq_true] at h
  rw [choose, choose, hasBoth]
  by_cases hyml : hasFile files folder rule yml = true
  · by_cases hyaml : hasFile files folder rule yaml = true
    · rw [if_pos hyml, if_pos hyaml, hyml, hyaml]
      refine iff_of_false (fun heq => ?_) (by decide)
      have hnames := (hname yaml (.inr rfl)).symm.trans
        ((congrArg fileName? heq).trans (hname yml (.inl rfl)))
      exact absurd (List.append_cancel_left (Option.some.inj hnames)) (by decide)
    · simp [hyml, hyaml]
  · have hyaml := h.resolve_left hyml
    simp [hyml, hyaml]

end Choose

end Rule.Style

namespace RuleSet

open Rule Rule.Style Outcome

variable {c c' : Config} {files : FileTree} {draft draft' : Draft} {styles : List Text}
  {style rule name : Text} {d d' : Definition}

theorem holds_eq_false_iff : draft.holds name = false ↔ draft.lookup name = none := by
  rw [Draft.holds, Option.isSome_eq_false_iff, Option.isNone_iff_eq_none]

/-- The rule that has a name after a step of a run, and that nothing had before. -/
def Obtains (draft : Draft) (next : Except RunError Draft) (name : Text) (d : Definition) : Prop :=
  draft.IsProper ∧ draft.holds name = false ∧ ∃ draft', next = .ok draft' ∧
    draft'.lookup name = some d

theorem path_of_load {path : Text} (h : Definition.load files path = .ok d) :
    d.path = some path := by
  unfold Definition.load at h
  split at h
  · cases h
  · rename_i name _
    split at h
    · cases h
    · rename_i source _
      cases hd : Definition.ofText name source with
      | error e =>
        rw [hd] at h
        cases h
      | ok d₀ =>
        rw [hd] at h
        rw [← Except.ok.inj h]

theorem Draft.Collects.of_isProper (h : draft.IsProper) :
    draft.Collects (draft.map fun e => .given e.2) := by
  refine ⟨h, fun name => ?_⟩
  induction draft with
  | nil => rfl
  | cons e rest ih =>
    obtain ⟨-, hname, hrest⟩ := Draft.isProper_cons.mp h
    rw [List.map_cons, List.find?_cons, List.lookup_cons]
    by_cases heq : name = e.1
    · have hgiven : ((Offer.given e.2).name == name) = true :=
        beq_iff_eq.mpr (hname.symm.trans heq.symm)
      rw [hgiven, beq_iff_eq.mpr heq]
      rfl
    · have hgiven : ((Offer.given e.2).name == name) = false :=
        beq_false_of_ne fun h => heq (h.symm.trans hname.symm)
      rw [hgiven, beq_false_of_ne heq]
      exact ih hrest

/-- A rule that a step obtains is on offer in that step. -/
theorem Obtains.exists_find? {next : Except RunError Draft} {offers : List Offer}
    (h : Obtains draft next name d)
    (hstep : ∀ draft', draft.Collects (draft.map fun e => .given e.2) → next = .ok draft' →
      draft'.Collects ((draft.map fun e => .given e.2) ++ offers)) :
    ∃ offer, offers.find? (·.name == name) = some offer ∧ offer.definition = .ok d := by
  obtain ⟨hproper, hnew, draft', hnext, hd⟩ := h
  have hbefore := Draft.Collects.of_isProper hproper
  have hafter := (hstep draft' hbefore hnext).first name
  have hnone := holds_eq_false_iff.mp hnew
  have hfirst := hbefore.first name
  rw [hnone, Option.map_none, Option.map_eq_none_iff] at hfirst
  rw [List.find?_append, hfirst, Option.none_or, hd] at hafter
  obtain ⟨offer, hoffer, hdefinition⟩ := Option.map_eq_some_iff.mp hafter
  exact ⟨offer, hoffer, hdefinition⟩

section Whole

variable (hplain : files.hasPlainNames = true) (hdistinct : files.hasDistinctNames = true)
  (hstyle : Path.IsPlain style)

include hplain hstyle

theorem exists_keeps_of_mem_styleOffers {offer : Offer} (h : offer ∈ styleOffers c files style) :
    ∃ path file rule, Keeps files (Path.join path style) file rule ∧ '/' ∉ file ∧
      offer = .ofFile files style rule (Path.join (Path.join path style) file) := by
  rw [styleOffers, folders_flatMap_ruleFiles] at h
  simp only [List.mem_map, List.mem_flatMap] at h
  obtain ⟨-, ⟨path, -, file, hfile, rfl⟩, rfl⟩ := h
  obtain ⟨rule, hkeeps⟩ := (mem_fileNames hplain).mp hfile
  obtain ⟨entries, node, hentries, hmem, -⟩ := id hkeeps
  exact ⟨path, file, rule, hkeeps, FileTree.no_slash_of_entriesAt hplain hentries hmem,
    fileOffer_eq hplain hstyle hkeeps⟩

theorem name_fileOffer_iff {path file : Text} (h : file ∈ fileNames files (Path.join path style)) :
    (fileOffer files (Path.join (Path.join path style) file)).name = style ++ '.' :: rule ↔
      IsFileOf file rule := by
  obtain ⟨rule', hkeeps⟩ := (mem_fileNames hplain).mp h
  obtain ⟨-, -, -, -, -, hfile⟩ := id hkeeps
  rw [fileOffer_eq hplain hstyle hkeeps, Offer.ofFile, List.append_cancel_left_eq,
    List.cons_inj_right]
  exact ⟨fun hrule => hrule ▸ hfile, fun hrule => hfile.stem_eq.symm.trans hrule.stem_eq⟩

include hdistinct

theorem find?_styleOffers (hrule : rule ≠ []) (hslash : '/' ∉ rule) :
    (styleOffers c files style).find? (·.name == style ++ '.' :: rule) =
      (home? c files style rule).map fun folder =>
        fileOffer files (choose files folder rule yaml yml) := by
  rw [styleOffers, folders_flatMap_ruleFiles, List.find?_map, home?, List.find?_map, Option.map_map]
  refine (congrArg (Option.map (fileOffer files)) (find?_flatMap_eq fun path _ => ?_)).trans
    (Option.map_map ..)
  have hfolder : Path.join path style ≠ [] := Path.join_ne_nil hstyle
  have hfiles := find?_fileNames hplain hdistinct hfolder hrule hslash fun file hfile =>
    beq_iff_eq.trans (name_fileOffer_iff hplain hstyle hfile)
  rw [List.find?_map]
  refine (congrArg (Option.map (Path.join (Path.join path style))) hfiles).trans ?_
  rw [apply_ite (Option.map (Path.join (Path.join path style)))]
  rfl

theorem exists_home?_of_obtains
    (h : Obtains draft (addStyle c files draft style) (style ++ '.' :: rule) d) :
    rule ≠ [] ∧ '/' ∉ rule ∧ ∃ folder, home? c files style rule = some folder ∧
      Definition.load files (choose files folder rule yaml yml) = .ok d := by
  obtain ⟨offer, hfind, hd⟩ := h.exists_find? fun draft' hdraft => addStyle_collects hdraft
  have hname : offer.name = style ++ '.' :: rule := by simpa using List.find?_some hfind
  obtain ⟨path, file, rule', ⟨-, -, -, -, -, hfile⟩, hslash, rfl⟩ :=
    exists_keeps_of_mem_styleOffers hplain hstyle (List.mem_of_find?_eq_some hfind)
  obtain rfl : rule' = rule := by simpa [Offer.ofFile] using hname
  have hslash : '/' ∉ rule' := fun hmem => hslash <| by
    obtain ⟨-, rfl | rfl⟩ := hfile <;> exact List.mem_append_left _ hmem
  rw [find?_styleOffers hplain hdistinct hstyle hfile.1 hslash] at hfind
  obtain ⟨folder, hfolder, hoffer⟩ := Option.map_eq_some_iff.mp hfind
  exact ⟨hfile.1, hslash, folder, hfolder, (congrArg Offer.definition hoffer).trans hd⟩

end Whole

theorem exists_ruleFile?_of_obtains
    (h : Obtains draft (addConfigured c files styles draft name) name d) :
    ∃ style rule path, name = style ++ '.' :: rule ∧ '.' ∉ style ∧
      ruleFile? c files style rule = some path ∧ Definition.load files path = .ok d := by
  obtain ⟨hproper, hnew, draft', hnext, hd⟩ := h
  have hnone := holds_eq_false_iff.mp hnew
  have hsame : draft' ≠ draft := by
    rintro rfl
    rw [hnone] at hd
    cases hd
  unfold addConfigured at hnext
  split at hnext
  · exact absurd (pure_eq_ok_iff.mp hnext).symm hsame
  · rename_i style rule hsplit
    obtain ⟨hname, hdot⟩ := Text.splitOnce?_eq_some_iff.mp hsplit
    split at hnext
    · exact absurd (pure_eq_ok_iff.mp hnext).symm hsame
    · split at hnext
      · exact absurd (pure_eq_ok_iff.mp hnext).symm hsame
      · rename_i path hpath
        obtain ⟨d₀, hload, hinsert⟩ := bind_eq_ok_iff.mp hnext
        rw [← pure_eq_ok_iff.mp hinsert, hproper.lookup_insert, hnone, Option.none_or] at hd
        split at hd
        · obtain rfl := Option.some.inj hd
          exact ⟨style, rule, path, hname, hdot, hpath, mapError_eq_ok_iff.mp hload⟩
        · cases hd

/-- A name is parted before its style ends if the style has a dot of its own. -/
theorem eq_or_exists_of_append_eq {style' rule' : Text} (hdot : '.' ∉ style')
    (h : style' ++ '.' :: rule' = style ++ '.' :: rule) :
    (style' = style ∧ rule' = rule) ∨
      ∃ more, style = style' ++ '.' :: more ∧ rule' = more ++ '.' :: rule := by
  rcases List.append_eq_append_iff.mp h with ⟨x, rfl, hx⟩ | ⟨x, rfl, hx⟩
  · cases x with
    | nil => exact .inl ⟨(List.append_nil _).symm, (List.cons.inj hx).2⟩
    | cons e x =>
      obtain ⟨rfl, hrule⟩ := List.cons.inj hx
      exact .inr ⟨x, rfl, hrule⟩
  · cases x with
    | nil => exact .inl ⟨List.append_nil _, (List.cons.inj hx).2.symm⟩
    | cons e x =>
      obtain ⟨rfl, -⟩ := List.cons.inj hx
      exact absurd (List.mem_append_right style List.mem_cons_self) hdot

/-- What a rule of a style that is loaded as a whole is when it is asked for by its name. -/
structure IsReadFrom (c' : Config) (files : FileTree) (style rule folder : Text) (d : Definition) :
    Prop where
  whole : d.path = some (choose files folder rule yaml yml)
  alone : '.' ∉ style → ∀ styles draft d',
    Obtains draft (addConfigured c' files styles draft (style ++ '.' :: rule))
      (style ++ '.' :: rule) d' → d'.path = some (choose files folder rule yml yaml)
  /-- Nothing but a file with the other ending makes a difference. -/
  same : ∀ styles draft d',
    Obtains draft (addConfigured c' files styles draft (style ++ '.' :: rule))
      (style ++ '.' :: rule) d' →
        (d.path = d'.path ↔ '.' ∉ style ∧ hasBoth files rule folder = false) ∧
        (d.path = d'.path → d = d')
  /-- The rule can be had by its name too. -/
  available : '.' ∉ style → c'.disables (style ++ '.' :: rule) = false →
    ∀ styles draft, style ∉ styles → draft.IsProper → draft.holds (style ++ '.' :: rule) = false →
      ∃ d', Obtains draft (addConfigured c' files styles draft (style ++ '.' :: rule))
        (style ++ '.' :: rule) d'

section ByName

variable (hplain : files.hasPlainNames = true) (hdistinct : files.hasDistinctNames = true)
  (hstyle : Path.IsPlain style) (hpaths : c'.stylePaths = c.stylePaths)

include hpaths in
theorem home?_congr : home? c' files style rule = home? c files style rule := by
  rw [home?, home?, hpaths]

include hpaths in
theorem load_of_obtains (hdot : '.' ∉ style) {folder : Text}
    (hfolder : home? c files style rule = some folder)
    (h : Obtains draft (addConfigured c' files styles draft (style ++ '.' :: rule))
      (style ++ '.' :: rule) d) :
    Definition.load files (choose files folder rule yml yaml) = .ok d := by
  obtain ⟨style', rule', path, hname, hdot', hpath, hload⟩ := exists_ruleFile?_of_obtains h
  have hsplit := Text.splitOnce?_eq_some_iff.mpr ⟨hname, hdot'⟩
  have hsplit' : Text.splitOnce? '.' (style ++ '.' :: rule) = some (style, rule) :=
    Text.splitOnce?_eq_some_iff.mpr ⟨rfl, hdot⟩
  obtain ⟨rfl, rfl⟩ := Prod.mk.inj (Option.some.inj (hsplit'.symm.trans hsplit))
  rw [ruleFile?_eq, home?_congr hpaths, hfolder, Option.map_some] at hpath
  rw [Option.some.inj hpath]
  exact hload

include hstyle in
/-- A style with a dot in its name is not where its rules are looked for by name. -/
theorem path_ne_path_of_dot (hrule : rule ≠ []) (hslash : '/' ∉ rule) (hdot : '.' ∈ style)
    {folder : Text} (hd : d.path = some (choose files folder rule yaml yml))
    (h : Obtains draft (addConfigured c' files styles draft (style ++ '.' :: rule))
      (style ++ '.' :: rule) d') : d.path ≠ d'.path := by
  obtain ⟨style', rule', path, hname, hdot', hpath, hload⟩ := exists_ruleFile?_of_obtains h
  rcases eq_or_exists_of_append_eq hdot' hname.symm with ⟨rfl, -⟩ | ⟨more, rfl, rfl⟩
  · exact absurd hdot hdot'
  · have hmore : '/' ∉ more ++ '.' :: rule := by
      simp only [List.mem_append, List.mem_cons, not_or]
      refine ⟨fun hmem => hstyle.no_slash ?_, by decide, hslash⟩
      exact List.mem_append_right style' (List.mem_cons_of_mem '.' hmem)
    rw [ruleFile?_eq] at hpath
    obtain ⟨folder', -, rfl⟩ := Option.map_eq_some_iff.mp hpath
    obtain ⟨file, hfile, hof⟩ :=
      exists_fileName?_choose hrule hslash (.inr rfl) (.inl rfl) files folder
    obtain ⟨file', hfile', hof'⟩ :=
      exists_fileName?_choose (List.append_ne_nil_of_right_ne_nil more (List.cons_ne_nil '.' rule))
        hmore (.inl rfl) (.inr rfl) files folder'
    rw [hd, path_of_load hload]
    intro heq
    rw [Option.some.inj heq, hfile'] at hfile
    obtain rfl := Option.some.inj hfile
    have hrules := congrArg List.length (hof.stem_eq.symm.trans hof'.stem_eq)
    simp only [List.length_append, List.length_cons] at hrules
    omega

include hplain hdistinct hstyle in
/-- The file that a rule is read from by its name is one of those that are read with the style. -/
theorem exists_load_of_addStyle (hrule : rule ≠ []) (hslash : '/' ∉ rule) {folder : Text}
    (hfolder : home? c files style rule = some folder) {whole : Draft}
    (hwhole : addStyle c files draft style = .ok whole) : ∃ d, d.name = style ++ '.' :: rule ∧
      Definition.load files (choose files folder rule yml yaml) = .ok d := by
  obtain ⟨path, hpath, rfl⟩ := List.mem_map.mp (List.mem_of_find?_eq_some hfolder)
  obtain ⟨ending, hending, hin, hchoose⟩ := exists_mem_fileNames_choose hplain hdistinct
    (Path.join_ne_nil hstyle) hrule hslash (List.find?_some hfolder)
  have hfile := isFileOf_append hrule hending
  obtain ⟨ds, hds, -⟩ := bind_eq_ok_iff.mp hwhole
  unfold Style.load at hds
  split at hds
  · cases hds
  · have hread : choose files (Path.join path style) rule yml yaml ∈
        (folders c files style).flatMap (ruleFiles files) := by
      rw [folders_flatMap_ruleFiles, hchoose]
      exact List.mem_flatMap.mpr ⟨path, hpath, List.mem_map.mpr ⟨_, hin, rfl⟩⟩
    obtain ⟨d, hd⟩ := exists_ok_of_mapM hds hread
    have hload := mapError_eq_ok_iff.mp hd
    refine ⟨d, ?_, hload⟩
    have hofPath := Definition.nameOfPath?_of_load hload
    rw [hchoose, Definition.nameOfPath?_join hstyle hfile (hfile.no_slash hslash)] at hofPath
    exact (Option.some.inj hofPath).symm

include hpaths in
theorem addConfigured_of_load (hdot : '.' ∉ style) {folder : Text}
    (hfolder : home? c files style rule = some folder)
    (hload : Definition.load files (choose files folder rule yml yaml) = .ok d)
    (hdisables : c'.disables (style ++ '.' :: rule) = false) (hstyles : style ∉ styles)
    (hnew : draft'.holds (style ++ '.' :: rule) = false) :
    addConfigured c' files styles draft' (style ++ '.' :: rule) = .ok (draft'.insert d) := by
  have hsplit : Text.splitOnce? '.' (style ++ '.' :: rule) = some (style, rule) :=
    Text.splitOnce?_eq_some_iff.mpr ⟨rfl, hdot⟩
  have hskip : (c'.disables (style ++ '.' :: rule) || styles.contains style ||
      draft'.holds (style ++ '.' :: rule)) = false := by
    simp [hdisables, hstyles, hnew]
  have hruleFile : ruleFile? c' files style rule = some (choose files folder rule yml yaml) := by
    rw [ruleFile?_eq, home?_congr hpaths, hfolder, Option.map_some]
  simp only [addConfigured, hsplit, hskip, hruleFile, hload]
  rfl

include hplain hdistinct hstyle hpaths in
/-- A style that can be read as a whole can be read from rule by rule. -/
theorem exists_obtains (hrule : rule ≠ []) (hslash : '/' ∉ rule) (hdot : '.' ∉ style)
    {folder : Text} (hfolder : home? c files style rule = some folder) {whole : Draft}
    (hwhole : addStyle c files draft style = .ok whole)
    (hdisables : c'.disables (style ++ '.' :: rule) = false) (hstyles : style ∉ styles)
    (hproper : draft'.IsProper) (hnew : draft'.holds (style ++ '.' :: rule) = false) :
    ∃ d', Obtains draft' (addConfigured c' files styles draft' (style ++ '.' :: rule))
      (style ++ '.' :: rule) d' := by
  obtain ⟨d, hname, hload⟩ :=
    exists_load_of_addStyle hplain hdistinct hstyle hrule hslash hfolder hwhole
  have hadded := addConfigured_of_load hpaths hdot hfolder hload hdisables hstyles hnew
  refine ⟨d, hproper, hnew, draft'.insert d, hadded, ?_⟩
  rw [hproper.lookup_insert, holds_eq_false_iff.mp hnew, Option.none_or, if_pos hname]

end ByName

/-- A rule is read from the same folder with its style and by its name, and from the same file unless
that folder has one for it with either ending. -/
theorem isReadFrom_of_obtains (hplain : files.hasPlainNames = true)
    (hdistinct : files.hasDistinctNames = true) (hstyle : Path.IsPlain style)
    (hpaths : c'.stylePaths = c.stylePaths)
    (h : Obtains draft (addStyle c files draft style) (style ++ '.' :: rule) d) :
    ∃ folder, home? c files style rule = some folder ∧ IsReadFrom c' files style rule folder d := by
  obtain ⟨hrule, hslash, folder, hfolder, hload⟩ :=
    exists_home?_of_obtains hplain hdistinct hstyle h
  have hd := path_of_load hload
  refine ⟨folder, hfolder, hd, ?alone, ?same, ?available⟩
  case alone =>
    intro hdot styles draft' d' hd'
    exact path_of_load (load_of_obtains hpaths hdot hfolder hd')
  case same =>
    intro styles draft' d' hd'
    by_cases hdot : '.' ∈ style
    · have hne := path_ne_path_of_dot hstyle hrule hslash hdot hd hd'
      exact ⟨iff_of_false hne fun hfree => hfree.1 hdot, fun heq => absurd heq hne⟩
    · have hload' := load_of_obtains hpaths hdot hfolder hd'
      have hchoose := choose_eq_choose_iff hrule hslash (List.find?_some hfolder)
      rw [hd, path_of_load hload', Option.some_inj, hchoose]
      refine ⟨(and_iff_right hdot).symm, fun hboth => ?_⟩
      rw [hchoose.mpr hboth, hload'] at hload
      exact (Except.ok.inj hload).symm
  case available =>
    intro hdot hdisables styles draft' hstyles hproper hnew
    obtain ⟨-, -, whole, hwhole, -⟩ := h
    exact exists_obtains hplain hdistinct hstyle hpaths hrule hslash hdot hfolder hwhole hdisables
      hstyles hproper hnew

def wordFiles : List (Text × FileTree) := [
  ("Word.yaml".toList,
    .file (some "extends: existence\nmessage: No verbs.\ntokens: [verb]\n".toList)),
  ("Word.yml".toList,
    .file (some "extends: existence\nmessage: No words.\ntokens: [word]\n".toList))]

/-- A rule with a file of either ending, in the second of the folders that its style has. -/
def twoEndings : FileTree := .folder [
  ("styles".toList, .folder [("Acme".toList, .folder [("Term.yml".toList,
    .file (some "extends: existence\nmessage: No terms.\ntokens: [term]\n".toList))])]),
  ("more".toList, .folder [("Acme".toList, .folder wordFiles)])]

def twoPaths : Config where
  settings := { searchPaths := ["more".toList] }

theorem load_twoEndings : Style.load twoPaths twoEndings "Acme".toList =
    ["./styles/Acme/Term.yml".toList, "./more/Acme/Word.yaml".toList,
      "./more/Acme/Word.yml".toList].mapM fun path =>
        (Definition.load twoEndings path).mapError RunError.rule := by
  have hfolders : folders twoPaths twoEndings "Acme".toList =
      ["./styles/Acme".toList, "./more/Acme".toList] := by decide +kernel
  have hstyles : ruleFiles twoEndings "./styles/Acme".toList =
      ["./styles/Acme/Term.yml".toList] := by decide +kernel
  have hmore : ruleFiles twoEndings "./more/Acme".toList =
      ["./more/Acme/Word.yaml".toList, "./more/Acme/Word.yml".toList] := by
    have hentries : twoEndings.entriesAt "./more/Acme".toList = .ok wordFiles :=
      FileTree.entriesAt_eq_ok_iff.mpr
        ⟨wordFiles, rfl, List.mergeSort_of_pairwise (by decide +kernel)⟩
    rw [ruleFiles, hentries]
    decide +kernel
  simp only [Style.load, hfolders, List.flatMap_cons, List.flatMap_nil, hstyles, hmore]
  rfl

theorem obtains_twoEndings : ∃ d d',
    Obtains [] (addStyle twoPaths twoEndings [] "Acme".toList) "Acme.Word".toList d ∧
      Obtains [] (addConfigured twoPaths twoEndings [] [] "Acme.Word".toList) "Acme.Word".toList d' ∧
      d.path = some "./more/Acme/Word.yaml".toList ∧ d'.path = some "./more/Acme/Word.yml".toList := by
  have hwhole : ((addStyle twoPaths twoEndings [] "Acme".toList).toOption.bind
      (·.lookup "Acme.Word".toList)).map (·.path) = some (some "./more/Acme/Word.yaml".toList) := by
    rw [addStyle, load_twoEndings]
    decide +kernel
  have hnamed : ((addConfigured twoPaths twoEndings [] [] "Acme.Word".toList).toOption.bind
      (·.lookup "Acme.Word".toList)).map (·.path) = some (some "./more/Acme/Word.yml".toList) := by
    decide +kernel
  obtain ⟨d, hd, hpath⟩ := Option.map_eq_some_iff.mp hwhole
  obtain ⟨d', hd', hpath'⟩ := Option.map_eq_some_iff.mp hnamed
  obtain ⟨whole, hwhole, hd⟩ := Option.bind_eq_some_iff.mp hd
  obtain ⟨named, hnamed, hd'⟩ := Option.bind_eq_some_iff.mp hd'
  exact ⟨d, d', ⟨Draft.isProper_nil, rfl, whole, toOption_eq_some_iff.mp hwhole, hd⟩,
    ⟨Draft.isProper_nil, rfl, named, toOption_eq_some_iff.mp hnamed, hd'⟩, hpath, hpath'⟩

theorem isReadFrom_twoEndings : twoEndings.hasPlainNames = true ∧
    twoEndings.hasDistinctNames = true ∧ Path.IsPlain "Acme".toList ∧
      ∃ d, Obtains [] (addStyle twoPaths twoEndings [] "Acme".toList) "Acme.Word".toList d ∧
        ∃ folder, home? twoPaths twoEndings "Acme".toList "Word".toList = some folder ∧
          hasBoth twoEndings "Word".toList folder = true ∧
          IsReadFrom twoPaths twoEndings "Acme".toList "Word".toList folder d := by
  have hplain : twoEndings.hasPlainNames = true := by decide
  have hdistinct : twoEndings.hasDistinctNames = true := by decide
  have hstyle : Path.IsPlain "Acme".toList := by decide
  obtain ⟨d, -, hd, -⟩ := obtains_twoEndings
  obtain ⟨folder, hfolder, hread⟩ := isReadFrom_of_obtains hplain hdistinct hstyle rfl hd
  have hhome : home? twoPaths twoEndings "Acme".toList "Word".toList =
      some "./more/Acme".toList := by decide +kernel
  obtain rfl := Option.some.inj (hhome.symm.trans hfolder)
  exact ⟨hplain, hdistinct, hstyle, d, hd, _, hfolder, by decide +kernel, hread⟩

/-- With its style the rule is read from one file, by its name from the other. -/
theorem path_ne_path_twoEndings : ∃ d d',
    Obtains [] (addStyle twoPaths twoEndings [] "Acme".toList) "Acme.Word".toList d ∧
      Obtains [] (addConfigured twoPaths twoEndings [] [] "Acme.Word".toList) "Acme.Word".toList d' ∧
      d.path ≠ d'.path := by
  obtain ⟨d, d', hd, hd', hpath, hpath'⟩ := obtains_twoEndings
  refine ⟨d, d', hd, hd', ?_⟩
  rw [hpath, hpath']
  decide

end RuleSet

end Copydesk
