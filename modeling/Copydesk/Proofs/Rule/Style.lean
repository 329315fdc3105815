import Copydesk.Proofs.FileTree
import Copydesk.Proofs.Path
import Copydesk.Proofs.Text.Order
import Copydesk.Rule.Style

/-! Rule files. A file is one of a style if it is named after a rule, and what it holds bears the
names of the style and of the rule. -/

namespace Copydesk.Rule

open Outcome Copydesk.Path

def IsFileOf (file rule : Text) : Prop :=
  rule ≠ [] ∧ (file = rule ++ ".yml".toList ∨ file = rule ++ ".yaml".toList)

namespace IsFileOf

variable {file rule : Text}

theorem splitName_eq (h : IsFileOf file rule) :
    splitName file = (rule, some "yml".toList) ∨ splitName file = (rule, some "yaml".toList) := by
  obtain ⟨hrule, rfl | rfl⟩ := h
  · exact .inl (splitName_append hrule (by decide))
  · exact .inr (splitName_append hrule (by decide))

theorem stem_eq (h : IsFileOf file rule) : (splitName file).1 = rule := by
  rcases h.splitName_eq with h | h <;> rw [h]

theorem isPlain (h : IsFileOf file rule) (hslash : '/' ∉ file) : IsPlain file := by
  have hlength : 3 < file.length := by
    obtain ⟨-, rfl | rfl⟩ := h <;> simp
  refine ⟨?_, hslash, ?_, ?_⟩ <;> rintro rfl <;> simp at hlength

theorem no_slash (h : IsFileOf file rule) (hslash : '/' ∉ rule) : '/' ∉ file := by
  obtain ⟨-, rfl | rfl⟩ := h <;>
    exact fun hmem => (List.mem_append.mp hmem).elim hslash (by decide)

end IsFileOf

namespace Style

theorem isRuleFile_iff {file : Text} (hslash : '/' ∉ file) :
    isRuleFile file = true ↔ ∃ rule, IsFileOf file rule := by
  constructor
  · intro h
    unfold isRuleFile at h
    split at h
    · rename_i ext hext
      obtain ⟨name, hname, hsplit⟩ := Option.bind_eq_some_iff.mp hext
      obtain rfl := eq_of_fileName? hslash hname
      obtain ⟨hstem, happend⟩ := eq_of_splitName (Prod.ext rfl hsplit)
      refine ⟨_, hstem, ?_⟩
      rw [Bool.or_eq_true, beq_iff_eq, beq_iff_eq] at h
      rcases h with rfl | rfl
      · exact .inl happend.symm
      · exact .inr happend.symm
    · cases h
  · rintro ⟨rule, h⟩
    have hname := fileName?_of_isPlain (h.isPlain hslash)
    rw [isRuleFile, extension?, hname, Option.bind_some]
    rcases h.splitName_eq with h | h <;> rw [h] <;> rfl

def Keeps (files : FileTree) (folder file rule : Text) : Prop :=
  ∃ entries node, files.entriesAt folder = .ok entries ∧ (file, node) ∈ entries ∧
    node.isFile = true ∧ IsFileOf file rule

def fileNames (files : FileTree) (folder : Text) : List Text :=
  match files.entriesAt folder with
  | .error _ => []
  | .ok entries => (entries.filter fun (name, node) => node.isFile && isRuleFile name).map (·.1)

variable {files : FileTree} {folder file : Text}

theorem ruleFiles_eq : ruleFiles files folder = (fileNames files folder).map (join folder) := by
  rw [ruleFiles, fileNames]
  cases files.entriesAt folder with
  | error f => rfl
  | ok entries =>
    simp only [List.map_map]
    rfl

theorem fileNames_of_not_holdsFolder (h : files.holdsFolder folder = false) :
    fileNames files folder = [] := by
  unfold fileNames
  split
  · rfl
  · rename_i entries hentries
    rw [FileTree.holdsFolder_of_entriesAt hentries] at h
    cases h

theorem keeps_iff_holdsFile {rule : Text} (hdistinct : files.hasDistinctNames = true)
    (hfolder : folder ≠ []) (hslash : '/' ∉ file) :
    Keeps files folder file rule ↔ IsFileOf file rule ∧ files.holdsFile (join folder file) = true := by
  have hholds (hfile : IsFileOf file rule) : files.holdsFile (join folder file) = true ↔
      ∃ entries node, files.find folder = .ok (.folder entries) ∧ (file, node) ∈ entries ∧
        node.isFile = true := by
    have hnode : files.holdsFile (join folder file) = true ↔
        ∃ node, files.find (join folder file) = .ok node ∧ node.isFile = true := by
      rw [FileTree.holdsFile]
      cases files.find (join folder file) <;> simp [Except.toOption]
    rw [hnode]
    simp only [FileTree.find_join_eq_ok_iff hfolder (hfile.isPlain hslash)]
    constructor
    · rintro ⟨node, ⟨entries, hfind, hlookup⟩, hisFile⟩
      have hentries := FileTree.hasDistinctNames_of_find hdistinct hfind
      exact ⟨entries, node, hfind, (FileTree.lookup_eq_some_iff hentries).mp hlookup, hisFile⟩
    · rintro ⟨entries, node, hfind, hmem, hisFile⟩
      have hentries := FileTree.hasDistinctNames_of_find hdistinct hfind
      exact ⟨node, ⟨entries, hfind, (FileTree.lookup_eq_some_iff hentries).mpr hmem⟩, hisFile⟩
  constructor
  · rintro ⟨sorted, node, hsorted, hmem, hisFile, hfile⟩
    obtain ⟨entries, hfind, rfl⟩ := FileTree.entriesAt_eq_ok_iff.mp hsorted
    exact ⟨hfile, (hholds hfile).mpr ⟨entries, node, hfind, List.mem_mergeSort.mp hmem, hisFile⟩⟩
  · rintro ⟨hfile, hheld⟩
    obtain ⟨entries, node, hfind, hmem, hisFile⟩ := (hholds hfile).mp hheld
    exact ⟨_, node, FileTree.entriesAt_eq_ok_iff.mpr ⟨entries, hfind, rfl⟩,
      List.mem_mergeSort.mpr hmem, hisFile, hfile⟩

theorem mem_fileNames (hplain : files.hasPlainNames = true) :
    file ∈ fileNames files folder ↔ ∃ rule, Keeps files folder file rule := by
  unfold fileNames
  cases hentries : files.entriesAt folder with
  | error f => simp [Keeps, hentries]
  | ok entries =>
    simp only [List.mem_map, List.mem_filter, Bool.and_eq_true]
    constructor
    · rintro ⟨⟨name, node⟩, ⟨hmem, hfile, hrule⟩, rfl⟩
      have hslash := FileTree.no_slash_of_entriesAt hplain hentries hmem
      obtain ⟨rule, hrule⟩ := (isRuleFile_iff hslash).mp hrule
      exact ⟨rule, entries, node, hentries, hmem, hfile, hrule⟩
    · rintro ⟨rule, entries', node, hentries', hmem, hfile, hrule⟩
      obtain rfl := Except.ok.inj (hentries.symm.trans hentries')
      have hslash := FileTree.no_slash_of_entriesAt hplain hentries hmem
      exact ⟨(file, node), ⟨hmem, hfile, (isRuleFile_iff hslash).mpr ⟨rule, hrule⟩⟩, rfl⟩

theorem fileNames_pairwise (files : FileTree) (folder : Text) :
    (fileNames files folder).Pairwise fun a b => Text.le a b = true := by
  unfold fileNames
  split
  · exact List.Pairwise.nil
  · rename_i entries hentries
    obtain ⟨inside, -, rfl⟩ := FileTree.entriesAt_eq_ok_iff.mp hentries
    have hsorted : (inside.mergeSort fun a b => Text.le a.1 b.1).Pairwise
        fun a b => Text.le a.1 b.1 = true :=
      List.pairwise_mergeSort (fun a b c => Text.le_trans (s := a.1) (t := b.1) (u := c.1))
        (fun a b => Bool.or_eq_true_iff.mpr (Text.le_total a.1 b.1)) inside
    exact List.pairwise_map.mpr (hsorted.filter _)

theorem rel_of_find? {α : Type} {R : α → α → Prop} {p : α → Bool} {as : List α} {a b : α}
    (hrefl : R a a) (has : as.Pairwise R) (ha : as.find? p = some a) (hb : b ∈ as)
    (hpb : p b = true) : R a b := by
  obtain ⟨-, before, after, rfl, hbefore⟩ := List.find?_eq_some_iff_append.mp ha
  rcases List.mem_append.mp hb with hb | hb
  · have hother := hbefore b hb
    rw [hpb] at hother
    cases hother
  · rcases List.mem_cons.mp hb with rfl | hb
    · exact hrefl
    · exact List.rel_of_pairwise_cons (List.pairwise_append.mp has).2.1 hb

theorem folders_flatMap_ruleFiles (c : Config) (style : Text) :
    (folders c files style).flatMap (ruleFiles files) =
      c.stylePaths.flatMap fun path => (fileNames files (join path style)).map
        (join (join path style)) := by
  rw [folders]
  induction c.stylePaths with
  | nil => rfl
  | cons path paths ih =>
    rw [List.map_cons, List.flatMap_cons, ← ih, ← ruleFiles_eq]
    cases hfolder : files.holdsFolder (join path style) with
    | true => rw [List.filter_cons_of_pos hfolder, List.flatMap_cons]
    | false =>
      rw [List.filter_cons_of_neg (by simp [hfolder]), ruleFiles_eq,
        fileNames_of_not_holdsFolder hfolder]
      rfl

/-- Where each part of a list shows at most one that is looked for, it is the one of the first part
that shows any. -/
theorem find?_flatMap_eq {α β : Type} {f : α → List β} {p : β → Bool} {q : α → Bool} {g : α → β}
    {as : List α} (h : ∀ a ∈ as, (f a).find? p = if q a then some (g a) else none) :
    (as.flatMap f).find? p = (as.find? q).map g := by
  induction as with
  | nil => rfl
  | cons a as ih =>
    have ha := h a List.mem_cons_self
    have ih := ih fun b hb => h b (List.mem_cons_of_mem a hb)
    rw [List.flatMap_cons, List.find?_append, ha, ih]
    cases hq : q a with
    | true => rw [List.find?_cons_of_pos hq]; rfl
    | false => rw [List.find?_cons_of_neg (by simp [hq])]; rfl

end Style

namespace Definition

theorem name_of_ofFields {name : Text} {fs : Fields} {d : Definition}
    (h : ofFields name fs = .ok d) : d.name = name := by
  unfold ofFields at h
  simp only at h
  split at h
  · cases h
  · split at h
    · obtain ⟨checkType, -, h⟩ := bind_eq_ok_iff.mp h
      obtain ⟨message, -, h⟩ := bind_eq_ok_iff.mp h
      obtain ⟨description, -, h⟩ := bind_eq_ok_iff.mp h
      obtain ⟨link, -, h⟩ := bind_eq_ok_iff.mp h
      obtain ⟨level, -, h⟩ := bind_eq_ok_iff.mp h
      obtain ⟨scope, -, h⟩ := bind_eq_ok_iff.mp h
      obtain ⟨pos, -, h⟩ := bind_eq_ok_iff.mp h
      obtain ⟨kind, -, h⟩ := bind_eq_ok_iff.mp h
      split at h
      · cases h
      · rw [← pure_eq_ok_iff.mp h]
    · cases h

theorem name_of_ofNode {name : Text} {n : Data.Yaml.Node} {d : Definition}
    (h : ofNode name n = .ok d) : d.name = name := by
  unfold ofNode at h
  simp only at h
  split at h
  · cases h
  · split at h
    · cases h
    · exact name_of_ofFields h

theorem name_of_ofText {name source : Text} {d : Definition} (h : ofText name source = .ok d) :
    d.name = name := by
  unfold ofText at h
  split at h
  · cases h
  · split at h
    · cases h
    · rename_i hnode
      exact Except.ok.inj h ▸ name_of_ofNode hnode

theorem nameOfPath?_of_load {files : FileTree} {path : Text} {d : Definition}
    (h : load files path = .ok d) : nameOfPath? path = some d.name := by
  unfold load at h
  split at h
  · cases h
  · rename_i name hname
    split at h
    · cases h
    · rename_i source hsource
      cases hd : ofText name source with
      | error e =>
        rw [hd] at h
        cases h
      | ok d' =>
        rw [hd] at h
        obtain rfl := Except.ok.inj h
        rw [hname]
        exact congrArg some (name_of_ofText hd).symm

theorem nameOfPath?_join {folder style file rule : Text} (hstyle : IsPlain style)
    (hfile : IsFileOf file rule) (hslash : '/' ∉ file) :
    nameOfPath? (join (join folder style) file) = some (style ++ '.' :: rule) := by
  have hplain := hfile.isPlain hslash
  rw [nameOfPath?, stem?, fileName?_join hplain, parentName?_join hstyle hplain]
  simp [hfile.stem_eq]

end Definition

end Copydesk.Rule
