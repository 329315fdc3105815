import Copydesk.Proofs.Linter.Block
import Copydesk.Proofs.Path
import Copydesk.Report.Basic
import Mathlib

/-! The report on a batch of files that any number of workers check at once. Whenever they take a
file and whenever they are done with it, its result goes into the place of that file, so all
schedules end with the same results, and every schedule ends. The order of the paths decides where
each result stands in the report, which therefore knows neither how the files were listed nor when
each was checked; and what it says of a file does not depend on the others. -/

namespace Copydesk

namespace Pool

variable {l : Linter} {files : FileTree} {paths : List Text}

/-- How far the workers are with a file. -/
inductive Slot
  | waiting
  | taken
  | done (r : FileResult)

/-- One worker takes a file that waits, or is done with one that was taken. -/
inductive Step (l : Linter) (files : FileTree) (paths : List Text) : List Slot → List Slot → Prop
  | take {slots : List Slot} {i : Nat} (hwaiting : slots[i]? = some .waiting) :
    Step l files paths slots (slots.set i .taken)
  | finish {slots : List Slot} {i : Nat} {path : Text} (htaken : slots[i]? = some .taken)
    (hpath : paths[i]? = some path) :
    Step l files paths slots (slots.set i (.done (.ofPath l files path)))

abbrev Steps (l : Linter) (files : FileTree) (paths : List Text) : List Slot → List Slot → Prop :=
  Relation.ReflTransGen (Step l files paths)

/-- Every file waits. -/
def start (paths : List Text) : List Slot := paths.map fun _ => .waiting

def finished (rs : List FileResult) : List Slot := rs.map .done

/-- There is a slot for each file, and the results there are belong to it. -/
structure Sound (l : Linter) (files : FileTree) (paths : List Text) (slots : List Slot) : Prop where
  length_eq : slots.length = paths.length
  done_eq : ∀ (i : Nat) (path : Text) (r : FileResult), paths[i]? = some path →
    slots[i]? = some (.done r) → r = .ofPath l files path

theorem sound_start : Sound l files paths (start paths) where
  length_eq := List.length_map _
  done_eq i path r _ hdone := by
    rw [start, List.getElem?_map] at hdone
    cases h : paths[i]? with
    | none => simp [h] at hdone
    | some p => simp [h] at hdone

theorem Sound.set {slots : List Slot} {i : Nat} {s s' : Slot} (hs : Sound l files paths slots)
    (hi : slots[i]? = some s)
    (h : ∀ path r, paths[i]? = some path → s' = .done r → r = .ofPath l files path) :
    Sound l files paths (slots.set i s') := by
  refine ⟨List.length_set.trans hs.length_eq, fun j path r hpath hdone => ?_⟩
  by_cases hij : i = j
  · obtain ⟨hlt, -⟩ := List.getElem?_eq_some_iff.mp hi
    rw [← hij, List.getElem?_set_self hlt] at hdone
    exact h path r (hij ▸ hpath) (Option.some.inj hdone)
  · rw [List.getElem?_set_ne hij] at hdone
    exact hs.done_eq j path r hpath hdone

theorem Sound.step {slots slots' : List Slot} (hs : Sound l files paths slots)
    (h : Step l files paths slots slots') : Sound l files paths slots' := by
  cases h with
  | take hwaiting => exact hs.set hwaiting fun _ _ _ hdone => (by cases hdone)
  | finish htaken hp =>
    refine hs.set htaken fun path r hpath hdone => ?_
    rw [hp] at hpath
    cases hpath
    cases hdone
    rfl

theorem Sound.steps {slots slots' : List Slot} (hs : Sound l files paths slots)
    (h : Steps l files paths slots slots') : Sound l files paths slots' := by
  induction h with
  | refl => exact hs
  | tail _ hstep ih => exact ih.step hstep

theorem Sound.eq_of_finished {rs : List FileResult} (hs : Sound l files paths (finished rs)) :
    rs = paths.map (.ofPath l files) := by
  have hlength : rs.length = paths.length := by
    simpa [finished] using hs.length_eq
  refine List.ext_getElem (by rw [hlength, List.length_map]) fun i hi hi' => ?_
  have hpath : paths[i]? = some (paths.get ⟨i, hlength ▸ hi⟩) := List.getElem?_eq_getElem _
  have hdone : (finished rs)[i]? = some (.done rs[i]) := by
    rw [finished, List.getElem?_map, List.getElem?_eq_getElem hi, Option.map_some]
  rw [List.getElem_map]
  exact hs.done_eq i _ _ hpath hdone

section Progress

/-- The steps that a file still needs. -/
def Slot.work : Slot → Nat
  | .waiting => 2
  | .taken => 1
  | .done _ => 0

def work : List Slot → Nat
  | [] => 0
  | s :: slots => s.work + work slots

theorem work_set {slots : List Slot} {i : Nat} {s : Slot} (h : slots[i]? = some s) (s' : Slot) :
    work (slots.set i s') + s.work = work slots + s'.work := by
  induction slots generalizing i with
  | nil => cases h
  | cons a slots ih =>
    cases i with
    | zero =>
      obtain rfl : a = s := by simpa using h
      rw [List.set_cons_zero, work, work]
      omega
    | succ i =>
      have hi := ih (by simpa using h)
      rw [List.set_cons_succ, work, work]
      omega

theorem exists_work_pos {slots : List Slot} (h : work slots ≠ 0) : ∃ s ∈ slots, s.work ≠ 0 := by
  induction slots with
  | nil => exact absurd rfl h
  | cons s slots ih =>
    by_cases hs : s.work = 0
    · rw [work, hs, Nat.zero_add] at h
      obtain ⟨s', hmem, hs'⟩ := ih h
      exact ⟨s', List.mem_cons_of_mem s hmem, hs'⟩
    · exact ⟨s, List.mem_cons_self, hs⟩

/-- Every schedule comes to its end after two steps for each file. -/
theorem work_of_step {slots slots' : List Slot} (h : Step l files paths slots slots') :
    work slots' + 1 = work slots := by
  cases h with
  | take hwaiting => exact Nat.succ.inj (work_set hwaiting .taken)
  | finish htaken hpath => exact work_set htaken (.done _)

theorem exists_finished {slots : List Slot} (h : work slots = 0) : ∃ rs, slots = finished rs := by
  induction slots with
  | nil => exact ⟨[], rfl⟩
  | cons s slots ih =>
    rw [work, Nat.add_eq_zero_iff] at h
    obtain ⟨rs, rfl⟩ := ih h.2
    cases s with
    | waiting => cases h.1
    | taken => cases h.1
    | done r => exact ⟨r :: rs, rfl⟩

/-- Nobody waits for another: as long as a file lacks its result, there is something to do. -/
theorem Sound.exists_step {slots : List Slot} (hs : Sound l files paths slots)
    (h : work slots ≠ 0) : ∃ slots', Step l files paths slots slots' := by
  obtain ⟨s, hmem, hwork⟩ := exists_work_pos h
  obtain ⟨i, hi, his⟩ := List.mem_iff_getElem.mp hmem
  have hslot : slots[i]? = some s := his ▸ List.getElem?_eq_getElem hi
  cases s with
  | waiting => exact ⟨_, .take hslot⟩
  | taken => exact ⟨_, .finish hslot (List.getElem?_eq_getElem (hs.length_eq ▸ hi))⟩
  | done r => exact absurd rfl hwork

theorem Sound.exists_steps {slots : List Slot} (hs : Sound l files paths slots) :
    ∃ rs, Steps l files paths slots (finished rs) := by
  induction hn : work slots generalizing slots with
  | zero =>
    obtain ⟨rs, rfl⟩ := exists_finished hn
    exact ⟨rs, .refl⟩
  | succ n ih =>
    obtain ⟨slots', hstep⟩ := hs.exists_step (by rw [hn]; exact Nat.succ_ne_zero n)
    have hwork := work_of_step hstep
    obtain ⟨rs, hsteps⟩ := ih (hs.step hstep) (by omega)
    exact ⟨rs, .head hstep hsteps⟩

end Progress

/-- Wherever the workers have come to, they come to the end, and always to the same. -/
theorem exists_unique_finished {slots : List Slot} (h : Steps l files paths (start paths) slots) :
    (∃ rs, Steps l files paths slots (finished rs)) ∧
      ∀ rs, Steps l files paths slots (finished rs) → rs = paths.map (.ofPath l files) :=
  ⟨(sound_start.steps h).exists_steps,
    fun _ hrs => ((sound_start.steps h).steps hrs).eq_of_finished⟩

end Pool

theorem Linter.lintFile_congr {l : Linter} {files files' : FileTree} {path : Text}
    (h : files'.read path = files.read path) : l.lintFile files' path = l.lintFile files path := by
  rw [lintFile, lintFile, h]

namespace FileResult

variable {l : Linter} {files : FileTree} {paths : List Text}

def le (a b : FileResult) : Bool := Path.le a.path b.path

theorem eq_ofPath {r : FileResult} (h : r ∈ paths.map (.ofPath l files)) :
    r = .ofPath l files r.path := by
  obtain ⟨p, -, rfl⟩ := List.mem_map.mp h
  rfl

theorem path_mem {r : FileResult} (h : r ∈ paths.map (.ofPath l files)) : r.path ∈ paths := by
  obtain ⟨p, hp, rfl⟩ := List.mem_map.mp h
  exact hp

theorem map_path_map_ofPath : (paths.map (.ofPath l files)).map FileResult.path = paths := by
  rw [List.map_map]
  exact List.map_id paths

theorem filter_map_ofPath (p : Text → Bool) :
    (paths.map (FileResult.ofPath l files)).filter (fun r => p r.path) =
      (paths.filter p).map (.ofPath l files) :=
  List.filter_map

end FileResult

namespace Report

variable {l : Linter} {files : FileTree} {paths : List Text}

/-- The report on results that come in some order. -/
def collect (l : Linter) (rs : List FileResult) : Report where
  files := rs.mergeSort FileResult.le
  ruleCount := l.rules.rules.length

theorem ofPaths_eq_collect :
    ofPaths l files paths = collect l (paths.map (.ofPath l files)) := rfl

def others (r : Report) (path : Text) : List FileResult := r.files.filter (·.path ≠ path)

theorem pairwise_le_ofPaths : (ofPaths l files paths).files.Pairwise (FileResult.le · ·) := by
  have htrans (a b c : FileResult) (hab : a.le b = true) (hbc : b.le c = true) : a.le c = true :=
    Path.le_trans hab hbc
  have htotal (a b : FileResult) : (a.le b || b.le a) = true :=
    Bool.or_eq_true_iff.mpr (Path.le_total a.path b.path)
  exact List.pairwise_mergeSort htrans htotal _

theorem perm_ofPaths : (ofPaths l files paths).files.Perm (paths.map (.ofPath l files)) :=
  List.mergeSort_perm _ _

theorem perm_path_ofPaths : ((ofPaths l files paths).files.map (·.path)).Perm paths := by
  have hperm := (@perm_ofPaths l files paths).map FileResult.path
  rwa [FileResult.map_path_map_ofPath] at hperm

section Distinct

variable (hdistinct : Path.Distinct paths)

include hdistinct

theorem eq_of_same {p q : Text} (hp : p ∈ paths) (hq : q ∈ paths) (h : Path.Same p q) : p = q := by
  have : Std.Symm fun p q => ¬Path.Same p q := ⟨fun _ _ hne hqp => hne hqp.symm⟩
  exact Classical.byContradiction fun hne => List.Pairwise.forall hdistinct hp hq hne h

theorem eq_files_ofPaths {rs : List FileResult} (hperm : rs.Perm (paths.map (.ofPath l files)))
    (hle : rs.Pairwise (FileResult.le · ·)) : rs = (ofPaths l files paths).files := by
  refine List.Perm.eq_of_pairwise ?_ hle pairwise_le_ofPaths (hperm.trans perm_ofPaths.symm)
  intro a b ha hb hab hba
  have ha := hperm.mem_iff.mp ha
  have hb := perm_ofPaths.mem_iff.mp hb
  have hpath : a.path = b.path := eq_of_same hdistinct (FileResult.path_mem ha)
    (FileResult.path_mem hb) (Path.same_of_le hab hba)
  rw [FileResult.eq_ofPath ha, FileResult.eq_ofPath hb, hpath]

theorem ofPaths_perm {paths' : List Text} (h : paths'.Perm paths) :
    ofPaths l files paths' = ofPaths l files paths :=
  congrArg (Report.mk · _)
    (eq_files_ofPaths hdistinct (perm_ofPaths.trans (h.map _)) pairwise_le_ofPaths)

/-- Leaving a file out takes away its own result only. -/
theorem files_ofPaths_filter (path : Text) :
    (ofPaths l files (paths.filter (· ≠ path))).files = (ofPaths l files paths).others path := by
  refine (eq_files_ofPaths (List.Pairwise.sublist List.filter_sublist hdistinct) ?_ ?_).symm
  · rw [← FileResult.filter_map_ofPath]
    exact perm_ofPaths.filter _
  · exact List.Pairwise.sublist List.filter_sublist pairwise_le_ofPaths

/-- Whatever becomes of a file, the results of the others stay. -/
theorem others_congr {files' : FileTree} {path : Text}
    (h : ∀ q ∈ paths, q ≠ path → files'.read q = files.read q) :
    (ofPaths l files' paths).others path = (ofPaths l files paths).others path := by
  have hmap : (paths.filter (· ≠ path)).map (FileResult.ofPath l files') =
      (paths.filter (· ≠ path)).map (.ofPath l files) := by
    refine List.map_congr_left fun q hq => ?_
    obtain ⟨hmem, hne⟩ := List.mem_filter.mp hq
    exact congrArg (FileResult.mk q) (Linter.lintFile_congr (h q hmem (of_decide_eq_true hne)))
  rw [← files_ofPaths_filter hdistinct, ← files_ofPaths_filter hdistinct, ofPaths_eq_collect, hmap,
    ofPaths_eq_collect]

theorem pairwise_ofPaths : (ofPaths l files paths).files.Pairwise fun a b =>
    Path.le a.path b.path = true ∧ ¬Path.Same a.path b.path := by
  refine pairwise_le_ofPaths.and ?_
  have hsame : ((ofPaths l files paths).files.map (·.path)).Pairwise fun p q => ¬Path.Same p q :=
    (List.Pairwise.perm hdistinct perm_path_ofPaths.symm fun hne hqp => hne hqp.symm)
  exact List.pairwise_map.mp hsame

end Distinct

section Counts

theorem count_eq (r : Report) (level : Level) : r.count level =
    (r.files.map fun f => (f.outcome.toOption.getD []).countP (·.level == level)).sum := by
  rw [count, alerts, List.countP_flatMap]
  refine congrArg List.sum (List.map_congr_left fun f _ => ?_)
  rw [Function.comp_apply, List.countP_map, FileResult.alerts]
  cases f.outcome <;> rfl

theorem countP_level_add (as : List Alert) : as.countP (·.level == .error) +
    as.countP (·.level == .warning) + as.countP (·.level == .suggestion) = as.length := by
  induction as with
  | nil => rfl
  | cons a as ih =>
    rw [List.length_cons, ← ih, List.countP_cons, List.countP_cons, List.countP_cons]
    cases a.level <;> simp <;> omega

theorem count_add (r : Report) : r.count .error + r.count .warning + r.count .suggestion =
    (r.files.map fun f => (f.outcome.toOption.getD []).length).sum := by
  rw [count_eq, count_eq, count_eq]
  induction r.files with
  | nil => rfl
  | cons f fs ih =>
    have hfile := countP_level_add (f.outcome.toOption.getD [])
    simp only [List.map_cons, List.sum_cons]
    omega

end Counts

/-- A report that its files determine, each by itself. -/
structure IsSettled (l : Linter) (files : FileTree) (paths : List Text) (r : Report) : Prop where
  perm_path : (r.files.map (·.path)).Perm paths
  sorted : r.files.Pairwise fun a b => Path.le a.path b.path = true ∧ ¬Path.Same a.path b.path
  outcome_eq : ∀ f ∈ r.files, f.outcome = l.lintFile files f.path
  /-- The listing does not matter. -/
  eq_of_perm : ∀ paths', paths'.Perm paths → ofPaths l files paths' = r
  /-- Nor does the schedule, and every schedule comes to its end. -/
  of_steps : ∀ paths', paths'.Perm paths → ∀ slots,
    Pool.Steps l files paths' (Pool.start paths') slots →
      (∃ rs, Pool.Steps l files paths' slots (Pool.finished rs)) ∧
      ∀ rs, Pool.Steps l files paths' slots (Pool.finished rs) → collect l rs = r
  /-- Without one of the files, the results of the others are the same, -/
  others_filter : ∀ path, (ofPaths l files (paths.filter (· ≠ path))).files = r.others path
  /-- and so they are with another content of it, or with one that cannot be read or checked. -/
  others_eq : ∀ (path : Text) (files' : FileTree),
    (∀ q ∈ paths, q ≠ path → files'.read q = files.read q) →
      (ofPaths l files' paths).others path = r.others path
  /-- The counts are those of the alerts on the files that could be checked, -/
  count_eq : ∀ level, r.count level =
    (r.files.map fun f => (f.outcome.toOption.getD []).countP (·.level == level)).sum
  /-- and no alert is left uncounted. -/
  count_add : r.count .error + r.count .warning + r.count .suggestion =
    (r.files.map fun f => (f.outcome.toOption.getD []).length).sum

/-- Paths that differ in more than their spelling settle their report, whatever happens to each. -/
theorem isSettled_ofPaths (l : Linter) (files : FileTree) {paths : List Text}
    (hdistinct : Path.Distinct paths) : IsSettled l files paths (ofPaths l files paths) where
  perm_path := perm_path_ofPaths
  sorted := pairwise_ofPaths hdistinct
  outcome_eq f hf :=
    congrArg FileResult.outcome (FileResult.eq_ofPath (perm_ofPaths.mem_iff.mp hf))
  eq_of_perm _ hperm := ofPaths_perm hdistinct hperm
  of_steps paths' hperm slots hslots := by
    obtain ⟨hexists, hunique⟩ := Pool.exists_unique_finished hslots
    refine ⟨hexists, fun rs hrs => ?_⟩
    rw [hunique rs hrs, ← ofPaths_eq_collect]
    exact ofPaths_perm hdistinct hperm
  others_filter := files_ofPaths_filter hdistinct
  others_eq _ _ h := others_congr hdistinct h
  count_eq := count_eq _
  count_add := count_add _

def mixedLinter : Linter := .ofRules {} (.house ["text"] ["text"]) []

def mixedFiles : FileTree := .folder
  [("b.txt", .file (some "bad")), ("sub", .folder [("a.txt", .file (some "good"))]),
    ("c.txt", .file none)]

def mixedPaths : List Text := ["sub/a.txt", "gone.txt", "c.txt", "b.txt"]

/-- A file with a finding, one that is not text, one that is not there and one without findings. -/
def mixedResults : List FileResult :=
  [⟨"b.txt", .ok [Alert.house]⟩, ⟨"c.txt", .error (.io FileTree.Fault.notText.message)⟩,
    ⟨"gone.txt", .error (.io FileTree.Fault.notFound.message)⟩, ⟨"sub/a.txt", .ok []⟩]

theorem isSettled_mixedFiles :
    Path.Distinct mixedPaths ∧
      (ofPaths mixedLinter mixedFiles mixedPaths).files = mixedResults ∧
      IsSettled mixedLinter mixedFiles mixedPaths
        (ofPaths mixedLinter mixedFiles mixedPaths) := by
  have hdistinct : Path.Distinct mixedPaths := by decide
  have hread : mixedFiles.read "b.txt" = .ok "bad".toList := by rfl
  have hbinary : mixedFiles.read "c.txt" = .error .notText := by rfl
  have hgone : mixedFiles.read "gone.txt" = .error .notFound := by rfl
  have hgood : mixedFiles.read "sub/a.txt" = .ok "good".toList := by rfl
  have hlint : mixedLinter.lint "b.txt" "bad" = .ok [Alert.house] := by cbv
  have hclean : mixedLinter.lint "sub/a.txt" "good" = .ok [] := by cbv
  have hperm : mixedResults.Perm (mixedPaths.map (.ofPath mixedLinter mixedFiles)) := by
    simp only [mixedPaths, List.map_cons, List.map_nil, FileResult.ofPath, Linter.lintFile, hread,
      hbinary, hgone, hgood, hlint, hclean]
    exact List.reverse_perm mixedResults.reverse
  have hle : (mixedResults.map FileResult.path).Pairwise (Path.le · ·) := by decide
  exact ⟨hdistinct, (eq_files_ofPaths hdistinct hperm (List.pairwise_map.mp hle)).symm,
    isSettled_ofPaths mixedLinter mixedFiles hdistinct⟩

end Report

end Copydesk
