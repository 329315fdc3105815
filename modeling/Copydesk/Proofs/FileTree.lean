import Copydesk.FileTree
import Copydesk.Proofs.Outcome
import Copydesk.Proofs.Path

/-! Names in a tree of files. No name holds a slash and no folder has a name twice where this is so
in the tree that is looked into, and what is in a folder is found under its name. -/

namespace Copydesk.FileTree

open Outcome

mutual

/-- Whether every name in the tree can be written between two slashes. -/
def hasPlainNames : FileTree → Bool
  | file _ => true
  | folder entries => allPlain entries

def allPlain : List (Text × FileTree) → Bool
  | [] => true
  | (name, t) :: rest => decide ('/' ∉ name) && hasPlainNames t && allPlain rest

/-- Whether no folder in the tree has two entries with one name. -/
def hasDistinctNames : FileTree → Bool
  | file _ => true
  | folder entries => allDistinct entries

def allDistinct : List (Text × FileTree) → Bool
  | [] => true
  | (name, t) :: rest =>
    !(rest.map (·.1)).contains name && hasDistinctNames t && allDistinct rest

end

theorem plain_of_mem {entries : List (Text × FileTree)} (h : allPlain entries = true)
    {e : Text × FileTree} (he : e ∈ entries) : '/' ∉ e.1 ∧ e.2.hasPlainNames = true := by
  induction entries with
  | nil => cases he
  | cons f rest ih =>
    simp only [allPlain, Bool.and_eq_true, decide_eq_true_eq] at h
    obtain ⟨hf, hrest⟩ := h
    rcases List.mem_cons.mp he with rfl | he
    · exact hf
    · exact ih hrest he

theorem distinct_of_mem {entries : List (Text × FileTree)} (h : allDistinct entries = true)
    {e : Text × FileTree} (he : e ∈ entries) : e.2.hasDistinctNames = true := by
  induction entries with
  | nil => cases he
  | cons f rest ih =>
    simp only [allDistinct, Bool.and_eq_true] at h
    obtain ⟨⟨-, hf⟩, hrest⟩ := h
    rcases List.mem_cons.mp he with rfl | he
    · exact hf
    · exact ih hrest he

theorem lookup_eq_some_iff {entries : List (Text × FileTree)} (h : allDistinct entries = true)
    {name : Text} {t : FileTree} : entries.lookup name = some t ↔ (name, t) ∈ entries := by
  induction entries with
  | nil => simp
  | cons f rest ih =>
    obtain ⟨n, u⟩ := f
    simp only [allDistinct, Bool.and_eq_true, Bool.not_eq_true'] at h
    obtain ⟨⟨hnew, -⟩, hrest⟩ := h
    have hnew : n ∉ rest.map (·.1) := fun hmem => by
      rw [List.contains_iff_mem.mpr hmem] at hnew
      cases hnew
    rw [List.lookup_cons, List.mem_cons, Prod.mk.injEq]
    by_cases hname : name = n
    · subst hname
      have hrest (u : FileTree) : (name, u) ∉ rest := fun hmem =>
        hnew (List.mem_map.mpr ⟨(name, u), hmem, rfl⟩)
      simp [hrest, eq_comm]
    · rw [beq_false_of_ne hname]
      simp [hname, ih hrest]

/-- What holds of a tree and goes from folders to their entries holds of all that is reached. -/
theorem follow_invariant {P : FileTree → Prop}
    (hentry : ∀ entries e, P (folder entries) → e ∈ entries → P e.2)
    {above : List FileTree} {t t' : FileTree} {path : List Text} (ht : P t)
    (habove : ∀ u ∈ above, P u) (h : follow above t path = .ok t') : P t' := by
  induction path generalizing above t with
  | nil =>
    rw [follow] at h
    rwa [← Except.ok.inj h]
  | cons c path ih =>
    cases t with
    | file content => cases h
    | folder entries =>
      simp only [follow] at h
      split at h
      · exact ih ht habove h
      · split at h
        · cases above with
          | nil => cases h
          | cons up above =>
            obtain ⟨hup, habove⟩ := List.forall_mem_cons.mp habove
            exact ih hup habove h
        · split at h
          · rename_i child hchild
            obtain ⟨before, after, rfl, -⟩ := List.lookup_eq_some_iff.mp hchild
            have hmem : (c, child) ∈ before ++ (c, child) :: after :=
              List.mem_append_right before List.mem_cons_self
            exact ih (hentry _ _ ht hmem) (List.forall_mem_cons.mpr ⟨ht, habove⟩) h
          · cases h

theorem find_invariant {P : FileTree → Prop}
    (hentry : ∀ entries e, P (folder entries) → e ∈ entries → P e.2) {t t' : FileTree}
    {path : Text} (ht : P t) (h : t.find path = .ok t') : P t' := by
  unfold find at h
  simp only at h
  split at h
  · cases h
  · obtain ⟨node, hnode, h⟩ := bind_eq_ok_iff.mp h
    split at h
    · cases h
    · rw [← pure_eq_ok_iff.mp h]
      exact follow_invariant hentry ht (fun u hu => absurd hu List.not_mem_nil) hnode

theorem hasPlainNames_of_find {t t' : FileTree} {path : Text} (ht : t.hasPlainNames = true)
    (h : t.find path = .ok t') : t'.hasPlainNames = true :=
  find_invariant (P := (·.hasPlainNames = true)) (fun _ _ hfolder he => (plain_of_mem hfolder he).2) ht h

theorem hasDistinctNames_of_find {t t' : FileTree} {path : Text} (ht : t.hasDistinctNames = true)
    (h : t.find path = .ok t') : t'.hasDistinctNames = true :=
  find_invariant (P := (·.hasDistinctNames = true)) (fun _ _ hfolder he => distinct_of_mem hfolder he) ht h

theorem entriesAt_eq_ok_iff {t : FileTree} {path : Text} {entries : List (Text × FileTree)} :
    t.entriesAt path = .ok entries ↔ ∃ inside, t.find path = .ok (folder inside) ∧
      inside.mergeSort (fun a b => Text.le a.1 b.1) = entries := by
  rw [entriesAt, bind_eq_ok_iff]
  constructor
  · rintro ⟨node, hnode, h⟩
    cases node with
    | file content => cases h
    | folder inside => exact ⟨inside, hnode, pure_eq_ok_iff.mp h⟩
  · rintro ⟨inside, hfind, hentries⟩
    exact ⟨folder inside, hfind, pure_eq_ok_iff.mpr hentries⟩

theorem no_slash_of_entriesAt {t : FileTree} {path : Text} {entries : List (Text × FileTree)}
    (ht : t.hasPlainNames = true) (h : t.entriesAt path = .ok entries) {e : Text × FileTree}
    (he : e ∈ entries) : '/' ∉ e.1 := by
  obtain ⟨inside, hfind, rfl⟩ := entriesAt_eq_ok_iff.mp h
  exact (plain_of_mem (hasPlainNames_of_find ht hfind) (List.mem_mergeSort.mp he)).1

theorem holdsFolder_of_entriesAt {t : FileTree} {path : Text} {entries : List (Text × FileTree)}
    (h : t.entriesAt path = .ok entries) : t.holdsFolder path = true := by
  obtain ⟨inside, hfind, -⟩ := entriesAt_eq_ok_iff.mp h
  rw [holdsFolder, hfind]
  rfl

section Child

variable {t node : FileTree} {p n : Text}

def child (n : Text) : FileTree → Except Fault FileTree
  | file _ => .error .notFolder
  | folder entries =>
    match entries.lookup n with
    | some node => .ok node
    | none => .error .notFound

theorem child_eq_ok_iff :
    child n t = .ok node ↔ ∃ entries, t = folder entries ∧ entries.lookup n = some node := by
  cases t with
  | file content => simp [child]
  | folder entries =>
    simp only [child, folder.injEq, exists_eq_left']
    cases entries.lookup n <;> simp

theorem follow_concat (hn : Path.IsPlain n) (above : List FileTree) (path : List Text) :
    follow above t (path ++ [n]) = follow above t path >>= child n := by
  induction path generalizing above t with
  | nil =>
    cases t with
    | file content => rfl
    | folder entries =>
      change _ = child n (folder entries)
      cases hlookup : entries.lookup n <;>
        simp [follow, child, hn.ne_dot, hn.ne_dots, hlookup]
  | cons c path ih =>
    cases t with
    | file content => rfl
    | folder entries =>
      simp only [List.cons_append, follow]
      split
      · exact ih above
      · split
        · cases above with
          | nil => rfl
          | cons up above => exact ih above
        · cases entries.lookup c with
          | none => rfl
          | some node => exact ih (folder entries :: above)

theorem find_eq_ok_iff : t.find p = .ok node ↔ p ≠ [] ∧ Path.isAbsolute p = false ∧
    follow [] t (Path.components p) = .ok node ∧ (p.getLast? = some '/' → node.isFile = false) := by
  unfold find
  simp only
  split
  · rename_i h
    constructor
    · exact fun h => nomatch h
    · rintro ⟨hp, habsolute, -⟩
      simp [hp, habsolute] at h
  · rename_i h
    simp only [Bool.or_eq_true, List.isEmpty_iff, not_or, Bool.not_eq_true] at h
    rw [bind_eq_ok_iff]
    constructor
    · rintro ⟨found, hfound, hcheck⟩
      split at hcheck
      · cases hcheck
      · rename_i hslash
        obtain rfl := pure_eq_ok_iff.mp hcheck
        simp only [Bool.and_eq_true, beq_iff_eq, not_and, Bool.not_eq_true] at hslash
        exact ⟨h.1, h.2, hfound, hslash⟩
    · rintro ⟨-, -, hfound, hslash⟩
      refine ⟨node, hfound, ?_⟩
      rw [if_neg (by simpa using hslash)]
      rfl

theorem find_join_eq_ok_iff (hp : p ≠ []) (hn : Path.IsPlain n) :
    t.find (Path.join p n) = .ok node ↔
      ∃ entries, t.find p = .ok (folder entries) ∧ entries.lookup n = some node := by
  have habsolute : Path.isAbsolute (Path.join p n) = Path.isAbsolute p := by
    rw [Path.isAbsolute, Path.isAbsolute, Path.head?_join hp hn]
  simp only [find_eq_ok_iff, habsolute, Path.components_join hn, follow_concat hn, bind_eq_ok_iff,
    child_eq_ok_iff]
  constructor
  · rintro ⟨-, hroot, ⟨-, hfollow, entries, rfl, hlookup⟩, -⟩
    exact ⟨entries, ⟨hp, hroot, hfollow, fun _ => rfl⟩, hlookup⟩
  · rintro ⟨entries, ⟨-, hroot, hfollow, -⟩, hlookup⟩
    exact ⟨Path.join_ne_nil hn, hroot, ⟨_, hfollow, entries, rfl, hlookup⟩,
      fun hlast => absurd hlast (Path.getLast?_join_ne hn)⟩

end Child

end Copydesk.FileTree
