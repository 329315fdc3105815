import Copydesk.Filter.Basic
import Copydesk.Proofs.Outcome
import Copydesk.Proofs.Text.Split

/-! What a filter makes of a list of rules: an answer for each, and the short names of those that
it accepts. -/

namespace Copydesk.Filter

open Outcome Text

variable {f : Filter} {ds : List Rule.Definition} {names : List Text}

theorem keptNames_cons_eq_ok_iff {d : Rule.Definition} :
    f.keptNames (d :: ds) = .ok names ↔ ∃ keep more, f.accepts d = .ok keep ∧
      f.keptNames ds = .ok more ∧ (if keep then shortName d.name :: more else more) = names := by
  simp only [keptNames, bind_eq_ok_iff, pure_eq_ok_iff, exists_and_left]

theorem exists_accepts_of_keptNames (h : f.keptNames ds = .ok names) {d : Rule.Definition}
    (hd : d ∈ ds) : ∃ b, f.accepts d = .ok b := by
  induction ds generalizing names with
  | nil => cases hd
  | cons e ds ih =>
    obtain ⟨keep, more, hkeep, hmore, -⟩ := keptNames_cons_eq_ok_iff.mp h
    rcases List.mem_cons.mp hd with rfl | hd
    · exact ⟨keep, hkeep⟩
    · exact ih hmore hd

theorem mem_keptNames_iff (h : f.keptNames ds = .ok names) {name : Text} :
    name ∈ names ↔ ∃ d ∈ ds, f.accepts d = .ok true ∧ shortName d.name = name := by
  induction ds generalizing names with
  | nil =>
    rw [← Except.ok.inj h]
    simp
  | cons e ds ih =>
    obtain ⟨keep, more, hkeep, hmore, rfl⟩ := keptNames_cons_eq_ok_iff.mp h
    simp only [List.mem_cons, or_and_right, exists_or, exists_eq_left, ← ih hmore, hkeep]
    cases keep with
    | true => simp [eq_comm]
    | false => simp

/-- A name with a third section loses it and all that follow, and any other is short already. -/
theorem shortName_cases (name : Text) :
    (name.count '.' ≤ 1 ∧ shortName name = name) ∨
      ∃ style rule rest, '.' ∉ style ∧ '.' ∉ rule ∧
        name = style ++ '.' :: (rule ++ '.' :: rest) ∧ shortName name = style ++ '.' :: rule := by
  by_cases hname : '.' ∈ name
  · obtain ⟨style, after, rfl, hstyle⟩ := List.eq_append_cons_of_mem hname
    have hsplit := (splitOn_append_cons '.' style after).trans
      (congrArg (· ++ splitOn '.' after) (splitOn_of_not_mem hstyle))
    by_cases hafter : '.' ∈ after
    · obtain ⟨rule, rest, rfl, hrule⟩ := List.eq_append_cons_of_mem hafter
      have hsplit' := (splitOn_append_cons '.' rule rest).trans
        (congrArg (· ++ splitOn '.' rest) (splitOn_of_not_mem hrule))
      refine .inr ⟨style, rule, rest, hstyle, hrule, rfl, ?_⟩
      rw [shortName, hsplit, hsplit']
      simp [join, List.intercalate]
    · refine .inl ⟨?_, ?_⟩
      · simp [List.count_eq_zero.mpr hstyle, List.count_eq_zero.mpr hafter]
      · rw [shortName, hsplit, splitOn_of_not_mem hafter]
        simp [join, List.intercalate]
  · refine .inl ⟨?_, ?_⟩
    · rw [List.count_eq_zero.mpr hname]
      exact Nat.zero_le 1
    · rw [shortName, splitOn_of_not_mem hname]
      simp [join, List.intercalate]

theorem shortName_of_count {name : Text} (h : name.count '.' ≤ 1) : shortName name = name := by
  rcases shortName_cases name with ⟨-, hshort⟩ | ⟨style, rule, rest, -, -, rfl, -⟩
  · exact hshort
  · simp only [List.count_append, List.count_cons_self] at h
    omega

theorem count_shortName (name : Text) : (shortName name).count '.' ≤ 1 := by
  rcases shortName_cases name with ⟨hcount, hshort⟩ | ⟨style, rule, rest, hstyle, hrule, -, hshort⟩
  · rwa [hshort]
  · rw [hshort]
    simp [List.count_eq_zero.mpr hstyle, List.count_eq_zero.mpr hrule]

theorem fragment_of_compile {source : Text} (h : compile source = .ok f) : f.fragment = source := by
  unfold compile at h
  split at h
  · rw [← Except.ok.inj h]
  · cases h

theorem referencesLevel_iff {source : Text} (h : compile source = .ok f) :
    f.referencesLevel = true ↔ ".Level".toList <:+: source := by
  rw [referencesLevel, fragment_of_compile h]
  exact contains_iff

end Copydesk.Filter
