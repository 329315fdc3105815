import Copydesk.Proofs.Text.Split
import Copydesk.Rule.Substitution

/-! Replacements as texts. Alternatives whose bars are escaped are read back from between the bars
that join them, unless a backslash at the end of one escapes the bar after it. -/

namespace Copydesk.Rule

open Text

variable {c : Char} {o p t : Text} {os ps : List Text}

def escapeBar (c : Char) : Text := if c = '|' then ['\\', '|'] else [c]

def escapeBars (o : Text) : Text := o.flatMap escapeBar

/-- The replacement that has the alternatives. -/
def writeOptions (os : List Text) : Text := join ['|'] (os.map escapeBars)

section Pieces

def prepend (o : Text) : List Text → List Text
  | [] => [o]
  | p :: ps => (o ++ p) :: ps

theorem prepend_nil (h : ps ≠ []) : prepend [] ps = ps := by
  cases ps with
  | nil => exact absurd rfl h
  | cons p ps => rfl

theorem prepend_prepend (o p : Text) (ps : List Text) :
    prepend o (prepend p ps) = prepend (o ++ p) ps := by
  cases ps with
  | nil => rfl
  | cons q ps => exact congrArg (· :: ps) (List.append_assoc o p q).symm

theorem length_prepend (o : Text) (h : ps ≠ []) : (prepend o ps).length = ps.length := by
  cases ps with
  | nil => exact absurd rfl h
  | cons p ps => rfl

theorem optionPieces_bar (t : Text) : optionPieces ('|' :: t) = [] :: optionPieces t := by
  rw [optionPieces, if_pos rfl]
  simp

theorem optionPieces_escaped (t : Text) :
    optionPieces ('\\' :: '|' :: t) = prepend ['|'] (optionPieces t) := by
  rw [optionPieces]
  cases optionPieces t <;> rfl

/-- A backslash is a character like others unless a bar follows it. -/
theorem optionPieces_cons (hc : c ≠ '|') (h : c = '\\' → t.head? ≠ some '|') :
    optionPieces (c :: t) = prepend [c] (optionPieces t) := by
  rw [optionPieces, if_neg hc]
  · cases optionPieces t <;> rfl
  · rintro u rfl rfl
    exact h rfl rfl

theorem optionPieces_ne_nil (t : Text) : optionPieces t ≠ [] := by
  fun_cases optionPieces t
  all_goals simp_all

end Pieces

section Reading

theorem escapeBars_cons (c : Char) (o : Text) :
    escapeBars (c :: o) = escapeBar c ++ escapeBars o := List.flatMap_cons

theorem head?_escapeBars_cons_append (c : Char) (o t : Text) :
    (escapeBars (c :: o) ++ t).head? ≠ some '|' := by
  rw [escapeBars_cons, escapeBar]
  split
  · simp
  · rename_i hc
    simpa using hc

theorem optionPieces_escapeBars_append (h : o.getLast? = some '\\' → t.head? ≠ some '|') :
    optionPieces (escapeBars o ++ t) = prepend o (optionPieces t) := by
  induction o with
  | nil => exact (prepend_nil (optionPieces_ne_nil t)).symm
  | cons c o ih =>
    have hrest : optionPieces (escapeBars o ++ t) = prepend o (optionPieces t) := by
      refine ih fun hlast => h ?_
      rw [List.getLast?_cons, hlast, Option.getD_some]
    by_cases hc : c = '|'
    · subst hc
      calc optionPieces (escapeBars ('|' :: o) ++ t)
          = optionPieces ('\\' :: '|' :: (escapeBars o ++ t)) := rfl
        _ = prepend ['|'] (prepend o (optionPieces t)) := by rw [optionPieces_escaped, hrest]
        _ = prepend ('|' :: o) (optionPieces t) := prepend_prepend ['|'] o _
    · -- a bar after the character is not of the alternative, as those stand behind backslashes
      have hhead : c = '\\' → (escapeBars o ++ t).head? ≠ some '|' := by
        rintro rfl
        cases o with
        | nil => exact h rfl
        | cons d o => exact head?_escapeBars_cons_append d o t
      rw [escapeBars_cons, escapeBar, if_neg hc, List.append_assoc, List.singleton_append,
        optionPieces_cons hc hhead, hrest, prepend_prepend, List.singleton_append]

theorem optionPieces_append_bar (h : o.getLast? ≠ some '\\') (t : Text) :
    optionPieces (escapeBars o ++ '|' :: t) = o :: optionPieces t := by
  rw [optionPieces_escapeBars_append fun hlast => absurd hlast h, optionPieces_bar, prepend,
    List.append_nil]

theorem length_optionPieces_append_bar (h : o.getLast? = some '\\') (t : Text) :
    (optionPieces (escapeBars o ++ '|' :: t)).length = (optionPieces t).length := by
  obtain ⟨p, rfl⟩ := List.getLast?_eq_some_iff.mp h
  have hescape : escapeBars (p ++ ['\\']) ++ '|' :: t = escapeBars p ++ '\\' :: '|' :: t := by
    rw [escapeBars, List.flatMap_append, List.append_assoc]
    rfl
  rw [hescape, optionPieces_escapeBars_append fun _ => by simp, optionPieces_escaped,
    prepend_prepend, length_prepend _ (optionPieces_ne_nil t)]

theorem writeOptions_singleton (o : Text) : writeOptions [o] = escapeBars o := by
  simp [writeOptions, join, List.intercalate]

theorem writeOptions_cons_cons (o p : Text) (os : List Text) :
    writeOptions (o :: p :: os) = escapeBars o ++ '|' :: writeOptions (p :: os) :=
  join_cons ['|'] (escapeBars o) (by simp)

theorem optionPieces_escapeBars (o : Text) : optionPieces (escapeBars o) = [o] := by
  have h := optionPieces_escapeBars_append (o := o) (t := []) fun _ => by simp
  rwa [List.append_nil, optionPieces, prepend, List.append_nil] at h

theorem optionPieces_writeOptions (hne : os ≠ [])
    (h : ∀ o ∈ os.dropLast, o.getLast? ≠ some '\\') : optionPieces (writeOptions os) = os := by
  induction os with
  | nil => exact absurd rfl hne
  | cons o os ih =>
    cases os with
    | nil => rw [writeOptions_singleton, optionPieces_escapeBars]
    | cons p os =>
      rw [List.dropLast_cons_cons, List.forall_mem_cons] at h
      rw [writeOptions_cons_cons, optionPieces_append_bar h.1, ih (by simp) h.2]

/-- Each alternative with a backslash at its end is read as one with the next. -/
theorem length_optionPieces_writeOptions (hne : os ≠ []) :
    (optionPieces (writeOptions os)).length + os.dropLast.countP (·.getLast? == some '\\') =
      os.length := by
  induction os with
  | nil => exact absurd rfl hne
  | cons o os ih =>
    cases os with
    | nil =>
      rw [writeOptions_singleton, optionPieces_escapeBars]
      rfl
    | cons p os =>
      have hrest := ih (by simp)
      rw [writeOptions_cons_cons, List.dropLast_cons_cons, List.countP_cons, List.length_cons]
      by_cases ho : o.getLast? = some '\\'
      · rw [length_optionPieces_append_bar ho, if_pos (beq_iff_eq.mpr ho)]
        omega
      · rw [optionPieces_append_bar ho, if_neg (by simpa using ho), List.length_cons]
        omega

theorem getLast?_ne_of_options_eq (h : options (writeOptions os) = os) :
    ∀ o ∈ os.dropLast, o.getLast? ≠ some '\\' := by
  by_cases hne : os = []
  · simp [hne]
  · have hle : os.length ≤ (optionPieces (writeOptions os)).length :=
      calc os.length = (options (writeOptions os)).length := by rw [h]
        _ ≤ (optionPieces (writeOptions os)).length := List.length_filter_le _ _
    have hlength := length_optionPieces_writeOptions hne
    have hnone : os.dropLast.countP (·.getLast? == some '\\') = 0 := by omega
    simpa using List.countP_eq_zero.mp hnone

theorem ne_nil_of_mem_options (h : o ∈ options p) : o ≠ [] := by
  simpa using (List.mem_filter.mp h).2

theorem options_writeOptions (hne : ∀ o ∈ os, o ≠ [])
    (h : ∀ o ∈ os.dropLast, o.getLast? ≠ some '\\') : options (writeOptions os) = os := by
  cases os with
  | nil => rfl
  | cons o os =>
    rw [options, optionPieces_writeOptions (by simp) h]
    exact List.filter_eq_self.mpr fun o ho => by simpa using hne o ho

/-- Alternatives are read back if and only if none is empty and only the last ends with a backslash,
and no replacement has an empty one. -/
theorem options_writeOptions_iff :
    (∀ os, options (writeOptions os) = os ↔
      (∀ o ∈ os, o ≠ []) ∧ ∀ o ∈ os.dropLast, o.getLast? ≠ some '\\') ∧
      ∀ pattern, [] ∉ options pattern := by
  refine ⟨fun os => ⟨fun h => ⟨fun o ho => ?_, getLast?_ne_of_options_eq h⟩, ?_⟩, ?_⟩
  · exact ne_nil_of_mem_options (h.symm ▸ ho)
  · rintro ⟨hne, hlast⟩
    exact options_writeOptions hne hlast
  · exact fun pattern h => ne_nil_of_mem_options h rfl

/-- A backslash that no bar follows is a character like others. -/
example : options "a\\\\|b|c\\d|\\".toList = ["a\\|b".toList, "c\\d".toList, "\\".toList] := by
  decide

end Reading

end Copydesk.Rule
