import Copydesk.Proofs.Text.Offset
import Mathlib.Data.List.DropRight

/-! What is left of a text without the white space at its ends. -/

namespace Copydesk.Text

theorem trim_eq_rdropWhile (t : Text) : trim t = (t.dropWhile isSpace).rdropWhile isSpace := rfl

theorem trim_eq_nil_iff {t : Text} : trim t = [] ↔ isBlank t = true := by
  rw [trim_eq_rdropWhile, List.rdropWhile_eq_nil_iff, isBlank, List.all_eq_true]
  constructor
  · intro h c hc
    rw [← List.takeWhile_append_dropWhile (p := isSpace) (l := t)] at hc
    exact (List.mem_append.mp hc).elim List.mem_takeWhile_imp (h c)
  · exact fun h c hc => h c (List.dropWhile_subset isSpace hc)

theorem trim_of_isBlank {t : Text} (h : isBlank t = true) : trim t = [] := trim_eq_nil_iff.mpr h

theorem trim_ne_nil {t : Text} (h : isBlank t = false) : trim t ≠ [] :=
  mt trim_eq_nil_iff.mp (Bool.eq_false_iff.mp h)

theorem dropEndWhile_dropWhile_eq_self {p : Char → Bool} {t : Text}
    (hhead : ∀ c ∈ t.head?, p c = false) (hlast : ∀ c ∈ t.getLast?, p c = false) :
    dropEndWhile p (t.dropWhile p) = t := by
  have hdrop : t.dropWhile p = t := List.dropWhile_eq_self_iff.mpr fun hpos => by
    have hne : t ≠ [] := List.length_pos_iff.mp hpos
    simpa using hhead _ (List.head_eq_getElem hne ▸ List.head?_eq_some_head hne)
  have hend : t.rdropWhile p = t := List.rdropWhile_eq_self_iff.mpr fun hne => by
    simpa using hlast _ (List.getLast?_eq_some_getLast hne)
  rw [hdrop]
  exact hend

theorem trim_eq_self {t : Text} (h : ∀ c ∈ t, isSpace c = false) : trim t = t :=
  dropEndWhile_dropWhile_eq_self (fun c hc => h c (List.mem_of_head? hc))
    fun c hc => h c (List.mem_of_getLast? hc)

structure IsTrimmed (t : Text) : Prop where
  head : ∃ c, t.head? = some c ∧ isSpace c = false
  last : ∃ c, t.getLast? = some c ∧ isSpace c = false

theorem isTrimmed_trim {t : Text} (h : trim t ≠ []) : IsTrimmed (trim t) := by
  rw [trim_eq_rdropWhile] at h ⊢
  constructor
  · obtain ⟨c, rest, hc⟩ := List.exists_cons_of_ne_nil h
    obtain ⟨more, hmore⟩ : c :: rest <+: t.dropWhile isSpace := hc ▸ List.rdropWhile_prefix _ _
    have hnot := List.head?_dropWhile_not isSpace t
    rw [← hmore] at hnot
    exact ⟨c, by rw [hc, List.head?_cons], by simpa using hnot⟩
  · exact ⟨_, List.getLast?_eq_some_getLast h,
      Bool.eq_false_iff.mpr (List.rdropWhile_last_not _ _ h)⟩

theorem trimEnd_of_isBlank {t : Text} (h : isBlank t = true) : trimEnd t = [] := by
  rw [trimEnd, dropEndWhile, List.reverse_eq_nil_iff, List.dropWhile_eq_nil_iff]
  exact fun c hc => List.all_eq_true.mp h c (List.mem_reverse.mp hc)

section Parts

variable {lead core trail : Text} {c : Char} {t : Text}

theorem exists_eq_trim (t : Text) : ∃ trail, isBlank trail = true ∧
    t = t.takeWhile isSpace ++ (trim t ++ trail) := by
  refine ⟨((trimStart t).reverse.takeWhile isSpace).reverse, ?_, ?_⟩
  · rw [isBlank, List.all_reverse, List.all_eq_true]
    exact fun c hc => List.mem_takeWhile_imp hc
  · have hend : trim t ++ ((trimStart t).reverse.takeWhile isSpace).reverse = trimStart t :=
      dropEndWhile_append isSpace (trimStart t)
    rw [hend, trimStart, List.takeWhile_append_dropWhile]

theorem trimStart_append (hlead : isBlank lead = true) (hcore : IsTrimmed core) :
    trimStart (lead ++ core) = core := by
  obtain ⟨c, hc, hspace⟩ := hcore.head
  obtain ⟨rest, rfl⟩ := List.head?_eq_some_iff.mp hc
  have hdrop : lead.dropWhile isSpace = [] :=
    List.dropWhile_eq_nil_iff.mpr (List.all_eq_true.mp hlead)
  rw [trimStart, List.dropWhile_append, hdrop]
  exact List.dropWhile_cons_of_neg (by rw [hspace]; exact Bool.false_ne_true)

theorem trimEnd_append (htrail : isBlank trail = true) (hcore : IsTrimmed core) :
    trimEnd (lead ++ (core ++ trail)) = lead ++ core := by
  obtain ⟨c, hc, hspace⟩ := hcore.last
  obtain ⟨before, rfl⟩ := List.getLast?_eq_some_iff.mp hc
  have hdrop : trail.reverse.dropWhile isSpace = [] := by
    rw [List.dropWhile_eq_nil_iff]
    exact fun d hd => List.all_eq_true.mp htrail d (List.mem_reverse.mp hd)
  have hkept : ((before ++ [c]).reverse ++ lead.reverse).dropWhile isSpace =
      (before ++ [c]).reverse ++ lead.reverse := by
    rw [List.reverse_append, List.reverse_singleton]
    exact List.dropWhile_cons_of_neg (by rw [hspace]; exact Bool.false_ne_true)
  rw [trimEnd, dropEndWhile, List.reverse_append, List.reverse_append, List.append_assoc,
    List.dropWhile_append, hdrop, List.isEmpty_nil, if_pos rfl, hkept, List.reverse_append,
    List.reverse_reverse, List.reverse_reverse]

theorem isTrimmed_singleton (hc : isSpace c = false) : IsTrimmed [c] := ⟨⟨c, rfl, hc⟩, c, rfl, hc⟩

theorem exists_trimEnd_eq (h : isBlank t = false) : ∃ lead c trail, isSpace c = false ∧
    isBlank trail = true ∧ t = lead ++ c :: trail ∧ trimEnd t = lead ++ [c] := by
  obtain ⟨trail, htrail, ht⟩ := exists_eq_trim t
  obtain ⟨c, hc, hspace⟩ := (isTrimmed_trim (trim_ne_nil h)).last
  obtain ⟨before, hbefore⟩ := List.getLast?_eq_some_iff.mp hc
  have hparts : t = (t.takeWhile isSpace ++ before) ++ ([c] ++ trail) := by
    rw [hbefore] at ht
    simpa using ht
  refine ⟨t.takeWhile isSpace ++ before, c, trail, hspace, htrail, hparts, ?_⟩
  have hend := @trimEnd_append (t.takeWhile isSpace ++ before) [c] trail htrail
    (isTrimmed_singleton hspace)
  rwa [← hparts] at hend

end Parts

end Copydesk.Text
