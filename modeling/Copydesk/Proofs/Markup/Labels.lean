import Copydesk.Proofs.Markup.Fences
import Copydesk.Proofs.Markup.Neutralize
import Copydesk.Proofs.Text.Line

/-! Link labels and list numbers stand where no fence can begin, so hiding them leaves every line
the fence that it opens or closes. -/

namespace Copydesk.Markup

open Regex Text

variable {a w t : Text} {c : Char}

def fenceViews (t : Text) : List (Option (Fence × Bool)) := (linesInclusive t).map fenceView

/-- A piece of a line that masking reads as well when it is hidden. -/
structure IsInert (a w : Text) : Prop where
  ne_nil : w ≠ []
  newline_not_mem : '\n' ∉ w
  view (s : Text) : fenceView (lastLine a ++ (blank w ++ s)) = fenceView (lastLine a ++ (w ++ s))

theorem IsInert.fenceViews_blank (h : IsInert a w) (b : Text) :
    fenceViews (a ++ (blank w ++ b)) = fenceViews (a ++ (w ++ b)) := by
  obtain ⟨ls, hls⟩ := exists_linesInclusive_append a
  have hlast := newline_not_mem_lastLine a
  have hlines {w : Text} (hne : w ≠ []) (hw : '\n' ∉ w) := linesInclusive_append (t := b)
    (w := lastLine a ++ w) (by simp [hlast, hw]) (by simp [hne])
  have hkept := hlines h.ne_nil h.newline_not_mem
  have hhidden := hlines (blank_ne_nil h.ne_nil) (newline_not_mem_blank h.newline_not_mem)
  rw [List.append_assoc, List.append_assoc] at hkept hhidden
  rw [fenceViews, fenceViews, hls, hls, List.map_append, List.map_append, hkept, hhidden,
    List.map_cons, List.map_cons, h.view]

theorem fenceViews_blankGroup {r : Regex} {group : Nat} (h : Hides r.root group IsInert)
    (t : Text) : fenceViews (blankGroup r group t) = fenceViews t :=
  blankGroup_induction (motive := fun u => fenceViews u = fenceViews t) h
    (fun _ _ b hw hviews => (hw.fenceViews_blank b).trans hviews) rfl

theorem isInert_of_mem (hne : w ≠ []) (hw : '\n' ∉ w) (hc : c ∈ lastLine a)
    (hbracket : c = '[' ∨ c = ']') : IsInert a w := by
  have hmargin : isMargin c = false := by rcases hbracket with rfl | rfl <;> rfl
  have hmark : ¬IsMark c := by rcases hbracket with rfl | rfl <;> simp [IsMark]
  have hspace : isSpace c = false := by rcases hbracket with rfl | rfl <;> rfl
  refine ⟨hne, hw, fun s => ?_⟩
  rw [fenceView_append hc hmargin hmark hspace, fenceView_append hc hmargin hmark hspace]

theorem isInert_of_margin (hw : '\n' ∉ c :: w) (ha : ∀ d ∈ lastLine a, isMargin d = true)
    (hc : isMargin c = false) (hmark : ¬IsMark c) : IsInert a (c :: w) := by
  have hne : c ≠ '\n' := fun h => hw (h ▸ List.mem_cons_self)
  obtain ⟨v, hblank⟩ := exists_blank_cons hne w
  refine ⟨List.cons_ne_nil c w, hw, fun s => ?_⟩
  rw [hblank, List.cons_append, List.cons_append, fenceView, fenceView,
    leadingRun?_of_not_mark ha hc hmark, leadingRun?_of_not_mark ha rfl (by simp [IsMark])]

section Patterns

def labelChar : CharSet := .compl (.union (.union .empty (.range ']' ']')) (.range '\n' '\n'))

theorem newline_not_mem_of_labelChar (hw : ∀ c ∈ w, labelChar.mem c = true) : '\n' ∉ w :=
  fun h => absurd (hw '\n' h) (by decide)

theorem linkReference_root : linkReference.root = .cat (.one (.range ']' ']')) (.cat
    (.one (.range '[' '[')) (.cat (.group 1 (.rep 1 none true (.one labelChar)))
      (.one (.range ']' ']')))) := by decide +kernel

theorem linkDefinition_root : linkDefinition.root = .cat (.one (.range '[' '[')) (.cat
    (.group 1 (.rep 1 none true (.one labelChar)))
      (.cat (.one (.range ']' ']')) (.one (.range ':' ':')))) := by decide +kernel

theorem numberedItem_root : numberedItem.root = .cat (.look (.lineStart false)) (.cat
    (.group 1 (.rep 0 none true (.one (.union (.union .empty (.range ' ' ' ')) (.range '\t' '\t')))))
      (.group 2 (.cat (.rep 1 none true (.one (.named .digit))) (.one (.range '.' '.'))))) := by
  decide +kernel

theorem isInert_of_label (hne : 1 ≤ w.length) (hw : ∀ c ∈ w, labelChar.mem c = true) (a : Text) :
    IsInert (a ++ ['[']) w := by
  refine isInert_of_mem (List.length_pos_iff.mp hne) (newline_not_mem_of_labelChar hw) ?_ (.inl rfl)
  rw [lastLine_append, if_neg (by decide)]
  exact List.mem_append_right _ List.mem_cons_self

theorem hides_linkReference : Hides linkReference.root 1 IsInert := by
  intro pre t m q h
  rw [Node.matchAt?, linkReference_root, matcher_cat] at h
  obtain ⟨c, t, rfl, -, h⟩ := exists_of_one h
  rw [matcher_cat] at h
  obtain ⟨d, t, rfl, hd, h⟩ := exists_of_one h
  rw [CharSet.mem_range_self, beq_iff_eq] at hd
  rw [matcher_cat, matcher_group, matcher_rep] at h
  obtain ⟨w, t, hlength, rfl, hw, h⟩ := exists_of_repeated h
  obtain ⟨e, t, rfl, -, h⟩ := exists_of_one h
  obtain ⟨rfl, rfl⟩ := Prod.mk.inj (Option.some.inj h)
  have hinert := isInert_of_label hlength hw (pre ++ [c])
  rw [← hd, List.append_assoc] at hinert
  exact ⟨[c] ++ [d], w, [e], t, rfl, by rw [← List.append_assoc pre]; rfl,
    by rw [← List.append_assoc pre], hinert⟩

theorem hides_linkDefinition : Hides linkDefinition.root 1 IsInert := by
  intro pre t m q h
  rw [Node.matchAt?, linkDefinition_root, matcher_cat] at h
  obtain ⟨c, t, rfl, hc, h⟩ := exists_of_one h
  rw [CharSet.mem_range_self, beq_iff_eq] at hc
  rw [matcher_cat, matcher_group, matcher_rep] at h
  obtain ⟨w, t, hlength, rfl, hw, h⟩ := exists_of_repeated h
  rw [matcher_cat] at h
  obtain ⟨d, t, rfl, -, h⟩ := exists_of_one h
  obtain ⟨e, t, rfl, -, h⟩ := exists_of_one h
  obtain ⟨rfl, rfl⟩ := Prod.mk.inj (Option.some.inj h)
  exact ⟨[c], w, [d] ++ [e], t, rfl, rfl, by rw [← List.append_assoc _ [d]],
    hc ▸ isInert_of_label hlength hw pre⟩

theorem not_isMargin_of_digit (hc : (CharSet.named .digit).mem c = true) : isMargin c = false := by
  rw [Bool.eq_false_iff]
  intro hmargin
  rw [isMargin, Bool.or_eq_true, Bool.or_eq_true, beq_iff_eq, beq_iff_eq, beq_iff_eq] at hmargin
  rcases hmargin with (rfl | rfl) | rfl <;> exact absurd hc (by decide)

theorem not_isMark_of_digit (hc : (CharSet.named .digit).mem c = true) : ¬IsMark c := by
  rintro (rfl | rfl) <;> exact absurd hc (by decide)

theorem hides_numberedItem : Hides numberedItem.root 2 IsInert := by
  intro pre t m q h
  rw [Node.matchAt?, numberedItem_root, matcher_cat, matcher_lineStart] at h
  split at h
  · rename_i hlast
    rw [matcher_cat, matcher_group, matcher_rep] at h
    obtain ⟨x, t, -, rfl, hx, h⟩ := exists_of_repeated h
    rw [matcher_group, matcher_cat, matcher_rep] at h
    obtain ⟨w, t, hlength, rfl, hw, h⟩ := exists_of_repeated h
    obtain ⟨c, t, rfl, hc, h⟩ := exists_of_one h
    obtain ⟨rfl, rfl⟩ := Prod.mk.inj (Option.some.inj h)
    rw [CharSet.mem_range_self, beq_iff_eq] at hc
    have hmargin : ∀ d ∈ x, isMargin d = true := fun d hd => by
      have := hx d hd
      simp only [CharSet.mem_union, CharSet.mem_empty, CharSet.mem_range_self,
        Bool.false_or] at this
      rw [isMargin, this, Bool.true_or]
    -- nothing but margin comes before the number on its line
    have hblank : lastLine (pre ++ x) = x := by
      rw [lastLine_append, if_neg fun hm => absurd (hmargin '\n' hm) (by decide), hlast,
        List.nil_append]
    refine ⟨x, w ++ [c], [], t, by simp, ?_, ?_, ?_⟩
    · rw [← List.append_assoc (pre ++ x)]
      rfl
    · rw [List.append_nil, ← List.append_assoc]
    · cases w with
      | nil => cases hlength
      | cons d w =>
        rw [List.cons_append]
        refine isInert_of_margin ?_ (hblank.symm ▸ hmargin) ?_ ?_
        · rw [← List.cons_append, List.mem_append, hc]
          rintro (hm | hm)
          · exact absurd (hw '\n' hm) (by decide)
          · exact absurd hm (by decide)
        · exact not_isMargin_of_digit (hw d List.mem_cons_self)
        · exact not_isMark_of_digit (hw d List.mem_cons_self)
  · cases h

end Patterns

/-- Only the first pass can change what masking reads of a line. -/
theorem fenceViews_neutralizeMarkdown (t : Text) :
    fenceViews (neutralizeMarkdown t) = fenceViews (blankGroup fenceInfo 2 t) := by
  rw [neutralizeMarkdown, fenceViews_blankGroup hides_numberedItem,
    fenceViews_blankGroup hides_linkDefinition, fenceViews_blankGroup hides_linkReference]

end Copydesk.Markup
