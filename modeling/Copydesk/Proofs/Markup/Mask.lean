import Copydesk.Proofs.Text.Offset

/-! Masked copies of a text. A copy keeps each character or writes marks over its bytes, so offsets
agree, and what reads without a mark in the copy reads the same in the text. -/

namespace Copydesk.Markup

open Text

/-- The second text is the first with marks over some of its characters, one for each byte. -/
inductive Masks (marks : List Char) : Text → Text → Prop
  | nil : Masks marks [] []
  | keep (c : Char) {t u : Text} : Masks marks t u → Masks marks (c :: t) (c :: u)
  | hide (c : Char) (w : Text) {t u : Text} : c ≠ '\n' → w.length = c.utf8Size →
    (∀ m ∈ w, m ∈ marks) → Masks marks t u → Masks marks (c :: t) (w ++ u)

def AreBytes (marks : List Char) : Prop := ∀ m ∈ marks, m.utf8Size = 1

theorem AreBytes.size_eq {marks : List Char} (hm : AreBytes marks) {w : Text}
    (hw : ∀ m ∈ w, m ∈ marks) : size w = w.length := by
  induction w with
  | nil => rfl
  | cons c w ih =>
    have hc := hm c (hw c List.mem_cons_self)
    rw [size, hc, ih fun m h => hw m (List.mem_cons_of_mem c h), List.length_cons, Nat.add_comm]

namespace Masks

variable {marks : List Char} {t t' u u' v : Text}

theorem refl (t : Text) : Masks marks t t := by
  induction t with
  | nil => exact .nil
  | cons c t ih => exact .keep c ih

theorem append (h : Masks marks t u) (h' : Masks marks t' u') :
    Masks marks (t ++ t') (u ++ u') := by
  induction h with
  | nil => exact h'
  | keep c _ ih => exact .keep c ih
  | hide c w hc hl hw _ ih =>
    rw [List.append_assoc]
    exact .hide c w hc hl hw ih

theorem mono {marks' : List Char} (hsub : ∀ m ∈ marks, m ∈ marks') (h : Masks marks t u) :
    Masks marks' t u := by
  induction h with
  | nil => exact .nil
  | keep c _ ih => exact .keep c ih
  | hide c w hc hl hw _ ih => exact .hide c w hc hl (fun m hm => hsub m (hw m hm)) ih

theorem exists_of_append (hm : AreBytes marks) (h : Masks marks (t ++ t') v) :
    ∃ u u', u ++ u' = v ∧ size u = size t ∧ Masks marks t u ∧ Masks marks t' u' := by
  induction t generalizing v with
  | nil => exact ⟨[], v, rfl, rfl, .nil, h⟩
  | cons c t ih =>
    cases h with
    | keep _ h =>
      obtain ⟨u, u', rfl, hs, hu, hu'⟩ := ih h
      exact ⟨c :: u, u', rfl, by rw [size, size, hs], .keep c hu, hu'⟩
    | hide _ w hc hl hw h =>
      obtain ⟨u, u', rfl, hs, hu, hu'⟩ := ih h
      refine ⟨w ++ u, u', List.append_assoc w u u', ?_, .hide c w hc hl hw hu, hu'⟩
      rw [size_append, size, hs, hm.size_eq hw, hl]

theorem marks_of_marks (hm : AreBytes marks) {w : Text} (hw : ∀ m ∈ w, m ∈ marks)
    (h : Masks marks w v) : v.length = w.length ∧ ∀ m ∈ v, m ∈ marks := by
  induction h with
  | nil => exact ⟨rfl, hw⟩
  | keep c _ ih =>
    obtain ⟨hl, hv⟩ := ih fun m h => hw m (List.mem_cons_of_mem c h)
    refine ⟨congrArg Nat.succ hl, ?_⟩
    intro m h
    rcases List.mem_cons.mp h with rfl | h
    · exact hw _ List.mem_cons_self
    · exact hv m h
  | hide c x _ hl hx _ ih =>
    obtain ⟨hl', hv⟩ := ih fun m h => hw m (List.mem_cons_of_mem c h)
    have hc := hm c (hw c List.mem_cons_self)
    refine ⟨by rw [List.length_append, List.length_cons, hl, hl', hc, Nat.add_comm], ?_⟩
    intro m h
    exact (List.mem_append.mp h).elim (hx m) (hv m)

theorem trans (hm : AreBytes marks) (htu : Masks marks t u) (huv : Masks marks u v) :
    Masks marks t v := by
  induction htu generalizing v with
  | nil => exact huv
  | keep c _ ih =>
    cases huv with
    | keep _ h => exact .keep c (ih h)
    | hide _ w hc hl hw h => exact .hide c w hc hl hw (ih h)
  | hide c w hc hl hw _ ih =>
    obtain ⟨x, y, rfl, -, hx, hy⟩ := huv.exists_of_append hm
    -- marks may be marked again, but each is one byte, so their number stays
    obtain ⟨hlx, hxm⟩ := marks_of_marks hm hw hx
    exact .hide c x hc (hlx.trans hl) hxm (ih hy)

theorem exists_append_of_unmarked {n b : Text} (h : Masks marks t (n ++ b))
    (hn : ∀ c ∈ n, c ∉ marks) : ∃ b', n ++ b' = t := by
  induction n generalizing t with
  | nil => exact ⟨t, rfl⟩
  | cons c n ih =>
    rw [List.cons_append] at h
    generalize hv : c :: (n ++ b) = v at h
    cases h with
    | nil => cases hv
    | keep x h =>
      obtain ⟨rfl, rfl⟩ := List.cons.inj hv
      obtain ⟨b', rfl⟩ := ih h fun m hmem => hn m (List.mem_cons_of_mem c hmem)
      exact ⟨b', rfl⟩
    | hide x w _ hl hw h =>
      cases w with
      | nil =>
        have := Char.utf8Size_pos x
        rw [List.length_nil] at hl
        omega
      | cons m w =>
        rw [List.cons_append] at hv
        have hc : m = c := (List.cons.inj hv).1.symm
        exact absurd (hw m List.mem_cons_self) (hc ▸ hn c List.mem_cons_self)

/-- An occurrence in the copy that holds no mark and begins with a character of the text is an
occurrence in the text. -/
theorem slice?_eq (hm : AreBytes marks) {a n b : Text} (h : Masks marks t (a ++ (n ++ b)))
    (ha : isBoundary t (size a) = true) (hn : ∀ c ∈ n, c ∉ marks) :
    slice? t (size a) (size a + size n) = some n := by
  obtain ⟨x, y, rfl, hx⟩ := isBoundary_iff.mp ha
  obtain ⟨u, u', huv, hs, -, hu'⟩ := h.exists_of_append hm
  obtain ⟨rfl, rfl⟩ := append_inj_of_size huv (hs.trans hx)
  obtain ⟨b', rfl⟩ := hu'.exists_append_of_unmarked hn
  rw [← hx]
  exact slice?_append x n b'

end Masks

end Copydesk.Markup
