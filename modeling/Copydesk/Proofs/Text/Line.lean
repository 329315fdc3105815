import Copydesk.Text.Basic
import Mathlib.Data.List.TakeWhile

/-! Lines of a text. A cut of the text falls into the line that the newlines before it count, after
what stands behind the last of them. Only the last line may lack a newline. -/

namespace Copydesk.Text

def firstLine (t : Text) : Text := t.takeWhile (· != '\n')

def lastLine (t : Text) : Text := (t.reverse.takeWhile (· != '\n')).reverse

theorem takeWhile_ne_newline {t : Text} :
    t.takeWhile (· != '\n') = t ↔ '\n' ∉ t := by
  simp only [List.takeWhile_eq_self_iff, bne_iff_ne]
  exact ⟨fun h hm => h _ hm rfl, fun h c hc he => h (he ▸ hc)⟩

theorem count_dropWhile {p : Char → Bool} {a : Char} (ha : p a = false) (t : Text) :
    (t.dropWhile p).count a = t.count a := by
  have htake : a ∉ t.takeWhile p := fun h => by simp [List.mem_takeWhile_imp h] at ha
  have hsplit := congrArg (List.count a) (List.takeWhile_append_dropWhile (p := p) (l := t))
  rw [List.count_append, List.count_eq_zero.mpr htake, Nat.zero_add] at hsplit
  exact hsplit

theorem firstLine_cons (c : Char) (t : Text) :
    firstLine (c :: t) = if c = '\n' then [] else c :: firstLine t := by
  by_cases h : c = '\n' <;> simp [firstLine, h]

theorem eq_newline_of_firstLine {c : Char} {t : Text} (h : firstLine (c :: t) = []) : c = '\n' := by
  rw [firstLine_cons] at h
  split at h
  · assumption
  · cases h

theorem firstLine_prefix_append (s t : Text) : firstLine s <+: firstLine (s ++ t) := by
  induction s with
  | nil => exact List.nil_prefix
  | cons c s ih =>
    rw [List.cons_append, firstLine_cons, firstLine_cons]
    split
    · exact List.nil_prefix
    · exact (List.prefix_cons_inj c).mpr ih

theorem lastLine_of_not_mem {t : Text} (h : '\n' ∉ t) : lastLine t = t := by
  have hr : '\n' ∉ t.reverse := fun hm => h (List.mem_reverse.mp hm)
  rw [lastLine, takeWhile_ne_newline.mpr hr, List.reverse_reverse]

theorem lastLine_cons (c : Char) (t : Text) :
    lastLine (c :: t) = if '\n' ∈ t ∨ c = '\n' then lastLine t else c :: t := by
  have hl : (t.reverse.takeWhile (· != '\n')).length = t.reverse.length ↔ '\n' ∉ t := by
    rw [← List.mem_reverse, ← takeWhile_ne_newline]
    exact ⟨(List.takeWhile_prefix _).eq_of_length, congrArg List.length⟩
  rw [lastLine, List.reverse_cons, List.takeWhile_append]
  by_cases hm : '\n' ∈ t
  · rw [if_neg (fun he => hl.mp he hm), if_pos (Or.inl hm), lastLine]
  · rw [if_pos (hl.mpr hm), lastLine_of_not_mem hm]
    by_cases hc : c = '\n' <;> simp [hc, hm]

theorem lastLine_append (s t : Text) :
    lastLine (s ++ t) = if '\n' ∈ t then lastLine t else lastLine s ++ t := by
  induction s with
  | nil =>
    split
    · rfl
    · rename_i h
      rw [List.nil_append, lastLine_of_not_mem h]
      rfl
  | cons c s ih =>
    rw [List.cons_append, lastLine_cons, lastLine_cons, ih]
    by_cases ht : '\n' ∈ t <;> by_cases hs : '\n' ∈ s <;> by_cases hc : c = '\n' <;>
      simp [ht, hs, hc]

theorem splitOn_newline (t : Text) :
    ∃ ls, splitOn '\n' t = firstLine t :: ls := by
  induction t with
  | nil => exact ⟨[], rfl⟩
  | cons c t ih =>
    obtain ⟨ls, hls⟩ := ih
    rw [splitOn] at hls
    rw [splitOn, splitWhere, firstLine_cons, hls]
    by_cases hc : c = '\n' <;> simp [hc]

theorem getElem?_splitOn_append (s t : Text) :
    (splitOn '\n' (s ++ t))[s.count '\n']? = some (lastLine s ++ firstLine t) := by
  induction s with
  | nil =>
    obtain ⟨ls, hls⟩ := splitOn_newline t
    rw [List.nil_append, hls]
    rfl
  | cons c s ih =>
    rw [splitOn] at ih
    rw [List.cons_append, splitOn, splitWhere, List.count_cons, lastLine_cons]
    by_cases hc : c = '\n'
    · simpa [hc] using ih
    · obtain ⟨ls, hls⟩ := splitOn_newline (s ++ t)
      rw [splitOn] at hls
      rw [hls] at ih ⊢
      simp only [beq_iff_eq, hc, if_false, or_false, Nat.add_zero]
      by_cases hs : '\n' ∈ s
      · -- The cut lies beyond the line that the new character joins.
        obtain ⟨n, hn⟩ := Nat.exists_eq_succ_of_ne_zero (List.count_pos_iff.mpr hs).ne'
        rw [hn] at ih ⊢
        rw [if_pos hs]
        exact ih
      · rw [List.count_eq_zero.mpr hs] at ih ⊢
        rw [if_neg hs]
        simp only [List.getElem?_cons_zero, Option.some.injEq] at ih ⊢
        rw [ih, lastLine_of_not_mem hs]
        rfl

section FullLines

def IsFullLine (l : Text) : Prop := ∃ w, '\n' ∉ w ∧ w ++ ['\n'] = l

variable {l w t : Text} {ls ls' : List Text}

theorem linesInclusive_append (hw : '\n' ∉ w) (hne : w ≠ []) (t : Text) :
    linesInclusive (w ++ t) = (w ++ (linesInclusive t).headD []) :: (linesInclusive t).tail := by
  induction w with
  | nil => exact absurd rfl hne
  | cons c w ih =>
    rw [List.mem_cons, not_or] at hw
    obtain ⟨hc, hw⟩ := hw
    rw [List.cons_append, linesInclusive, if_neg (Ne.symm hc)]
    by_cases hnil : w = []
    · subst hnil
      rw [List.nil_append]
      cases linesInclusive t <;> rfl
    · rw [ih hw hnil]
      rfl

theorem linesInclusive_of_not_mem (hw : '\n' ∉ w) (hne : w ≠ []) : linesInclusive w = [w] := by
  have h := linesInclusive_append hw hne []
  rwa [List.append_nil, linesInclusive, List.headD_nil, List.append_nil] at h

/-- Only the first line knows what the text begins with. -/
theorem linesInclusive_replace {p q : Text} (hp : '\n' ∉ p) (hpne : p ≠ []) (hq : '\n' ∉ q)
    (hqne : q ≠ []) (h : linesInclusive (p ++ t) = (p ++ w) :: ls) :
    linesInclusive (q ++ t) = (q ++ w) :: ls := by
  rw [linesInclusive_append hp hpne] at h
  obtain ⟨hfirst, hrest⟩ := List.cons.inj h
  rw [linesInclusive_append hq hqne, List.append_cancel_left hfirst, hrest]

theorem IsFullLine.linesInclusive_append (h : IsFullLine l) (t : Text) :
    linesInclusive (l ++ t) = l :: linesInclusive t := by
  obtain ⟨w, hw, rfl⟩ := h
  have hnewline : linesInclusive ('\n' :: t) = ['\n'] :: linesInclusive t := by
    rw [linesInclusive, if_pos rfl]
  rw [List.append_assoc]
  by_cases hne : w = []
  · subst hne
    exact hnewline
  · rw [Text.linesInclusive_append hw hne, List.singleton_append, hnewline]
    rfl

theorem linesInclusive_flatten_append (h : ∀ l ∈ ls, IsFullLine l) (t : Text) :
    linesInclusive (ls.flatten ++ t) = ls ++ linesInclusive t := by
  induction ls with
  | nil => rfl
  | cons l ls ih =>
    have hl := h l List.mem_cons_self
    rw [List.flatten_cons, List.append_assoc, hl.linesInclusive_append,
      ih fun x hx => h x (List.mem_cons_of_mem l hx), List.cons_append]

/-- Induction on the lines of a text. -/
theorem line_induction {motive : Text → Prop} (nil : motive [])
    (last : ∀ w, '\n' ∉ w → w ≠ [] → motive w)
    (line : ∀ l t, IsFullLine l → motive t → motive (l ++ t)) (t : Text) : motive t := by
  induction hn : t.length using Nat.strong_induction_on generalizing t with
  | _ n ih =>
    have hsplit := List.takeWhile_append_dropWhile (p := (· != '\n')) (l := t)
    have hw : '\n' ∉ t.takeWhile (· != '\n') := fun hm => by
      simpa using List.mem_takeWhile_imp hm
    generalize t.takeWhile (· != '\n') = w at hsplit hw
    cases hrest : t.dropWhile (· != '\n') with
    | nil =>
      rw [hrest, List.append_nil] at hsplit
      subst hsplit
      by_cases hne : w = []
      · exact hne ▸ nil
      · exact last w hw hne
    | cons c u =>
      have hc : c = '\n' := by
        have hhead := List.head?_dropWhile_not (· != '\n') t
        rw [hrest] at hhead
        simpa using hhead
      rw [hrest, hc, ← List.singleton_append, ← List.append_assoc] at hsplit
      have hlt : u.length < n := by
        rw [← hn, ← hsplit]
        simp only [List.length_append, List.length_singleton]
        omega
      rw [← hsplit]
      exact line _ u ⟨w, hw, rfl⟩ (ih u.length hlt u rfl)

theorem exists_append_of_linesInclusive (h : linesInclusive t = ls ++ ls') :
    ∃ u, t = ls.flatten ++ u ∧ linesInclusive u = ls' ∧ (ls' ≠ [] → ∀ l ∈ ls, IsFullLine l) := by
  induction ls generalizing t with
  | nil => exact ⟨t, rfl, h, by simp⟩
  | cons x ls ih =>
    induction t using line_induction with
    | nil => cases h
    | last w hw hne =>
      rw [linesInclusive_of_not_mem hw hne] at h
      obtain ⟨rfl, hnil⟩ := List.cons.inj h
      obtain ⟨rfl, rfl⟩ := List.append_eq_nil_iff.mp hnil.symm
      exact ⟨[], by simp, rfl, fun h => absurd rfl h⟩
    | line l t hl _ =>
      rw [hl.linesInclusive_append] at h
      obtain ⟨rfl, hrest⟩ := List.cons.inj h
      obtain ⟨u, rfl, hu, hfull⟩ := ih hrest
      refine ⟨u, by rw [List.flatten_cons, List.append_assoc], hu, fun hne x hx => ?_⟩
      rcases List.mem_cons.mp hx with rfl | hx
      · exact hl
      · exact hfull hne x hx

theorem newline_not_mem_lastLine (t : Text) : '\n' ∉ lastLine t := by
  intro h
  have hc := List.mem_takeWhile_imp (List.mem_reverse.mp h)
  simp at hc

theorem IsFullLine.lastLine_append (h : IsFullLine l) (t : Text) :
    lastLine (l ++ t) = lastLine t := by
  obtain ⟨w, -, rfl⟩ := h
  have hnewline : lastLine (w ++ ['\n']) = [] := by
    rw [Text.lastLine_append, if_pos List.mem_cons_self]
    rfl
  rw [Text.lastLine_append, hnewline]
  split
  · rfl
  · rename_i ht
    rw [lastLine_of_not_mem ht]
    rfl

/-- What a line ends with when `t` follows: a newline, or nothing if the text ends there. -/
def IsLineEnd (e t : Text) : Prop := e = ['\n'] ∨ e = [] ∧ t = []

namespace IsLineEnd

variable {e : Text}

theorem firstLine_eq_nil (h : IsLineEnd e t) : firstLine e = [] := by
  rcases h with rfl | ⟨rfl, -⟩ <;> rfl

theorem firstLine_append (h : IsLineEnd e t) : firstLine (e ++ t) = [] := by
  rcases h with rfl | ⟨rfl, rfl⟩ <;> rfl

theorem length_le_one (h : IsLineEnd e t) : e.length ≤ 1 := by
  rcases h with rfl | ⟨rfl, -⟩ <;> simp

theorem lastLine_append (h : IsLineEnd e t) (ht : t ≠ []) (a : Text) : lastLine (a ++ e) = [] := by
  rcases h with rfl | ⟨-, hnil⟩
  · rw [Text.lastLine_append, if_pos List.mem_cons_self]
    rfl
  · exact absurd hnil ht

theorem linesInclusive_append (h : IsLineEnd e t) (hw : '\n' ∉ w) (hne : w ++ e ≠ []) :
    linesInclusive (w ++ e ++ t) = (w ++ e) :: linesInclusive t := by
  rcases h with rfl | ⟨rfl, rfl⟩
  · exact IsFullLine.linesInclusive_append ⟨w, hw, rfl⟩ t
  · rw [List.append_nil] at hne
    rw [List.append_nil, List.append_nil, linesInclusive_of_not_mem hw hne]
    rfl

end IsLineEnd

/-- The lines up to the last newline do not depend on what follows. -/
theorem exists_linesInclusive_append (a : Text) :
    ∃ ls, ∀ b, linesInclusive (a ++ b) = ls ++ linesInclusive (lastLine a ++ b) := by
  induction a using line_induction with
  | nil => exact ⟨[], fun b => rfl⟩
  | last w hw _ => exact ⟨[], fun b => by rw [lastLine_of_not_mem hw]; rfl⟩
  | line l t hl ih =>
    obtain ⟨ls, hls⟩ := ih
    refine ⟨l :: ls, fun b => ?_⟩
    rw [List.append_assoc, hl.linesInclusive_append, hls, hl.lastLine_append, List.cons_append]

end FullLines

end Copydesk.Text
