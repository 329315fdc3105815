import Copydesk.Proofs.Regex.Reach

/-! Replacing and erasing what a pattern matches. The result is made up of parts of the text and of
the replacements. A character that the pattern never matches is left wherever it stands, and a
pattern never matches a character that none of its sets holds. -/

namespace Copydesk.Regex

open Text (size before_append after_append size_append prefix_before suffix_after)

/-- No match of the pattern has the character in it, whatever the text. -/
def Avoids (r : Regex) (c : Char) : Prop := ∀ t, ∀ m ∈ r.findAll t, c ∉ m.text t

variable {r : Regex} {c : Char} {t : Text}

theorem avoids_of_mentions (h : r.root.mentions c = false) : r.Avoids c := by
  intro t m hm hc
  rw [mentions_of_mem_text hm hc] at h
  cases h

theorem Node.mentions_literal (t : Text) : (literal t).mentions c = true ↔ c ∈ t := by
  have hsingle (x : Char) : (one (CharSet.single x)).mentions c = true ↔ c = x := by
    simp only [mentions, CharSet.single, CharSet.mem, Bool.and_eq_true, decide_eq_true_eq]
    exact ⟨fun h => Char.le_antisymm h.2 h.1, fun h => h ▸ ⟨Char.le_refl _, Char.le_refl _⟩⟩
  induction t with
  | nil => simp [literal, ofList, mentions]
  | cons x t ih =>
    cases t with
    | nil => simpa [literal, ofList] using hsingle x
    | cons y t =>
      have hcat : literal (x :: y :: t) = .cat (.one (CharSet.single x)) (literal (y :: t)) := rfl
      rw [hcat, mentions, Bool.or_eq_true, hsingle, List.mem_cons]
      exact or_congr_right ih

theorem count_spliceFrom {n : Node} {f : Match → Text} {p : Point} {ms : List Match}
    (hms : Successive n p ms) (hp : (Point.ofText t).Reaches p)
    (hf : ∀ m ∈ ms, (f m).count c = (m.text t).count c) :
    (spliceFrom p.offset p.ahead (ms.map fun m => (m.start, m.stop, f m))).count c =
      p.ahead.count c := by
  induction hms with
  | nil => rfl
  | @cons p a b m ms hpa hmatch _ ih =>
    have hm := (Node.matchAt?_spans hmatch).1
    have ha := hp.trans hpa
    obtain ⟨hfm, hfms⟩ := List.forall_mem_cons.mp hf
    have hrest := ih (ha.trans hm.reaches) hfms
    obtain ⟨gap, hgap, hgapo⟩ := hpa
    have hpiece := (hm.ahead ha).1
    have hstop : m.stop - p.offset = size (gap ++ m.text t) := by
      obtain ⟨piece, hpiece', hb⟩ := hm.reaches
      rw [size_append, List.append_cancel_right (hpiece.symm.trans hpiece'), hm.stop_eq]
      omega
    have hall : p.ahead = gap ++ m.text t ++ b.ahead := by rw [hgap, hpiece, List.append_assoc]
    have hbefore : Text.before p.ahead (m.start - p.offset) = gap := by
      rw [show m.start - p.offset = size gap by rw [hm.start_eq]; omega, hgap, before_append]
    have hafter : Text.after p.ahead (m.stop - p.offset) = b.ahead := by
      rw [hstop, hall, after_append]
    rw [List.map_cons, spliceFrom, hbefore, hafter, hall, hm.stop_eq]
    simp only [List.count_append, hfm, hrest]

theorem spliceFrom_induction {P : Text → Prop} (append : ∀ a b, P a → P b → P (a ++ b))
    {edits : List (Nat × Nat × Text)} (kept : ∀ a, a <:+: t → P a)
    (replaced : ∀ e ∈ edits, P e.2.2) (start : Nat) : P (spliceFrom start t edits) := by
  induction edits generalizing t start with
  | nil => exact kept t List.infix_rfl
  | cons e edits ih =>
    obtain ⟨first, last, new⟩ := e
    obtain ⟨hnew, hmore⟩ := List.forall_mem_cons.mp replaced
    have hrest := (suffix_after t (last - start)).isInfix
    have hafter := ih (fun a ha => kept a (ha.trans hrest)) hmore last
    have hbefore := kept _ (prefix_before t (first - start)).isInfix
    exact append _ _ (append _ _ hbefore hnew) hafter

theorem replaceAll_induction {P : Text → Prop} (append : ∀ a b, P a → P b → P (a ++ b))
    {f : Match → Text} (kept : ∀ a, a <:+: t → P a) (replaced : ∀ m, P (f m)) :
    P (r.replaceAll t f) := by
  refine spliceFrom_induction append kept (fun e he => ?_) 0
  obtain ⟨m, -, rfl⟩ := List.mem_map.mp he
  exact replaced m

theorem Avoids.count_erase (h : r.Avoids c) (t : Text) :
    (r.replaceAll t fun _ => []).count c = t.count c := by
  refine count_spliceFrom (findAll_successive r t) (.refl _) fun m hm => ?_
  rw [List.count_eq_zero.mpr (h t m hm)]
  rfl

end Copydesk.Regex
