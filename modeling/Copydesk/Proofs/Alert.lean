import Copydesk.Alert

/-! The order of alerts. It is total, and sorting is stable, so leaving some alerts out commutes
with sorting. -/

namespace Copydesk.Alert

theorem le_iff {a b : Alert} :
    a.le b = true ↔ a.line < b.line ∨ (a.line = b.line ∧ a.span.start ≤ b.span.start) := by
  simp only [le, Bool.or_eq_true, Bool.and_eq_true, decide_eq_true_eq, beq_iff_eq]

theorem le_trans (a b c : Alert) (hab : a.le b = true) (hbc : b.le c = true) : a.le c = true := by
  rw [le_iff] at hab hbc ⊢
  omega

theorem le_total (a b : Alert) : (a.le b || b.le a) = true := by
  rw [Bool.or_eq_true, le_iff, le_iff]
  omega

theorem sort_nil : sort [] = [] := by
  rw [sort, List.mergeSort_nil]

theorem exists_sort_cons (a : Alert) (as : List Alert) :
    ∃ xs ys, sort (a :: as) = xs ++ a :: ys ∧ sort as = xs ++ ys ∧
      (∀ b ∈ xs, (!a.le b) = true) ∧ ∀ b ∈ ys, a.le b = true := by
  obtain ⟨xs, ys, hcons, hsort, hxs⟩ := List.mergeSort_cons le_trans le_total a as
  have hsorted := List.pairwise_mergeSort le_trans le_total (a :: as)
  rw [hcons] at hsorted
  have hys := (List.pairwise_append.mp hsorted).2.1
  exact ⟨xs, ys, hcons, hsort, hxs, (List.pairwise_cons.mp hys).1⟩

theorem takeWhile_not_le {a : Alert} {xs ys : List Alert} (hx : ∀ b ∈ xs, (!a.le b) = true)
    (hy : ∀ b ∈ ys, a.le b = true) : (xs ++ ys).takeWhile (fun b => !a.le b) = xs := by
  rw [List.takeWhile_append_of_pos hx]
  cases ys with
  | nil => exact List.append_nil xs
  | cons b ys =>
    rw [List.takeWhile_cons_of_neg, List.append_nil]
    simp [hy b List.mem_cons_self]

theorem filter_sort (p : Alert → Bool) (as : List Alert) :
    (sort as).filter p = sort (as.filter p) := by
  induction as with
  | nil => rw [sort_nil, List.filter_nil, sort_nil]
  | cons a as ih =>
    obtain ⟨xs, ys, hcons, hsort, hxs, hys⟩ := exists_sort_cons a as
    have hrest : xs.filter p ++ ys.filter p = sort (as.filter p) := by
      rw [← ih, hsort, List.filter_append]
    rw [hcons, List.filter_append]
    cases hp : p a with
    | false =>
      have hnot : ¬p a = true := by simp [hp]
      rw [List.filter_cons_of_neg hnot, List.filter_cons_of_neg hnot]
      exact hrest
    | true =>
      rw [List.filter_cons_of_pos hp, List.filter_cons_of_pos hp]
      obtain ⟨xs', ys', hcons', hsort', hxs', hys'⟩ := exists_sort_cons a (as.filter p)
      have hcut : xs.filter p ++ ys.filter p = xs' ++ ys' := hrest.trans hsort'
      -- both sides cut the same sorted list where the alert stops coming after
      have hx : xs.filter p = xs' := by
        rw [← takeWhile_not_le (fun b hb => hxs b (List.mem_filter.mp hb).1)
          (fun b hb => hys b (List.mem_filter.mp hb).1), hcut, takeWhile_not_le hxs' hys']
      have hy : ys.filter p = ys' := by
        rw [hx] at hcut
        exact List.append_cancel_left hcut
      rw [hx, hy, hcons']

/-- The alerts of some checks. -/
def ofChecks (p : Text → Bool) (as : List Alert) : List Alert := as.filter fun a => p a.check

section OfChecks

variable {p : Text → Bool} {a : Alert} {as bs : List Alert}

theorem ofChecks_cons_of_pos (h : p a.check = true) :
    ofChecks p (a :: as) = a :: ofChecks p as :=
  List.filter_cons_of_pos h

theorem ofChecks_cons_of_neg (h : p a.check = false) : ofChecks p (a :: as) = ofChecks p as :=
  List.filter_cons_of_neg (by simp [h])

theorem ofChecks_append : ofChecks p (as ++ bs) = ofChecks p as ++ ofChecks p bs :=
  List.filter_append as bs

theorem ofChecks_flatten {parts : List (List Alert)} :
    ofChecks p parts.flatten = (parts.map (ofChecks p)).flatten :=
  List.filter_flatten

theorem ofChecks_sort : ofChecks p (sort as) = sort (ofChecks p as) := filter_sort _ as

end OfChecks

end Copydesk.Alert
