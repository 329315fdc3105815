import Copydesk.Proofs.Text.Split

/-! Replacing one text by another takes its occurrences from left to right. What stands before a
character that it does not hold is replaced on its own. -/

namespace Copydesk.Text

variable {old new a t : Text} {c : Char}

theorem splitTextFrom_skip (sep t : Text) (skip : Nat) :
    splitTextFrom sep skip t = splitTextFrom sep 0 (t.drop skip) := by
  induction t generalizing skip with
  | nil => cases skip <;> rfl
  | cons c t ih =>
    cases skip with
    | zero => rfl
    | succ skip => exact ih skip

theorem replace_nil (old new : Text) : replace old new [] = [] := rfl

theorem replace_cons (h : ¬old <+: c :: t) :
    replace old new (c :: t) = c :: replace old new t := by
  rw [replace, splitOnText, splitTextFrom, if_neg (mt startsWith_iff.mp h), replace, splitOnText]
  cases hps : splitTextFrom old 0 t with
  | nil => exact absurd hps (splitTextFrom_ne_nil old 0 t)
  | cons p ps =>
    cases ps with
    | nil => simp [List.intercalate]
    | cons q qs => simp [List.intercalate_cons_cons]

theorem replace_append_self (new : Text) (h : old ≠ []) :
    replace old new (old ++ t) = new ++ replace old new t := by
  obtain ⟨c, s, rfl⟩ := List.exists_cons_of_ne_nil h
  have hbegins : startsWith (c :: (s ++ t)) (c :: s) = true := startsWith_iff.mpr ⟨t, rfl⟩
  rw [List.cons_append, replace, splitOnText, splitTextFrom, if_pos hbegins, splitTextFrom_skip,
    List.length_cons, Nat.add_sub_cancel, List.drop_left]
  exact join_cons new [] (splitTextFrom_ne_nil _ _ _)

theorem replace_self (h : old ≠ []) (t : Text) : replace old old t = t := join_splitOnText h t

/-- The text begins nowhere in `a`, where `t` follows. -/
def BeginsNowhere (old a t : Text) : Prop := ∀ x y, a = x ++ y → y ≠ [] → ¬old <+: y ++ t

theorem BeginsNowhere.tail (h : BeginsNowhere old (c :: a) t) : BeginsNowhere old a t :=
  fun x y hxy => h (c :: x) y (congrArg (c :: ·) hxy)

instance : Decidable (BeginsNowhere old a t) :=
  decidable_of_iff (∀ k < a.length, ¬old <+: a.drop k ++ t) <| by
    constructor
    · rintro h x y rfl hy
      have hk := h x.length (by simpa using List.length_pos_iff.mpr hy)
      rwa [List.drop_left] at hk
    · intro h k hk
      exact h (a.take k) (a.drop k) (List.take_append_drop k a).symm (by simpa using hk)

theorem replace_append (new : Text) (h : BeginsNowhere old a t) :
    replace old new (a ++ t) = a ++ replace old new t := by
  induction a with
  | nil => rfl
  | cons c a ih =>
    have hc : ¬old <+: c :: (a ++ t) := h [] (c :: a) rfl (List.cons_ne_nil c a)
    rw [List.cons_append, replace_cons hc, ih h.tail]
    rfl

theorem exists_replace_append (new : Text) (h : ¬BeginsNowhere old a t) (hold : old ≠ []) :
    ∃ x y r, a = x ++ y ∧ y ≠ [] ∧ y ++ t = old ++ r ∧
      replace old new (a ++ t) = x ++ (new ++ replace old new r) := by
  induction a with
  | nil => exact absurd (fun x y hxy hy => absurd (List.append_eq_nil_iff.mp hxy.symm).2 hy) h
  | cons c a ih =>
    by_cases hc : old <+: c :: (a ++ t)
    · obtain ⟨r, hr⟩ := hc
      refine ⟨[], c :: a, r, rfl, List.cons_ne_nil c a, hr.symm, ?_⟩
      rw [List.cons_append, ← hr, replace_append_self _ hold]
      rfl
    · have hlater : ¬BeginsNowhere old a t := by
        intro hnowhere
        refine h fun x y hxy hy => ?_
        cases x with
        | nil =>
          obtain rfl := hxy
          exact hc
        | cons d x => exact hnowhere x y (List.cons.inj hxy).2 hy
      obtain ⟨x, y, r, rfl, hy, hr, heq⟩ := ih hlater
      refine ⟨c :: x, y, r, rfl, hy, hr, ?_⟩
      rw [List.cons_append, replace_cons hc, heq]
      rfl

theorem beginsNowhere_of_not_mem (hold : old ≠ []) (h : ∀ c ∈ a, c ∉ old) :
    BeginsNowhere old a t := by
  rintro x y rfl hy ⟨r, hr⟩
  obtain ⟨c, y, rfl⟩ := List.exists_cons_of_ne_nil hy
  obtain ⟨d, s, rfl⟩ := List.exists_cons_of_ne_nil hold
  obtain ⟨rfl, -⟩ := List.cons.inj hr
  exact h d (by simp) List.mem_cons_self

theorem prefix_of_prefix_append (ht : ∀ c ∈ t.head?, c ∉ old) (h : old <+: a ++ t) : old <+: a := by
  rcases List.prefix_or_prefix_of_prefix h (List.prefix_append a t) with h | ⟨s, rfl⟩
  · exact h
  · cases s with
    | nil => simp
    | cons c s =>
      have hs : c :: s <+: t := List.prefix_append_right_inj a |>.mp h
      obtain ⟨u, rfl⟩ := hs
      exact absurd (by simp) (ht c rfl)

theorem BeginsNowhere.append (h : BeginsNowhere old a old) (t : Text) :
    BeginsNowhere old a (old ++ t) := by
  intro x y hxy hy hbegins
  refine h x y hxy hy ?_
  rw [← List.append_assoc] at hbegins
  exact List.prefix_of_prefix_length_le hbegins (List.prefix_append _ _) (by simp)

theorem BeginsNowhere.of_head (h : BeginsNowhere old a old) (ht : ∀ c ∈ t.head?, c ∉ old) :
    BeginsNowhere old a t :=
  fun x y hxy hy hbegins =>
    h x y hxy hy ((prefix_of_prefix_append ht hbegins).trans (List.prefix_append y old))

theorem beginsNowhere_of_absent (ht : ∀ c ∈ t.head?, c ∉ old) (h : ¬old <:+: a) :
    BeginsNowhere old a t := by
  rintro x y rfl - hy
  exact h ((prefix_of_prefix_append ht hy).isInfix.trans (List.suffix_append x y).isInfix)

theorem replace_of_absent (h : ¬old <:+: a) : replace old new a = a := by
  have hreplace : replace old new (a ++ []) = a ++ [] :=
    replace_append _ (beginsNowhere_of_absent nofun h)
  rwa [List.append_nil] at hreplace

/-- What stands before a character that the text does not hold is replaced on its own. -/
theorem replace_append_of_head (hold : old ≠ []) (ht : ∀ c ∈ t.head?, c ∉ old) (a : Text) :
    replace old new (a ++ t) = replace old new a ++ replace old new t := by
  induction hlength : a.length using Nat.strongRecOn generalizing a with
  | ind n ih =>
    subst hlength
    cases a with
    | nil => rfl
    | cons c a =>
      by_cases hc : old <+: c :: a
      · obtain ⟨r, hr⟩ := hc
        have hshort : r.length < (c :: a).length := by
          have := List.length_pos_iff.mpr hold
          rw [← hr, List.length_append]
          omega
        rw [← hr, List.append_assoc, replace_append_self _ hold, replace_append_self _ hold,
          ih r.length hshort r rfl, List.append_assoc]
      · have hc' : ¬old <+: c :: (a ++ t) := fun h => hc (prefix_of_prefix_append ht h)
        rw [List.cons_append, replace_cons hc', replace_cons hc, ih a.length (Nat.lt_succ_self _) a rfl]
        rfl

theorem infix_iff_not_beginsNowhere (hold : old ≠ []) : old <:+: a ↔ ¬BeginsNowhere old a [] := by
  constructor
  · rintro ⟨x, y, rfl⟩ h
    refine h x (old ++ y) (List.append_assoc x old y) (by simp [hold]) ?_
    rw [List.append_nil]
    exact List.prefix_append old y
  · intro h
    exact Classical.byContradiction fun hnot => h (beginsNowhere_of_absent nofun hnot)

theorem exists_replace_of_present (new : Text) (hold : old ≠ []) (h : old <:+: a) :
    ∃ x r, a = x ++ (old ++ r) ∧ replace old new a = x ++ (new ++ replace old new r) := by
  obtain ⟨x, y, r, rfl, -, hr, heq⟩ :=
    exists_replace_append new ((infix_iff_not_beginsNowhere hold).mp h) hold
  rw [List.append_nil] at hr heq
  exact ⟨x, r, by rw [hr], heq⟩

/-- Where the old text begins within another one that stands before it, what is left after that is
too short to hold it again. -/
theorem exists_overlap (new : Text) (hold : old ≠ []) (hin : ¬old <:+: a)
    (h : ¬BeginsNowhere old a old) :
    ∃ x y r, a = x ++ y ∧ y ≠ [] ∧ y.length < old.length ∧ y ++ old = old ++ r ∧
      replace old new (a ++ old) = x ++ (new ++ r) := by
  obtain ⟨x, y, r, rfl, hy, hr, heq⟩ := exists_replace_append new h hold
  have hlengths := congrArg List.length hr
  simp only [List.length_append] at hlengths
  have hshort : y.length < old.length := by
    refine Nat.lt_of_not_le fun hlong => ?_
    have hbegin : old <+: y := List.prefix_of_prefix_length_le ⟨r, hr.symm⟩
      (List.prefix_append y old) hlong
    exact hin (hbegin.isInfix.trans (List.suffix_append x y).isInfix)
  have hrest : ¬old <:+: r := fun hinfix => by
    have := hinfix.length_le
    omega
  exact ⟨x, y, r, rfl, hy, hshort, hr, by rw [heq, replace_of_absent hrest]⟩

theorem length_replace (new : Text) (hold : old ≠ []) (a : Text) :
    (new.length ≤ old.length → (replace old new a).length ≤ a.length) ∧
      (old.length ≤ new.length → a.length ≤ (replace old new a).length) := by
  induction hlength : a.length using Nat.strongRecOn generalizing a with
  | ind n ih =>
    subst hlength
    by_cases h : old <:+: a
    · obtain ⟨x, r, rfl, heq⟩ := exists_replace_of_present new hold h
      have hpos := List.length_pos_iff.mpr hold
      obtain ⟨hle, hge⟩ := ih r.length (by simp only [List.length_append]; omega) r rfl
      rw [heq]
      simp only [List.length_append]
      exact ⟨fun hnew => by have := hle hnew; omega, fun hnew => by have := hge hnew; omega⟩
    · rw [replace_of_absent h]
      exact ⟨fun _ => Nat.le_refl _, fun _ => Nat.le_refl _⟩

/-- A replacement that changes nothing where there is something to replace puts the text in its own
place. -/
theorem eq_of_replace_eq_self (hold : old ≠ []) (h : old <:+: a) (heq : replace old new a = a) :
    old = new := by
  obtain ⟨x, r, rfl, hreplace⟩ := exists_replace_of_present new hold h
  have hparts : new ++ replace old new r = old ++ r :=
    List.append_cancel_left (hreplace.symm.trans heq)
  have hlengths := congrArg List.length hparts
  simp only [List.length_append] at hlengths
  obtain ⟨hle, hge⟩ := length_replace new hold r
  have hlength : old.length = new.length := by
    rcases Nat.le_total new.length old.length with hnew | hnew
    · have := hle hnew
      omega
    · have := hge hnew
      omega
  exact (List.append_inj_left hparts hlength.symm).symm

theorem infix_replace (new : Text) (hold : old ≠ []) (h : old <:+: a) : new <:+: replace old new a := by
  obtain ⟨x, r, -, heq⟩ := exists_replace_of_present new hold h
  exact ⟨x, replace old new r, by rw [heq, List.append_assoc]⟩

theorem mem_of_mem_replace (hold : old ≠ []) (h : c ∈ replace old new a) : c ∈ a ∨ c ∈ new := by
  induction hlength : a.length using Nat.strongRecOn generalizing a with
  | ind n ih =>
    subst hlength
    by_cases hin : old <:+: a
    · obtain ⟨x, r, rfl, heq⟩ := exists_replace_of_present new hold hin
      have hpos := List.length_pos_iff.mpr hold
      have hrest := ih r.length (by simp only [List.length_append]; omega) (a := r)
      rw [heq] at h
      rcases List.mem_append.mp h with h | h
      · exact .inl (List.mem_append_left _ h)
      · rcases List.mem_append.mp h with h | h
        · exact .inr h
        · exact (hrest h rfl).imp_left fun h => by simp [h]
    · rw [replace_of_absent hin] at h
      exact .inl h

theorem replace_eq_nil (hnew : new ≠ []) (hold : old ≠ []) (h : replace old new a = []) : a = [] := by
  by_cases hin : old <:+: a
  · have hnil := infix_replace new hold hin
    rw [h] at hnil
    exact absurd (List.infix_nil.mp hnil) hnew
  · rwa [replace_of_absent hin] at h

end Copydesk.Text
