import Copydesk.Proofs.Markup.Fences

/-! Code spans of one line. A run of backticks opens a span if a run of the same length comes later;
the first of these closes it, and what lies between the two is hidden. -/

namespace Copydesk.Markup

open Text

variable {c : Char} {fuel k n : Nat} {a b s t u : Text}

section Runs

/-- Between `a` and `b`, the text `t` has a run of `n` backticks, and no more of them beside it. -/
structure RunBetween (n : Nat) (a b t : Text) : Prop where
  append : a ++ (List.replicate n '\x60' ++ b) = t
  before : a.getLast? ≠ some '\x60'
  after : b.head? ≠ some '\x60'

def HasRun (n : Nat) (t : Text) : Prop := ∃ a b, RunBetween n a b t

/-- The first run of `n` backticks in `t` is the one between `a` and `b`. -/
structure FirstRun (n : Nat) (a b t : Text) : Prop extends RunBetween n a b t where
  first : ¬HasRun n a

theorem head?_replicate_append (hn : 0 < n) (m : Char) (s : Text) :
    (List.replicate n m ++ s).head? = some m := by
  obtain ⟨j, rfl⟩ := Nat.exists_eq_add_one.mpr hn
  rfl

theorem replicate_append_inj (hs : s.head? ≠ some '\x60') (ht : t.head? ≠ some '\x60')
    (h : List.replicate n '\x60' ++ s = List.replicate k '\x60' ++ t) : n = k ∧ s = t := by
  have hrun := congrArg (List.takeWhile (· == '\x60')) h
  rw [takeWhile_replicate_append n hs, takeWhile_replicate_append k ht] at hrun
  obtain rfl : n = k := by simpa using congrArg List.length hrun
  exact ⟨rfl, List.append_cancel_left h⟩

theorem not_runBetween_nil (hn : 0 < n) : ¬RunBetween n a b [] := by
  intro h
  obtain ⟨-, hrun⟩ := List.append_eq_nil_iff.mp h.append
  obtain ⟨hrun, -⟩ := List.append_eq_nil_iff.mp hrun
  exact hn.ne' (by simpa using hrun)

theorem runBetween_cons (hn : 0 < n) (hc : c ≠ '\x60') :
    RunBetween n a b (c :: t) ↔ ∃ a', c :: a' = a ∧ RunBetween n a' b t := by
  constructor
  · rintro ⟨happend, hbefore, hafter⟩
    cases a with
    | nil =>
      have hhead := congrArg List.head? happend
      rw [List.nil_append, head?_replicate_append hn] at hhead
      exact absurd (Option.some.inj hhead).symm hc
    | cons d a =>
      obtain ⟨rfl, hrest⟩ := List.cons.inj happend
      refine ⟨a, rfl, hrest, fun hlast => hbefore ?_, hafter⟩
      rw [List.getLast?_cons, hlast, Option.getD_some]
  · rintro ⟨a, rfl, happend, hbefore, hafter⟩
    refine ⟨by rw [List.cons_append, happend], fun hlast => ?_, hafter⟩
    rw [List.getLast?_cons] at hlast
    cases hl : a.getLast? with
    | none => exact hc (by simpa [hl] using hlast)
    | some d => exact hbefore (by simpa [hl] using hlast)

theorem RunBetween.of_append (h : RunBetween n (s ++ a) b (s ++ t)) : RunBetween n a b t := by
  obtain ⟨happend, hbefore, hafter⟩ := h
  rw [List.append_assoc] at happend
  refine ⟨List.append_cancel_left happend, fun hlast => hbefore ?_, hafter⟩
  rw [List.getLast?_append, hlast, Option.some_or]

theorem RunBetween.append_left (hn : 0 < n) (ht : t.head? ≠ some '\x60') (h : RunBetween n a b t)
    (s : Text) : RunBetween n (s ++ a) b (s ++ t) := by
  refine ⟨by rw [List.append_assoc, h.append], ?_, h.after⟩
  have hne : a ≠ [] := by
    rintro rfl
    exact ht (h.append ▸ head?_replicate_append hn '\x60' b)
  rw [List.getLast?_append, List.getLast?_eq_some_getLast hne, Option.some_or,
    ← List.getLast?_eq_some_getLast hne]
  exact h.before

/-- Behind a run, the next one is this run itself or lies in what follows it. -/
theorem runBetween_replicate_append (hn : 0 < n) (hk : 0 < k) (hs : s.head? ≠ some '\x60') :
    RunBetween n a b (List.replicate k '\x60' ++ s) ↔
      a = [] ∧ n = k ∧ b = s ∨
        ∃ a', List.replicate k '\x60' ++ a' = a ∧ RunBetween n a' b s := by
  constructor
  · intro h
    -- No backtick stands right before the run, so `a` is empty or goes beyond the first one.
    rcases List.append_eq_append_iff.mp h.append with ⟨r, hrun, hrest⟩ | ⟨a', rfl, hrest⟩
    · rcases List.eq_nil_or_concat a with rfl | ⟨a, d, rfl⟩
      · obtain ⟨rfl, rfl⟩ := replicate_append_inj h.after hs h.append
        exact .inl ⟨rfl, rfl, rfl⟩
      · have hd : d ∈ List.replicate k '\x60' := by simp [hrun]
        exact absurd (by simp [List.eq_of_mem_replicate hd]) h.before
    · exact .inr ⟨a', rfl, h.of_append⟩
  · rintro (⟨rfl, rfl, rfl⟩ | ⟨a, rfl, hrun⟩)
    · exact ⟨rfl, by simp, hs⟩
    · exact hrun.append_left hn hs _

theorem hasRun_cons (hn : 0 < n) (hc : c ≠ '\x60') : HasRun n (c :: t) ↔ HasRun n t := by
  simp only [HasRun, runBetween_cons hn hc]
  constructor
  · rintro ⟨-, b, a, -, h⟩
    exact ⟨a, b, h⟩
  · rintro ⟨a, b, h⟩
    exact ⟨c :: a, b, a, rfl, h⟩

theorem hasRun_replicate_append (hn : 0 < n) (hk : 0 < k) (hs : s.head? ≠ some '\x60') :
    HasRun n (List.replicate k '\x60' ++ s) ↔ n = k ∨ HasRun n s := by
  simp only [HasRun, runBetween_replicate_append hn hk hs]
  constructor
  · rintro ⟨-, b, ⟨-, h, -⟩ | ⟨a, -, h⟩⟩
    · exact .inl h
    · exact .inr ⟨a, b, h⟩
  · rintro (h | ⟨a, b, h⟩)
    · exact ⟨[], s, .inl ⟨rfl, h, rfl⟩⟩
    · exact ⟨_, b, .inr ⟨a, rfl, h⟩⟩

theorem RunBetween.head?_ne (ht : t.head? ≠ some '\x60') (h : RunBetween n a b t) :
    a.head? ≠ some '\x60' := by
  cases a with
  | nil => simp
  | cons d a => rwa [← h.append] at ht

theorem firstRun_cons (hn : 0 < n) (hc : c ≠ '\x60') :
    FirstRun n a b (c :: t) ↔ ∃ a', c :: a' = a ∧ FirstRun n a' b t := by
  constructor
  · rintro ⟨hrun, hfirst⟩
    obtain ⟨a, rfl, hrest⟩ := (runBetween_cons hn hc).mp hrun
    exact ⟨a, rfl, hrest, fun h => hfirst ((hasRun_cons hn hc).mpr h)⟩
  · rintro ⟨a, rfl, hrun, hfirst⟩
    exact ⟨(runBetween_cons hn hc).mpr ⟨a, rfl, hrun⟩, fun h => hfirst ((hasRun_cons hn hc).mp h)⟩

theorem firstRun_replicate_append (hn : 0 < n) (hs : s.head? ≠ some '\x60') :
    FirstRun n a b (List.replicate n '\x60' ++ s) ↔ a = [] ∧ b = s := by
  constructor
  · rintro ⟨hrun, hfirst⟩
    rcases (runBetween_replicate_append hn hn hs).mp hrun with ⟨ha, -, hb⟩ | ⟨a, rfl, hrest⟩
    · exact ⟨ha, hb⟩
    · have ha := hrest.head?_ne hs
      exact absurd ((hasRun_replicate_append hn hn ha).mpr (.inl rfl)) hfirst
  · rintro ⟨rfl, rfl⟩
    exact ⟨⟨rfl, by simp, hs⟩, fun ⟨_, _, h⟩ => not_runBetween_nil hn h⟩

theorem firstRun_replicate_append_of_ne (hn : 0 < n) (hk : 0 < k) (hnk : k ≠ n)
    (hs : s.head? ≠ some '\x60') : FirstRun n a b (List.replicate k '\x60' ++ s) ↔
      ∃ a', List.replicate k '\x60' ++ a' = a ∧ FirstRun n a' b s := by
  constructor
  · rintro ⟨hrun, hfirst⟩
    rcases (runBetween_replicate_append hn hk hs).mp hrun with ⟨-, h, -⟩ | ⟨a, rfl, hrest⟩
    · exact absurd h.symm hnk
    · have ha := hrest.head?_ne hs
      exact ⟨a, rfl, hrest, fun h => hfirst ((hasRun_replicate_append hn hk ha).mpr (.inr h))⟩
  · rintro ⟨a, rfl, hrun, hfirst⟩
    refine ⟨(runBetween_replicate_append hn hk hs).mpr (.inr ⟨a, rfl, hrun⟩), fun h => ?_⟩
    rcases (hasRun_replicate_append hn hk (hrun.head?_ne hs)).mp h with h | h
    · exact hnk h.symm
    · exact hfirst h

end Runs

section Closing

theorem closingRun?_cons (n fuel : Nat) (hc : c ≠ '\x60') (t : Text) :
    closingRun? n (fuel + 1) (c :: t)
      = (closingRun? n fuel t).map fun (a, b) => (c :: a, b) := by
  rw [closingRun?, if_neg hc]

theorem closingRun?_replicate_append (n fuel : Nat) (hk : 0 < k) (hs : s.head? ≠ some '\x60') :
    closingRun? n (fuel + 1) (List.replicate k '\x60' ++ s) = if k = n then some ([], s)
      else (closingRun? n fuel s).map fun (a, b) => (List.replicate k '\x60' ++ a, b) := by
  have hrun := takeWhile_replicate_append k hs
  obtain ⟨j, rfl⟩ := Nat.exists_eq_add_one.mpr hk
  rw [List.replicate_succ, List.cons_append] at hrun ⊢
  rw [closingRun?, if_pos rfl]
  simp only [hrun, List.length_cons, List.length_replicate, List.drop_succ_cons,
    List.drop_left' List.length_replicate]

/-- A text that begins with a backtick begins with a run of them; what follows is shorter. -/
theorem exists_run_append (t : Text) : ∃ k s, 0 < k ∧ List.replicate k '\x60' ++ s = '\x60' :: t ∧
    s.head? ≠ some '\x60' ∧ s.length ≤ t.length := by
  obtain ⟨k, s, hk, hrun, hs⟩ := exists_replicate_append '\x60' t
  have hlength := congrArg List.length hrun
  rw [List.length_append, List.length_replicate, List.length_cons] at hlength
  exact ⟨k, s, hk, hrun, hs, by omega⟩

theorem closingRun?_eq_some_iff (hn : 0 < n) (hfuel : t.length ≤ fuel) :
    closingRun? n fuel t = some (a, b) ↔ FirstRun n a b t := by
  -- Each step takes one other character or a whole run, as the equivalences for first runs do.
  induction fuel generalizing t a b with
  | zero =>
    obtain rfl := List.length_eq_zero_iff.mp (Nat.le_zero.mp hfuel)
    exact ⟨fun h => (by cases h), fun h => absurd h.toRunBetween (not_runBetween_nil hn)⟩
  | succ fuel ih =>
    cases t with
    | nil => exact ⟨fun h => (by cases h), fun h => absurd h.toRunBetween (not_runBetween_nil hn)⟩
    | cons c t =>
      have hlength : t.length ≤ fuel := Nat.le_of_succ_le_succ hfuel
      by_cases hc : c = '\x60'
      · subst hc
        obtain ⟨k, s, hk, hrun, hs, hle⟩ := exists_run_append t
        rw [← hrun, closingRun?_replicate_append n fuel hk hs]
        by_cases hkn : k = n
        · subst hkn
          rw [if_pos rfl, firstRun_replicate_append hk hs, Option.some.injEq, Prod.mk.injEq]
          exact ⟨fun ⟨ha, hb⟩ => ⟨ha.symm, hb.symm⟩, fun ⟨ha, hb⟩ => ⟨ha.symm, hb.symm⟩⟩
        · rw [if_neg hkn, firstRun_replicate_append_of_ne hn hk hkn hs, Option.map_eq_some_iff]
          simp only [Prod.exists, ih (hle.trans hlength), Prod.mk.injEq]
          exact ⟨fun ⟨a, _, h, ha, hb⟩ => ⟨a, ha, hb ▸ h⟩, fun ⟨a, ha, h⟩ => ⟨a, b, h, ha, rfl⟩⟩
      · rw [closingRun?_cons n fuel hc, firstRun_cons hn hc, Option.map_eq_some_iff]
        simp only [Prod.exists, ih hlength, Prod.mk.injEq]
        exact ⟨fun ⟨a, _, h, ha, hb⟩ => ⟨a, ha, hb ▸ h⟩, fun ⟨a, ha, h⟩ => ⟨a, b, h, ha, rfl⟩⟩

theorem closingRun?_eq_none_iff (hn : 0 < n) (hfuel : t.length ≤ fuel) :
    closingRun? n fuel t = none ↔ ¬HasRun n t := by
  induction fuel generalizing t with
  | zero =>
    obtain rfl := List.length_eq_zero_iff.mp (Nat.le_zero.mp hfuel)
    exact ⟨fun _ ⟨_, _, h⟩ => not_runBetween_nil hn h, fun _ => rfl⟩
  | succ fuel ih =>
    cases t with
    | nil => exact ⟨fun _ ⟨_, _, h⟩ => not_runBetween_nil hn h, fun _ => rfl⟩
    | cons c t =>
      have hlength : t.length ≤ fuel := Nat.le_of_succ_le_succ hfuel
      by_cases hc : c = '\x60'
      · subst hc
        obtain ⟨k, s, hk, hrun, hs, hle⟩ := exists_run_append t
        rw [← hrun, closingRun?_replicate_append n fuel hk hs, hasRun_replicate_append hn hk hs]
        by_cases hkn : k = n
        · simp [hkn]
        · rw [if_neg hkn, Option.map_eq_none_iff, ih (hle.trans hlength)]
          simp [Ne.symm hkn]
      · rw [closingRun?_cons n fuel hc, Option.map_eq_none_iff, ih hlength, hasRun_cons hn hc]

end Closing

section Spans

/-- From the first text to the second, the contents of the code spans are hidden and nothing else: a
span lies between a run of backticks and the next run of the same length, and a run that no such one
follows stands for itself. -/
inductive HidesSpans : Text → Text → Prop
  | nil : HidesSpans [] []
  | char {c : Char} {t u : Text} (hc : c ≠ '\x60') (h : HidesSpans t u) :
      HidesSpans (c :: t) (c :: u)
  | span {n : Nat} {content rest s u : Text} (hn : 0 < n) (hs : s.head? ≠ some '\x60')
      (hclose : FirstRun n content rest s) (h : HidesSpans rest u) :
      HidesSpans (List.replicate n '\x60' ++ s)
        (List.replicate n '\x60' ++ blank content ++ List.replicate n '\x60' ++ u)
  | lone {n : Nat} {s u : Text} (hn : 0 < n) (hs : s.head? ≠ some '\x60') (hclose : ¬HasRun n s)
      (h : HidesSpans s u) :
      HidesSpans (List.replicate n '\x60' ++ s) (List.replicate n '\x60' ++ u)

theorem maskSpans_cons (fuel : Nat) (hc : c ≠ '\x60') (t : Text) :
    maskSpans (fuel + 1) (c :: t) = c :: maskSpans fuel t := by
  rw [maskSpans, if_neg hc]

theorem maskSpans_replicate_append (fuel : Nat) (hn : 0 < n) (hs : s.head? ≠ some '\x60') :
    maskSpans (fuel + 1) (List.replicate n '\x60' ++ s) =
      (closingRun? n s.length s).elim (List.replicate n '\x60' ++ maskSpans fuel s) fun split =>
        List.replicate n '\x60' ++ blank split.1 ++ List.replicate n '\x60' ++
          maskSpans fuel split.2 := by
  have hrun := takeWhile_replicate_append n hs
  obtain ⟨j, rfl⟩ := Nat.exists_eq_add_one.mpr hn
  rw [List.replicate_succ, List.cons_append] at hrun ⊢
  rw [maskSpans, if_pos rfl]
  simp only [hrun, List.length_cons, List.length_replicate, List.drop_succ_cons,
    List.drop_left' List.length_replicate]
  cases closingRun? (j + 1) s.length s <;> rfl

theorem hidesSpans_maskSpans (hfuel : t.length ≤ fuel) : HidesSpans t (maskSpans fuel t) := by
  induction fuel generalizing t with
  | zero =>
    obtain rfl := List.length_eq_zero_iff.mp (Nat.le_zero.mp hfuel)
    exact .nil
  | succ fuel ih =>
    cases t with
    | nil => exact .nil
    | cons c t =>
      have hlength : t.length ≤ fuel := Nat.le_of_succ_le_succ hfuel
      by_cases hc : c = '\x60'
      · subst hc
        obtain ⟨n, s, hn, hrun, hs, hle⟩ := exists_run_append t
        rw [← hrun, maskSpans_replicate_append fuel hn hs]
        cases hclose : closingRun? n s.length s with
        | none =>
          exact .lone hn hs ((closingRun?_eq_none_iff hn le_rfl).mp hclose) (ih (hle.trans hlength))
        | some split =>
          obtain ⟨content, rest⟩ := split
          have hfirst := (closingRun?_eq_some_iff hn le_rfl).mp hclose
          have hrest := congrArg List.length hfirst.append
          rw [List.length_append, List.length_append] at hrest
          exact .span hn hs hfirst (ih (by omega))
      · rw [maskSpans_cons fuel hc]
        exact .char hc (ih hlength)

theorem HidesSpans.maskSpans_eq (h : HidesSpans t u) (hfuel : t.length ≤ fuel) :
    maskSpans fuel t = u := by
  induction h generalizing fuel with
  | nil => cases fuel <;> rfl
  | char hc _ ih =>
    obtain ⟨fuel, rfl⟩ := Nat.exists_eq_add_one.mpr (Nat.zero_lt_of_lt hfuel)
    rw [maskSpans_cons fuel hc, ih (Nat.le_of_succ_le_succ hfuel)]
  | @span n content rest s u hn hs hclose _ ih =>
    rw [List.length_append, List.length_replicate] at hfuel
    have hrest := congrArg List.length hclose.append
    rw [List.length_append, List.length_append] at hrest
    obtain ⟨fuel, rfl⟩ := Nat.exists_eq_add_one.mpr (show 0 < fuel by omega)
    rw [maskSpans_replicate_append fuel hn hs, (closingRun?_eq_some_iff hn le_rfl).mpr hclose]
    rw [Option.elim_some, ih (show rest.length ≤ fuel by omega)]
  | @lone n s u hn hs hclose _ ih =>
    rw [List.length_append, List.length_replicate] at hfuel
    obtain ⟨fuel, rfl⟩ := Nat.exists_eq_add_one.mpr (show 0 < fuel by omega)
    rw [maskSpans_replicate_append fuel hn hs, (closingRun?_eq_none_iff hn le_rfl).mpr hclose]
    rw [Option.elim_none, ih (show s.length ≤ fuel by omega)]

/-- The masked line is the only text that the line becomes when its code spans are hidden. -/
theorem maskInlineCode_eq_iff : maskInlineCode t = u ↔ HidesSpans t u :=
  ⟨fun h => h ▸ hidesSpans_maskSpans le_rfl, fun h => h.maskSpans_eq le_rfl⟩

end Spans

end Copydesk.Markup
