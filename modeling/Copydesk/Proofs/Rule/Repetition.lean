import Copydesk.Proofs.Regex.Reach
import Copydesk.Rule.Counting
import Mathlib

/-! Repeated tokens. The matches that count fall into maximal runs of equal tokens with blanks between
them; of each run that is no exception the tokens are reported two by two. -/

namespace Copydesk.Rule.Repetition

open Regex

variable {rep : Repetition} {t : Text} {a b m p : Match} {ms run rest : List Match}

/-- If only letters count, the match has no others. -/
def counts (rep : Repetition) (t : Text) (m : Match) : Bool :=
  !rep.alpha || (m.text t).all Text.isAlphabetic

/-- The same text, or the same in lower case if case is ignored. -/
def Equal (rep : Repetition) (u v : Text) : Prop :=
  if rep.ignoreCase then Text.toLower u = Text.toLower v else u = v

instance (rep : Repetition) (u v : Text) : Decidable (rep.Equal u v) :=
  inferInstanceAs (Decidable (if rep.ignoreCase then Text.toLower u = Text.toLower v else u = v))

/-- Both count, they are equal, and there are only blanks between them. -/
def joins (rep : Repetition) (t : Text) (a b : Match) : Bool :=
  rep.counts t a && rep.counts t b && decide (rep.Equal (a.text t) (b.text t)) &&
    Text.isBlank (Text.slice t a.stop b.start)

def isExcepted (rep : Repetition) (t : Text) (m : Match) : Bool :=
  rep.exceptions.any fun e => rep.Equal e (m.text t)

/-- The maximal runs of matches that count. One that does not is a stretch of its own. -/
def runs (rep : Repetition) (t : Text) (ms : List Match) : List (List Match) :=
  (ms.splitBy (rep.joins t)).filter fun run => run.all (rep.counts t)

def twoByTwo : List Match → List (Match × Match)
  | a :: b :: ms => (a, b) :: twoByTwo ms
  | _ => []

/-- What is reported of a run. -/
def reported (rep : Repetition) (t : Text) (run : List Match) : List (Match × Match) :=
  if run.any (rep.isExcepted t) then [] else twoByTwo run

section Equal

variable {u v w : Text}

theorem same_iff : rep.same u v = true ↔ rep.Equal u v := by
  unfold same Equal
  split <;> exact beq_iff_eq

theorem same_eq_decide (rep : Repetition) (u v : Text) :
    rep.same u v = decide (rep.Equal u v) :=
  Bool.eq_iff_iff.mpr (same_iff.trans decide_eq_true_iff.symm)

theorem Equal.symm (h : rep.Equal u v) : rep.Equal v u := by
  unfold Equal at *
  split_ifs at * <;> exact Eq.symm h

theorem Equal.trans (h : rep.Equal u v) (h' : rep.Equal v w) : rep.Equal u w := by
  unfold Equal at *
  split_ifs at * <;> exact Eq.trans h h'

end Equal

theorem joins_iff : rep.joins t a b = true ↔ rep.counts t a = true ∧ rep.counts t b = true ∧
    rep.Equal (a.text t) (b.text t) ∧
      Text.isBlank (Text.slice t a.stop b.start) = true := by
  simp only [joins, Bool.and_eq_true, decide_eq_true_eq, and_assoc]

theorem repeats_eq (rep : Repetition) (t : Text) (a b : Match) :
    rep.repeats t a b = (decide (rep.Equal (a.text t) (b.text t)) &&
      Text.isBlank (Text.slice t a.stop b.start) && !rep.isExcepted t b) := by
  unfold repeats isExcepted
  simp only [same_eq_decide]

theorem repeats_of_joins (h : rep.joins t a b = true) :
    rep.repeats t a b = !rep.isExcepted t b := by
  obtain ⟨-, -, hequal, hblank⟩ := joins_iff.mp h
  rw [repeats_eq, decide_eq_true hequal, hblank, Bool.true_and, Bool.true_and]

theorem isExcepted_of_joins (h : rep.joins t a b = true) :
    rep.isExcepted t a = rep.isExcepted t b := by
  obtain ⟨-, -, hequal, -⟩ := joins_iff.mp h
  rw [Bool.eq_iff_iff, isExcepted, isExcepted, List.any_eq_true, List.any_eq_true]
  simp only [decide_eq_true_eq]
  constructor
  · rintro ⟨e, he, h⟩
    exact ⟨e, he, h.trans hequal⟩
  · rintro ⟨e, he, h⟩
    exact ⟨e, he, h.trans hequal.symm⟩

section Steps

variable {previous : Option Match}

theorem pairs_cons (rep : Repetition) (t : Text) (previous : Option Match) (m : Match)
    (ms : List Match) : rep.pairs t previous (m :: ms) =
      if rep.counts t m then match previous with
        | some p =>
          if rep.repeats t p m then (p, m) :: rep.pairs t none ms else rep.pairs t (some m) ms
        | none => rep.pairs t (some m) ms
      else rep.pairs t none ms := by
  have hdiscarded : rep.counts t m = !(rep.alpha && !(m.text t).all Text.isAlphabetic) := by
    rw [counts, Bool.not_and, Bool.not_not]
  rw [hdiscarded]
  cases previous <;> cases hd : rep.alpha && !(m.text t).all Text.isAlphabetic <;>
    simp only [pairs, hd] <;> rfl

theorem pairs_cons_of_not_counts (h : rep.counts t m = false) :
    rep.pairs t previous (m :: ms) = rep.pairs t none ms := by
  rw [pairs_cons, h]
  rfl

theorem pairs_cons_of_counts (h : rep.counts t m = true) :
    rep.pairs t previous (m :: ms) = match previous with
      | some p =>
        if rep.repeats t p m then (p, m) :: rep.pairs t none ms else rep.pairs t (some m) ms
      | none => rep.pairs t (some m) ms := by
  rw [pairs_cons, h]
  rfl

/-- A token that the next match does not continue is forgotten. -/
theorem pairs_some_of_not_joins (hp : rep.counts t p = true)
    (hnext : ∀ m ∈ ms.head?, rep.joins t p m = false) :
    rep.pairs t (some p) ms = rep.pairs t none ms := by
  cases ms with
  | nil => rfl
  | cons m ms =>
    cases hm : rep.counts t m with
    | false => rw [pairs_cons_of_not_counts hm, pairs_cons_of_not_counts hm]
    | true =>
      have hnot : rep.repeats t p m = false := by
        have hjoins : rep.joins t p m = false := hnext m rfl
        rw [joins, hp, hm, Bool.true_and, Bool.true_and] at hjoins
        rw [repeats_eq, hjoins, Bool.false_and]
      rw [pairs_cons_of_counts hm, pairs_cons_of_counts hm]
      dsimp only
      rw [hnot]
      rfl

/-- Nothing is reported of a run of an exception, whatever its length. -/
theorem pairs_excepted (hp : rep.counts t p = true) (he : rep.isExcepted t p = true)
    (hrun : (p :: run).IsChain fun a b => rep.joins t a b = true)
    (hend : ∀ a ∈ (p :: run).getLast?, ∀ b ∈ rest.head?, rep.joins t a b = false) :
    rep.pairs t (some p) (run ++ rest) = rep.pairs t none rest := by
  induction run generalizing p with
  | nil => exact pairs_some_of_not_joins hp fun b hb => hend p rfl b hb
  | cons m run ih =>
    obtain ⟨hjoins, hrun⟩ := List.isChain_cons_cons.mp hrun
    have hm : rep.counts t m = true := (joins_iff.mp hjoins).2.1
    have hem : rep.isExcepted t m = true := (isExcepted_of_joins hjoins).symm.trans he
    have hnot : rep.repeats t p m = false := by rw [repeats_of_joins hjoins, hem, Bool.not_true]
    rw [List.getLast?_cons_cons] at hend
    rw [List.cons_append, pairs_cons_of_counts hm]
    dsimp only
    rw [hnot, if_neg Bool.false_ne_true]
    exact ih hm hem hrun hend

/-- A run of other tokens is taken two by two, and what follows it begins anew. -/
theorem pairs_twoByTwo (hcounts : ∀ m ∈ run, rep.counts t m = true)
    (he : ∀ m ∈ run, rep.isExcepted t m = false)
    (hrun : run.IsChain fun a b => rep.joins t a b = true)
    (hend : ∀ a ∈ run.getLast?, ∀ b ∈ rest.head?, rep.joins t a b = false) :
    rep.pairs t none (run ++ rest) = twoByTwo run ++ rep.pairs t none rest := by
  -- `pairs` takes two tokens at a time from such a run, as `twoByTwo` does
  induction run using twoByTwo.induct with
  | case1 a b run ih =>
    obtain ⟨hjoins, hrun⟩ := List.isChain_cons_cons.mp hrun
    have ha : rep.counts t a = true := hcounts a List.mem_cons_self
    have hb : rep.counts t b = true := (joins_iff.mp hjoins).2.1
    have hrepeats : rep.repeats t a b = true := by
      rw [repeats_of_joins hjoins, he b (List.mem_cons_of_mem a List.mem_cons_self), Bool.not_false]
    have hstop : ∀ x ∈ run.getLast?, ∀ y ∈ rest.head?, rep.joins t x y = false := by
      intro x hx
      refine hend x ?_
      obtain ⟨l, hl⟩ := List.getLast?_eq_some_iff.mp hx
      rw [hl, ← List.cons_append, ← List.cons_append]
      exact List.getLast?_concat
    have hmore : rep.pairs t none (run ++ rest) = twoByTwo run ++ rep.pairs t none rest :=
      ih (fun m hm => hcounts m (by simp [hm])) (fun m hm => he m (by simp [hm])) hrun.tail hstop
    rw [List.cons_append, List.cons_append, pairs_cons_of_counts ha]
    dsimp only
    rw [pairs_cons_of_counts hb]
    dsimp only
    rw [if_pos hrepeats, hmore]
    rfl
  | case2 run hshort =>
    match run, hshort with
    | [], _ => rfl
    | [a], _ =>
      have ha : rep.counts t a = true := hcounts a List.mem_cons_self
      rw [List.singleton_append, pairs_cons_of_counts ha]
      exact pairs_some_of_not_joins ha fun b hb => hend a rfl b hb
    | a :: b :: run, hshort => exact absurd rfl (hshort a b run)

end Steps

section Stretches

theorem eq_nil_of_not_counts (ha : rep.counts t a = false)
    (hrun : (a :: run).IsChain fun a b => rep.joins t a b = true) : run = [] := by
  cases run with
  | nil => rfl
  | cons b run =>
    have hjoins := joins_iff.mp (List.isChain_cons_cons.mp hrun).1
    exact absurd (ha.symm.trans hjoins.1) Bool.false_ne_true

theorem counts_of_isChain (ha : rep.counts t a = true)
    (hrun : (a :: run).IsChain fun a b => rep.joins t a b = true) :
    ∀ m ∈ a :: run, rep.counts t m = true := by
  induction run generalizing a with
  | nil => exact List.forall_mem_singleton.mpr ha
  | cons b run ih =>
    obtain ⟨hjoins, hrun⟩ := List.isChain_cons_cons.mp hrun
    exact List.forall_mem_cons.mpr ⟨ha, ih (joins_iff.mp hjoins).2.1 hrun⟩

theorem isExcepted_of_isChain (hrun : (a :: run).IsChain fun a b => rep.joins t a b = true) :
    ∀ m ∈ a :: run, rep.isExcepted t m = rep.isExcepted t a := by
  induction run generalizing a with
  | nil => exact List.forall_mem_singleton.mpr rfl
  | cons b run ih =>
    obtain ⟨hjoins, hrun⟩ := List.isChain_cons_cons.mp hrun
    refine List.forall_mem_cons.mpr ⟨rfl, fun m hm => ?_⟩
    exact (ih hrun m hm).trans (isExcepted_of_joins hjoins).symm

theorem equal_of_isChain (hrun : run.IsChain fun a b => rep.joins t a b = true) :
    run.Pairwise fun a b => rep.Equal (a.text t) (b.text t) := by
  have htrans : IsTrans Match fun a b => rep.Equal (a.text t) (b.text t) :=
    ⟨fun _ _ _ => Equal.trans⟩
  have hequal : run.IsChain fun a b => rep.Equal (a.text t) (b.text t) :=
    hrun.imp fun _ _ h => (joins_iff.mp h).2.2.1
  exact List.isChain_iff_pairwise.mp hequal

theorem filter_counts (hrun : run.IsChain fun a b => rep.joins t a b = true) :
    run.filter (rep.counts t) = if run.all (rep.counts t) then run else [] := by
  cases run with
  | nil => rfl
  | cons a run =>
    cases ha : rep.counts t a with
    | false =>
      obtain rfl := eq_nil_of_not_counts ha hrun
      simp [ha]
    | true =>
      have hall := counts_of_isChain ha hrun
      rw [if_pos (List.all_eq_true.mpr hall), List.filter_eq_self.mpr hall]

theorem pairs_append (hne : run ≠ []) (hrun : run.IsChain fun a b => rep.joins t a b = true)
    (hend : ∀ a ∈ run.getLast?, ∀ b ∈ rest.head?, rep.joins t a b = false) :
    rep.pairs t none (run ++ rest) =
      (if run.all (rep.counts t) then rep.reported t run else []) ++ rep.pairs t none rest := by
  obtain ⟨a, run, rfl⟩ := List.exists_cons_of_ne_nil hne
  -- the first token decides for its whole stretch whether it counts and whether it is excepted
  cases ha : rep.counts t a with
  | false =>
    obtain rfl := eq_nil_of_not_counts ha hrun
    have hall : ¬([a].all (rep.counts t)) = true := by simp [ha]
    rw [if_neg hall, List.singleton_append, pairs_cons_of_not_counts ha]
    rfl
  | true =>
    have hcounts := counts_of_isChain ha hrun
    have hexcept := isExcepted_of_isChain hrun
    rw [if_pos (List.all_eq_true.mpr hcounts)]
    unfold reported
    cases he : rep.isExcepted t a with
    | true =>
      have hany : (a :: run).any (rep.isExcepted t) = true := by simp [he]
      rw [if_pos hany, List.cons_append, pairs_cons_of_counts ha]
      exact pairs_excepted ha he hrun hend
    | false =>
      have hnone : ∀ m ∈ a :: run, rep.isExcepted t m = false := fun m hm => (hexcept m hm).trans he
      have hany : ¬((a :: run).any (rep.isExcepted t)) = true := by
        rw [List.any_eq_true]
        rintro ⟨m, hm, h⟩
        exact absurd ((hnone m hm).symm.trans h) Bool.false_ne_true
      rw [if_neg hany]
      exact pairs_twoByTwo hcounts hnone hrun hend

theorem pairs_flatten {runs : List (List Match)} (hne : [] ∉ runs)
    (hruns : ∀ run ∈ runs, run.IsChain fun a b => rep.joins t a b = true)
    (hends : runs.IsChain fun a b => ∃ ha hb, rep.joins t (a.getLast ha) (b.head hb) = false) :
    rep.pairs t none runs.flatten =
      (runs.filter fun run => run.all (rep.counts t)).flatMap (rep.reported t) := by
  induction runs with
  | nil => rfl
  | cons run runs ih =>
    obtain ⟨hrun, hruns⟩ := List.forall_mem_cons.mp hruns
    have hne' : [] ∉ runs := fun h => hne (List.mem_cons_of_mem run h)
    have hnil : run ≠ [] := fun h => hne (h ▸ List.mem_cons_self)
    have hend : ∀ a ∈ run.getLast?, ∀ b ∈ runs.flatten.head?, rep.joins t a b = false := by
      intro a ha b hb
      cases runs with
      | nil => cases hb
      | cons next runs =>
        obtain ⟨⟨hlast, hhead, hbreak⟩, -⟩ := List.isChain_cons_cons.mp hends
        rw [List.getLast?_eq_some_getLast hlast] at ha
        rw [List.flatten_cons, List.head?_append_of_ne_nil _ hhead, List.head?_eq_some_head hhead] at hb
        rw [← Option.some.inj ha, ← Option.some.inj hb]
        exact hbreak
    rw [List.flatten_cons, pairs_append hnil hrun hend, ih hne' hruns hends.tail, List.filter_cons]
    split <;> rfl

/-- The pairs that are found are those of the runs. -/
theorem pairs_eq (rep : Repetition) (t : Text) (ms : List Match) :
    rep.pairs t none ms = (rep.runs t ms).flatMap (rep.reported t) := by
  have hflat : (ms.splitBy (rep.joins t)).flatten = ms := List.flatten_splitBy (rep.joins t) ms
  have hpairs := pairs_flatten (List.nil_notMem_splitBy (rep.joins t) ms)
    (fun run hrun => List.isChain_of_mem_splitBy hrun)
    (List.isChain_getLast_head_splitBy (rep.joins t) ms)
  rwa [hflat] at hpairs

end Stretches

section Runs

variable {runs : List (List Match)}

theorem exists_infix_of_joins {before after : List Match}
    (hends : runs.IsChain fun a b => ∃ ha hb, rep.joins t (a.getLast ha) (b.head hb) = false)
    (hms : runs.flatten = before ++ a :: b :: after) (h : rep.joins t a b = true) :
    ∃ run ∈ runs, [a, b] <:+: run := by
  induction runs generalizing before with
  | nil => simp at hms
  | cons run runs ih =>
    have hmore (before : List Match) (hms : runs.flatten = before ++ a :: b :: after) :
        ∃ run' ∈ run :: runs, [a, b] <:+: run' := by
      obtain ⟨run', hrun', hin⟩ := ih hends.tail hms
      exact ⟨run', List.mem_cons_of_mem run hrun', hin⟩
    rw [List.flatten_cons] at hms
    rcases List.append_eq_append_iff.mp hms with ⟨c, rfl, hrest⟩ | ⟨c, rfl, hrest⟩
    · exact hmore c hrest
    · rcases c with _ | ⟨x, _ | ⟨y, c⟩⟩
      · exact hmore [] hrest.symm
      · -- the one would end a stretch and the other begin the next
        obtain ⟨rfl, hb⟩ := List.cons.inj hrest
        cases runs with
        | nil => cases hb
        | cons next runs =>
          obtain ⟨⟨hlast, hhead, hbreak⟩, -⟩ := List.isChain_cons_cons.mp hends
          obtain ⟨y, next, rfl⟩ := List.exists_cons_of_ne_nil hhead
          obtain ⟨rfl, -⟩ := List.cons.inj hb
          rw [List.getLast_append_singleton, List.head_cons, h] at hbreak
          cases hbreak
      · obtain ⟨rfl, hb⟩ := List.cons.inj hrest
        obtain ⟨rfl, -⟩ := List.cons.inj hb
        exact ⟨_, List.mem_cons_self, before, c, by simp⟩

/-- The matches that count, cut wherever one is not joined to the next. -/
structure AreRuns (rep : Repetition) (t : Text) (ms : List Match) (runs : List (List Match)) :
    Prop where
  flatten : runs.flatten = ms.filter (rep.counts t)
  nonempty : [] ∉ runs
  unbroken : ∀ run ∈ runs, run <:+: ms
  equal : ∀ run ∈ runs, run.Pairwise fun a b => rep.Equal (a.text t) (b.text t)
  blank : ∀ run ∈ runs, run.IsChain fun a b =>
    Text.isBlank (Text.slice t a.stop b.start) = true
  /-- Neighbours that count are in one run if they are equal with only blanks between them. -/
  maximal : ∀ before a b after, ms = before ++ a :: b :: after →
    rep.counts t a = true → rep.counts t b = true → rep.Equal (a.text t) (b.text t) →
      Text.isBlank (Text.slice t a.stop b.start) = true → ∃ run ∈ runs, [a, b] <:+: run

theorem areRuns (rep : Repetition) (t : Text) (ms : List Match) :
    rep.AreRuns t ms (rep.runs t ms) := by
  have hflat : (ms.splitBy (rep.joins t)).flatten = ms := List.flatten_splitBy (rep.joins t) ms
  have hchain : ∀ run ∈ ms.splitBy (rep.joins t),
      run.IsChain fun a b => rep.joins t a b = true := fun run => List.isChain_of_mem_splitBy
  have hends := List.isChain_getLast_head_splitBy (rep.joins t) ms
  have hmem {run : List Match} (h : run ∈ rep.runs t ms) : run ∈ ms.splitBy (rep.joins t) :=
    (List.mem_filter.mp h).1
  constructor
  case flatten =>
    have hfilter (runs : List (List Match))
        (h : ∀ run ∈ runs, run.IsChain fun a b => rep.joins t a b = true) :
        (runs.filter fun run => run.all (rep.counts t)).flatten =
          runs.flatten.filter (rep.counts t) := by
      induction runs with
      | nil => rfl
      | cons run runs ih =>
        obtain ⟨hrun, hruns⟩ := List.forall_mem_cons.mp h
        rw [List.flatten_cons, List.filter_append, filter_counts hrun, List.filter_cons, ← ih hruns]
        split <;> rfl
    have h := hfilter _ hchain
    rwa [hflat] at h
  case nonempty => exact fun h => List.nil_notMem_splitBy _ _ (hmem h)
  case unbroken =>
    intro run h
    have hinfix : run <:+: (ms.splitBy (rep.joins t)).flatten := List.infix_of_mem_flatten (hmem h)
    rwa [hflat] at hinfix
  case equal => exact fun run h => equal_of_isChain (hchain run (hmem h))
  case blank => exact fun run h => (hchain run (hmem h)).imp fun _ _ h => (joins_iff.mp h).2.2.2
  case maximal =>
    intro before a b after hms ha hb hequal hblank
    have h : rep.joins t a b = true := joins_iff.mpr ⟨ha, hb, hequal, hblank⟩
    obtain ⟨run, hrun, x, y, rfl⟩ := exists_infix_of_joins hends (hflat.trans hms) h
    refine ⟨_, List.mem_filter.mpr ⟨hrun, ?_⟩, x, y, rfl⟩
    have hfilter := filter_counts (hchain _ hrun)
    split at hfilter
    · assumption
    -- a stretch that was left out has no token that counts, but `a` does
    · have hkept : a ∈ (x ++ [a, b] ++ y).filter (rep.counts t) :=
        List.mem_filter.mpr ⟨by simp, ha⟩
      rw [hfilter] at hkept
      cases hkept

end Runs

section Pairs

theorem length_twoByTwo (ms : List Match) : (twoByTwo ms).length = ms.length / 2 := by
  induction ms using twoByTwo.induct with
  | case1 a b ms ih =>
    rw [twoByTwo, List.length_cons, ih, List.length_cons, List.length_cons]
    omega
  | case2 ms hshort =>
    match ms, hshort with
    | [], _ => simp [twoByTwo]
    | [a], _ => simp [twoByTwo]
    | a :: b :: ms, hshort => exact absurd rfl (hshort a b ms)

theorem infix_of_mem_twoByTwo {pair : Match × Match} (h : pair ∈ twoByTwo ms) :
    [pair.1, pair.2] <:+: ms := by
  induction ms using twoByTwo.induct with
  | case1 a b ms ih =>
    rcases List.mem_cons.mp h with rfl | h
    · exact ⟨[], ms, rfl⟩
    · obtain ⟨x, y, hxy⟩ := ih h
      exact ⟨a :: b :: x, y, by rw [← hxy]; rfl⟩
  | case2 ms hshort =>
    rw [twoByTwo] at h
    · cases h
    · exact hshort

theorem flatMap_twoByTwo_sublist (ms : List Match) :
    ((twoByTwo ms).flatMap fun pair => [pair.1, pair.2]).Sublist ms := by
  induction ms using twoByTwo.induct with
  | case1 a b ms ih => exact (ih.cons_cons b).cons_cons a
  | case2 ms hshort =>
    rw [twoByTwo]
    · exact List.nil_sublist ms
    · exact hshort

theorem flatMap_reported_sublist (rep : Repetition) (t : Text) (runs : List (List Match)) :
    ((runs.flatMap (rep.reported t)).flatMap fun pair => [pair.1, pair.2]).Sublist
      runs.flatten := by
  induction runs with
  | nil => exact List.nil_sublist _
  | cons run runs ih =>
    have hrun : ((rep.reported t run).flatMap fun pair => [pair.1, pair.2]).Sublist run := by
      unfold reported
      split
      · exact List.nil_sublist run
      · exact flatMap_twoByTwo_sublist run
    rw [List.flatMap_cons, List.flatMap_append, List.flatten_cons]
    exact hrun.append ih

/-- What a rule reports of the runs in a text. -/
structure PairsUp (rep : Repetition) (d : Definition) (re : Regex) (t : Text)
    (runs : List (List Match)) : Prop where
  areRuns : rep.AreRuns t (re.findAll t) runs
  alerts : rep.run d re t = (runs.flatMap (rep.reported t)).map fun (a, b) =>
    d.alert t a.start b.stop [b.text t]
  half : ∀ run ∈ runs, (∀ m ∈ run, rep.isExcepted t m = false) →
    (rep.reported t run).length = run.length / 2
  excepted : ∀ run ∈ runs, (∃ m ∈ run, rep.isExcepted t m = true) → rep.reported t run = []
  consecutive : ∀ run ∈ runs, ∀ pair ∈ rep.reported t run, [pair.1, pair.2] <:+: run
  forward : ∀ pair ∈ runs.flatMap (rep.reported t),
    pair.1.start ≤ pair.1.stop ∧ pair.1.stop ≤ pair.2.start ∧ pair.2.start ≤ pair.2.stop
  disjoint : (runs.flatMap (rep.reported t)).Pairwise fun x y => x.2.stop ≤ y.1.start

/-- Equal tokens that follow one another are reported two by two. -/
theorem pairsUp (rep : Repetition) (d : Definition) (re : Regex) (t : Text) :
    rep.PairsUp d re t (rep.runs t (re.findAll t)) := by
  have hruns := rep.areRuns t (re.findAll t)
  have hfound := (findAll_successive re t).pairwise
  -- every token of a pair is a finding of its own, in the order in which they were found
  have hsublist : (((rep.runs t (re.findAll t)).flatMap (rep.reported t)).flatMap
      fun pair => [pair.1, pair.2]).Sublist (re.findAll t) := by
    refine (flatMap_reported_sublist rep t _).trans ?_
    rw [hruns.flatten]
    exact List.filter_sublist
  obtain ⟨hwithin, hbetween⟩ := List.pairwise_flatMap.mp (hfound.sublist hsublist)
  constructor
  case areRuns => exact hruns
  case alerts =>
    unfold run
    rw [pairs_eq]
  case half =>
    intro run _ h
    have hany : ¬(run.any (rep.isExcepted t)) = true := by simpa using h
    rw [reported, if_neg hany]
    exact length_twoByTwo run
  case excepted => exact fun run _ h => if_pos (List.any_eq_true.mpr h)
  case consecutive =>
    intro run _ pair h
    unfold reported at h
    split at h
    · cases h
    · exact infix_of_mem_twoByTwo h
  case forward =>
    intro pair h
    have hmem (m : Match) (hm : m ∈ [pair.1, pair.2]) : m.start ≤ m.stop :=
      start_le_stop_of_mem_findAll (hsublist.subset (List.mem_flatMap.mpr ⟨pair, h, hm⟩))
    have hgap := List.pairwise_pair.mp (hwithin pair h)
    exact ⟨hmem _ (by simp), hgap, hmem _ (by simp)⟩
  case disjoint => exact hbetween.imp fun h => h _ (by simp) _ (by simp)

/-- A rule against words that are written twice, except for one. -/
def wordRule : Repetition where
  tokens := ["(?-i:\\S+)"]
  alpha := true
  ignoreCase := true
  exceptions := ["so"]

def wordDefinition : Definition where
  name := "House.Twice"
  checkType := "repetition"
  level := .warning
  scope := ⟨[]⟩
  message := "'%s' is repeated."
  kind := .repetition wordRule

def wordRegex : Regex :=
  ⟨"(?-i:\\S+)", .rep 1 none true (.one (.compl (.named .space))), 0⟩

def wordsTwice : Text := "no No NO x1 x1 so So end end"

/-- Of three equal tokens the last is left over. Numbers are passed over, and exceptions make no
pair. -/
theorem pairsUp_wordsTwice :
    Regex.compileIgnoringCase wordRule.pattern = .ok wordRegex ∧
      (wordRule.runs wordsTwice (wordRegex.findAll wordsTwice)).map
          (·.map fun m => m.text wordsTwice) =
        ([["no", "No", "NO"], ["so", "So"], ["end", "end"]] : List (List Text)) ∧
      wordRule.run wordDefinition wordRegex wordsTwice =
        [⟨"House.Twice", .warning, "'No' is repeated.", [], [], 1, ⟨1, 5⟩, "no No"⟩,
          ⟨"House.Twice", .warning, "'end' is repeated.", [], [], 1, ⟨22, 28⟩, "end end"⟩] ∧
      wordRule.PairsUp wordDefinition wordRegex wordsTwice
        (wordRule.runs wordsTwice (wordRegex.findAll wordsTwice)) :=
  ⟨by cbv, by cbv, by cbv, pairsUp _ _ _ _⟩

end Pairs

end Copydesk.Rule.Repetition
