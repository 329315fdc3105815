import Copydesk.Proofs.Position.Run
import Copydesk.Proofs.Text.Offset
import Mathlib

/-! Places that are asked of the locator. A check that searches gets no place twice, checks keep out
of each other's way, and the places found on one block come in order. -/

namespace Copydesk.Position.Locator

open Text

variable {l l' : Locator} {a : Alert} {p : Text → Bool} {check needle : Text} {start i j : Nat}

section Search

theorem isFree_iff : l.isFree check i = true ↔ (check, i) ∉ l.claimed := decide_eq_true_iff

theorem isFree_of_search? (h : l.search? check needle start = some i) :
    l.isFree check i = true := List.find?_some h

theorem candidates_pairwise (l : Locator) (needle : Text) (start : Nat) :
    (l.candidates needle start).Pairwise (· < ·) := by
  unfold candidates
  split
  · exact .nil
  · split
    · exact .nil
    · rename_i rest _
      refine .filter _ (.map _ (fun i j hij => ?_) (occurrences_pairwise needle rest))
      exact Nat.add_lt_add_left hij start

/-- The locator searches the same texts from the same place and has claimed at least as much. -/
structure Continues (l l' : Locator) : Prop where
  source : l'.source = l.source
  searchable : l'.searchable = l.searchable
  cursor : l'.cursor = l.cursor
  claimed : l.claimed ⊆ l'.claimed

theorem Continues.candidates_eq (h : Continues l l') (needle : Text) (start : Nat) :
    l'.candidates needle start = l.candidates needle start := by
  unfold candidates
  rw [h.source, h.searchable]

/-- A later search of one check for one text ends further on. -/
theorem Continues.lt_of_search? (h : Continues l l') (hi : l.search? check needle start = some i)
    (hclaimed : (check, i) ∈ l'.claimed) (hj : l'.search? check needle start = some j) :
    i < j := by
  rw [search?, h.candidates_eq] at hj
  obtain ⟨-, before, after, hcut, hbefore⟩ := List.find?_eq_some_iff_append.mp hi
  have hmem := List.mem_of_find?_eq_some hj
  have hfree : (check, j) ∉ l'.claimed := isFree_iff.mp (List.find?_some hj)
  have hsorted := candidates_pairwise l needle start
  rw [hcut] at hmem hsorted
  rcases List.mem_append.mp hmem with hmem | hmem
  -- what was passed over had been claimed before
  · have hnot := hbefore j hmem
    have hold : (check, j) ∈ l.claimed := by simpa [isFree] using hnot
    exact absurd (h.claimed hold) hfree
  · rcases List.mem_cons.mp hmem with rfl | hmem
    · exact absurd hclaimed hfree
    · exact (List.pairwise_cons.mp (List.pairwise_append.mp hsorted).2.1).1 j hmem

/-- Where no occurrence begins within another one, a search from further on passes over none. -/
theorem mem_candidates_of_isDisjointIn (hd : IsDisjointIn needle l.searchable)
    (hb : isBoundary l.searchable start = true) (h : i ∈ l.candidates needle 0) (hi : start ≤ i) :
    i ∈ l.candidates needle start := by
  obtain ⟨hsource, hsource', a, b, hab, rfl⟩ := exists_append_of_mem_candidates h
  have hn : needle ≠ [] := by
    rintro rfl
    cases h
  obtain ⟨m, hm⟩ := exists_slice? hb (isBoundary_iff.mpr ⟨a, _, hab, rfl⟩) hi
  obtain ⟨before, rest, hrest, rfl, hsize⟩ := slice?_eq_some_iff.mp hm
  rw [← size_append] at hsize
  obtain ⟨rfl, rfl⟩ := append_inj_of_size ((List.append_assoc before m rest).trans
    (hrest.trans hab.symm)) hsize
  have hcut : cut? l.searchable (size before) = some (before, m ++ (needle ++ b)) :=
    cut?_eq_some_iff.mpr ⟨hrest, rfl⟩
  have hmem : size m ∈ occurrences needle (m ++ (needle ++ b)) :=
    (IsDisjointIn.of_append (hrest ▸ hd)).mem_occurrences hn rfl
  unfold candidates
  rw [if_neg (by simpa using hn), hcut]
  refine List.mem_filter.mpr ⟨List.mem_map.mpr ⟨size m, hmem, (size_append before m).symm⟩, ?_⟩
  rw [hsource, hsource', Bool.and_self]

end Search

section Claimed

theorem claimed_subset_call (l : Locator) (c : Call) : l.claimed ⊆ (l.call c).claimed := by
  cases c with
  | enterBlock text =>
    rw [call]
    rcases enterBlock_cases l text with ⟨needle, i, -, h⟩ | h <;> rw [h] <;> exact fun _ => id
  | place a =>
    rw [call]
    rcases afterPlace_cases l a with ⟨i, h⟩ | h <;> rw [h]
    · exact List.subset_cons_self _ _
    · exact fun _ => id

theorem claimed_subset_run (l : Locator) (calls : List Call) :
    l.claimed ⊆ (l.run calls).claimed := by
  induction calls generalizing l with
  | nil => exact fun _ => id
  | cons c calls ih => exact fun x hx => ih (l.call c) (claimed_subset_call l c hx)

theorem continues_run_places (l : Locator) (as : List Alert) :
    Continues l (l.run (as.map .place)) where
  source := (texts_run l _).1
  searchable := (texts_run l _).2
  cursor := (run_places l as).1
  claimed := claimed_subset_run l _

theorem mem_claimed_afterPlace (h : l.range? a.check a.matched = some (i, j)) :
    (a.check, i) ∈ (l.afterPlace a).claimed := by
  rw [afterPlace_of_place (place_eq_ok_iff.mpr ⟨i, j, h, rfl, rfl⟩)]
  exact List.mem_cons_self

theorem isBoundary_call (h : isBoundary l.searchable l.cursor = true) (c : Call) :
    isBoundary (l.call c).searchable (l.call c).cursor = true := by
  cases c with
  | enterBlock text =>
    rw [call]
    rcases enterBlock_cases l text with ⟨needle, i, hi, heq⟩ | heq
    · rw [heq]
      obtain ⟨-, -, a, b, hab, ha⟩ := exists_append_of_mem_candidates hi
      exact isBoundary_iff.mpr ⟨a, needle ++ b, hab, ha⟩
    · rw [heq]
      exact h
  | place a =>
    rw [call]
    rcases afterPlace_cases l a with ⟨i, heq⟩ | heq <;> rw [heq] <;> exact h

theorem isBoundary_run (h : isBoundary l.searchable l.cursor = true) (calls : List Call) :
    isBoundary (l.run calls).searchable (l.run calls).cursor = true := by
  induction calls generalizing l with
  | nil => exact h
  | cons c calls ih => exact ih (isBoundary_call h c)

theorem only_afterPlace (hp : p a.check = true) :
    (l.only p).afterPlace a = (l.afterPlace a).only p := by
  unfold afterPlace
  cases h : l.place a with
  | ok r => rw [only_place hp h]
  | error e =>
    have hrange := (place_eq_error_iff.mp h).1
    rw [← only_range? l hp] at hrange
    rw [place_eq_error_iff.mpr ⟨hrange, rfl⟩]

theorem only_afterPlace_of_neg (hp : p a.check = false) :
    (l.afterPlace a).only p = l.only p := by
  unfold afterPlace
  cases h : l.place a with
  | ok r => exact only_of_place hp h
  | error e => rfl

end Claimed

/-- An alert and the locator that is asked for its place. -/
structure Request where
  locator : Locator
  alert : Alert

namespace Request

def start? (r : Request) : Option Nat :=
  (r.locator.range? r.alert.check r.alert.matched).map (·.1)

/-- Where the search for the match itself ends. -/
def hit? (r : Request) : Option Nat :=
  (r.locator.asWritten? r.alert.check r.alert.matched).map (·.1)

/-- Where it ends if it is only looked for from the cursor on. -/
def ahead? (r : Request) : Option Nat :=
  r.locator.search? r.alert.check r.alert.matched r.locator.cursor

def word? (r : Request) : Option Nat :=
  (words r.alert.matched).head?.bind fun w => r.locator.search? r.alert.check w r.locator.cursor

def IsFound (r : Request) (i : Nat) : Prop :=
  r.start? = some i ∧ (r.hit? = some i ∨ (r.hit? = none ∧ r.word? = some i))

def answer (r : Request) : Alert × Except LintError Alert :=
  (r.alert, (r.locator.place r.alert).map (·.1))

variable {r r' : Request}

theorem hit?_eq (r : Request) :
    r.hit? = r.ahead?.or (r.locator.search? r.alert.check r.alert.matched 0) := by
  rw [hit?, asWritten?, Option.map_map]
  exact Option.map_id'

theorem IsFound.isFree (h : r.IsFound i) : (r.alert.check, i) ∉ r.locator.claimed := by
  refine isFree_iff.mp ?_
  rcases h.2 with h | ⟨-, h⟩
  · rw [hit?_eq] at h
    rcases Option.or_eq_some_iff.mp h with h | ⟨-, h⟩ <;> exact isFree_of_search? h
  · obtain ⟨w, -, h⟩ := Option.bind_eq_some_iff.mp h
    exact isFree_of_search? h

theorem start?_of_hit? (h : r.hit? = some i) : r.start? = some i := by
  obtain ⟨⟨i', j⟩, hij, rfl⟩ := Option.map_eq_some_iff.mp h
  rw [start?, range?, hij, Option.some_or]
  rfl

theorem mem_claimed_of_start? (h : r.start? = some i) :
    (r.alert.check, i) ∈ (r.locator.afterPlace r.alert).claimed := by
  obtain ⟨⟨i', j⟩, hij, rfl⟩ := Option.map_eq_some_iff.mp h
  exact mem_claimed_afterPlace hij

/-- Without overlaps, an exact hit at or after the cursor is one from the cursor on. -/
theorem ahead?_of_hit? (hd : IsDisjointIn r.alert.matched r.locator.searchable)
    (hb : isBoundary r.locator.searchable r.locator.cursor = true) (h : r.hit? = some i)
    (hi : r.locator.cursor ≤ i) : r.ahead? = some i := by
  rw [hit?_eq] at h
  rcases Option.or_eq_some_iff.mp h with h | ⟨hnone, h⟩
  · exact h
  · have hmem := mem_candidates_of_isDisjointIn hd hb (mem_candidates_of_search? h) hi
    have hfree := List.find?_eq_none.mp hnone i hmem
    exact absurd (isFree_of_search? h) hfree

theorem answer_only (hp : p r.alert.check = true) :
    answer ⟨r.locator.only p, r.alert⟩ = r.answer := by
  unfold answer
  cases h : r.locator.place r.alert with
  | ok s => rw [only_place hp h]; rfl
  | error e =>
    obtain ⟨hrange, rfl⟩ := place_eq_error_iff.mp h
    rw [← only_range? _ hp] at hrange
    rw [place_eq_error_iff.mpr ⟨hrange, rfl⟩]
    rfl

end Request

/-- The alerts that a run of calls asks to be placed. -/
def requests (l : Locator) : List Call → List Request
  | [] => []
  | .enterBlock text :: calls => requests (l.enterBlock text) calls
  | .place a :: calls => ⟨l, a⟩ :: requests (l.afterPlace a) calls

/-- Blocks concern every check, an alert concerns its own. -/
def Call.concerns (check : Text) : Call → Bool
  | .enterBlock _ => true
  | .place a => a.check == check

theorem locator_of_mem_requests {r : Request} {calls : List Call} (h : r ∈ requests l calls) :
    ∃ n, r.locator = l.run (calls.take n) := by
  induction calls generalizing l with
  | nil => cases h
  | cons c calls ih =>
    cases c with
    | enterBlock text =>
      obtain ⟨n, hn⟩ := ih h
      exact ⟨n + 1, hn⟩
    | place a =>
      rcases List.mem_cons.mp h with rfl | h
      · exact ⟨0, rfl⟩
      · obtain ⟨n, hn⟩ := ih h
        exact ⟨n + 1, hn⟩

theorem continues_of_mem_requests {r : Request} {as : List Alert}
    (h : r ∈ requests l (as.map .place)) : Continues l r.locator := by
  obtain ⟨n, hn⟩ := locator_of_mem_requests h
  rw [hn, ← List.map_take]
  exact continues_run_places l _

theorem requests_fresh (l : Locator) (calls : List Call) :
    (requests l calls).Pairwise fun r r' => r.alert.check = r'.alert.check →
      ∀ i, r.start? = some i → ¬r'.IsFound i := by
  induction calls generalizing l with
  | nil => exact .nil
  | cons c calls ih =>
    cases c with
    | enterBlock text => exact ih _
    | place a =>
      refine .cons (fun r hr hcheck i hi hfound => hfound.isFree ?_) (ih _)
      obtain ⟨n, hn⟩ := locator_of_mem_requests hr
      rw [hn, ← hcheck]
      exact claimed_subset_run _ _ (Request.mem_claimed_of_start? hi)

theorem requests_only (l : Locator) (check : Text) (calls : List Call) :
    ((requests l calls).filter (·.alert.check == check)).map Request.answer =
      (requests (l.only (· == check)) (calls.filter (Call.concerns check))).map
        Request.answer := by
  induction calls generalizing l with
  | nil => rfl
  | cons c calls ih =>
    cases c with
    | enterBlock text =>
      rw [requests, ih, ← only_enterBlock]
      rfl
    | place a =>
      have hcall : Call.concerns check (.place a) = (a.check == check) := rfl
      simp only [requests, List.filter_cons, hcall]
      split
      · rename_i hcheck
        have hhead := Request.answer_only (p := (· == check)) (r := ⟨l, a⟩) hcheck
        have hafter := only_afterPlace (l := l) (p := (· == check)) hcheck
        rw [requests, List.map_cons, List.map_cons, ih, hafter, hhead]
      · rename_i hcheck
        have hafter := only_afterPlace_of_neg (l := l) (p := (· == check))
          (Bool.eq_false_iff.mpr hcheck)
        rw [ih, hafter]

/-- Alerts placed one after another get places further and further on, as far as their texts are
found from the cursor on. -/
theorem requests_ascending (l : Locator) (as : List Alert) :
    (requests l (as.map .place)).Pairwise fun r r' => r.alert.check = r'.alert.check →
      r.alert.matched = r'.alert.matched → ∀ i j, r.ahead? = some i → r'.ahead? = some j →
        l.cursor ≤ i ∧ i < j := by
  induction as generalizing l with
  | nil => exact .nil
  | cons a as ih =>
    have hcursor : (l.afterPlace a).cursor = l.cursor := (run_places l [a]).1
    refine .cons (fun r hr hcheck hmatched i j hi hj => ?_) (hcursor ▸ ih (l.afterPlace a))
    have hrest := continues_of_mem_requests hr
    have hall : Continues l r.locator := by
      obtain ⟨n, hn⟩ := locator_of_mem_requests hr
      rw [hn, ← List.map_take]
      exact continues_run_places l (a :: as.take n)
    refine ⟨le_of_mem_candidates (mem_candidates_of_search? hi), hall.lt_of_search? hi ?_ ?_⟩
    · have hstart : Request.start? ⟨l, a⟩ = some i :=
        Request.start?_of_hit? (by rw [Request.hit?_eq, hi, Option.some_or])
      exact hrest.claimed (Request.mem_claimed_of_start? hstart)
    · have hcheck : a.check = r.alert.check := hcheck
      have hmatched : a.matched = r.alert.matched := hmatched
      rw [Request.ahead?, ← hcheck, ← hmatched, hall.cursor] at hj
      exact hj

theorem ahead?_of_mem_requests {r : Request} {as : List Alert}
    (hr : r ∈ requests l (as.map .place)) (hb : isBoundary l.searchable l.cursor = true)
    (hd : IsDisjointIn r.alert.matched l.searchable) (h : r.hit? = some i)
    (hi : l.cursor ≤ i) : r.ahead? = some i := by
  obtain ⟨-, hsearch, hcursor, -⟩ := continues_of_mem_requests hr
  rw [← hsearch] at hb hd
  rw [← hcursor] at hb hi
  exact Request.ahead?_of_hit? hd hb h hi

/-- What holds of the places that a run of calls gives out. -/
structure KeepsApart (l : Locator) (calls : List Call) : Prop where
  /-- A place that is searched for is none that an earlier alert of the check was put on. -/
  fresh : (requests l calls).Pairwise fun r r' => r.alert.check = r'.alert.check →
    ∀ i, r.start? = some i → ¬r'.IsFound i
  /-- Each check gets the answers that it would get without the others. -/
  independent : ∀ check, ((requests l calls).filter (·.alert.check == check)).map Request.answer =
    (requests l (calls.filter (Call.concerns check))).map Request.answer
  /-- Until another block is entered, what one check finds of one text from the cursor on comes in
  order. -/
  ascending : ∀ as : List Alert, (requests (l.run calls) (as.map .place)).Pairwise fun r r' =>
    r.alert.check = r'.alert.check → r.alert.matched = r'.alert.matched →
      ∀ i j, r.ahead? = some i → r'.ahead? = some j → (l.run calls).cursor ≤ i ∧ i < j
  /-- So does every exact hit at or after the cursor of a text that does not overlap itself. -/
  disjoint : ∀ as : List Alert, (requests (l.run calls) (as.map .place)).Pairwise fun r r' =>
    r.alert.check = r'.alert.check → r.alert.matched = r'.alert.matched →
      IsDisjointIn r.alert.matched l.searchable →
        ∀ i j, r.hit? = some i → r'.hit? = some j →
          (l.run calls).cursor ≤ i → (l.run calls).cursor ≤ j → i < j

/-- Whatever a locator is asked, it keeps the places that it gives out apart. -/
theorem keepsApart (source searchable path : Text) (calls : List Call) :
    KeepsApart { source, searchable, path } calls where
  fresh := requests_fresh _ calls
  independent check := requests_only _ check calls
  ascending as := requests_ascending _ as
  disjoint as := by
    have hb : isBoundary searchable 0 = true := isBoundary_iff.mpr ⟨[], searchable, rfl, rfl⟩
    have hboundary := isBoundary_run (l := { source, searchable, path }) hb calls
    obtain ⟨-, hsearch⟩ := texts_run { source, searchable, path } calls
    refine (requests_ascending _ as).imp_of_mem ?_
    intro r r' hr hr' hascend hcheck hmatched hd i j hi hj hcursor hcursor'
    rw [← hsearch] at hd
    have hahead := ahead?_of_mem_requests hr hboundary hd hi hcursor
    have hahead' := ahead?_of_mem_requests hr' hboundary (hmatched ▸ hd) hj hcursor'
    exact (hascend hcheck hmatched i j hahead hahead').2

/-- A text in which occurrences of `haha` overlap, entered at the second of them. -/
def laughter : Locator :=
  run ⟨"hahahahaha!", "hahahahaha!", "a.txt", 0, false, []⟩ [.enterBlock "hahahaha!"]

def laugh : Alert := ⟨"House.Laugh", .warning, [], [], [], 1, ⟨1, 1⟩, "haha"⟩

/-- The last of four alerts is put between the first two: the search from the beginning counts other
occurrences than the one from the cursor. -/
theorem hit?_laughter : laughter.cursor = 2 ∧
    (requests laughter ([laugh, laugh, laugh, laugh].map .place)).map
        (fun r => (r.alert, r.hit?)) =
      [(laugh, some 2), (laugh, some 6), (laugh, some 0), (laugh, some 4)] ∧
    ¬(requests laughter ([laugh, laugh, laugh, laugh].map .place)).Pairwise fun r r' =>
      r.alert.check = r'.alert.check → r.alert.matched = r'.alert.matched →
        ∀ i j, r.hit? = some i → r'.hit? = some j → laughter.cursor ≤ i →
          laughter.cursor ≤ j → i < j := by
  have hcursor : laughter.cursor = 2 := by cbv
  have hhit : (requests laughter ([laugh, laugh, laugh, laugh].map .place)).map
      (fun r => (r.alert, r.hit?)) =
        [(laugh, some 2), (laugh, some 6), (laugh, some 0), (laugh, some 4)] := by cbv
  refine ⟨hcursor, hhit, fun h => ?_⟩
  have hpairs : ([(laugh, some 2), (laugh, some 6), (laugh, some 0), (laugh, some 4)] :
      List (Alert × Option Nat)).Pairwise fun x y => x.1.check = y.1.check →
        x.1.matched = y.1.matched → ∀ i j, x.2 = some i → y.2 = some j →
          laughter.cursor ≤ i → laughter.cursor ≤ j → i < j := by
    rw [← hhit]
    exact List.pairwise_map.mpr h
  rw [hcursor] at hpairs
  obtain ⟨-, hrest⟩ := List.pairwise_cons.mp hpairs
  have hlt := (List.pairwise_cons.mp hrest).1 (laugh, some 4) (by simp) rfl rfl 6 4 rfl rfl
    (by decide) (by decide)
  exact absurd hlt (by decide)

end Copydesk.Position.Locator
