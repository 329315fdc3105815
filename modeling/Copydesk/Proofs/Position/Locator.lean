import Copydesk.Position.Locator
import Copydesk.Proofs.Markup.Mask

/-! Calls of the locator for rendered markup. They move the cursor and claim places but leave both
texts alone. -/

namespace Copydesk.Position.Locator

open Markup Text

/-- What is asked of a locator. -/
inductive Call
  | enterBlock (text : Text)
  | place (a : Alert)

/-- A locator after an alert was placed. One without a place leaves it as it is. -/
def afterPlace (l : Locator) (a : Alert) : Locator :=
  match l.place a with
  | .ok (_, l') => l'
  | .error _ => l

def call (l : Locator) : Call → Locator
  | .enterBlock text => l.enterBlock text
  | .place a => l.afterPlace a

def run (l : Locator) (calls : List Call) : Locator := calls.foldl call l

variable {l l' : Locator} {a a' : Alert} {marks : List Char} {check needle : Text} {start i j : Nat}

theorem place_eq_ok_iff : l.place a = .ok (a', l') ↔
    ∃ i j, l.range? a.check a.matched = some (i, j) ∧ a' = a.moveTo (locate l.source i j) ∧
      l' = { l with claimed := (a.check, i) :: l.claimed } := by
  unfold place
  constructor
  · intro h
    cases hr : l.range? a.check a.matched with
    | none =>
      rw [hr] at h
      cases h
    | some r =>
      rw [hr] at h
      obtain ⟨rfl, rfl⟩ := Prod.mk.inj (Except.ok.inj h)
      exact ⟨r.1, r.2, rfl, rfl, rfl⟩
  · rintro ⟨i, j, hr, rfl, rfl⟩
    rw [hr]

theorem run_append (l : Locator) (calls calls' : List Call) :
    l.run (calls ++ calls') = (l.run calls).run calls' :=
  List.foldl_append

theorem afterPlace_of_place (h : l.place a = .ok (a', l')) : l.afterPlace a = l' := by
  rw [afterPlace, h]

theorem texts_call (l : Locator) (c : Call) :
    (l.call c).source = l.source ∧ (l.call c).searchable = l.searchable := by
  cases c with
  | enterBlock text =>
    rw [call, enterBlock]
    split <;> exact ⟨rfl, rfl⟩
  | place a =>
    rw [call, afterPlace]
    split
    · rename_i h
      obtain ⟨i, j, -, -, rfl⟩ := place_eq_ok_iff.mp h
      exact ⟨rfl, rfl⟩
    · exact ⟨rfl, rfl⟩

theorem texts_run (l : Locator) (calls : List Call) :
    (l.run calls).source = l.source ∧ (l.run calls).searchable = l.searchable := by
  induction calls generalizing l with
  | nil => exact ⟨rfl, rfl⟩
  | cons c calls ih =>
    obtain ⟨hs, hm⟩ := ih (l.call c)
    obtain ⟨hs', hm'⟩ := texts_call l c
    exact ⟨hs.trans hs', hm.trans hm'⟩

theorem exists_append_of_mem_candidates (h : i ∈ l.candidates needle start) :
    isBoundary l.source i = true ∧ isBoundary l.source (i + size needle) = true ∧
      ∃ a b, a ++ (needle ++ b) = l.searchable ∧ size a = i := by
  unfold candidates at h
  split at h
  · cases h
  · split at h
    · cases h
    · rename_i before rest hcut
      obtain ⟨hmem, hb⟩ := List.mem_filter.mp h
      obtain ⟨k, hk, rfl⟩ := List.mem_map.mp hmem
      obtain ⟨a, b, rfl, rfl⟩ := exists_append_of_mem_occurrences hk
      obtain ⟨hsearch, rfl⟩ := cut?_eq_some_iff.mp hcut
      obtain ⟨hi, hj⟩ := Bool.and_eq_true_iff.mp hb
      refine ⟨hi, hj, before ++ a, b, ?_, size_append before a⟩
      rw [List.append_assoc, hsearch]

theorem slice?_of_mem_candidates (hm : AreBytes marks) (hl : Masks marks l.source l.searchable)
    (h : i ∈ l.candidates needle start) (hn : ∀ c ∈ needle, c ∉ marks) :
    slice? l.source i (i + size needle) = some needle := by
  obtain ⟨hi, -, a, b, hsearch, rfl⟩ := exists_append_of_mem_candidates h
  rw [← hsearch] at hl
  exact hl.slice?_eq hm hi hn

theorem exists_mem_candidates_of_asWritten? (h : l.asWritten? check needle = some (i, j)) :
    j = i + size needle ∧ ∃ start, i ∈ l.candidates needle start := by
  obtain ⟨k, hk, hkr⟩ := Option.map_eq_some_iff.mp h
  obtain ⟨rfl, rfl⟩ := Prod.mk.inj hkr
  refine ⟨rfl, ?_⟩
  rcases Option.or_eq_some_iff.mp hk with hk | ⟨-, hk⟩
  · exact ⟨l.cursor, List.mem_of_find?_eq_some hk⟩
  · exact ⟨0, List.mem_of_find?_eq_some hk⟩

/-- The locator as some checks know it: without what the others claimed. -/
def only (p : Text → Bool) (l : Locator) : Locator :=
  { l with claimed := l.claimed.filter fun c => p c.1 }

section Only

variable {p : Text → Bool}

theorem only_isFree (l : Locator) (hp : p check = true) (i : Nat) :
    (l.only p).isFree check i = l.isFree check i := by
  simp only [isFree, only, List.mem_filter, hp, and_true]

theorem only_search? (l : Locator) (hp : p check = true) (needle : Text) (start : Nat) :
    (l.only p).search? check needle start = l.search? check needle start := by
  have hfree : (l.only p).isFree check = l.isFree check := funext (only_isFree l hp)
  rw [search?, search?, hfree]
  rfl

theorem only_range? (l : Locator) (hp : p check = true) (needle : Text) :
    (l.only p).range? check needle = l.range? check needle := by
  have hword (ws : List Text) : (l.only p).firstWord? check ws = l.firstWord? check ws := by
    simp only [firstWord?, only_search? l hp]
    rfl
  simp only [range?, asWritten?, guess?, only_search? l hp, hword]
  rfl

theorem only_enterBlock (l : Locator) (p : Text → Bool) (text : Text) :
    (l.only p).enterBlock text = (l.enterBlock text).only p := by
  have hcandidates : (l.only p).candidates = l.candidates := rfl
  have hcursor : (l.only p).cursor = l.cursor := rfl
  simp only [enterBlock, hcandidates, hcursor]
  split <;> rfl

/-- An alert of one of the checks is placed where it would be without the others. -/
theorem only_place (hp : p a.check = true) (h : l.place a = .ok (a', l')) :
    (l.only p).place a = .ok (a', l'.only p) := by
  obtain ⟨i, j, hr, rfl, rfl⟩ := place_eq_ok_iff.mp h
  refine place_eq_ok_iff.mpr ⟨i, j, ?_, rfl, ?_⟩
  · rw [only_range? l hp, hr]
  · have hclaimed : ((a.check, i) :: l.claimed).filter (fun c => p c.1) =
        (a.check, i) :: (l.only p).claimed := List.filter_cons_of_pos hp
    simp only [only, hclaimed]

theorem only_of_place (hp : p a.check = false) (h : l.place a = .ok (a', l')) :
    l'.only p = l.only p := by
  obtain ⟨i, j, -, -, rfl⟩ := place_eq_ok_iff.mp h
  have hclaimed : ((a.check, i) :: l.claimed).filter (fun c => p c.1) = (l.only p).claimed :=
    List.filter_cons_of_neg (by simp [hp])
  simp only [only, hclaimed]

end Only

end Copydesk.Position.Locator
