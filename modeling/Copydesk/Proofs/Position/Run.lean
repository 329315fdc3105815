import Copydesk.Proofs.Markup.Bytes
import Copydesk.Proofs.Position.Locator
import Copydesk.Proofs.Text.Split
import Mathlib.Data.List.TakeWhile

/-! Runs of the locator. Its cursor only moves on and always stands between characters of both
texts, and once a block is found every alert on it gets a place. -/

namespace Copydesk

open Text

/-- A byte range that cuts out a piece of one line. -/
def Text.OnOneLine (t : Text) (i j : Nat) : Prop := ∃ m, slice? t i j = some m ∧ '\n' ∉ m

namespace Text.OnOneLine

variable {t : Text} {i j k : Nat}

theorem trans (h : OnOneLine t i j) (h' : OnOneLine t j k) : OnOneLine t i k := by
  obtain ⟨m, hm, hn⟩ := h
  obtain ⟨m', hm', hn'⟩ := h'
  exact ⟨m ++ m', slice?_trans hm hm', fun h => (List.mem_append.mp h).elim hn hn'⟩

theorem isBoundary_right (h : OnOneLine t i j) : isBoundary t j = true :=
  (isBoundary_of_slice? h.choose_spec.1).2.1

theorem le (h : OnOneLine t i j) : i ≤ j := (isBoundary_of_slice? h.choose_spec.1).2.2

end Text.OnOneLine

namespace Markup.Masks

variable {marks : List Char} {t u : Text} {i j : Nat}

theorem isBoundary_copy (hm : AreBytes marks) (h : Masks marks t u)
    (hi : isBoundary t i = true) : isBoundary u i = true := by
  obtain ⟨a, b, rfl, rfl⟩ := isBoundary_iff.mp hi
  obtain ⟨x, y, rfl, hx, -⟩ := h.exists_of_append hm
  exact isBoundary_iff.mpr ⟨x, y, rfl, hx⟩

theorem newline_mem_copy (h : Masks marks t u) (ht : '\n' ∈ t) : '\n' ∈ u := by
  induction h with
  | nil => exact ht
  | keep c _ ih =>
    rcases List.mem_cons.mp ht with rfl | ht
    · exact List.mem_cons_self
    · exact List.mem_cons_of_mem c (ih ht)
  | hide c w hc _ _ _ ih =>
    rcases List.mem_cons.mp ht with rfl | ht
    · exact absurd rfl hc
    · exact List.mem_append_right w (ih ht)

theorem onOneLine (hm : AreBytes marks) (h : Masks marks t u) (hi : isBoundary t i = true)
    (hj : isBoundary t j = true) (hu : OnOneLine u i j) : OnOneLine t i j := by
  obtain ⟨m, hmid⟩ := exists_slice? hi hj hu.le
  obtain ⟨a, b, rfl, rfl, rfl⟩ := slice?_eq_some_iff.mp hmid
  -- the copy falls apart at the same two places, and its middle has the newlines of the text
  obtain ⟨x, y, rfl, hx, -, hy⟩ := h.exists_of_append hm
  obtain ⟨z, w, rfl, hz, hmz, -⟩ := hy.exists_of_append hm
  obtain ⟨m', hslice, hn⟩ := hu
  rw [← hx, ← hz, slice?_append] at hslice
  rw [← Option.some.inj hslice] at hn
  exact ⟨m, hmid, fun hmem => hn (hmz.newline_mem_copy hmem)⟩

end Markup.Masks

namespace Position.Locator

open Markup

variable {l : Locator} {a : Alert} {marks : List Char} {check needle : Text} {ws : List Text}
  {start i j stop : Nat}

/-- The locator searches a copy of its source, from a place between characters. -/
structure IsSound (marks : List Char) (l : Locator) : Prop where
  masks : Masks marks l.source l.searchable
  boundary : isBoundary l.source l.cursor = true

theorem le_of_mem_candidates (h : i ∈ l.candidates needle start) : start ≤ i := by
  unfold candidates at h
  split at h
  · cases h
  · split at h
    · cases h
    · obtain ⟨k, -, rfl⟩ := List.mem_map.mp (List.mem_filter.mp h).1
      exact Nat.le_add_right start k

theorem onOneLine_of_mem_candidates (hn : '\n' ∉ needle) (h : i ∈ l.candidates needle start) :
    OnOneLine l.searchable i (i + size needle) := by
  obtain ⟨-, -, a, b, hab, rfl⟩ := exists_append_of_mem_candidates h
  exact ⟨needle, slice?_eq_some_iff.mpr ⟨a, b, hab, rfl, rfl⟩, hn⟩

section EnterBlock

/-- A block is found at one of the places that were searched for, or it is not found and the cursor
stays. -/
theorem enterBlock_cases (l : Locator) (text : Text) :
    (∃ needle, ∃ i ∈ l.candidates needle l.cursor,
      l.enterBlock text = { l with cursor := i, anchored := true }) ∨
    l.enterBlock text = { l with anchored := false } := by
  unfold enterBlock
  simp only
  split
  · rename_i i hi
    rcases Option.or_eq_some_iff.mp hi with hi | ⟨-, hi⟩
    · exact .inl ⟨_, i, List.mem_of_head? hi, rfl⟩
    · exact .inl ⟨_, i, List.mem_of_head? hi, rfl⟩
  · exact .inr rfl

theorem afterPlace_cases (l : Locator) (a : Alert) :
    (∃ i, l.afterPlace a = { l with claimed := (a.check, i) :: l.claimed }) ∨
      l.afterPlace a = l := by
  unfold afterPlace
  split
  · rename_i h
    obtain ⟨i, j, -, -, rfl⟩ := place_eq_ok_iff.mp h
    exact .inl ⟨i, rfl⟩
  · exact .inr rfl

theorem cursor_le_call (l : Locator) (c : Call) : l.cursor ≤ (l.call c).cursor := by
  cases c with
  | enterBlock text =>
    rw [call]
    rcases enterBlock_cases l text with ⟨needle, i, hi, h⟩ | h
    · rw [h]
      exact le_of_mem_candidates hi
    · rw [h]
  | place a =>
    rw [call]
    rcases afterPlace_cases l a with ⟨i, h⟩ | h <;> rw [h]

theorem cursor_le_run (l : Locator) (calls : List Call) : l.cursor ≤ (l.run calls).cursor := by
  induction calls generalizing l with
  | nil => exact Nat.le_refl _
  | cons c calls ih => exact Nat.le_trans (cursor_le_call l c) (ih (l.call c))

theorem IsSound.call (h : l.IsSound marks) (c : Call) : (l.call c).IsSound marks := by
  cases c with
  | enterBlock text =>
    rw [Locator.call]
    rcases enterBlock_cases l text with ⟨needle, i, hi, heq⟩ | heq
    · rw [heq]
      exact ⟨h.masks, (exists_append_of_mem_candidates hi).1⟩
    · rw [heq]
      exact ⟨h.masks, h.boundary⟩
  | place a =>
    rw [Locator.call]
    rcases afterPlace_cases l a with ⟨i, heq⟩ | heq
    · rw [heq]
      exact ⟨h.masks, h.boundary⟩
    · rw [heq]
      exact h

theorem IsSound.run (h : l.IsSound marks) (calls : List Call) : (l.run calls).IsSound marks := by
  induction calls generalizing l with
  | nil => exact h
  | cons c calls ih => exact ih (h.call c)

/-- Only entering a block changes the cursor and whether the block is found. -/
theorem run_places (l : Locator) (as : List Alert) :
    (l.run (as.map .place)).cursor = l.cursor ∧ (l.run (as.map .place)).anchored = l.anchored := by
  induction as generalizing l with
  | nil => exact ⟨rfl, rfl⟩
  | cons a as ih =>
    obtain ⟨hcursor, hanchored⟩ := ih (l.afterPlace a)
    refine ⟨hcursor.trans ?_, hanchored.trans ?_⟩ <;>
      rcases afterPlace_cases l a with ⟨i, h⟩ | h <;> rw [h]

end EnterBlock

section Guess

theorem not_mem_newline_of_mem_words {w : Text} (h : w ∈ words needle) : '\n' ∉ w := by
  intro hn
  have hword := not_of_mem_splitWhere (List.mem_filter.mp h).1 hn
  exact absurd hword (by decide)

theorem mem_candidates_of_search? (h : l.search? check needle start = some i) :
    i ∈ l.candidates needle start := List.mem_of_find?_eq_some h

theorem onOneLine_pinned (h : isBoundary l.source l.cursor = true) :
    l.pinned.1 = l.cursor ∧ OnOneLine l.source l.pinned.1 l.pinned.2 := by
  obtain ⟨a, b, hab, ha⟩ := isBoundary_iff.mp h
  have hafter : after l.source l.cursor = b := by rw [← hab, ← ha, after_append]
  have hempty : OnOneLine l.source l.cursor l.cursor :=
    ⟨[], slice?_eq_some_iff.mpr ⟨a, b, hab, ha, rfl⟩, by simp⟩
  rw [pinned, hafter]
  cases b with
  | nil => exact ⟨rfl, hempty⟩
  | cons c b =>
    refine ⟨rfl, ?_⟩
    simp only [List.head?_cons]
    split
    · exact hempty
    · rename_i hc
      refine ⟨[c], slice?_eq_some_iff.mpr ⟨a, b, hab, ha, rfl⟩, ?_⟩
      simpa using Ne.symm hc

variable (hm : AreBytes marks) (hl : l.IsSound marks)

include hm hl

theorem firstWord?_spec (hws : ∀ w ∈ ws, '\n' ∉ w) (h : l.firstWord? check ws = some (i, stop)) :
    l.cursor ≤ i ∧ OnOneLine l.source i stop := by
  unfold firstWord? at h
  split at h
  · rename_i range hrange
    cases h
    obtain ⟨w, hw, hrange⟩ := Option.bind_eq_some_iff.mp hrange
    obtain ⟨k, hk, hrange⟩ := Option.map_eq_some_iff.mp hrange
    obtain ⟨rfl, rfl⟩ := Prod.mk.inj hrange
    have hmem := mem_candidates_of_search? hk
    obtain ⟨hi, hj, -⟩ := exists_append_of_mem_candidates hmem
    exact ⟨le_of_mem_candidates hmem, hl.masks.onOneLine hm hi hj
      (onOneLine_of_mem_candidates (hws w (List.mem_of_head? hw)) hmem)⟩
  · split at h
    · obtain ⟨hcursor, hline⟩ := onOneLine_pinned hl.boundary
      rw [Option.some.inj h] at hcursor hline
      exact ⟨Nat.le_of_eq hcursor.symm, hline⟩
    · cases h

/-- A guess is stretched within the line that its beginning ends on. -/
theorem onOneLine_of_lastWordEnd? {before rest : Text} {stop' : Nat}
    (hstop : isBoundary l.source stop = true)
    (hcut : cut? l.searchable stop = some (before, rest))
    (h : l.lastWordEnd? ws rest stop = some stop') : OnOneLine l.source stop stop' := by
  unfold lastWordEnd? at h
  split at h
  · cases h
  · simp only [Option.bind_eq_bind, Option.bind_eq_some_iff] at h
    obtain ⟨last, -, k, hk, h⟩ := h
    split at h
    · rename_i hboundary
      cases h
      refine hl.masks.onOneLine hm hstop hboundary ?_
      -- the last word is looked for in what is left of the line
      obtain ⟨x, y, hxy, rfl⟩ := exists_append_of_find? hk
      obtain ⟨hsearch, rfl⟩ := cut?_eq_some_iff.mp hcut
      have hline : '\n' ∉ rest.takeWhile (· != '\n') := fun hmem => by
        simpa using List.mem_takeWhile_imp hmem
      obtain ⟨more, hmore⟩ := List.takeWhile_prefix (· != '\n') (l := rest)
      rw [← hxy] at hline hmore
      refine ⟨x ++ last, slice?_eq_some_iff.mpr ⟨before, y ++ more, ?_, rfl,
        by rw [size_append, Nat.add_assoc]⟩, fun hmem => hline ?_⟩
      · rw [← hsearch, ← hmore]
        simp only [List.append_assoc]
      · rw [← List.append_assoc]
        exact List.mem_append_left y hmem
    · cases h

theorem guess?_spec (h : l.guess? check needle = some (i, j)) :
    l.cursor ≤ i ∧ OnOneLine l.source i j := by
  simp only [guess?, Option.bind_eq_bind, Option.bind_eq_some_iff, Prod.exists, Option.pure_def,
    Option.some.injEq, Prod.mk.injEq] at h
  obtain ⟨i', stop, hfirst, before, rest, hcut, rfl, hj⟩ := h
  obtain ⟨hcursor, hline⟩ :=
    firstWord?_spec hm hl (fun w hw => not_mem_newline_of_mem_words hw) hfirst
  refine ⟨hcursor, ?_⟩
  cases hlast : l.lastWordEnd? (words needle) rest stop with
  | none =>
    rw [hlast] at hj
    exact hj ▸ hline
  | some stop' =>
    rw [hlast] at hj
    have hstretch := onOneLine_of_lastWordEnd? hm hl hline.isBoundary_right hcut hlast
    exact hline.trans ((show stop' = j from hj) ▸ hstretch)

theorem exists_guess? (ha : l.anchored = true) (check needle : Text) :
    ∃ r, l.guess? check needle = some r := by
  obtain ⟨⟨i, stop⟩, hfirst⟩ : ∃ r, l.firstWord? check (words needle) = some r := by
    unfold firstWord?
    split
    · exact ⟨_, rfl⟩
    · exact ⟨_, if_pos ha⟩
  obtain ⟨-, hline⟩ := firstWord?_spec hm hl (fun w hw => not_mem_newline_of_mem_words hw) hfirst
  obtain ⟨⟨before, rest⟩, hcut⟩ :=
    Option.isSome_iff_exists.mp (hl.masks.isBoundary_copy hm hline.isBoundary_right)
  refine ⟨(i, (l.lastWordEnd? (words needle) rest stop).getD stop), ?_⟩
  simp only [guess?, hfirst, hcut, Option.bind_eq_bind, Option.bind_some, Option.pure_def]

end Guess

/-- A range that is reported begins and ends between characters of the source, in order. -/
theorem exists_slice?_of_range? (hm : AreBytes marks) (hl : l.IsSound marks)
    (h : l.range? check needle = some (i, j)) : ∃ m, slice? l.source i j = some m := by
  rcases Option.or_eq_some_iff.mp h with h | ⟨-, h⟩
  · obtain ⟨rfl, start, hmem⟩ := exists_mem_candidates_of_asWritten? h
    obtain ⟨hi, hj, -⟩ := exists_append_of_mem_candidates hmem
    exact exists_slice? hi hj (Nat.le_add_right i _)
  · obtain ⟨-, m, hslice, -⟩ := guess?_spec hm hl h
    exact ⟨m, hslice⟩

theorem exists_place (hm : AreBytes marks) (hl : l.IsSound marks) (ha : l.anchored = true)
    (a : Alert) : ∃ r, l.place a = .ok r := by
  obtain ⟨⟨i, j⟩, hr⟩ : ∃ r, l.range? a.check a.matched = some r := by
    cases hw : l.asWritten? a.check a.matched with
    | some r => exact ⟨r, by rw [range?, hw, Option.some_or]⟩
    | none =>
      obtain ⟨r, hr⟩ := exists_guess? hm hl ha a.check a.matched
      exact ⟨r, by rw [range?, hw, Option.none_or, hr]⟩
  exact ⟨_, place_eq_ok_iff.mpr ⟨i, j, hr, rfl, rfl⟩⟩

theorem place_eq_error_iff {e : LintError} : l.place a = .error e ↔
    l.range? a.check a.matched = none ∧ e = .notFound l.path a.matched := by
  unfold place
  cases l.range? a.check a.matched with
  | none =>
    exact ⟨fun h => ⟨rfl, (Except.error.inj h).symm⟩, fun h => congrArg Except.error h.2.symm⟩
  | some r => exact ⟨fun h => (by cases h), fun h => (by cases h.1)⟩

/-- What holds of a locator whatever was asked of it before. -/
structure IsSteady (l : Locator) : Prop where
  advances : ∀ calls, l.cursor ≤ (l.run calls).cursor
  /-- The cursor stands between characters of both texts. -/
  boundaries : isBoundary l.source l.cursor = true ∧ isBoundary l.searchable l.cursor = true
  /-- Once a block is found every alert gets a place, until another block is entered. -/
  places : ∀ text, (l.enterBlock text).anchored = true → ∀ (as : List Alert) (a : Alert),
    ∃ r, ((l.enterBlock text).run (as.map .place)).place a = .ok r
  /-- A guess goes no further back than the cursor and stays on one line. -/
  guesses : ∀ a a' l', l.asWritten? a.check a.matched = none → l.place a = .ok (a', l') → ∃ i j,
    l.guess? a.check a.matched = some (i, j) ∧ a' = a.moveTo (locate l.source i j) ∧
      l.cursor ≤ i ∧ OnOneLine l.source i j
  /-- Ranges that are reported cut a slice out of the source, and what follows the first word of a
  guess can be read in the copy. -/
  inBounds : ∀ check needle i j,
    (l.range? check needle = some (i, j) → ∃ m, slice? l.source i j = some m) ∧
      (l.firstWord? check (words needle) = some (i, j) → isBoundary l.searchable j = true)
  /-- An alert without a place leaves everything as it is. -/
  fails : ∀ a e, l.place a = .error e → e = .notFound l.path a.matched ∧ l.call (.place a) = l

theorem IsSound.isSteady (hm : AreBytes marks) (hl : l.IsSound marks) : l.IsSteady where
  advances := cursor_le_run l
  boundaries := ⟨hl.boundary, hl.masks.isBoundary_copy hm hl.boundary⟩
  places text ha as a := by
    have hrun := (hl.call (.enterBlock text)).run (as.map .place)
    exact exists_place hm hrun ((run_places (l.enterBlock text) as).2.trans ha) a
  guesses a a' l' hw h := by
    obtain ⟨i, j, hr, hplace, -⟩ := place_eq_ok_iff.mp h
    rw [range?, hw, Option.none_or] at hr
    obtain ⟨hcursor, hline⟩ := guess?_spec hm hl hr
    exact ⟨i, j, hr, hplace, hcursor, hline⟩
  inBounds check needle i j := by
    refine ⟨exists_slice?_of_range? hm hl, fun h => ?_⟩
    obtain ⟨-, hline⟩ :=
      firstWord?_spec hm hl (fun w hw => not_mem_newline_of_mem_words hw) h
    exact hl.masks.isBoundary_copy hm hline.isBoundary_right
  fails a e h := by
    refine ⟨(place_eq_error_iff.mp h).2, ?_⟩
    rw [Locator.call, afterPlace, h]

/-- Over any copy of the source that hides some of its bytes, a locator is steady after any
calls. -/
theorem isSteady_run {source searchable : Text} (h : CopiesBytes source searchable) (path : Text)
    (calls : List Call) : (run { source, searchable, path } calls).IsSteady := by
  have hsound : IsSound placeholders { source, searchable, path } :=
    ⟨masks_of_copiesBytes h, isBoundary_iff.mpr ⟨[], source, rfl, rfl⟩⟩
  exact (hsound.run calls).isSteady placeholders_areBytes

/-- Two tags with a character of two bytes are hidden, and the match is not there as it is
written. -/
theorem isSteady_hidden :
    CopiesBytes "<é>bad</é>\nword" "****bad*****\nword" ∧
      (run ⟨"<é>bad</é>\nword", "****bad*****\nword", "a.html", 0, false, []⟩
        [.enterBlock "bad",
          .place ⟨"House.Bad", .warning, [], [], [], 1, ⟨1, 1⟩, "bad word"⟩]).IsSteady := by
  have h : CopiesBytes "<é>bad</é>\nword" "****bad*****\nword" := by
    unfold CopiesBytes CopiesByte
    decide
  exact ⟨h, isSteady_run h "a.html" _⟩

end Position.Locator

end Copydesk
