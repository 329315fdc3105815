import Copydesk.Proofs.Markup.InfoString
import Copydesk.Proofs.Markup.Labels

/-! Which lines are inside a fenced block, before and after the pre-pass. The two agree as long as
every block is closed by the same line; a closing line loses its fence when the pre-pass takes what
follows the run, or the last tilde of a long run, for an info string. -/

namespace Copydesk.Markup

open Text

variable {f : Fence} {fence : Option Fence} {m : Char} {n : Nat} {l w t : Text} {ls ls' : List Text}

section Inside

/-- For each line, whether masking takes it for the inside of a fenced block. -/
def insideOf : Option Fence → List Text → List Bool
  | _, [] => []
  | fence, l :: ls => fence.any (fun f => !f.closedBy l) :: insideOf (maskLine fence l).2 ls

def insideLines (t : Text) : List Bool := insideOf none (linesInclusive t)

/-- A line as it is shown: hidden inside a block, elsewhere without the contents of its code spans
unless it is the fence itself. -/
def showLine (inside : Bool) (l : Text) : Text := if inside then blank l else (maskLine none l).1

theorem insideOf_none_cons (l : Text) (ls : List Text) :
    insideOf none (l :: ls) = false :: insideOf (openedBy? l) ls := by
  rw [insideOf, maskLine_none]
  rfl

theorem insideOf_some_cons (f : Fence) (l : Text) (ls : List Text) : insideOf (some f) (l :: ls) =
    (!f.closedBy l) :: insideOf (if f.closedBy l then none else some f) ls := by
  rw [insideOf]
  cases h : f.closedBy l with
  | true => rw [maskLine_of_closedBy h]; simp [h]
  | false => rw [maskLine_of_not_closedBy h]; simp [h]

theorem maskLines_eq (hfence : ∀ f, fence = some f → 3 ≤ f.length) (ls : List Text) :
    maskLines fence ls = (List.zipWith showLine (insideOf fence ls) ls).flatten := by
  induction ls generalizing fence with
  | nil => rfl
  | cons l ls ih =>
    rw [maskLines_cons]
    cases fence with
    | none =>
      rw [insideOf_none_cons, List.zipWith_cons_cons, List.flatten_cons, maskLine_none,
        ih fun f => length_of_openedBy?, showLine, maskLine_none]
      rfl
    | some f =>
      rw [insideOf_some_cons, List.zipWith_cons_cons, List.flatten_cons]
      cases h : f.closedBy l with
      | true =>
        have hopens := isSome_openedBy?_of_closedBy h (hfence f rfl)
        rw [maskLine_of_closedBy h, ih (by simp), showLine, maskLine_none, if_pos hopens]
        rfl
      | false =>
        rw [maskLine_of_not_closedBy h, ih hfence]
        rfl

theorem maskCode_eq (t : Text) :
    maskCode t = (List.zipWith showLine (insideLines t) (linesInclusive t)).flatten :=
  maskLines_eq (by simp) _

theorem insideOf_congr (h : ls.map fenceView = ls'.map fenceView) :
    insideOf fence ls = insideOf fence ls' := by
  induction ls generalizing fence ls' with
  | nil =>
    cases ls' with
    | nil => rfl
    | cons l ls' => cases h
  | cons l ls ih =>
    cases ls' with
    | nil => cases h
    | cons l' ls' =>
      obtain ⟨hview, hrest⟩ := List.cons.inj h
      cases fence with
      | none =>
        rw [insideOf_none_cons, insideOf_none_cons, openedBy?_congr hview, ih hrest]
      | some f =>
        rw [insideOf_some_cons, insideOf_some_cons, closedBy_congr hview, ih hrest]

end Inside

section Hidden

/-- The fence that a line opens after the pre-pass: a mark that it takes for an info string counts no
longer. -/
def Fence.shortenedBy (f : Fence) (l : Text) : Fence :=
  if (infoOf? l).bind List.head? = some f.mark then ⟨f.mark, f.length - 1⟩ else f

theorem leadingRun?_hideInfo (h : infoOf? l = some w) : ∃ m n, 3 ≤ n ∧
    leadingRun? (hideInfo l) = some (⟨m, n⟩, blank w) ∧ isBlank (blank w) = false ∧
      ∃ s, leadingRun? l = some (⟨m, if w.head? = some m then n + 1 else n⟩, s) := by
  obtain ⟨p, m, n, rfl, hp, hm, hn, hinfo, htail⟩ := exists_append_of_infoOf? h
  cases w with
  | nil => cases hinfo
  | cons c w =>
    obtain ⟨v, hblank⟩ := exists_blank_cons ((mem_infoStart c).mp hinfo).2 w
    have hstar : (blank (c :: w)).head? ≠ some m := by
      rw [hblank, List.head?_cons]
      rcases hm with rfl | rfl <;> decide
    refine ⟨m, n, hn, ?_, by rw [hblank]; rfl, ?_⟩
    · rw [← List.append_assoc] at h ⊢
      rw [hideInfo_append h, List.append_assoc]
      exact leadingRun?_append hp hm (by omega) hstar
    -- an info string that begins with the mark makes the run longer by one
    · by_cases hc : c = m
      · subst hc
        have hw : w.head? ≠ some c := by
          intro hhead
          have hnot := htail rfl
          rw [List.tail_cons, hasInfo, hhead] at hnot
          exact absurd (show infoStart.mem c = true from hinfo) (by simpa using hnot)
        have hrun : List.replicate n c ++ c :: w = List.replicate (n + 1) c ++ w := by
          rw [List.replicate_succ', List.append_assoc]
          rfl
        rw [hrun, if_pos (by rfl)]
        exact ⟨w, leadingRun?_append hp hm (by omega) hw⟩
      · have hhead : (c :: w).head? ≠ some m := by simpa using hc
        rw [if_neg hhead]
        exact ⟨_, leadingRun?_append hp hm (by omega) hhead⟩

theorem openedBy?_hideInfo (l : Text) :
    openedBy? (hideInfo l) = (openedBy? l).map fun f => f.shortenedBy l := by
  cases h : infoOf? l with
  | none =>
    have hkept : (fun f : Fence => f.shortenedBy l) = id := by
      funext f
      rw [Fence.shortenedBy, h, if_neg (by simp)]
      rfl
    rw [hideInfo_of_none h, hkept, Option.map_id, id]
  | some w =>
    obtain ⟨m, n, hn, hhidden, -, s, hread⟩ := leadingRun?_hideInfo h
    have hlength : 3 ≤ if w.head? = some m then n + 1 else n := by split <;> omega
    rw [openedBy?_of_leadingRun? hhidden, openedBy?_of_leadingRun? hread, if_pos hn,
      if_pos hlength, Option.map_some, Fence.shortenedBy, h, Option.bind_some]
    split_ifs <;> rfl

theorem closedBy_hideInfo (f : Fence) (l : Text) :
    f.closedBy (hideInfo l) = (f.closedBy l && (infoOf? l).isNone) := by
  cases h : infoOf? l with
  | none => rw [hideInfo_of_none h, Option.isNone_none, Bool.and_true]
  | some w =>
    obtain ⟨m, n, -, hhidden, hstar, -⟩ := leadingRun?_hideInfo h
    rw [Option.isNone_some, Bool.and_false, Bool.eq_false_iff]
    intro hclosed
    obtain ⟨k, s, hrun, -, hblank⟩ := closedBy_iff.mp hclosed
    rw [hhidden] at hrun
    obtain ⟨-, rfl⟩ := Prod.mk.inj (Option.some.inj hrun)
    rw [hstar] at hblank
    cases hblank

end Hidden

/-- Whether every block is closed by the same lines before and after the pre-pass. The two fences are
the open one and what the pre-pass has made of it. -/
def ReadsAlike : Option (Fence × Fence) → List Text → Prop
  | _, [] => True
  | none, l :: ls => ReadsAlike ((openedBy? l).map fun f => (f, f.shortenedBy l)) ls
  | some (f, f'), l :: ls => f.closedBy l = (f'.closedBy l && (infoOf? l).isNone) ∧
      ReadsAlike (if f.closedBy l then none else some (f, f')) ls

theorem insideOf_hideInfo_iff (fences : Option (Fence × Fence)) (ls : List Text) :
    insideOf (fences.map (·.2)) (ls.map hideInfo) = insideOf (fences.map (·.1)) ls ↔
      ReadsAlike fences ls := by
  induction ls generalizing fences with
  | nil => cases fences <;> simp [insideOf, ReadsAlike]
  | cons l ls ih =>
    cases fences with
    | none =>
      rw [Option.map_none, Option.map_none, List.map_cons, insideOf_none_cons, insideOf_none_cons,
        openedBy?_hideInfo, ReadsAlike, ← ih]
      cases openedBy? l <;> simp
    | some fences =>
      obtain ⟨f, f'⟩ := fences
      rw [Option.map_some, Option.map_some, List.map_cons, insideOf_some_cons, insideOf_some_cons,
        closedBy_hideInfo, ReadsAlike, List.cons.injEq, Bool.not_inj_iff, eq_comm,
        and_congr_right_iff]
      intro hsame
      rw [← hsame, ← ih]
      cases f.closedBy l <;> rfl

/-- Whether a line that opens a fence keeps its run, and one that closes a fence has nothing that the
pre-pass takes for an info string. -/
def KeepsRun : Option Fence → Text → Prop
  | none, l => ∀ f, openedBy? l = some f → f.shortenedBy l = f
  | some f, l => f.closedBy l = true → infoOf? l = none

theorem readsAlike_of_keepsRun
    (h : ∀ pre l post, ls = pre ++ l :: post → KeepsRun (fenceAfter fence pre) l) :
    ReadsAlike (fence.map fun f => (f, f)) ls := by
  induction ls generalizing fence with
  | nil => cases fence <;> trivial
  | cons l ls ih =>
    have hline : KeepsRun fence l := h [] l ls rfl
    have hnext : ReadsAlike ((maskLine fence l).2.map fun f => (f, f)) ls :=
      ih fun pre x post hsplit => h (l :: pre) x post (by rw [hsplit, List.cons_append])
    cases fence with
    | none =>
      rw [maskLine_none] at hnext
      rw [Option.map_none, ReadsAlike]
      cases hopens : openedBy? l with
      | none => rwa [hopens] at hnext
      | some f =>
        rw [hopens] at hnext
        rwa [Option.map_some, hline f hopens]
    | some f =>
      rw [Option.map_some, ReadsAlike]
      cases hcloses : f.closedBy l with
      | true =>
        rw [maskLine_of_closedBy hcloses] at hnext
        exact ⟨by rw [hline hcloses]; rfl, hnext⟩
      | false =>
        rw [maskLine_of_not_closedBy hcloses] at hnext
        exact ⟨rfl, hnext⟩

/-- What the pre-pass does to the fenced blocks of a text. -/
structure KeepsFences (t : Text) : Prop where
  inside_iff : insideLines (neutralizeMarkdown t) = insideLines t ↔
    ReadsAlike none (linesInclusive t)
  inside_eq : (∀ pre l post, linesInclusive t = pre ++ l :: post →
    KeepsRun (fenceAfter none pre) l) → insideLines (neutralizeMarkdown t) = insideLines t
  searchable_eq : insideLines (neutralizeMarkdown t) = insideLines t → searchable .markdown t =
    (List.zipWith showLine (insideLines t) (linesInclusive (neutralizeMarkdown t))).flatten

theorem insideLines_neutralizeMarkdown (t : Text) :
    insideLines (neutralizeMarkdown t) = insideOf none ((linesInclusive t).map hideInfo) := by
  rw [← linesInclusive_blankGroup_fenceInfo]
  exact insideOf_congr (fenceViews_neutralizeMarkdown t)

theorem keepsFences (t : Text) : KeepsFences t := by
  have hiff : insideLines (neutralizeMarkdown t) = insideLines t ↔
      ReadsAlike none (linesInclusive t) := by
    rw [insideLines_neutralizeMarkdown]
    exact insideOf_hideInfo_iff none (linesInclusive t)
  refine ⟨hiff, fun h => hiff.mpr (readsAlike_of_keepsRun h), fun h => ?_⟩
  rw [searchable, maskCode_eq, h]

/-- An info string and a link label are hidden, and the block ends where it did. -/
example : insideLines (neutralizeMarkdown "\x60\x60\x60rust\nx\n\x60\x60\x60\n[a][b]\n".toList) =
    [false, true, false, false] := by decide +kernel

/-- A closing line with a blank after its run. -/
def trailingBlank : Text := "\x60\x60\x60\nx\n\x60\x60\x60 \nprose\n".toList

/-- The blank is taken for an info string, so the block goes on and hides the prose after it. -/
theorem searchable_trailingBlank :
    insideLines trailingBlank = [false, true, false, false] ∧
    insideLines (neutralizeMarkdown trailingBlank) = [false, true, true, true] ∧
    searchable .markdown trailingBlank = "\x60\x60\x60\n*\n****\n*****\n".toList := by
  decide +kernel

end Copydesk.Markup
