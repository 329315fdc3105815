import Copydesk.Proofs.Markup.Neutralize
import Copydesk.Proofs.Text.Line

/-! Fenced blocks line by line. The lines of a text are masked one after another, each with the
fence that is open before it, and of a line only the run that it begins with is read for that. -/

namespace Copydesk.Markup

open Text

/-- What may stand before the run of a fence. -/
def isMargin (c : Char) : Bool := c == ' ' || c == '\t' || c == '>'

def IsMark (c : Char) : Prop := c = '\x60' ∨ c = '~'

theorem IsMark.not_isMargin {c : Char} (h : IsMark c) : isMargin c = false := by
  rcases h with rfl | rfl <;> rfl

variable {f : Fence} {m c : Char} {n : Nat} {l l' p s t : Text} {ls : List Text}

section LeadingRun

theorem takeWhile_replicate_append (n : Nat) (hs : s.head? ≠ some m) :
    (List.replicate n m ++ s).takeWhile (· == m) = List.replicate n m := by
  have hrest : s.takeWhile (· == m) = [] := by
    cases s with
    | nil => rfl
    | cons c s => exact List.takeWhile_cons_of_neg (by simpa using hs)
  rw [List.takeWhile_append_of_pos (by simp), hrest, List.append_nil]

theorem exists_replicate_append (m : Char) (y : Text) :
    ∃ n r, 0 < n ∧ List.replicate n m ++ r = m :: y ∧ r.head? ≠ some m := by
  have hrun := List.takeWhile_append_dropWhile (p := (· == m)) (l := m :: y)
  rw [run_eq_replicate] at hrun
  refine ⟨_, _, by simp, hrun, fun hhead => ?_⟩
  have hnot := List.head?_dropWhile_not (· == m) (m :: y)
  rw [hhead] at hnot
  simp at hnot

theorem exists_margin_append (l : Text) : (∀ c ∈ l, isMargin c = true) ∨
    ∃ p c y, p ++ c :: y = l ∧ (∀ c ∈ p, isMargin c = true) ∧ isMargin c = false := by
  have hsplit := List.takeWhile_append_dropWhile (p := isMargin) (l := l)
  cases hd : l.dropWhile isMargin with
  | nil =>
    rw [hd, List.append_nil] at hsplit
    exact .inl fun c hc => List.mem_takeWhile_imp (hsplit.symm ▸ hc)
  | cons c y =>
    have hc := List.head?_dropWhile_not isMargin l
    rw [hd] at hsplit hc
    exact .inr ⟨_, c, y, hsplit, fun d hd => List.mem_takeWhile_imp hd, by simpa using hc⟩

theorem leadingRun?_of_margin (hl : ∀ c ∈ l, isMargin c = true) : leadingRun? l = none := by
  have hdrop : l.dropWhile isMargin = [] := List.dropWhile_eq_nil_iff.mpr hl
  unfold leadingRun?
  split
  · rfl
  · rename_i hcons
    exact absurd (hdrop.symm.trans hcons).symm (List.cons_ne_nil _ _)

theorem leadingRun?_append (hp : ∀ c ∈ p, isMargin c = true) (hm : IsMark m) (hn : 0 < n)
    (hs : s.head? ≠ some m) :
    leadingRun? (p ++ (List.replicate n m ++ s)) = some (⟨m, n⟩, s) := by
  obtain ⟨k, rfl⟩ := Nat.exists_eq_add_one.mpr hn
  have hdrop : (p ++ (List.replicate (k + 1) m ++ s)).dropWhile isMargin
      = List.replicate (k + 1) m ++ s := by
    rw [List.dropWhile_append_of_pos hp, List.replicate_succ, List.cons_append,
      List.dropWhile_cons_of_neg (by simp [hm.not_isMargin])]
  unfold leadingRun?
  split
  · rename_i hnil
    exact absurd (hdrop.symm.trans hnil) (List.cons_ne_nil _ _)
  · rename_i c t hcons
    have hrun : List.replicate (k + 1) m ++ s = c :: t := hdrop.symm.trans hcons
    obtain rfl : m = c := (List.cons.inj hrun).1
    rw [if_pos (show m = '\x60' ∨ m = '~' from hm), ← hrun, takeWhile_replicate_append (k + 1) hs]
    simp only [List.length_replicate, List.drop_left' List.length_replicate]

theorem leadingRun?_of_not_mark (hp : ∀ c ∈ p, isMargin c = true) (hc : isMargin c = false)
    (hmark : ¬IsMark c) : leadingRun? (p ++ c :: s) = none := by
  have hdrop : (p ++ c :: s).dropWhile isMargin = c :: s := by
    rw [List.dropWhile_append_of_pos hp, List.dropWhile_cons_of_neg (by simp [hc])]
  unfold leadingRun?
  split
  · rfl
  · rename_i d t hcons
    obtain ⟨rfl, rfl⟩ := List.cons.inj (hdrop.symm.trans hcons)
    exact if_neg hmark

theorem exists_append_of_leadingRun? (h : leadingRun? l = some (⟨m, n⟩, s)) :
    ∃ p, p ++ (List.replicate n m ++ s) = l ∧ (∀ c ∈ p, isMargin c = true) ∧ IsMark m ∧
      0 < n ∧ s.head? ≠ some m := by
  rcases exists_margin_append l with hl | ⟨p, c, y, rfl, hp, hc⟩
  · rw [leadingRun?_of_margin hl] at h
    cases h
  · by_cases hmark : IsMark c
    · obtain ⟨k, r, hk, hrun, hr⟩ := exists_replicate_append c y
      rw [← hrun, leadingRun?_append hp hmark hk hr] at h
      cases h
      exact ⟨p, by rw [hrun], hp, hmark, hk, hr⟩
    · rw [leadingRun?_of_not_mark hp hc hmark] at h
      cases h

theorem leadingRun?_append_end (hs : firstLine s = []) (l : Text) :
    leadingRun? (l ++ s) = (leadingRun? l).map fun (run, rest) => (run, rest ++ s) := by
  cases s with
  | nil =>
    rw [List.append_nil]
    cases leadingRun? l with
    | none => rfl
    | some o => simp
  | cons c s =>
    have hc := eq_newline_of_firstLine hs
    rcases exists_margin_append l with hl | ⟨p, d, y, rfl, hp, hd⟩
    · rw [leadingRun?_of_margin hl, leadingRun?_of_not_mark hl (hc ▸ rfl) (by simp [IsMark, hc])]
      rfl
    · by_cases hmark : IsMark d
      · obtain ⟨n, r, hn, hrun, hr⟩ := exists_replicate_append d y
        have hrs : (r ++ c :: s).head? ≠ some d := by
          cases r with
          | nil =>
            intro h
            obtain rfl := Option.some.inj h
            rcases hmark with rfl | rfl <;> cases hc
          | cons e r => exact hr
        rw [← hrun, leadingRun?_append hp hmark hn hr, List.append_assoc, List.append_assoc,
          leadingRun?_append hp hmark hn hrs]
        rfl
      · rw [leadingRun?_of_not_mark hp hd hmark, List.append_assoc, List.cons_append,
          leadingRun?_of_not_mark hp hd hmark]
        rfl

end LeadingRun

section View

/-- What masking reads of a line: the run that it begins with, and whether only blanks follow. -/
def fenceView (l : Text) : Option (Fence × Bool) :=
  (leadingRun? l).map fun (run, rest) => (run, isBlank rest)

theorem openedBy?_eq (l : Text) : openedBy? l =
    (fenceView l).bind fun (run, _) => if 3 ≤ run.length then some run else none := by
  rw [openedBy?, fenceView, Option.bind_map]
  rfl

theorem closedBy_eq (f : Fence) (l : Text) : f.closedBy l = (fenceView l).any fun (run, blank) =>
    run.mark == f.mark && f.length ≤ run.length && blank := by
  rw [Fence.closedBy, fenceView]
  cases leadingRun? l <;> rfl

theorem openedBy?_congr (h : fenceView l = fenceView l') : openedBy? l = openedBy? l' := by
  rw [openedBy?_eq, openedBy?_eq, h]

theorem closedBy_congr (h : fenceView l = fenceView l') (f : Fence) :
    f.closedBy l = f.closedBy l' := by
  rw [closedBy_eq, closedBy_eq, h]

theorem closedBy_iff : f.closedBy l = true ↔ ∃ n s, leadingRun? l = some (⟨f.mark, n⟩, s) ∧
    f.length ≤ n ∧ isBlank s = true := by
  simp only [closedBy_eq, fenceView, Option.any_map, Option.any_eq_true, Bool.and_eq_true,
    beq_iff_eq, decide_eq_true_eq]
  constructor
  · rintro ⟨⟨⟨m, n⟩, s⟩, hrun, ⟨rfl, hn⟩, hs⟩
    exact ⟨n, s, hrun, hn, hs⟩
  · rintro ⟨n, s, hrun, hn, hs⟩
    exact ⟨_, hrun, ⟨rfl, hn⟩, hs⟩

/-- After a character that belongs to no fence, a line may go on in any way. -/
theorem fenceView_append (hc : c ∈ p) (hmargin : isMargin c = false) (hmark : ¬IsMark c)
    (hspace : isSpace c = false) (s : Text) : fenceView (p ++ s) = fenceView p := by
  rcases exists_margin_append p with hp | ⟨p, d, y, rfl, hp, hd⟩
  · rw [hp c hc] at hmargin
    cases hmargin
  · by_cases hfence : IsMark d
    · obtain ⟨n, r, hn, hrun, hhead⟩ := exists_replicate_append d y
      have hcr : c ∈ r := by
        rw [← hrun, List.mem_append, List.mem_append] at hc
        rcases hc with hcp | hcd | hcr
        · rw [hp c hcp] at hmargin
          cases hmargin
        · exact absurd ((List.mem_replicate.mp hcd).2 ▸ hfence) hmark
        · exact hcr
      have hheads : (r ++ s).head? ≠ some d := by
        cases r with
        | nil => cases hcr
        | cons e r => exact hhead
      have hnot (s : Text) : isBlank (r ++ s) = false := by
        rw [isBlank, List.all_append, List.all_eq_false.mpr ⟨c, hcr, by simp [hspace]⟩,
          Bool.false_and]
      have hr := hnot []
      rw [List.append_nil] at hr
      rw [← hrun, fenceView, fenceView, leadingRun?_append hp hfence hn hhead, List.append_assoc,
        List.append_assoc, leadingRun?_append hp hfence hn hheads]
      simp only [Option.map_some, hnot s, hr]
    · rw [fenceView, fenceView, leadingRun?_of_not_mark hp hd hfence, List.append_assoc,
        List.cons_append, leadingRun?_of_not_mark hp hd hfence]

end View

theorem blank_append (s t : Text) : blank (s ++ t) = blank s ++ blank t := List.flatMap_append

theorem eq_of_mem_blank (h : c ∈ blank t) : c = '*' ∨ c = '\n' ∧ '\n' ∈ t := by
  obtain ⟨d, hd, hc⟩ := List.mem_flatMap.mp h
  unfold blankChar at hc
  split at hc
  · rename_i hnewline
    exact .inr ⟨List.mem_singleton.mp hc, hnewline ▸ hd⟩
  · exact .inl (List.mem_replicate.mp hc).2

theorem exists_blank_cons (hc : c ≠ '\n') (t : Text) : ∃ s, blank (c :: t) = '*' :: s := by
  obtain ⟨k, hk⟩ := Nat.exists_eq_add_one.mpr (Char.utf8Size_pos c)
  refine ⟨List.replicate k '*' ++ blank t, ?_⟩
  rw [blank, List.flatMap_cons, blankChar, if_neg hc, hk, List.replicate_succ]
  rfl

theorem blank_ne_nil (h : t ≠ []) : blank t ≠ [] := by
  intro hnil
  have hsize := size_blank t
  rw [hnil] at hsize
  exact h (size_eq_zero hsize.symm)

theorem newline_not_mem_blank (h : '\n' ∉ t) : '\n' ∉ blank t := by
  intro hm
  rcases eq_of_mem_blank hm with hc | ⟨-, hc⟩
  · cases hc
  · exact h hc

/-- The fence that is open after some lines. -/
def fenceAfter (fence : Option Fence) (ls : List Text) : Option Fence :=
  ls.foldl (fun fence l => (maskLine fence l).2) fence

theorem maskLines_cons (fence : Option Fence) (l : Text) (ls : List Text) :
    maskLines fence (l :: ls) = (maskLine fence l).1 ++ maskLines (maskLine fence l).2 ls := rfl

theorem maskLines_append (fence : Option Fence) (ls ls' : List Text) :
    maskLines fence (ls ++ ls') = maskLines fence ls ++ maskLines (fenceAfter fence ls) ls' := by
  induction ls generalizing fence with
  | nil => rfl
  | cons l ls ih =>
    rw [List.cons_append, maskLines_cons, maskLines_cons, ih, List.append_assoc]
    rfl

theorem maskLine_of_closedBy (h : f.closedBy l = true) : maskLine (some f) l = (l, none) := by
  rw [maskLine, if_pos h]

theorem maskLine_of_not_closedBy (h : f.closedBy l = false) :
    maskLine (some f) l = (blank l, some f) := by
  rw [maskLine, if_neg (by simp [h])]

theorem maskLine_none (l : Text) :
    maskLine none l = (if (openedBy? l).isSome then l else maskInlineCode l, openedBy? l) := by
  rw [maskLine]
  cases openedBy? l <;> rfl

theorem openedBy?_of_leadingRun? (h : leadingRun? l = some (f, s)) :
    openedBy? l = if 3 ≤ f.length then some f else none := by
  rw [openedBy?, h]
  rfl

theorem length_of_openedBy? (h : openedBy? l = some f) : 3 ≤ f.length := by
  obtain ⟨⟨run, rest⟩, -, hrun⟩ := Option.bind_eq_some_iff.mp h
  obtain ⟨hlength, hf⟩ := Option.ite_none_right_eq_some.mp hrun
  exact Option.some.inj hf ▸ hlength

theorem isSome_openedBy?_of_closedBy (h : f.closedBy l = true) (hf : 3 ≤ f.length) :
    (openedBy? l).isSome = true := by
  obtain ⟨n, s, hrun, hn, -⟩ := closedBy_iff.mp h
  rw [openedBy?_of_leadingRun? hrun, if_pos (hf.trans hn)]
  rfl

/-- Up to the line that closes it, a fenced block is hidden. -/
theorem maskLines_of_not_closedBy (h : ∀ l ∈ ls, f.closedBy l = false) :
    maskLines (some f) ls = blank ls.flatten ∧ fenceAfter (some f) ls = some f := by
  induction ls with
  | nil => exact ⟨rfl, rfl⟩
  | cons l ls ih =>
    obtain ⟨hmask, hafter⟩ := ih fun x hx => h x (List.mem_cons_of_mem l hx)
    have hl := maskLine_of_not_closedBy (h l List.mem_cons_self)
    rw [maskLines_cons, hl, List.flatten_cons, blank_append, ← hmask]
    exact ⟨rfl, by rw [fenceAfter, List.foldl_cons, hl]; exact hafter⟩

theorem maskLines_of_closedBy {ls' : List Text} (h : ∀ l ∈ ls, f.closedBy l = false)
    (hl : f.closedBy l = true) :
    maskLines (some f) (ls ++ l :: ls') = blank ls.flatten ++ (l ++ maskLines none ls') := by
  obtain ⟨hmask, hafter⟩ := maskLines_of_not_closedBy h
  rw [maskLines_append, hmask, hafter, maskLines_cons, maskLine_of_closedBy hl]

theorem blank_ne_of_closedBy (h : f.closedBy l = true) : blank l ≠ l := by
  intro hl
  obtain ⟨n, s, hrun, -, -⟩ := closedBy_iff.mp h
  obtain ⟨p, rfl, -, hmark, hn, -⟩ := exists_append_of_leadingRun? hrun
  have hmem : f.mark ∈ p ++ (List.replicate n f.mark ++ s) := by
    have hrep : f.mark ∈ List.replicate n f.mark := List.mem_replicate.mpr ⟨hn.ne', rfl⟩
    exact List.mem_append_right p (List.mem_append_left s hrep)
  rw [← hl] at hmem
  rcases eq_of_mem_blank hmem with h | ⟨h, -⟩ <;> rw [h] at hmark <;> simp [IsMark] at hmark

end Copydesk.Markup
