import Copydesk.Proofs.Markup.CodeSpans

/-! What each line does in the fenced blocks of a text whose lines have no margin. Three backticks
open a block whatever comes after them. A line on which more backticks come after them only begins
with a code span; it opens a block all the same, and the lines behind it are read the other way
round. -/

namespace Copydesk.Markup

open Text

variable {f : Fence} {fence : Option Fence} {info : Text → Bool} {m : Char} {n : Nat}
  {l s t : Text} {ls : List Text}

section Marks

def marks (m : Char) (l : Text) : Nat := (l.takeWhile (· == m)).length

theorem marks_eq_zero (h : l.head? ≠ some m) : marks m l = 0 := by
  cases l with
  | nil => rfl
  | cons c l =>
    rw [marks, List.takeWhile_cons_of_neg (by simpa using h)]
    rfl

theorem marks_replicate_append (n : Nat) (hs : s.head? ≠ some m) :
    marks m (List.replicate n m ++ s) = n := by
  rw [marks, takeWhile_replicate_append n hs, List.length_replicate]

theorem dropWhile_replicate_append (n : Nat) (hs : s.head? ≠ some m) :
    (List.replicate n m ++ s).dropWhile (· == m) = s := by
  have hsplit := List.takeWhile_append_dropWhile (p := (· == m)) (l := List.replicate n m ++ s)
  rw [takeWhile_replicate_append n hs] at hsplit
  exact List.append_cancel_left hsplit

theorem leadingRun?_cases (h : l.head?.any isMargin = false) :
    (∃ m n s, IsMark m ∧ 0 < n ∧ List.replicate n m ++ s = l ∧ s.head? ≠ some m ∧
      leadingRun? l = some (⟨m, n⟩, s)) ∨
    leadingRun? l = none ∧ l.head? ≠ some '\x60' ∧ l.head? ≠ some '~' := by
  cases l with
  | nil => exact .inr ⟨leadingRun?_of_margin (by simp), by simp, by simp⟩
  | cons c l =>
    by_cases hmark : IsMark c
    · obtain ⟨n, s, hn, hrun, hs⟩ := exists_replicate_append c l
      refine .inl ⟨c, n, s, hmark, hn, hrun, hs, ?_⟩
      rw [← hrun]
      exact leadingRun?_append (p := []) (by simp) hmark hn hs
    · refine .inr ⟨leadingRun?_of_not_mark (p := []) (by simp) h hmark, ?_, ?_⟩
      · exact fun hc => hmark (.inl (Option.some.inj hc))
      · exact fun hc => hmark (.inr (Option.some.inj hc))

end Marks

section Roles

/-- What a line does in the fenced blocks of its text. -/
inductive Role where
  | opening
  | interior
  | closing
  | outside
  deriving DecidableEq, Repr

/-- The fence that a line opens outside every block: three tildes or more, or three backticks or
more with something after them that may be an info string. -/
def opensFence? (info : Text → Bool) (l : Text) : Option Fence :=
  if 3 ≤ marks '\x60' l ∧ info (l.dropWhile (· == '\x60')) = true then some ⟨'\x60', marks '\x60' l⟩
  else if 3 ≤ marks '~' l then some ⟨'~', marks '~' l⟩
  else none

/-- Whether a line closes the fence: at least as many of its mark, and only blanks after them. -/
def endsFence (f : Fence) (l : Text) : Bool :=
  f.length ≤ marks f.mark l && isBlank (l.dropWhile (· == f.mark))

def roles (info : Text → Bool) : Option Fence → List Text → List Role
  | _, [] => []
  | some f, l :: ls => if endsFence f l then .closing :: roles info none ls
    else .interior :: roles info (some f) ls
  | none, l :: ls => match opensFence? info l with
    | some f => .opening :: roles info (some f) ls
    | none => .outside :: roles info none ls

/-- The roles of the lines of a text, of which the first is outside every block. -/
def rolesOf (info : Text → Bool) (t : Text) : List Role := roles info none (linesInclusive t)

/-- Everything is taken for an info string. -/
def anyInfo : Text → Bool := fun _ => true

/-- An info string has no backtick. -/
def noBacktick (s : Text) : Bool := s.all (· != '\x60')

/-- The line as it is shown: hidden inside a block, outside without the contents of its code
spans. -/
def Role.shown : Role → Text → Text
  | .interior, l => blank l
  | .outside, l => maskInlineCode l
  | _, l => l

theorem opensFence?_anyInfo (h : l.head?.any isMargin = false) :
    opensFence? anyInfo l = openedBy? l := by
  rcases leadingRun?_cases h with ⟨m, n, s, hmark, hn, rfl, hs, hrun⟩ | ⟨hrun, htick, htilde⟩
  · have hmarks := marks_replicate_append n hs
    have hhead := head?_replicate_append hn m s
    rw [openedBy?_of_leadingRun? hrun, opensFence?]
    rcases hmark with rfl | rfl
    · have hother : marks '~' (List.replicate n '\x60' ++ s) = 0 :=
        marks_eq_zero (by rw [hhead]; decide)
      simp [hmarks, hother, anyInfo]
    · have hother : marks '\x60' (List.replicate n '~' ++ s) = 0 :=
        marks_eq_zero (by rw [hhead]; decide)
      simp [hmarks, hother]
  · rw [openedBy?, hrun, opensFence?, marks_eq_zero htick, marks_eq_zero htilde]
    rfl

def Fence.IsOpen (f : Fence) : Prop := IsMark f.mark ∧ 3 ≤ f.length

theorem isOpen_of_opensFence? (h : opensFence? info l = some f) : f.IsOpen := by
  unfold opensFence? at h
  split at h
  · rename_i hopens
    exact Option.some.inj h ▸ ⟨.inl rfl, hopens.1⟩
  · obtain ⟨hlength, hf⟩ := Option.ite_none_right_eq_some.mp h
    exact Option.some.inj hf ▸ ⟨.inr rfl, hlength⟩

theorem endsFence_eq (hf : f.IsOpen) (h : l.head?.any isMargin = false) :
    endsFence f l = f.closedBy l := by
  obtain ⟨hmark, hlength⟩ := hf
  have hnone : ¬f.length ≤ 0 := by omega
  rw [closedBy_eq, fenceView, endsFence]
  rcases leadingRun?_cases h with ⟨m, n, s, -, hn, rfl, hs, hrun⟩ | ⟨hrun, htick, htilde⟩
  · rw [hrun]
    by_cases hm : m = f.mark
    · subst hm
      simp [marks_replicate_append n hs, dropWhile_replicate_append n hs]
    · -- The line begins with the other mark, so it has none of the fence's.
      have hhead : (List.replicate n m ++ s).head? ≠ some f.mark := fun hc =>
        hm (Option.some.inj ((head?_replicate_append hn m s).symm.trans hc))
      simp [marks_eq_zero hhead, hnone, hm]
  · have hzero : marks f.mark l = 0 := by
      rcases hmark with hm | hm <;> rw [hm]
      · exact marks_eq_zero htick
      · exact marks_eq_zero htilde
    simp [hrun, hzero, hnone]

/-- The machine that masks the lines has no other roles than these. -/
theorem maskLines_eq_shown (hmargin : ∀ l ∈ ls, l.head?.any isMargin = false)
    (hfence : ∀ f, fence = some f → f.IsOpen) :
    maskLines fence ls = (List.zipWith Role.shown (roles anyInfo fence ls) ls).flatten := by
  induction ls generalizing fence with
  | nil => rfl
  | cons l ls ih =>
    have hl := hmargin l List.mem_cons_self
    have hrest {fence : Option Fence} (hfence : ∀ f, fence = some f → f.IsOpen) :=
      ih (fun x hx => hmargin x (List.mem_cons_of_mem l hx)) hfence
    -- without a margin the line opens and closes the same fences for both
    rw [maskLines_cons]
    cases fence with
    | none =>
      rw [maskLine_none, roles, opensFence?_anyInfo hl]
      cases hopens : openedBy? l with
      | none =>
        rw [hrest (by simp), List.zipWith_cons_cons, List.flatten_cons]
        rfl
      | some f =>
        have hopen := isOpen_of_opensFence? ((opensFence?_anyInfo hl).trans hopens)
        rw [hrest (fun _ hf => Option.some.inj hf ▸ hopen), List.zipWith_cons_cons,
          List.flatten_cons]
        rfl
    | some f =>
      rw [roles, endsFence_eq (hfence f rfl) hl]
      cases hcloses : f.closedBy l with
      | true =>
        rw [maskLine_of_closedBy hcloses, hrest (by simp), if_pos rfl, List.zipWith_cons_cons,
          List.flatten_cons]
        rfl
      | false =>
        rw [maskLine_of_not_closedBy hcloses, hrest hfence, if_neg (by simp),
          List.zipWith_cons_cons, List.flatten_cons]
        rfl

end Roles

section Agreement

theorem opensFence?_anyInfo_of_some (h : opensFence? info l = some f) :
    opensFence? anyInfo l = some f := by
  unfold opensFence? at h
  split at h
  · rename_i hopens
    rw [opensFence?, if_pos ⟨hopens.1, rfl⟩, h]
  · obtain ⟨hlength, hf⟩ := Option.ite_none_right_eq_some.mp h
    have hhead : l.head? = some '~' := by
      by_contra hne
      rw [marks_eq_zero hne] at hlength
      cases hlength
    have htick : marks '\x60' l = 0 := marks_eq_zero (by rw [hhead]; decide)
    rw [opensFence?, htick, if_neg (by simp), if_pos hlength, hf]

theorem opensFence?_anyInfo_of_none (h : opensFence? info l = none) :
    opensFence? anyInfo l = none ↔ marks '\x60' l < 3 := by
  unfold opensFence? at h
  split at h
  · cases h
  · have htilde : ¬3 ≤ marks '~' l := fun hlength => by simp [hlength] at h
    simp [opensFence?, anyInfo, htilde]

/-- Where any info string opens a block, the roles are still the same as long as no line that is to
be outside begins with three backticks. -/
theorem roles_anyInfo_eq_iff (info : Text → Bool) (fence : Option Fence) (ls : List Text) :
    roles anyInfo fence ls = roles info fence ls ↔
      ∀ p ∈ (roles info fence ls).zip ls, p.1 = .outside → marks '\x60' p.2 < 3 := by
  induction ls generalizing fence with
  | nil => simp [roles]
  | cons l ls ih =>
    cases fence with
    | some f =>
      rw [roles, roles]
      split <;> simp [ih]
    | none =>
      rw [roles, roles]
      cases hopens : opensFence? info l with
      | some f => simp [opensFence?_anyInfo_of_some hopens, ih]
      | none =>
        -- The line is to be outside; the roles part here if it opens a block all the same.
        have hsame := opensFence?_anyInfo_of_none hopens
        cases hany : opensFence? anyInfo l with
        | none => simp [hsame.mp hany, ih]
        | some f =>
          have hmarks : ¬marks '\x60' l < 3 := fun hlt => by simp [hsame.mpr hlt] at hany
          simp [hmarks]

end Agreement

/-- What masking does with the lines of a text, and when these are the roles in which no backtick
follows an opening run of backticks. -/
structure FollowsFences (t : Text) : Prop where
  masked : maskCode t =
    (List.zipWith Role.shown (rolesOf anyInfo t) (linesInclusive t)).flatten
  span_iff : ∀ l s, maskInlineCode l = s ↔ HidesSpans l s
  roles_eq_iff : rolesOf anyInfo t = rolesOf noBacktick t ↔
    ∀ p ∈ (rolesOf noBacktick t).zip (linesInclusive t), p.1 = .outside → marks '\x60' p.2 < 3

theorem followsFences (t : Text) (hmargin : ∀ l ∈ linesInclusive t, l.head?.any isMargin = false) :
    FollowsFences t where
  masked := maskLines_eq_shown hmargin (by simp)
  span_iff _ _ := maskInlineCode_eq_iff
  roles_eq_iff := roles_anyInfo_eq_iff noBacktick none (linesInclusive t)

/-- Two blocks, the second with a run of the other mark inside. -/
def twoBlocks : Text :=
  "Use \x60a\x60.\n\x60\x60\x60c\nx\n\x60\x60\x60\n~~~~\n\x60\x60\x60\n~~~\n~~~~ \nEnd.\n".toList

theorem followsFences_twoBlocks :
    (∀ l ∈ linesInclusive twoBlocks, l.head?.any isMargin = false) ∧ FollowsFences twoBlocks ∧
      rolesOf noBacktick twoBlocks = [.outside, .opening, .interior, .closing, .opening, .interior,
        .interior, .closing, .outside] :=
  ⟨by decide +kernel, followsFences twoBlocks (by decide +kernel), by decide +kernel⟩

/-- A line that begins with a code span between runs of three backticks. -/
def spanFirst : Text := "\x60\x60\x60 a \x60\x60\x60 b\nfoo\n".toList

/-- The line is taken for the opening of a block: its span is shown, and what follows is hidden. -/
theorem maskCode_spanFirst :
    (∀ l ∈ linesInclusive spanFirst, l.head?.any isMargin = false) ∧
    rolesOf noBacktick spanFirst = [.outside, .outside] ∧
    (List.zipWith Role.shown (rolesOf noBacktick spanFirst) (linesInclusive spanFirst)).flatten =
      "\x60\x60\x60***\x60\x60\x60 b\nfoo\n".toList ∧
    rolesOf anyInfo spanFirst = [.opening, .interior] ∧
    maskCode spanFirst = "\x60\x60\x60 a \x60\x60\x60 b\n***\n".toList := by
  decide +kernel

end Copydesk.Markup
