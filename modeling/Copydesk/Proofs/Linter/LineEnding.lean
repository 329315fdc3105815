import Copydesk.Proofs.Linter.Paragraphs
import Copydesk.Proofs.Text.Replace
import Copydesk.Proofs.Text.Trim
import Mathlib.Data.List.Forall2

/-! Paragraphs of texts whose lines end with a carriage return and a newline. Only two newlines in a
row part a text, and there are none in it, so that it is one paragraph whatever its blank lines. -/

namespace Copydesk

namespace Text

variable {sep s t u : Text} {c : Char}

/-- The text with a carriage return before every newline. -/
def withReturns (t : Text) : Text := replace ['\n'] ['\r', '\n'] t

theorem withReturns_newline (t : Text) : withReturns ('\n' :: t) = '\r' :: '\n' :: withReturns t :=
  @replace_append_self ['\n'] t ['\r', '\n'] (List.cons_ne_nil _ _)

theorem withReturns_cons (hc : c ≠ '\n') (t : Text) : withReturns (c :: t) = c :: withReturns t := by
  refine replace_cons fun h => hc ?_
  obtain ⟨rfl, -⟩ := List.cons_prefix_cons.mp h
  rfl

theorem withReturns_append (s t : Text) :
    withReturns (s ++ t) = withReturns s ++ withReturns t := by
  induction s with
  | nil => rfl
  | cons c s ih =>
    by_cases hc : c = '\n'
    · rw [hc, List.cons_append, withReturns_newline, withReturns_newline, ih]
      rfl
    · rw [List.cons_append, withReturns_cons hc, withReturns_cons hc, ih]
      rfl

theorem isBlank_withReturns (t : Text) : isBlank (withReturns t) = isBlank t := by
  induction t with
  | nil => rfl
  | cons c t ih =>
    rw [isBlank] at ih
    by_cases hc : c = '\n'
    · rw [hc, withReturns_newline, isBlank, List.all_cons, List.all_cons, ih]
      rfl
    · rw [withReturns_cons hc, isBlank, List.all_cons, ih]
      rfl

theorem filter_withReturns (h : '\r' ∉ t) : (withReturns t).filter (· != '\r') = t := by
  induction t with
  | nil => rfl
  | cons c t ih =>
    obtain ⟨hc, ht⟩ := List.ne_and_not_mem_of_not_mem_cons h
    by_cases hline : c = '\n'
    · rw [hline, withReturns_newline]
      exact congrArg ('\n' :: ·) (ih ht)
    · have hkept : (c != '\r') = true := bne_iff_ne.mpr (Ne.symm hc)
      rw [withReturns_cons hline, List.filter_cons, if_pos hkept, ih ht]

theorem head?_withReturns_ne (t : Text) : (withReturns t).head? ≠ some '\n' := by
  cases t with
  | nil => exact nofun
  | cons c t =>
    by_cases hc : c = '\n'
    · rw [hc, withReturns_newline]
      exact fun h => absurd (Option.some.inj h) (by decide)
    · rw [withReturns_cons hc]
      exact fun h => hc (Option.some.inj h)

theorem not_infix_withReturns (t : Text) : ¬"\n\n".toList <:+: withReturns t := by
  have hhead (c : Char) (u : Text) (hu : u.head? ≠ some '\n') : ¬"\n\n".toList <+: c :: u := by
    rintro ⟨r, hr⟩
    obtain ⟨-, rfl⟩ := List.cons.inj hr
    exact hu rfl
  induction t with
  | nil => decide
  | cons c t ih =>
    by_cases hc : c = '\n'
    · rw [hc, withReturns_newline, List.infix_cons_iff, List.infix_cons_iff]
      refine not_or.mpr ⟨fun h => ?_, not_or.mpr ⟨hhead '\n' _ (head?_withReturns_ne t), ih⟩⟩
      exact absurd (List.cons_prefix_cons.mp h).1 (by decide)
    · rw [withReturns_cons hc, List.infix_cons_iff]
      exact not_or.mpr ⟨hhead c _ (head?_withReturns_ne t), ih⟩

theorem trimEnd_withReturns (t : Text) : trimEnd (withReturns t) = withReturns (trimEnd t) := by
  cases h : isBlank t with
  | true =>
    rw [trimEnd_of_isBlank h, trimEnd_of_isBlank ((isBlank_withReturns t).trans h)]
    rfl
  | false =>
    obtain ⟨lead, c, trail, hc, htrail, rfl, hend⟩ := exists_trimEnd_eq h
    have hline : c ≠ '\n' := by
      rintro rfl
      cases hc
    have htrail : isBlank (withReturns trail) = true := (isBlank_withReturns trail).trans htrail
    have hparts (t : Text) : withReturns (lead ++ c :: t) =
        withReturns lead ++ ([c] ++ withReturns t) := by
      rw [withReturns_append, withReturns_cons hline]
      rfl
    rw [hend, hparts, hparts, trimEnd_append htrail (isTrimmed_singleton hc)]
    rfl

/-- Where the separator begins nowhere, the piece that comes after goes on. -/
theorem exists_splitOnText_append (h : BeginsNowhere sep s t) :
    ∃ p ps, splitOnText sep t = p :: ps ∧ splitOnText sep (s ++ t) = (s ++ p) :: ps := by
  induction s with
  | nil =>
    obtain ⟨p, ps, hps⟩ := List.exists_cons_of_ne_nil (splitTextFrom_ne_nil sep 0 t)
    exact ⟨p, ps, hps, hps⟩
  | cons c s ih =>
    obtain ⟨p, ps, hps, happend⟩ := ih h.tail
    have hc : ¬sep <+: c :: (s ++ t) := h [] (c :: s) rfl (List.cons_ne_nil c s)
    rw [splitOnText] at happend
    refine ⟨p, ps, hps, ?_⟩
    rw [List.cons_append, splitOnText, splitTextFrom, if_neg (mt startsWith_iff.mp hc), happend]
    rfl

theorem infix_join_of_mem (sep : Text) {p : Text} {ps : List Text} (h : p ∈ ps) :
    p <:+: join sep ps := by
  induction ps with
  | nil => cases h
  | cons q ps ih =>
    by_cases hps : ps = []
    · subst hps
      obtain rfl := List.mem_singleton.mp h
      exact ⟨[], [], by rw [join_singleton, List.nil_append, List.append_nil]⟩
    · rw [join_cons sep q hps]
      rcases List.mem_cons.mp h with rfl | h
      · exact List.infix_append [] p _
      · exact ((ih h).trans (List.suffix_append sep _).isInfix).trans
          (List.suffix_append q _).isInfix

theorem isBlank_of_mem_splitOnText (hsep : sep ≠ []) (ht : isBlank t = true) {p : Text}
    (h : p ∈ splitOnText sep t) : isBlank p = true := by
  have hinfix := infix_join_of_mem sep h
  rw [join_splitOnText hsep] at hinfix
  rw [isBlank, List.all_eq_true] at ht ⊢
  exact fun c hc => ht c (List.IsInfix.subset hinfix hc)

end Text

namespace Linter

open Text

variable {t : Text}

theorem isBlank_trimPiece {p : Char → Bool} {e : Nat × Text} (h : isBlank e.2 = true) :
    isBlank (trimPiece p e).2 = true := by
  obtain ⟨lead, trail, htrim, -⟩ := exists_trimPiece p e
  rw [isBlank, List.all_eq_true] at h ⊢
  refine fun c hc => h c ?_
  rw [← htrim]
  exact List.mem_append_right lead (List.mem_append_left trail hc)

theorem filter_trimPiece_eq_nil {gap start : Nat} {ps : List Text}
    (h : ∀ p ∈ ps, isBlank p = true) :
    ((withOffsets gap start ps).map (trimPiece (· == '\n'))).filter (!isBlank ·.2) = [] := by
  rw [List.filter_eq_nil_iff, List.forall_mem_map]
  intro e he
  simp [isBlank_trimPiece (h e.2 (mem_of_mem_withOffsets he))]

theorem paragraphs_of_isBlank (h : isBlank t = true) : paragraphs t = [] :=
  filter_trimPiece_eq_nil fun _ hp => isBlank_of_mem_splitOnText (by decide) h hp

theorem head?_trimEnd (h : isBlank t = false) : (trimEnd t).head? = t.head? := by
  obtain ⟨lead, c, trail, -, -, rfl, hend⟩ := exists_trimEnd_eq h
  rw [hend]
  cases lead <;> rfl

theorem head?_ne_of_mem_paragraphs {piece : Nat × Text} (h : piece ∈ paragraphs t) :
    piece.2.head? ≠ some '\n' := by
  obtain ⟨e, -, rfl⟩ := List.mem_map.mp (List.mem_filter.mp h).1
  intro hhead
  obtain ⟨rest, hrest⟩ := List.head?_eq_some_iff.mp hhead
  have hprefix : (trimPiece (· == '\n') e).2 <+: e.2.dropWhile (· == '\n') :=
    dropEndWhile_prefix isSpace _
  obtain ⟨more, hmore⟩ := hrest ▸ hprefix
  have hnot := List.head?_dropWhile_not (· == '\n') e.2
  rw [← hmore] at hnot
  cases hnot

section SingleParagraph

variable {lead p : Text} {c : Char}

/-- A separator that a text does not hold cannot begin in it either and reach past its last
character. -/
theorem beginsNowhere_of_absent_concat {sep : Text} (hc : c ∉ sep) (h : ¬sep <:+: lead ++ [c])
    (trail : Text) : BeginsNowhere sep (lead ++ [c]) trail := by
  intro x y hxy hy hbegins
  obtain ⟨y, d, rfl⟩ := (List.eq_nil_or_concat y).resolve_left hy
  rw [List.concat_eq_append, ← List.append_assoc] at hxy
  obtain ⟨rfl, hd⟩ := List.append_inj' hxy rfl
  obtain rfl := (List.cons.inj hd).1
  rw [List.concat_eq_append, List.append_assoc] at hbegins
  have hinside : sep <+: y :=
    prefix_of_prefix_append (t := c :: trail) (fun e he => by rwa [← Option.some.inj he]) hbegins
  refine h (hinside.isInfix.trans ?_)
  exact (List.suffix_append x y).isInfix.trans (List.prefix_append _ [c]).isInfix

theorem trimPiece_newlines (hc : isSpace c = false) (hhead : (lead ++ [c]).head? ≠ some '\n')
    (hp : isBlank p = true) :
    trimPiece (· == '\n') (0, (lead ++ [c]) ++ p) = (0, lead ++ [c]) := by
  have hdrop : ((lead ++ [c]) ++ p).dropWhile (· == '\n') = (lead ++ [c]) ++ p := by
    obtain ⟨d, rest, hcons⟩ :=
      List.exists_cons_of_ne_nil (List.append_ne_nil_of_right_ne_nil lead (List.cons_ne_nil c []))
    have hd : ¬(d == '\n') = true := fun hd => hhead (by rw [hcons, eq_of_beq hd]; rfl)
    rw [hcons, List.cons_append, List.dropWhile_cons, if_neg hd]
  have hkept := @trimEnd_append lead [c] p hp (isTrimmed_singleton hc)
  rw [← List.append_assoc] at hkept
  rw [trimPiece, hdrop, hkept, Nat.sub_self]

/-- A text is one paragraph, with nothing dropped but blanks at its end, if no two newlines in a row
part it and it does not begin with one. -/
theorem paragraphs_eq_singleton_iff (h : isBlank t = false) :
    paragraphs t = [(0, trimEnd t)] ↔ t.head? ≠ some '\n' ∧ ¬"\n\n".toList <:+: trimEnd t := by
  rw [← head?_trimEnd h]
  obtain ⟨lead, c, trail, hc, htrail, rfl, hend⟩ := exists_trimEnd_eq h
  have hline : c ∉ "\n\n".toList := fun hmem => by
    obtain rfl : c = '\n' := by simpa using hmem
    cases hc
  rw [hend]
  constructor
  · intro hone
    have hmem : (0, lead ++ [c]) ∈ paragraphs (lead ++ c :: trail) := hone ▸ List.mem_cons_self
    exact ⟨head?_ne_of_mem_paragraphs hmem, not_infix_of_mem_paragraphs hmem⟩
  · rintro ⟨hhead, habsent⟩
    obtain ⟨p, ps, hps, happend⟩ :=
      exists_splitOnText_append (beginsNowhere_of_absent_concat hline habsent trail)
    have hblank : ∀ q ∈ p :: ps, isBlank q = true := fun q hq =>
      isBlank_of_mem_splitOnText (by decide) htrail (hps ▸ hq)
    obtain ⟨hp, hblank⟩ := List.forall_mem_cons.mp hblank
    have hkept : isBlank (lead ++ [c]) = false := by
      rw [isBlank, List.all_append, List.all_cons, hc, Bool.false_and, Bool.and_false]
    have hparts : lead ++ c :: trail = (lead ++ [c]) ++ trail := by
      rw [List.append_assoc]
      rfl
    rw [paragraphs, hparts, happend, withOffsets, List.map_cons, trimPiece_newlines hc hhead hp,
      List.filter_cons, filter_trimPiece_eq_nil hblank]
    simp [hkept]

end SingleParagraph

theorem paragraphs_ne_nil (h : isBlank t = false) : paragraphs t ≠ [] := by
  obtain ⟨lead, c, trail, hc, -, ht, -⟩ := exists_trimEnd_eq h
  obtain ⟨e, he, -⟩ := (paragraphs_covers t).covered lead c trail ht.symm hc
  exact List.ne_nil_of_mem he

/-- As many pieces with the same texts, but for carriage returns in the second. -/
def SameButReturns (ps qs : List (Nat × Text)) : Prop :=
  List.Forall₂ (fun p q => q.2.filter (· != '\r') = p.2) ps qs

/-- What the paragraphs of a text are when its lines end with a carriage return and a newline. -/
structure IsUnparted (t : Text) : Prop where
  single : isBlank t = false → paragraphs (withReturns t) = [(0, withReturns (trimEnd t))]
  blank : isBlank t = true → paragraphs (withReturns t) = []
  /-- The number of paragraphs is kept if there is at most one. -/
  length : (paragraphs (withReturns t)).length = min 1 (paragraphs t).length
  /-- They are the same if there is no blank line between two lines that are not blank, and none
  before them. -/
  same : SameButReturns (paragraphs t) (paragraphs (withReturns t)) ↔
    isBlank t = true ∨ (t.head? ≠ some '\n' ∧ ¬"\n\n".toList <:+: trimEnd t)

theorem paragraphs_withReturns (h : isBlank t = false) :
    paragraphs (withReturns t) = [(0, withReturns (trimEnd t))] := by
  have hblank : isBlank (withReturns t) = false := (isBlank_withReturns t).trans h
  rw [← trimEnd_withReturns]
  refine (paragraphs_eq_singleton_iff hblank).mpr ⟨head?_withReturns_ne t, ?_⟩
  rw [trimEnd_withReturns]
  exact not_infix_withReturns (trimEnd t)

theorem isUnparted_withReturns (h : '\r' ∉ t) : IsUnparted t := by
  have hnone (hblank : isBlank t = true) : paragraphs (withReturns t) = [] :=
    paragraphs_of_isBlank ((isBlank_withReturns t).trans hblank)
  refine ⟨paragraphs_withReturns, hnone, ?length, ?same⟩
  case length =>
    cases hblank : isBlank t with
    | true => rw [hnone hblank, paragraphs_of_isBlank hblank]; rfl
    | false =>
      have hpos := List.length_pos_iff.mpr (paragraphs_ne_nil hblank)
      rw [paragraphs_withReturns hblank, List.length_singleton]
      omega
  case same =>
    cases hblank : isBlank t with
    | true =>
      rw [hnone hblank, paragraphs_of_isBlank hblank]
      exact iff_of_true .nil (.inl rfl)
    | false =>
      have hprefix : trimEnd t <+: t := dropEndWhile_prefix isSpace t
      have hreturn : '\r' ∉ trimEnd t := fun hmem => h (List.IsPrefix.subset hprefix hmem)
      rw [paragraphs_withReturns hblank, or_iff_right (by simp),
        ← paragraphs_eq_singleton_iff hblank]
      constructor
      · intro hsame
        -- the paragraphs can be the same only when there is one, and it is the whole text
        obtain ⟨p, ps, hp, hps, hone⟩ := List.forall₂_cons_right_iff.mp hsame
        obtain rfl := List.forall₂_nil_right_iff.mp hps
        have htext : p.2 = trimEnd t := hp.symm.trans (filter_withReturns hreturn)
        have hmem : p ∈ paragraphs t := hone ▸ List.mem_cons_self
        refine (paragraphs_eq_singleton_iff hblank).mpr ⟨?_, ?_⟩
        · rw [← head?_trimEnd hblank, ← htext]
          exact head?_ne_of_mem_paragraphs hmem
        · rw [← htext]
          exact not_infix_of_mem_paragraphs hmem
      · intro hone
        rw [hone]
        exact .cons (filter_withReturns hreturn) .nil

def blankLine : Text := "bad\n\nbad\n".toList

theorem isUnparted_indented :
    '\r' ∉ "\n one\n\n\ntwo \n".toList ∧ IsUnparted "\n one\n\n\ntwo \n".toList :=
  ⟨by decide, isUnparted_withReturns (by decide)⟩

/-- Two paragraphs become one. -/
theorem not_sameButReturns_blankLine : '\r' ∉ blankLine ∧
    paragraphs blankLine = [(0, "bad".toList), (5, "bad".toList)] ∧
    paragraphs (withReturns blankLine) = [(0, "bad\r\n\r\nbad".toList)] ∧
    ¬SameButReturns (paragraphs blankLine) (paragraphs (withReturns blankLine)) := by
  have hparted : paragraphs blankLine = [(0, "bad".toList), (5, "bad".toList)] := by decide +kernel
  have hwhole : paragraphs (withReturns blankLine) = [(0, "bad\r\n\r\nbad".toList)] := by
    decide +kernel
  refine ⟨by decide, hparted, hwhole, ?_⟩
  rw [hparted, hwhole]
  exact fun h => absurd h.length_eq (by decide)

end Linter

end Copydesk
