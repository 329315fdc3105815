import Copydesk.Proofs.Linter.Block
import Mathlib

/-! Alerts on paragraphs and sentences are placed as if they had been found in the whole text, and
paragraphs leave out nothing but blanks. -/

namespace Copydesk

open Text

theorem Alert.shift_located (a : Alert) {t u m : Text} {offset i j : Nat}
    (hu : slice? t offset (offset + size u) = some u) (h : slice? u i j = some m) :
    Position.shift t offset (a.located u i j) = a.located t (offset + i) (offset + j) := by
  have hshift := shift_moveTo a hu h
  simp only [located, slice_eq_of_slice? h, slice_eq_of_slice? (slice?_of_slice? hu h),
    ← hshift]
  rfl

theorem slice?_after {t : Text} {offset : Nat} (h : isBoundary t offset = true) :
    slice? t offset (offset + size (after t offset)) = some (after t offset) := by
  obtain ⟨a, b, rfl, rfl⟩ := isBoundary_iff.mp h
  rw [after_append]
  exact slice?_eq_some_iff.mpr ⟨a, [], by rw [List.append_nil], rfl, rfl⟩

theorem exists_of_append_cons_eq {c : Char} {a b u v : Text} (h : a ++ c :: b = u ++ v) :
    (∃ y, u = a ++ c :: y) ∨ ∃ x, a = u ++ x ∧ v = x ++ c :: b := by
  rcases List.append_eq_append_iff.mp h with ⟨x, rfl, hv⟩ | ⟨x, rfl, hv⟩
  · cases x with
    | nil => exact .inr ⟨[], by simp, hv.symm⟩
    | cons d x =>
      obtain ⟨rfl, -⟩ := List.cons.inj hv
      exact .inl ⟨x, rfl⟩
  · exact .inr ⟨x, rfl, hv⟩

namespace Linter

variable {l : Linter} {t scope : Text} {piece : Nat × Text}

/-- An alert on a piece of a text, and the alert on the same bytes of the whole text. -/
def Relocates (t : Text) (piece : Nat × Text) (a₀ a : Alert) : Prop :=
  ∃ i j m, slice? piece.2 i j = some m ∧ a₀ = a₀.located piece.2 i j ∧
    a = a₀.located t (piece.1 + i) (piece.1 + j)

theorem relocates_shift (hp : IsPiece t piece) {a : Alert} (h : a.StandsIn piece.2) :
    Relocates t piece a (Position.shift t piece.1 a) := by
  obtain ⟨i, j, hs, hplace⟩ := h
  have hlocated : a = a.located piece.2 i j := by
    rw [Alert.located, slice_eq_of_slice? hs, ← hplace]
    rfl
  refine ⟨i, j, a.matched, hs, hlocated, ?_⟩
  rw [← Alert.shift_located a hp hs, ← hlocated]

/-- The alerts of the rules on each of some pieces of a block, on the same bytes of its text. -/
def FindsOn (l : Linter) (b : Block) (kind : Text) (pieces : List (Nat × Text))
    (found : List (List Alert)) : Prop :=
  List.Forall₂ (fun piece as => ∃ as₀,
    l.runRules (.ofText piece.2 (pieceScope kind b.scope)) = .ok as₀ ∧
      List.Forall₂ (Relocates b.text piece) as₀ as) pieces found

section Standing

open Outcome

variable (hl : l.FindsStanding)

include hl

theorem FindsStanding.relocates_of_runRules (hp : IsPiece t piece) {as : List Alert}
    (h : l.runRules (.ofText piece.2 scope) = .ok as) :
    List.Forall₂ (Relocates t piece) as (as.map (Position.shift t piece.1)) := by
  refine List.forall₂_map_right_iff.mpr (List.forall₂_same.mpr fun a ha => ?_)
  exact relocates_shift hp (hl.of_mem_runRules h ha)

theorem FindsStanding.findsOn_of_lintPieces {b : Block} {kind : Text} {as : List Alert}
    {pieces : Text → List (Nat × Text)} (hp : ∀ piece ∈ pieces b.text, IsPiece b.text piece)
    (h : l.lintPieces b kind pieces = .ok as) : ∃ found, found.flatten = as ∧
      l.FindsOn b kind (if l.rules.usesScope kind && !hasSection b.scope "heading" then
        pieces b.text else []) found := by
  rcases lintPieces_eq_ok_iff.mp h with ⟨hcut, found, hfound, hflat⟩ | ⟨hcut, rfl⟩
  · have hruns := (List.forall₂_and_left _ _).mpr ⟨hp, forall₂_of_mapM hfound⟩
    refine ⟨found, hflat, ?_⟩
    rw [cuts] at hcut
    rw [if_pos hcut]
    refine hruns.imp fun piece as ⟨hpiece, hrun⟩ => ?_
    obtain ⟨as₀, hrules, rfl⟩ := runPiece_eq_ok_iff.mp hrun
    exact ⟨as₀, hrules, hl.relocates_of_runRules hpiece hrules⟩
  · rw [cuts] at hcut
    rw [hcut, if_neg Bool.false_ne_true]
    exact ⟨[], rfl, .nil⟩

end Standing

theorem le_of_mem_withOffsets {gap start : Nat} {ps : List Text}
    (h : piece ∈ withOffsets gap start ps) : start ≤ piece.1 := by
  induction ps generalizing start with
  | nil => cases h
  | cons p ps ih =>
    rcases List.mem_cons.mp h with rfl | h
    · exact Nat.le_refl start
    · have hle := ih h
      omega

theorem mem_of_mem_withOffsets {gap start : Nat} {ps : List Text}
    (h : piece ∈ withOffsets gap start ps) : piece.2 ∈ ps := by
  induction ps generalizing start with
  | nil => cases h
  | cons p ps ih =>
    rcases List.mem_cons.mp h with rfl | h
    · exact List.mem_cons_self
    · exact List.mem_cons_of_mem p (ih h)

theorem withOffsets_pairwise (gap start : Nat) (ps : List Text) :
    (withOffsets gap start ps).Pairwise fun e e' => e.1 + size e.2 + gap ≤ e'.1 := by
  induction ps generalizing start with
  | nil => exact .nil
  | cons p ps ih => exact .cons (fun e he => le_of_mem_withOffsets he) (ih _)

theorem exists_mem_withOffsets (start : Nat) {sep a b : Text} {c : Char} {ps : List Text}
    (hc : c ∉ sep) (h : a ++ c :: b = join sep ps) :
    ∃ e ∈ withOffsets (size sep) start ps, ∃ x y, e.2 = x ++ c :: y ∧
      start + size a = e.1 + size x := by
  induction ps generalizing a start with
  | nil => simp [join, List.intercalate] at h
  | cons p ps ih =>
    have inside {y : Text} (hp : p = a ++ c :: y) :
        ∃ e ∈ withOffsets (size sep) start (p :: ps), ∃ x y, e.2 = x ++ c :: y ∧
          start + size a = e.1 + size x :=
      ⟨(start, p), List.mem_cons_self, a, y, hp, rfl⟩
    by_cases hps : ps = []
    · have hp : p = a ++ c :: b := by simpa [hps, join, List.intercalate] using h.symm
      exact inside hp
    · rw [join_cons sep p hps] at h
      rcases exists_of_append_cons_eq h with ⟨y, hp⟩ | ⟨x, rfl, hrest⟩
      · exact inside hp
      · rcases exists_of_append_cons_eq hrest.symm with ⟨y, rfl⟩ | ⟨x', rfl, hmore⟩
        · exact absurd (List.mem_append_right x List.mem_cons_self) hc
        · obtain ⟨e, he, x, y, hxy, hsize⟩ := ih (start + size p + size sep) hmore.symm
          refine ⟨e, List.mem_cons_of_mem _ he, x, y, hxy, ?_⟩
          rw [← hsize, size_append, size_append]
          omega

theorem exists_trimPiece_of_mem {p : Char → Bool} (hp : ∀ c, p c = true → isSpace c = true)
    {x y : Text} {c : Char} (hc : isSpace c = false) (h : piece.2 = x ++ c :: y) :
    ∃ x' y', (trimPiece p piece).2 = x' ++ c :: y' ∧
      piece.1 + size x = (trimPiece p piece).1 + size x' := by
  obtain ⟨lead, trail, htrim, hstart, hlead, htrail⟩ := exists_trimPiece p piece
  have hnot {w : Text} (hw : ∀ d ∈ w, isSpace d = true) : c ∉ w :=
    fun hm => absurd (hw c hm) (by simp [hc])
  rw [h] at htrim
  rcases exists_of_append_cons_eq htrim.symm with ⟨z, rfl⟩ | ⟨x', rfl, hrest⟩
  · exact absurd (List.mem_append_right x List.mem_cons_self) (hnot fun d hd => hp d (hlead d hd))
  · rcases exists_of_append_cons_eq hrest.symm with ⟨y', hy⟩ | ⟨z, -, rfl⟩
    · refine ⟨x', y', hy, ?_⟩
      rw [hstart, size_append, Nat.add_assoc]
    · exact absurd (List.mem_append_right z List.mem_cons_self) (hnot htrail)

/-- Pieces that are taken from a text in order and leave out nothing but blanks. -/
structure Covers (t : Text) (pieces : List (Nat × Text)) : Prop where
  isPiece : ∀ e ∈ pieces, slice? t e.1 (e.1 + size e.2) = some e.2
  ordered : pieces.Pairwise fun e e' => e.1 < e'.1 ∧ e.1 + size e.2 ≤ e'.1
  /-- Every character that is no blank lies in a piece. -/
  covered : ∀ a c b, a ++ c :: b = t → isSpace c = false →
    ∃ e ∈ pieces, e.1 ≤ size a ∧ size a + c.utf8Size ≤ e.1 + size e.2

theorem isSpace_newline {c : Char} (h : (c == '\n') = true) : isSpace c = true := by
  rw [beq_iff_eq.mp h]
  rfl

theorem trimPiece_within (p : Char → Bool) (e : Nat × Text) :
    e.1 ≤ (trimPiece p e).1 ∧
      (trimPiece p e).1 + size (trimPiece p e).2 ≤ e.1 + size e.2 := by
  obtain ⟨lead, trail, htrim, hstart, -⟩ := exists_trimPiece p e
  have hsize := congrArg size htrim
  rw [size_append, size_append] at hsize
  omega

theorem size_pos {t : Text} (h : isBlank t = false) : 0 < size t := by
  refine Nat.pos_of_ne_zero fun hzero => ?_
  rw [size_eq_zero hzero] at h
  cases h

theorem paragraphs_covers (t : Text) : Covers t (paragraphs t) where
  isPiece _ he := isPiece_of_mem_paragraphs he
  ordered := by
    have hchunks := withOffsets_pairwise 2 0 (splitOnText "\n\n" t)
    -- a trimmed piece stays within the piece, so the order of the pieces is kept
    have htrimmed := hchunks.map (S := fun e e' => e.1 + size e.2 ≤ e'.1)
      (trimPiece (· == '\n')) fun e e' he => by
        have hend := (trimPiece_within (· == '\n') e).2
        have hstart := (trimPiece_within (· == '\n') e').1
        omega
    refine (htrimmed.filter _).imp_of_mem fun {e e'} he _ hle => ⟨?_, hle⟩
    have hblank : isBlank e.2 = false := by simpa using (List.mem_filter.mp he).2
    have hpos := size_pos hblank
    omega
  covered a c b h hc := by
    have hsep : c ∉ "\n\n".toList := fun hm => by
      have hnewline : c = '\n' := by simpa using hm
      rw [hnewline] at hc
      cases hc
    -- a character outside the separators stands in a piece, and trimming spares it
    have hjoin := join_splitOnText (show "\n\n".toList ≠ [] by decide) t
    rw [← hjoin] at h
    obtain ⟨e, he, x, y, hxy, hsize⟩ := exists_mem_withOffsets 0 hsep h
    obtain ⟨x', y', hxy', hsize'⟩ :=
      exists_trimPiece_of_mem (p := (· == '\n')) (fun _ => isSpace_newline) hc hxy
    have hblank : isBlank (trimPiece (· == '\n') e).2 = false := by
      rw [hxy', isBlank, List.all_append, List.all_cons, hc, Bool.false_and, Bool.and_false]
    refine ⟨trimPiece (· == '\n') e,
      List.mem_filter.mpr ⟨List.mem_map.mpr ⟨e, he, rfl⟩, by simp [hblank]⟩, ?_⟩
    have hend : size (trimPiece (· == '\n') e).2 = size x' + (c.utf8Size + size y') := by
      rw [hxy', size_append, size]
    omega

theorem not_infix_of_mem_paragraphs (h : piece ∈ paragraphs t) :
    ¬"\n\n".toList <:+: piece.2 := by
  obtain ⟨e, he, rfl⟩ := List.mem_map.mp (List.mem_filter.mp h).1
  obtain ⟨lead, trail, htrim, -⟩ := exists_trimPiece (· == '\n') e
  have hinfix : (trimPiece (· == '\n') e).2 <:+: e.2 :=
    ⟨lead, trail, (List.append_assoc _ _ _).trans htrim⟩
  have hchunk := not_infix_of_mem_splitTextFrom (by decide) (mem_of_mem_withOffsets he)
  exact fun hsep => hchunk (hsep.trans hinfix)

/-- Positions on the pieces of a text agree with those in the text. -/
structure LocatesPieces (t : Text) : Prop where
  /-- What is located behind an offset and then shifted by it is located in the whole text. -/
  shift : ∀ offset i j, isBoundary t offset = true → isBoundary (after t offset) i = true →
    isBoundary (after t offset) j = true → i ≤ j → ∀ a : Alert,
      Position.shift t offset (a.located (after t offset) i j) =
        a.located t (offset + i) (offset + j)
  /-- The alerts on a paragraph or a sentence are those of the rules on its text, one for one, located
  on the same bytes of the whole text. -/
  alerts : ∀ l : Linter, (∀ p ∈ l.provider, Rule.PlacesFindings p) → ∀ scope piece,
    piece ∈ paragraphs t ∨ piece ∈ sentences t → ∀ as₀,
      l.runRules (.ofText piece.2 scope) = .ok as₀ →
        ∃ as, l.runPiece t scope piece = .ok as ∧ List.Forall₂ (Relocates t piece) as₀ as
  errors : ∀ (l : Linter) scope piece e, l.runRules (.ofText piece.2 scope) = .error e →
    l.runPiece t scope piece = .error e
  /-- Besides its own alerts a block has those on its paragraphs and then those on its sentences. -/
  blocks : ∀ l : Linter, (∀ p ∈ l.provider, Rule.PlacesFindings p) → ∀ b as, b.text = t →
    l.ignores b.scope = false → l.lintBlock b = .ok as →
      ∃ whole onParagraphs onSentences, l.runRules b = .ok whole ∧
        l.FindsOn b "paragraph" (if l.rules.usesScope "paragraph" &&
          !hasSection b.scope "heading" then paragraphs t else []) onParagraphs ∧
        l.FindsOn b "sentence" (if l.rules.usesScope "sentence" &&
          !hasSection b.scope "heading" then sentences t else []) onSentences ∧
        as = whole ++ onParagraphs.flatten ++ onSentences.flatten
  covers : Covers t (paragraphs t)
  unbroken : ∀ e ∈ paragraphs t, ¬"\n\n".toList <:+: e.2

theorem locatesPieces (t : Text) : LocatesPieces t where
  shift offset i j ho hi hj hij a := by
    obtain ⟨m, hm⟩ := exists_slice? hi hj hij
    exact a.shift_located (slice?_after ho) hm
  alerts l hp scope piece hpiece as₀ h := by
    have hcut : IsPiece t piece :=
      hpiece.elim isPiece_of_mem_paragraphs isPiece_of_mem_sentences
    have hrelocates := (findsStanding_of_placesFindings hp).relocates_of_runRules hcut h
    exact ⟨_, runPiece_eq_ok_iff.mpr ⟨as₀, h, rfl⟩, hrelocates⟩
  errors l scope piece e h := by
    rw [runPiece, h]
    rfl
  blocks l hp b as hb hignored h := by
    subst hb
    have hl := findsStanding_of_placesFindings hp
    rcases lintBlock_eq_ok_iff.mp h with
      ⟨hignored', -⟩ | ⟨-, whole, as', as'', hwhole, hparagraphs, hsentences, rfl⟩
    · rw [hignored] at hignored'
      cases hignored'
    · obtain ⟨onParagraphs, rfl, hon⟩ :=
        hl.findsOn_of_lintPieces (fun _ => isPiece_of_mem_paragraphs) hparagraphs
      obtain ⟨onSentences, rfl, hon'⟩ :=
        hl.findsOn_of_lintPieces (fun _ => isPiece_of_mem_sentences) hsentences
      exact ⟨whole, onParagraphs, onSentences, hwhole, hon, hon', rfl⟩
  covers := paragraphs_covers t
  unbroken _ he := not_infix_of_mem_paragraphs he

def paragraphLinter : Linter := ofRules {} (.house ["paragraph"] ["paragraph"]) []

/-- What a rule finds at the beginning of the second paragraph stands on the third line of the block,
behind what it finds on the first. -/
theorem lintBlock_twoParagraphs :
    paragraphs "à bad\n\nbad" = [(0, "à bad".toList), (8, "bad".toList)] ∧
      paragraphLinter.lintBlock (.ofText "à bad\n\nbad" "text.txt") =
        .ok [{ Alert.house with span := ⟨3, 5⟩ }, { Alert.house with line := 3 }] ∧
      paragraphLinter.runRules (.ofText "bad" "paragraph.txt") = .ok [.house] ∧
      ∃ as, paragraphLinter.runPiece "à bad\n\nbad" "paragraph.txt" (8, "bad".toList) = .ok as ∧
        List.Forall₂ (Relocates "à bad\n\nbad" (8, "bad".toList)) [.house] as := by
  have hpieces : paragraphs "à bad\n\nbad" = [(0, "à bad".toList), (8, "bad".toList)] := by cbv
  have hrules : paragraphLinter.runRules (.ofText "bad" "paragraph.txt") = .ok [.house] := by cbv
  have hprovider : ∀ p ∈ paragraphLinter.provider, Rule.PlacesFindings p := by
    intro p hp
    cases hp
  have hmem : (8, "bad".toList) ∈ paragraphs "à bad\n\nbad" := by
    rw [hpieces]
    exact List.mem_cons_of_mem _ List.mem_cons_self
  exact ⟨hpieces, by cbv, hrules,
    (locatesPieces _).alerts paragraphLinter hprovider _ _ (.inl hmem) _ hrules⟩

/-- Blank lines of three newlines, and a paragraph of two lines that begins behind one. -/
example : paragraphs "à la\n\n\n carte \nbis\n\n \n" =
    [(0, "à la".toList), (8, " carte \nbis".toList)] := by
  cbv

end Linter

end Copydesk
