import Copydesk.Proofs.Markup.Bytes
import Copydesk.Proofs.Markup.Fences
import Copydesk.Proofs.Text.Line

/-! Front matter is hidden as the fenced block that it is rewritten into, so nothing in it may close
that block before its own closing marker does. -/

namespace Copydesk.Markup

open Text

/-- A text that begins with the line of a marker and has a later line of it. The body is what lies
between, and `closing` is the first such line. -/
structure FrontMatter (t : Text) where
  marker : Text
  ending : Text
  body : List Text
  closing : Text
  rest : List Text
  marker_eq : marker = "---".toList ∨ marker = "+++".toList
  ending_eq : ending = ['\n'] ∨ ending = ['\r', '\n']
  lines_eq : linesInclusive t = (marker ++ ending) :: (body ++ closing :: rest)
  trimEnd_closing : trimEnd closing = marker
  trimEnd_ne : ∀ l ∈ body, trimEnd l ≠ marker

/-- The fence that front matter is rewritten into. -/
def codeFence : Fence := ⟨'\x60', 3⟩

variable {t marker out : Text} {ls : List Text}

theorem closeFrontMatter?_append {body rest : List Text} {closing : Text}
    (hbody : ∀ l ∈ body, trimEnd l ≠ marker) (hclosing : trimEnd closing = marker) :
    closeFrontMatter? marker (body ++ closing :: rest) =
      some (body.flatten ++ (fenceMarker ++ closing.drop marker.length ++ rest.flatten)) := by
  induction body with
  | nil => rw [List.nil_append, closeFrontMatter?, if_pos hclosing]; rfl
  | cons l body ih =>
    rw [List.cons_append, closeFrontMatter?, if_neg (hbody l List.mem_cons_self),
      ih fun x hx => hbody x (List.mem_cons_of_mem l hx), Option.map_some, List.flatten_cons,
      List.append_assoc l]

theorem exists_of_closeFrontMatter? (h : closeFrontMatter? marker ls = some out) :
    ∃ body closing rest, ls = body ++ closing :: rest ∧ trimEnd closing = marker ∧
      ∀ l ∈ body, trimEnd l ≠ marker := by
  induction ls generalizing out with
  | nil => cases h
  | cons l ls ih =>
    rw [closeFrontMatter?] at h
    split at h
    · rename_i hl
      exact ⟨[], l, ls, rfl, hl, by simp⟩
    · rename_i hl
      obtain ⟨out', hout, -⟩ := Option.map_eq_some_iff.mp h
      obtain ⟨body, closing, rest, rfl, hclosing, hbody⟩ := ih hout
      exact ⟨l :: body, closing, rest, rfl, hclosing, List.forall_mem_cons.mpr ⟨hl, hbody⟩⟩

theorem newline_not_mem_marker (h : marker = "---".toList ∨ marker = "+++".toList) :
    '\n' ∉ marker := by
  rcases h with rfl | rfl <;> decide

theorem exists_ending_of_frontMatterMarker? (h : frontMatterMarker? t = some marker) :
    (marker = "---".toList ∨ marker = "+++".toList) ∧ ∃ ending r,
      (ending = ['\n'] ∨ ending = ['\r', '\n']) ∧ t = marker ++ ending ++ r := by
  refine ⟨by simpa using List.mem_of_find?_eq_some h, ?_⟩
  have hfound := List.find?_some h
  simp only [Bool.or_eq_true, startsWith_iff] at hfound
  rcases hfound with ⟨r, hr⟩ | ⟨r, hr⟩
  · exact ⟨_, r, .inl rfl, hr.symm⟩
  · exact ⟨_, r, .inr rfl, hr.symm⟩

theorem isFullLine_marker {ending : Text} (hm : marker = "---".toList ∨ marker = "+++".toList)
    (he : ending = ['\n'] ∨ ending = ['\r', '\n']) : IsFullLine (marker ++ ending) := by
  have hnot := newline_not_mem_marker hm
  rcases he with rfl | rfl
  · exact ⟨marker, hnot, rfl⟩
  · refine ⟨marker ++ ['\r'], ?_, List.append_assoc _ _ _⟩
    simpa using hnot

theorem nonempty_frontMatter (h : fenceFrontMatter t ≠ t) : Nonempty (FrontMatter t) := by
  unfold fenceFrontMatter at h
  cases hmarker : frontMatterMarker? t with
  | none => exact absurd (by rw [hmarker]; rfl) h
  | some marker =>
    obtain ⟨hm, ending, r, he, rfl⟩ := exists_ending_of_frontMatterMarker? hmarker
    have hlines := (isFullLine_marker hm he).linesInclusive_append r
    simp only [hmarker, Option.bind_some, hlines] at h
    cases hclose : closeFrontMatter? marker (linesInclusive r) with
    | none => exact absurd (by rw [hclose]; rfl) h
    | some out =>
      obtain ⟨body, closing, rest, hr, hclosing, hbody⟩ := exists_of_closeFrontMatter? hclose
      exact ⟨⟨marker, ending, body, closing, rest, hm, he, hr ▸ hlines, hclosing, hbody⟩⟩

namespace FrontMatter

variable (fm : FrontMatter t)

/-- The marker line that closes the front matter, as the line that closes the fence. -/
def closed : Text := fenceMarker ++ fm.closing.drop fm.marker.length

theorem exists_append_closing : ∃ w, fm.closing = fm.marker ++ w ∧ isBlank w = true := by
  have hsplit := dropEndWhile_append isSpace fm.closing
  rw [show dropEndWhile isSpace fm.closing = fm.marker from fm.trimEnd_closing] at hsplit
  refine ⟨_, hsplit.symm, List.all_eq_true.mpr fun c hc => ?_⟩
  exact List.mem_takeWhile_imp (List.mem_reverse.mp hc)

theorem text_eq : t = fm.marker ++ fm.ending ++ (fm.body.flatten ++ (fm.closing ++
    fm.rest.flatten)) := by
  have hflat := flatten_linesInclusive t
  rw [fm.lines_eq, List.flatten_cons, List.flatten_append, List.flatten_cons] at hflat
  exact hflat.symm

theorem frontMatterMarker?_eq : frontMatterMarker? t = some fm.marker := by
  have hread (r : Text) : frontMatterMarker? (fm.marker ++ fm.ending ++ r) = some fm.marker := by
    rcases fm.marker_eq with hm | hm <;> rcases fm.ending_eq with he | he <;> rw [hm, he] <;> rfl
  have h := hread (fm.body.flatten ++ (fm.closing ++ fm.rest.flatten))
  rwa [← fm.text_eq] at h

theorem fenceFrontMatter_eq : fenceFrontMatter t =
    fenceMarker ++ fm.ending ++ (fm.body.flatten ++ (fm.closed ++ fm.rest.flatten)) := by
  rw [fenceFrontMatter, fm.frontMatterMarker?_eq, Option.bind_some, fm.lines_eq]
  simp only [closeFrontMatter?_append fm.trimEnd_ne fm.trimEnd_closing, Option.map_some,
    Option.getD_some, List.drop_left]
  rfl

/-- The lines of the rewritten text are those of the text, apart from the two markers. -/
theorem linesInclusive_fenceFrontMatter : linesInclusive (fenceFrontMatter t) =
    (fenceMarker ++ fm.ending) :: (fm.body ++ fm.closed :: fm.rest) := by
  have hlines : linesInclusive t = ((fm.marker ++ fm.ending) :: fm.body) ++ fm.closing :: fm.rest :=
    fm.lines_eq
  obtain ⟨u, -, hu, hfull⟩ := exists_append_of_linesInclusive hlines
  have hopening : IsFullLine (fenceMarker ++ fm.ending) := by
    rcases fm.ending_eq with he | he <;> rw [he]
    · exact ⟨fenceMarker, by decide, rfl⟩
    · exact ⟨fenceMarker ++ ['\r'], by decide, rfl⟩
  have hbody : ∀ l ∈ fm.body, IsFullLine l := fun l hl =>
    hfull (List.cons_ne_nil _ _) l (List.mem_cons_of_mem _ hl)
  have hmarker : fm.marker ≠ [] := by rcases fm.marker_eq with h | h <;> rw [h] <;> decide
  have hclosed : linesInclusive (fm.closed ++ fm.rest.flatten) = fm.closed :: fm.rest := by
    obtain ⟨w, hw, -⟩ := fm.exists_append_closing
    rw [closed, hw, List.drop_left, List.append_assoc]
    refine linesInclusive_replace (newline_not_mem_marker fm.marker_eq) hmarker (by decide)
      (by decide) ?_
    rw [← List.append_assoc, ← hw, ← List.flatten_cons, ← hu, flatten_linesInclusive]
  rw [fm.fenceFrontMatter_eq, hopening.linesInclusive_append, linesInclusive_flatten_append hbody,
    hclosed]

theorem maskCode_fenceFrontMatter : maskCode (fenceFrontMatter t) =
    fenceMarker ++ fm.ending ++ maskLines (some codeFence) (fm.body ++ fm.closed :: fm.rest) := by
  have hopens : openedBy? (fenceMarker ++ fm.ending) = some codeFence := by
    rcases fm.ending_eq with he | he <;> rw [he] <;> rfl
  rw [maskCode, fm.linesInclusive_fenceFrontMatter, maskLines_cons, maskLine_none, hopens]
  rfl

theorem closedBy_closed : codeFence.closedBy fm.closed = true := by
  obtain ⟨w, hw, hblank⟩ := fm.exists_append_closing
  have hhead : w.head? ≠ some '\x60' := by
    intro hc
    have hspace := List.all_eq_true.mp hblank _ (List.mem_of_mem_head? hc)
    revert hspace
    decide
  rw [closed, hw, List.drop_left]
  refine closedBy_iff.mpr ⟨3, w, ?_, Nat.le_refl 3, hblank⟩
  exact leadingRun?_append (p := []) (n := 3) (by simp) (.inl rfl) (by decide) hhead

theorem size_closed : size fm.closed = size fm.closing := by
  obtain ⟨w, hw, -⟩ := fm.exists_append_closing
  have hmarker : size fm.marker = size fenceMarker := by
    rcases fm.marker_eq with h | h <;> rw [h] <;> rfl
  rw [closed, hw, List.drop_left, size_append, size_append, hmarker]

/-- Where the body begins and where what follows the front matter does. -/
def bodyStart : Nat := size fm.marker + size fm.ending

def restStart : Nat := fm.bodyStart + size fm.body.flatten + size fm.closing

end FrontMatter

/-- What the masked copy shows of front matter. The body is hidden if and only if no line of it
closes the fence; the first that does is shown, and masking goes on after it as in a text of its
own. -/
structure HidesFrontMatter (t : Text) : Prop where
  hidden (fm : FrontMatter t) :
    slice? (maskCode (fenceFrontMatter t)) fm.bodyStart (fm.bodyStart + size fm.body.flatten) =
      some (blank fm.body.flatten) ↔ ∀ l ∈ fm.body, codeFence.closedBy l = false
  rest (fm : FrontMatter t) : (∀ l ∈ fm.body, codeFence.closedBy l = false) →
    after (maskCode (fenceFrontMatter t)) fm.restStart = maskCode fm.rest.flatten
  leak (fm : FrontMatter t) {pre post : List Text} {l : Text} : fm.body = pre ++ l :: post →
    (∀ x ∈ pre, codeFence.closedBy x = false) → codeFence.closedBy l = true →
    after (maskCode (fenceFrontMatter t)) (fm.bodyStart + size pre.flatten) =
      l ++ maskCode (post ++ fm.closed :: fm.rest).flatten
  other : IsEmpty (FrontMatter t) → fenceFrontMatter t = t
  fenced : CopiesBytes t (fenceFrontMatter t)
  masked : CopiesBytes t (maskCode (fenceFrontMatter t))

namespace FrontMatter

variable (fm : FrontMatter t) {pre post : List Text} {l : Text}

theorem maskCode_of_closedBy (h : fm.body ++ fm.closed :: fm.rest = pre ++ l :: post)
    (hpre : ∀ x ∈ pre, codeFence.closedBy x = false) (hl : codeFence.closedBy l = true) :
    maskCode (fenceFrontMatter t) =
      fenceMarker ++ fm.ending ++ (blank pre.flatten ++ (l ++ maskCode post.flatten)) := by
  have hlines : linesInclusive (fenceFrontMatter t) =
      ((fenceMarker ++ fm.ending) :: (pre ++ [l])) ++ post := by
    rw [fm.linesInclusive_fenceFrontMatter, h, List.cons_append, List.append_assoc]
    rfl
  obtain ⟨u, -, hu, -⟩ := exists_append_of_linesInclusive hlines
  have hpost : linesInclusive post.flatten = post := by
    rw [← hu, flatten_linesInclusive]
  rw [fm.maskCode_fenceFrontMatter, h, maskLines_of_closedBy hpre hl, maskCode, hpost]

theorem size_opening : size (fenceMarker ++ fm.ending) = fm.bodyStart := by
  rw [bodyStart, size_append]
  rcases fm.marker_eq with h | h <;> rw [h] <;> rfl

theorem slice?_ne_of_closedBy (h : fm.body = pre ++ l :: post)
    (hpre : ∀ x ∈ pre, codeFence.closedBy x = false) (hl : codeFence.closedBy l = true) :
    slice? (maskCode (fenceFrontMatter t)) fm.bodyStart (fm.bodyStart + size fm.body.flatten) ≠
      some (blank fm.body.flatten) := by
  intro hslice
  have hsplit : fm.body ++ fm.closed :: fm.rest = pre ++ l :: (post ++ fm.closed :: fm.rest) := by
    rw [h, List.append_assoc, List.cons_append]
  rw [fm.maskCode_of_closedBy hsplit hpre hl] at hslice
  obtain ⟨a, b, hab, ha, -⟩ := slice?_eq_some_iff.mp hslice
  obtain ⟨rfl, hbody⟩ := append_inj_of_size hab (ha.trans fm.size_opening.symm)
  rw [h, List.flatten_append, List.flatten_cons, blank_append, blank_append, List.append_assoc,
    List.append_assoc] at hbody
  have hline := append_inj_of_size (List.append_cancel_left hbody) (size_blank l)
  exact blank_ne_of_closedBy hl hline.1

end FrontMatter

theorem masks_placeholders_fenceFrontMatter (t : Text) :
    Masks placeholders t (fenceFrontMatter t) :=
  (masks_fenceFrontMatter t).mono
    (by simpa using mem_placeholders (c := '\x60') (by decide) (by decide))

theorem hidesFrontMatter (t : Text) : HidesFrontMatter t where
  hidden fm := by
    refine ⟨fun hslice => ?_, fun hbody => ?_⟩
    · cases hfind : fm.body.find? codeFence.closedBy with
      | none => simpa using List.find?_eq_none.mp hfind
      | some l =>
        obtain ⟨hl, pre, post, hsplit, hpre⟩ := List.find?_eq_some_iff_append.mp hfind
        exact absurd hslice (fm.slice?_ne_of_closedBy hsplit (by simpa using hpre) hl)
    · rw [fm.maskCode_of_closedBy rfl hbody fm.closedBy_closed, ← fm.size_opening,
        ← size_blank fm.body.flatten]
      exact slice?_append _ _ _
  rest fm hbody := by
    rw [fm.maskCode_of_closedBy rfl hbody fm.closedBy_closed, FrontMatter.restStart,
      ← fm.size_opening, ← size_blank fm.body.flatten, ← fm.size_closed, ← size_append,
      ← size_append, ← List.append_assoc, ← List.append_assoc]
    exact after_append _ _
  leak fm pre post l hsplit hpre hl := by
    -- the fence ends at the first line that closes it, with the rest of the body behind
    have h : fm.body ++ fm.closed :: fm.rest = pre ++ l :: (post ++ fm.closed :: fm.rest) := by
      rw [hsplit, List.append_assoc, List.cons_append]
    rw [fm.maskCode_of_closedBy h hpre hl, ← fm.size_opening, ← size_blank pre.flatten,
      ← size_append, ← List.append_assoc]
    exact after_append _ _
  other hnone := by
    by_contra h
    exact hnone.false (nonempty_frontMatter h).some
  fenced := copiesBytes_of_masks (masks_placeholders_fenceFrontMatter t)
  masked := by
    have hfence := masks_placeholders_fenceFrontMatter t
    have hmask : Masks placeholders _ (maskCode (fenceFrontMatter t)) :=
      (masks_maskCode _).mono (by simpa using mem_placeholders (c := '*') (by decide) (by decide))
    exact copiesBytes_of_masks (hfence.trans placeholders_areBytes hmask)

/-- Front matter with a block scalar that holds a fence. -/
def listingText : Text := "---\nk: |\n  \x60\x60\x60\nbad: 1\n---\nSo bad.\n".toList

def listingMatter : FrontMatter listingText where
  marker := "---".toList
  ending := ['\n']
  body := ["k: |\n".toList, "  \x60\x60\x60\n".toList, "bad: 1\n".toList]
  closing := "---\n".toList
  rest := ["So bad.\n".toList]
  marker_eq := .inl rfl
  ending_eq := .inl rfl
  lines_eq := by decide
  trimEnd_closing := by decide
  trimEnd_ne := by decide

/-- The fence in the scalar closes the front matter, and its closing marker opens another one, so
metadata is shown and prose is hidden. -/
theorem maskCode_listingText :
    slice? (maskCode (fenceFrontMatter listingText)) listingMatter.bodyStart
        (listingMatter.bodyStart + size listingMatter.body.flatten) =
      some "****\n  \x60\x60\x60\nbad: 1\n".toList ∧
    after (maskCode (fenceFrontMatter listingText)) listingMatter.restStart = "*******\n".toList ∧
    blank listingMatter.body.flatten = "****\n*****\n******\n".toList ∧
    maskCode listingMatter.rest.flatten = "So bad.\n".toList := by
  decide

end Copydesk.Markup
