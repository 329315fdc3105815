import Copydesk.Markup.Neutralize
import Copydesk.Proofs.Markup.Mask
import Copydesk.Proofs.Regex.Repeat
import Mathlib.Data.List.TakeWhile

/-! The text in which rendered prose is searched for is a masked copy of the source: every pass over
it hides characters behind asterisks, and front matter only turns its markers into backticks. A pass
that masks a group of every match hides one piece after another. -/

namespace Copydesk.Markup

open Regex Text

theorem asterisk_areBytes : AreBytes ['*'] := by
  intro m hm
  rw [List.mem_singleton.mp hm]
  rfl

theorem masks_blank (t : Text) : Masks ['*'] t (blank t) := by
  induction t with
  | nil => exact .nil
  | cons c t ih =>
    rw [blank, List.flatMap_cons, blankChar]
    split
    · rename_i hc
      rw [hc]
      exact .keep '\n' ih
    · rename_i hc
      exact .hide c _ hc List.length_replicate (fun m hm => List.mem_replicate.mp hm |>.2 ▸
        List.mem_cons_self) ih

section Groups

/-- What blanking a group of some matches writes over the text. -/
def groupEdits (group : Nat) (t : Text) (ms : List Match) : List (Nat × Nat × Text) :=
  ms.filterMap fun m => (m.group? group).map fun (a, b) => (a, b, blank (slice t a b))

theorem masks_spliceFrom_groupEdits {t : Text} {group : Nat} {n : Node} {ms : List Match}
    {p q : Point}
    (hms : Successive n q ms) (hp : (Point.ofText t).Reaches p) (hpq : p.Reaches q) :
    Masks ['*'] p.ahead (spliceFrom p.offset p.ahead (groupEdits group t ms)) := by
  induction hms generalizing p with
  | nil => exact .refl _
  | @cons q a b m ms hqa hmatch hms ih =>
    have hm := (Node.matchAt?_spans hmatch).1
    cases hg : m.group? group with
    | none =>
      have hpb := hpq.trans (hqa.trans hm.reaches)
      rw [groupEdits, List.filterMap_cons, hg]
      exact ih hp hpb
    | some e =>
      obtain ⟨s, e⟩ := e
      obtain ⟨x, y, hax, hxy, hyb, rfl, rfl⟩ := hm.group? hg
      -- what lies before the group is kept, the group is blanked, the rest is spliced in turn
      have hpx := (hpq.trans hqa).trans hax
      have hx := hp.trans hpx
      obtain ⟨pre, hpre, hpreo⟩ := hpx
      obtain ⟨piece, hpiece, hslice⟩ := hx.slice? hxy
      have hrest := ih (hx.trans hxy) hyb
      have hyo : y.offset - p.offset = size (pre ++ piece) := by
        obtain ⟨piece', hpiece', hy⟩ := hxy
        have : piece = piece' := List.append_cancel_right (hpiece.symm.trans hpiece')
        rw [size_append, this]
        omega
      have hall : p.ahead = pre ++ piece ++ y.ahead := by rw [hpre, hpiece, List.append_assoc]
      rw [groupEdits, List.filterMap_cons, hg]
      simp only [Option.map_some, spliceFrom, slice_eq_of_slice? hslice]
      have hbefore : before p.ahead (x.offset - p.offset) = pre := by
        rw [show x.offset - p.offset = size pre by omega, hpre, before_append]
      have hafter : after p.ahead (y.offset - p.offset) = y.ahead := by
        rw [hyo, hall, after_append]
      rw [hbefore, hafter, hall]
      exact ((Masks.refl pre).append (masks_blank piece)).append hrest

theorem masks_blankGroup (r : Regex) (group : Nat) (t : Text) :
    Masks ['*'] t (blankGroup r group t) :=
  masks_spliceFrom_groupEdits (findAll_successive r t) (.refl _) (.refl _)

end Groups

theorem masks_neutralizeMarkdown (t : Text) : Masks ['*'] t (neutralizeMarkdown t) := by
  have hfence := masks_blankGroup fenceInfo 2 t
  have href := hfence.trans asterisk_areBytes (masks_blankGroup linkReference 1 _)
  have hdef := href.trans asterisk_areBytes (masks_blankGroup linkDefinition 1 _)
  exact hdef.trans asterisk_areBytes (masks_blankGroup numberedItem 2 _)

theorem masks_neutralizeAsciidoc (t : Text) : Masks ['*'] t (neutralizeAsciidoc t) :=
  (masks_blankGroup sourceAttribute 1 t).trans asterisk_areBytes (masks_blankGroup lineComment 2 _)

section Code

theorem run_append_drop (p : Char → Bool) (t : Text) :
    t.takeWhile p ++ t.drop (t.takeWhile p).length = t :=
  List.prefix_iff_eq_append.mp (List.takeWhile_prefix p)

theorem run_eq_replicate (m : Char) (t : Text) :
    t.takeWhile (· == m) = List.replicate (t.takeWhile (· == m)).length m := by
  refine List.eq_replicate_iff.mpr ⟨rfl, ?_⟩
  intro c hc
  have hmark := List.mem_takeWhile_imp (p := (· == m)) hc
  exact beq_iff_eq.mp hmark

theorem append_of_closingRun? {n fuel : Nat} {t content rest : Text}
    (h : closingRun? n fuel t = some (content, rest)) :
    content ++ (List.replicate n '\x60' ++ rest) = t := by
  induction fuel generalizing t content rest with
  | zero => cases t <;> simp [closingRun?] at h
  | succ fuel ih =>
    cases t with
    | nil => simp [closingRun?] at h
    | cons c t =>
      unfold closingRun? at h
      split at h
      · simp only at h
        split at h
        · rename_i hn
          obtain ⟨rfl, rfl⟩ := Prod.mk.inj (Option.some.inj h)
          rw [List.nil_append, ← hn, ← run_eq_replicate, run_append_drop]
        · obtain ⟨⟨x, y⟩, hxy, hxy'⟩ := Option.map_eq_some_iff.mp h
          obtain ⟨rfl, rfl⟩ := Prod.mk.inj hxy'
          rw [List.append_assoc, ih hxy, run_append_drop]
      · obtain ⟨⟨x, y⟩, hxy, hxy'⟩ := Option.map_eq_some_iff.mp h
        obtain ⟨rfl, rfl⟩ := Prod.mk.inj hxy'
        rw [List.cons_append, ih hxy]

theorem masks_maskSpans (fuel : Nat) (t : Text) : Masks ['*'] t (maskSpans fuel t) := by
  induction fuel generalizing t with
  | zero =>
    rw [maskSpans]
    exact .refl t
  | succ fuel ih =>
    cases t with
    | nil => exact .nil
    | cons c t =>
      unfold maskSpans
      split
      · simp only
        split
        · rename_i content rest hclose
          have hspan := append_of_closingRun? hclose
          -- a closing run is as long as the opening one, so it is the same text
          rw [← run_eq_replicate] at hspan
          have hmask := ((Masks.refl ((c :: t).takeWhile (· == '\x60'))).append
            (masks_blank content)).append
              ((Masks.refl ((c :: t).takeWhile (· == '\x60'))).append (ih rest))
          rwa [List.append_assoc, hspan, run_append_drop, ← List.append_assoc] at hmask
        · have hmask := (Masks.refl ((c :: t).takeWhile (· == '\x60'))).append (ih
            ((c :: t).drop ((c :: t).takeWhile (· == '\x60')).length))
          rwa [run_append_drop] at hmask
      · exact .keep c (ih t)

theorem masks_maskLine (fence : Option Fence) (line : Text) :
    Masks ['*'] line (maskLine fence line).1 := by
  unfold maskLine
  split
  · split
    · exact .refl line
    · exact masks_blank line
  · split
    · exact .refl line
    · exact masks_maskSpans _ line

theorem flatten_linesInclusive (t : Text) : (linesInclusive t).flatten = t := by
  induction t with
  | nil => rfl
  | cons c t ih =>
    unfold linesInclusive
    split
    · rw [List.flatten_cons, ih]
      rfl
    · split
      · rename_i hl
        rw [hl] at ih
        rw [← ih]
        rfl
      · rename_i l ls hl
        rw [hl] at ih
        rw [List.flatten_cons, List.cons_append, ← ih, List.flatten_cons]

theorem masks_maskLines (fence : Option Fence) (ls : List Text) :
    Masks ['*'] ls.flatten (maskLines fence ls) := by
  induction ls generalizing fence with
  | nil => exact .nil
  | cons l ls ih => exact (masks_maskLine fence l).append (ih _)

theorem masks_maskCode (t : Text) : Masks ['*'] t (maskCode t) := by
  have h := masks_maskLines none (linesInclusive t)
  rwa [flatten_linesInclusive] at h

end Code

theorem masks_searchable (f : Format) (t : Text) : Masks ['*'] t (searchable f t) := by
  have hmarkdown := (masks_neutralizeMarkdown t).trans asterisk_areBytes (masks_maskCode _)
  cases f with
  | markdown => exact hmarkdown
  | mdx => exact hmarkdown
  | asciidoc => exact masks_neutralizeAsciidoc t
  | html => exact masks_blankGroup tag 0 t
  | _ => exact .refl t

section FrontMatter

theorem prefix_of_linesInclusive {p t first : Text} {ls : List Text} (hp : p <+: t)
    (hn : '\n' ∉ p) (h : linesInclusive t = first :: ls) : p <+: first := by
  induction p generalizing t first ls with
  | nil => exact List.nil_prefix
  | cons c p ih =>
    obtain ⟨r, rfl⟩ := hp
    have hc : c ≠ '\n' := fun he => hn (he ▸ List.mem_cons_self)
    rw [List.cons_append, linesInclusive, if_neg hc] at h
    split at h
    · rename_i hl
      have hflat := flatten_linesInclusive (p ++ r)
      rw [hl] at hflat
      obtain ⟨rfl, rfl⟩ := List.append_eq_nil_iff.mp hflat.symm
      obtain ⟨rfl, -⟩ := List.cons.inj h
      exact List.prefix_rfl
    · rename_i l ls' hl
      rw [← (List.cons.inj h).1, List.prefix_cons_inj]
      exact ih (List.prefix_append p r) (fun hm => hn (List.mem_cons_of_mem c hm)) hl

theorem masks_fenceMarker {marker t : Text} (hm : marker = "---".toList ∨ marker = "+++".toList)
    (hp : marker <+: t) : Masks ['\x60'] t (fenceMarker ++ t.drop marker.length) := by
  have hmarker : Masks ['\x60'] marker fenceMarker := by
    rcases hm with rfl | rfl <;>
      exact .hide _ ['\x60'] (by decide) rfl (by simp) (.hide _ ['\x60'] (by decide) rfl (by simp)
        (.hide _ ['\x60'] (by decide) rfl (by simp) .nil))
  have h := hmarker.append (Masks.refl (t.drop marker.length))
  rwa [List.prefix_iff_eq_append.mp hp] at h

theorem masks_closeFrontMatter? {marker out : Text} {ls : List Text}
    (hm : marker = "---".toList ∨ marker = "+++".toList)
    (h : closeFrontMatter? marker ls = some out) : Masks ['\x60'] ls.flatten out := by
  induction ls generalizing out with
  | nil => cases h
  | cons l ls ih =>
    unfold closeFrontMatter? at h
    split at h
    · rename_i hl
      have hp : marker <+: l := hl ▸ dropEndWhile_prefix isSpace l
      rw [← Option.some.inj h]
      exact (masks_fenceMarker hm hp).append (.refl ls.flatten)
    · obtain ⟨rest, hrest, rfl⟩ := Option.map_eq_some_iff.mp h
      exact (Masks.refl l).append (ih hrest)

theorem masks_fenceFrontMatter (t : Text) : Masks ['\x60'] t (fenceFrontMatter t) := by
  unfold fenceFrontMatter
  cases hmarker : frontMatterMarker? t with
  | none => exact .refl t
  | some marker =>
    have hm : marker = "---".toList ∨ marker = "+++".toList := by
      simpa using List.mem_of_find?_eq_some hmarker
    have hp : marker <+: t := by
      have hfound := List.find?_some hmarker
      simp only [Bool.or_eq_true, startsWith_iff] at hfound
      rcases hfound with ⟨r, hr⟩ | ⟨r, hr⟩
      · exact ⟨_, (List.append_assoc _ _ _).symm.trans hr⟩
      · exact ⟨_, (List.append_assoc _ _ _).symm.trans hr⟩
    have hn : '\n' ∉ marker := by rcases hm with rfl | rfl <;> decide
    cases hlines : linesInclusive t with
    | nil => exact .refl t
    | cons first ls =>
      simp only [Option.bind_some]
      cases hclose : closeFrontMatter? marker ls with
      | none => exact .refl t
      | some rest =>
        have hfirst := masks_fenceMarker hm (prefix_of_linesInclusive hp hn hlines)
        have h := hfirst.append (masks_closeFrontMatter? hm hclose)
        rwa [← List.flatten_cons, ← hlines, flatten_linesInclusive] at h

end FrontMatter

section Passes

/-- Every match masks, as its group, a piece that may be hidden after what precedes it. -/
def Hides (n : Node) (group : Nat) (may : Text → Text → Prop) : Prop :=
  ∀ pre t m q, n.matchAt? (.between pre t) = some (m, q) → ∃ x w u v,
    t = x ++ (w ++ (u ++ v)) ∧ m.group? group = some (size (pre ++ x), size (pre ++ x ++ w)) ∧
      q = .between (pre ++ x ++ w ++ u) v ∧ may (pre ++ x) w

variable {n : Node} {group : Nat} {may : Text → Text → Prop} {motive : Text → Prop}

theorem spliceFrom_edit (a y w v : Text) (more : List (Nat × Nat × Text)) :
    spliceFrom (size a) (y ++ (w ++ v)) ((size (a ++ y), size (a ++ y ++ w),
      blank (slice (a ++ (y ++ (w ++ v))) (size (a ++ y)) (size (a ++ y ++ w)))) :: more) =
      y ++ (blank w ++ spliceFrom (size (a ++ y ++ w)) v more) := by
  have hslice := slice_between (a ++ y) w v
  rw [List.append_assoc] at hslice
  rw [hslice, spliceFrom_piece]

theorem spliceFrom_induction (h : Hides n group may)
    (step : ∀ a w b, may a w → motive (a ++ (w ++ b)) → motive (a ++ (blank w ++ b)))
    (fuel : Nat) (last : Option Nat) (a y t : Text) (base : motive (a ++ (y ++ t))) :
    motive (a ++ spliceFrom (size a) (y ++ t) (groupEdits group (a ++ (y ++ t))
      (n.searchAll fuel last (.between (a ++ y) t)))) := by
  -- `a` has been spliced, `y` was passed over since the last edit and `t` is yet to be searched
  induction fuel generalizing last a y t with
  | zero => exact base
  | succ fuel ih =>
    rw [Node.searchAll]
    split
    · exact base
    · rename_i m q hsearch
      split
      · cases t with
        | nil => exact base
        | cons c t =>
          simp only [Point.next?_between]
          have hnext := ih last a (y ++ [c]) t
          simp only [List.append_assoc, List.singleton_append] at hnext base ⊢
          exact hnext base
      · obtain ⟨z, u, rfl, hmatch⟩ := exists_of_search hsearch
        obtain ⟨x, w, s, v, rfl, hgroup, rfl, hmay⟩ := h _ _ _ _ hmatch
        have hnext := ih (some m.stop) (a ++ (y ++ (z ++ x)) ++ w) s v
        have hedit := spliceFrom_edit a (y ++ (z ++ x)) w (s ++ v)
        have hstep := step (a ++ (y ++ (z ++ x))) w
        rw [groupEdits, List.filterMap_cons, hgroup]
        simp only [Option.map_some, List.append_assoc] at hnext hedit hstep base hmay ⊢
        rw [hedit]
        exact hstep _ hmay (hnext base)

/-- What is true of a text and stays so when a piece is hidden is true after the pass. -/
theorem blankGroup_induction {r : Regex} (h : Hides r.root group may)
    (step : ∀ a w b, may a w → motive (a ++ (w ++ b)) → motive (a ++ (blank w ++ b)))
    {t : Text} (base : motive t) : motive (blankGroup r group t) :=
  spliceFrom_induction h step (2 * t.length + 2) none [] [] t base

end Passes

end Copydesk.Markup
