import Copydesk.Comment.Basic
import Copydesk.Proofs.Text.Line
import Copydesk.Proofs.Text.Split
import Mathlib.Data.List.DropRight
import Mathlib.Data.List.Forall2
import Mathlib.Data.List.SplitBy

/-! Comments are merged run by run. A run goes on as long as each of its comments continues the one
before, and what a run is merged to ends where its last comment does, so that nothing is left to
merge. -/

namespace Copydesk.Comment

open Text

variable {c d r s : Comment} {cs run rest before after : List Comment}

/-- Whether `d` continues `c`: both are line comments, and `d` begins on the line after the last one
of `c`, in the same column. -/
def continues (c d : Comment) : Bool := goesOn c.ending c d

theorem continues_iff : continues c d = true ↔
    c.isBlock = false ∧ d.isBlock = false ∧ c.endLine + 1 = d.line ∧ c.offset = d.offset := by
  simp only [continues, goesOn, ending, Bool.and_eq_true, Bool.not_eq_true', beq_iff_eq]
  tauto

theorem isBlock_congr (h : c.scope = d.scope) : c.isBlock = d.isBlock := by
  rw [isBlock, isBlock, h]

theorem isBlock_iff : c.isBlock = true ↔ ".block".toList <:+ c.scope := by
  rw [isBlock, endsWith, Option.isSome_iff_exists]
  exact exists_congr fun _ => beforeSuffix?_eq_some_iff.trans eq_comm

/-- Two line comments, the second on the line after the last one of the first and in the same
column. -/
def Follows (c d : Comment) : Prop :=
  ¬".block".toList <:+ c.scope ∧ ¬".block".toList <:+ d.scope ∧
    d.line = c.line + c.text.count '\n' + 1 ∧ d.offset = c.offset

theorem follows_iff : Follows c d ↔ continues c d = true := by
  rw [continues_iff, Follows, ← isBlock_iff, ← isBlock_iff, Bool.not_eq_true, Bool.not_eq_true,
    eq_comm (a := d.line), eq_comm (a := d.offset), endLine]

/-- Comments each of which continues the one before it. -/
abbrev IsRun (run : List Comment) : Prop := run.IsChain fun c d => continues c d = true

theorem IsRun.eq_nil_of_isBlock (h : IsRun (c :: rest)) (hc : c.isBlock = true) : rest = [] := by
  cases rest with
  | nil => rfl
  | cons d rest =>
    rw [(continues_iff.mp (List.isChain_cons_cons.mp h).1).1] at hc
    cases hc

theorem IsRun.eq_singleton_of_isBlock (h : IsRun run) (hc : c ∈ run) (hblock : c.isBlock = true) :
    run = [c] := by
  obtain ⟨before, after, rfl⟩ := List.append_of_mem hc
  have hlast : IsRun (c :: after) := h.right_of_append
  rw [hlast.eq_nil_of_isBlock hblock] at h ⊢
  rcases List.eq_nil_or_concat before with rfl | ⟨before, b, rfl⟩
  · rfl
  · rw [List.concat_eq_append, List.append_assoc] at h
    have hcontinues := (List.isChain_pair.mp h.right_of_append)
    rw [(continues_iff.mp hcontinues).2.1] at hblock
    cases hblock

theorem IsRun.isBlock_eq (h : IsRun run) (hc : c ∈ run) (hd : d ∈ run) :
    c.isBlock = d.isBlock := by
  cases hcb : c.isBlock with
  | true =>
    rw [h.eq_singleton_of_isBlock hc hcb, List.mem_singleton] at hd
    rw [hd, hcb]
  | false =>
    by_contra hdb
    have hblock : d.isBlock = true := (Bool.not_eq_false _).mp (Ne.symm hdb)
    rw [h.eq_singleton_of_isBlock hd hblock, List.mem_singleton] at hc
    rw [hc, hblock] at hcb
    cases hcb

section Loop

/-- What the loop makes of a run while it may go on. The text of the first comment is as it was. -/
def draft? : List Comment → Option Comment
  | [] => none
  | c :: rest => some (rest.foldl extend c)

theorem foldl_extend (c : Comment) (rest : List Comment) : rest.foldl extend c =
    { c with
      text := join ['\n'] (c.text :: rest.map fun d => trimSpaces d.text)
      source := join ['\n'] (c.source :: rest.map (·.source)) } := by
  induction rest generalizing c with
  | nil => rw [List.foldl_nil, List.map_nil, List.map_nil, join_singleton, join_singleton]
  | cons d rest ih =>
    have hadded (p q : Text) (ps : List Text) :
        join ['\n'] ((p ++ '\n' :: q) :: ps) = join ['\n'] (p :: q :: ps) := by
      cases ps with
      | nil => rw [join_cons_cons, join_singleton, join_singleton]
      | cons x xs => rw [join_cons_cons, join_cons_cons, join_cons_cons, List.append_assoc,
          List.cons_append]
    rw [List.foldl_cons, ih, List.map_cons, List.map_cons, ← hadded, ← hadded]
    rfl

theorem isBlock_foldl_extend (c : Comment) (rest : List Comment) :
    (rest.foldl extend c).isBlock = c.isBlock := by
  rw [foldl_extend]
  rfl

theorem draft?_append (hdraft : draft? run = some r) (c : Comment) :
    draft? (run ++ [c]) = some (extend r c) := by
  cases run with
  | nil => cases hdraft
  | cons first rest =>
    obtain rfl := Option.some.inj hdraft
    rw [List.cons_append, draft?, List.foldl_append, List.foldl_cons, List.foldl_nil]

theorem IsRun.isBlock_draft (h : IsRun run) (hdraft : draft? run = some r) (hc : c ∈ run) :
    r.isBlock = c.isBlock := by
  cases run with
  | nil => cases hdraft
  | cons first rest =>
    obtain rfl := Option.some.inj hdraft
    rw [isBlock_foldl_extend, h.isBlock_eq List.mem_cons_self hc]

/-- The loop has the runs that have ended and the one that may go on, each as it is merged. -/
theorem reverse_joined_foldl (cs : List Comment) (a : Comment) (g : List Comment)
    (gs : List (List Comment)) (hrun : IsRun (a :: g).reverse) :
    (cs.foldl Merging.add
        ⟨((a :: g).reverse :: gs).filterMap draft?, some a.ending⟩).joined.reverse =
      (List.splitBy.loop continues cs a g gs).filterMap draft? := by
  -- `a :: g` is the run that may go on, in reverse, and `gs` are those that have ended
  induction cs generalizing a g gs with
  | nil => rw [List.splitBy.loop, List.foldl_nil, List.filterMap_reverse]
  | cons c cs ih =>
    obtain ⟨r, hr⟩ : ∃ r, draft? (a :: g).reverse = some r := by
      obtain ⟨first, rest, hfirst⟩ := List.exists_cons_of_ne_nil (l := (a :: g).reverse) (by simp)
      exact ⟨_, congrArg draft? hfirst⟩
    have hkind : r.isBlock = a.isBlock :=
      hrun.isBlock_draft hr (List.mem_reverse.mpr List.mem_cons_self)
    have hgoes : goesOn a.ending r c = continues a c := by rw [continues, goesOn, goesOn, hkind]
    rw [List.foldl_cons, List.splitBy.loop, List.filterMap_cons_some hr, Merging.add]
    cases hc : continues a c with
    | true =>
      have hmore : IsRun (c :: a :: g).reverse := by
        rw [List.reverse_cons]
        refine hrun.append (List.isChain_singleton c) ?_
        intro x hx y hy
        rw [List.getLast?_reverse, List.head?_cons, Option.mem_some_iff] at hx
        obtain rfl := hx
        obtain rfl := Option.mem_some_iff.mp hy
        exact hc
      have hnext := ih c (a :: g) gs hmore
      have hdraft := draft?_append hr c
      rw [← List.reverse_cons] at hdraft
      rw [List.filterMap_cons_some hdraft] at hnext
      simp only [hgoes, hc, if_true]
      exact hnext
    | false =>
      have hnext := ih c [] ((a :: g).reverse :: gs) (List.isChain_singleton c)
      have hone : draft? [c].reverse = some c := rfl
      rw [List.filterMap_cons_some hone, List.filterMap_cons_some hr] at hnext
      simp only [hgoes, hc, Bool.false_eq_true, if_false]
      exact hnext

/-- Merging makes one comment of each run of the list. -/
theorem coalesce_eq (cs : List Comment) :
    coalesce cs = ((cs.splitBy continues).filterMap draft?).map trimmed := by
  rw [coalesce, ← List.map_reverse]
  cases cs with
  | nil => rfl
  | cons c cs =>
    have hloop := reverse_joined_foldl cs c [] [] (List.isChain_singleton c)
    exact congrArg (List.map trimmed) hloop

end Loop

/-- The text of comments that come before another one, each with the end of its last line. -/
def textBefore (cs : List Comment) : Text :=
  (cs.map fun c => trimSpaces c.text).flatMap (· ++ ['\n'])

/-- The comment that a run is merged to: its place and scope are those of the first comment, and
each comment's part of the text begins on the comment's own line. -/
structure Merges (run : List Comment) (r : Comment) : Prop where
  first : ∃ c rest, run = c :: rest ∧ r.line = c.line ∧ r.offset = c.offset ∧ r.scope = c.scope
  source : r.source = join ['\n'] (run.map (·.source))
  text : r.text = join ['\n'] (run.map fun c => trimSpaces c.text)
  alone : ∀ c ∈ run, ".block".toList <:+ c.scope → run = [c]
  aligned : ∀ before c after, run = before ++ c :: after →
    (∃ rest, r.text = textBefore before ++ (trimSpaces c.text ++ rest)) ∧
      c.line = r.line + (textBefore before).count '\n'
  singleLines : (∀ c ∈ run, '\n' ∉ c.text) → ∀ k c, run[k]? = some c →
    (splitOn '\n' r.text)[k]? = some (trimSpaces c.text) ∧ c.line = r.line + k

/-- A list of comments falls into runs that are merged, and nothing is left to merge. -/
structure IsCoalesced (cs rs : List Comment) : Prop where
  merges : ∃ runs, runs.flatten = cs ∧ (∀ run ∈ runs, run.IsChain Follows) ∧
    List.Forall₂ Merges runs rs
  complete : rs.IsChain fun r s => ¬Follows r s
  stable : coalesce rs = rs

theorem trimSpaces_append_newline (t u : Text) :
    trimSpaces (t ++ '\n' :: u) = trimSpaces t ++ '\n' :: u := by
  induction t with
  | nil => rfl
  | cons x t ih =>
    simp only [trimSpaces, List.cons_append, List.dropWhile_cons] at ih ⊢
    split
    · exact ih
    · rfl

theorem trimSpaces_join (t : Text) (ts : List Text) :
    trimSpaces (join ['\n'] (t :: ts)) = join ['\n'] (trimSpaces t :: ts) := by
  cases ts with
  | nil => rw [join_singleton, join_singleton]
  | cons u us => rw [join_cons_cons, join_cons_cons, trimSpaces_append_newline]

theorem count_trimSpaces (t : Text) : (trimSpaces t).count '\n' = t.count '\n' :=
  count_dropWhile (by decide) t

theorem textBefore_cons (c : Comment) (cs : List Comment) :
    textBefore (c :: cs) = trimSpaces c.text ++ '\n' :: textBefore cs := by
  rw [textBefore, List.map_cons, List.flatMap_cons, List.append_assoc]
  rfl

theorem count_textBefore_of_not_mem (h : ∀ c ∈ cs, '\n' ∉ c.text) :
    (textBefore cs).count '\n' = cs.length := by
  induction cs with
  | nil => rfl
  | cons c cs ih =>
    obtain ⟨hc, hcs⟩ := List.forall_mem_cons.mp h
    rw [textBefore_cons, List.count_append, count_trimSpaces, List.count_eq_zero.mpr hc,
      List.count_cons_self, ih hcs, Nat.zero_add, List.length_cons]

theorem IsRun.line_eq (h : IsRun (c :: rest)) (hsplit : c :: rest = before ++ d :: after) :
    d.line = c.line + (textBefore before).count '\n' ∧ d.offset = c.offset := by
  induction before generalizing c rest with
  | nil =>
    obtain ⟨rfl, -⟩ := List.cons.inj hsplit
    exact ⟨rfl, rfl⟩
  | cons b before ih =>
    rw [List.cons_append] at hsplit
    obtain ⟨rfl, hrest⟩ := List.cons.inj hsplit
    obtain ⟨x, more, hx⟩ : ∃ x more, before ++ d :: after = x :: more :=
      List.exists_cons_of_ne_nil (List.append_ne_nil_of_right_ne_nil before (List.cons_ne_nil d _))
    rw [hrest, hx] at h
    obtain ⟨hcontinues, hmore⟩ := List.isChain_cons_cons.mp h
    obtain ⟨-, -, hline, hoffset⟩ := continues_iff.mp hcontinues
    obtain ⟨hline', hoffset'⟩ := ih hmore hx.symm
    refine ⟨?_, hoffset'.trans hoffset.symm⟩
    rw [hline', ← hline, endLine, textBefore_cons, List.count_append, count_trimSpaces,
      List.count_cons_self]
    omega

theorem exists_join_cons (p : Text) (ps : List Text) :
    ∃ rest, join ['\n'] (p :: ps) = p ++ rest := by
  cases ps with
  | nil => exact ⟨[], by rw [join_singleton, List.append_nil]⟩
  | cons q ps => exact ⟨_, join_cons_cons '\n' p q ps⟩

theorem join_trimSpaces_append (before : List Comment) (d : Comment) (after : List Comment) :
    ∃ rest, join ['\n'] ((before ++ d :: after).map fun c => trimSpaces c.text) =
      textBefore before ++ (trimSpaces d.text ++ rest) := by
  obtain ⟨rest, hrest⟩ :=
    exists_join_cons (trimSpaces d.text) (after.map fun c => trimSpaces c.text)
  refine ⟨rest, ?_⟩
  rw [List.map_append, List.map_cons, join_append '\n' _ (List.cons_ne_nil _ _), hrest, textBefore]

theorem merges_trimmed (h : IsRun run) (hdraft : draft? run = some r) : Merges run (trimmed r) := by
  cases run with
  | nil => cases hdraft
  | cons c rest =>
    obtain rfl := Option.some.inj hdraft
    have htext : (trimmed (rest.foldl extend c)).text =
        join ['\n'] ((c :: rest).map fun d => trimSpaces d.text) := by
      rw [foldl_extend, trimmed, trimSpaces_join, List.map_cons]
    have hline : (trimmed (rest.foldl extend c)).line = c.line := by rw [foldl_extend]; rfl
    have haligned {before d after} (hsplit : c :: rest = before ++ d :: after) :=
      (h.line_eq hsplit).1
    constructor
    case first => exact ⟨c, rest, rfl, hline, by rw [foldl_extend]; rfl, by rw [foldl_extend]; rfl⟩
    case source => rw [foldl_extend]; rfl
    case text => exact htext
    case alone =>
      exact fun d hd hblock => h.eq_singleton_of_isBlock hd (isBlock_iff.mpr hblock)
    case aligned =>
      intro before d after hsplit
      refine ⟨?_, hline ▸ haligned hsplit⟩
      rw [htext, hsplit]
      exact join_trimSpaces_append before d after
    case singleLines =>
      intro hsingle k d hk
      have hne : (c :: rest).map (fun d => trimSpaces d.text) ≠ [] := List.cons_ne_nil _ _
      -- each trimmed text is then one line of the whole
      have hpieces : ∀ p ∈ (c :: rest).map fun d => trimSpaces d.text, '\n' ∉ p := by
        intro p hp
        obtain ⟨x, hx, rfl⟩ := List.mem_map.mp hp
        exact fun hmem => hsingle x hx ((List.dropWhile_sublist _).mem hmem)
      rw [htext, splitOn_join hne hpieces, List.getElem?_map, hk]
      refine ⟨rfl, ?_⟩
      obtain ⟨hlt, hd⟩ := List.getElem?_eq_some_iff.mp hk
      have hsplit : c :: rest = (c :: rest).take k ++ d :: (c :: rest).drop (k + 1) := by
        rw [← hd, List.getElem_cons_drop, List.take_append_drop]
      rw [hline, haligned hsplit, count_textBefore_of_not_mem
        fun x hx => hsingle x (List.mem_of_mem_take hx), List.length_take_of_le hlt.le]

theorem Merges.ending_eq (hmerges : Merges run r) (h : IsRun run) (hlast : run.getLast? = some d) :
    r.ending = d.ending := by
  obtain ⟨before, rfl⟩ := List.getLast?_eq_some_iff.mp hlast
  obtain ⟨c, rest, hfirst, hline, hoffset, hscope⟩ := hmerges.first
  obtain ⟨hdline, hdoffset⟩ := IsRun.line_eq (hfirst ▸ h) hfirst.symm
  have hkind : r.isBlock = d.isBlock := by
    have hc : c ∈ before ++ [d] := hfirst ▸ List.mem_cons_self
    have hd : d ∈ before ++ [d] := List.mem_append_right before List.mem_cons_self
    rw [isBlock_congr hscope, h.isBlock_eq hc hd]
  have hend : r.endLine = d.endLine := by
    rw [endLine, endLine, hmerges.text, List.map_append, List.map_singleton,
      join_append '\n' _ (List.cons_ne_nil _ _), join_singleton, List.count_append,
      count_trimSpaces, hdline, hline, ← textBefore, Nat.add_assoc]
  rw [ending, ending, hend, hoffset, hdoffset, hkind]

/-- Whether runs could be merged is told by the comments where they meet. -/
theorem Merges.continues_eq {next : List Comment} (hmerges : Merges run r) (h : IsRun run)
    (hlast : run.getLast? = some c) (hnext : Merges next s) (hhead : next.head? = some d) :
    continues r s = continues c d := by
  obtain ⟨d', rest, rfl, hline, hoffset, hscope⟩ := hnext.first
  obtain rfl := Option.some.inj hhead
  obtain ⟨hend, hcolumn, hkind⟩ := Ending.mk.inj (hmerges.ending_eq h hlast)
  rw [Bool.eq_iff_iff, continues_iff, continues_iff, hend, hcolumn, Bool.not_inj hkind, hline,
    hoffset, isBlock_congr hscope]

theorem complete_of_forall₂ {runs : List (List Comment)} {rs : List Comment}
    (h : List.Forall₂ Merges runs rs) (hruns : ∀ run ∈ runs, IsRun run)
    (hbetween : runs.IsChain fun a b => ∃ ha hb, continues (a.getLast ha) (b.head hb) = false) :
    rs.IsChain fun r s => continues r s = false := by
  induction h with
  | nil => exact .nil
  | cons hmerges hrest ih =>
    obtain ⟨hrun, hruns⟩ := List.forall_mem_cons.mp hruns
    cases hrest with
    | nil => exact .singleton _
    | cons hnext hrest =>
      obtain ⟨⟨ha, hb, hfalse⟩, hbetween⟩ := List.isChain_cons_cons.mp hbetween
      refine List.isChain_cons_cons.mpr ⟨?_, ih hruns hbetween⟩
      rw [hmerges.continues_eq hrun (List.getLast?_eq_some_getLast ha) hnext
        (List.head?_eq_some_head hb), hfalse]

theorem forall₂_merges {runs : List (List Comment)} (hne : [] ∉ runs)
    (hruns : ∀ run ∈ runs, IsRun run) :
    List.Forall₂ Merges runs ((runs.filterMap draft?).map trimmed) := by
  induction runs with
  | nil => exact .nil
  | cons run runs ih =>
    obtain ⟨hrun, hmore⟩ := List.forall_mem_cons.mp hruns
    obtain ⟨hnil, hrest⟩ := not_or.mp (mt List.mem_cons.mpr hne)
    obtain ⟨c, rest, rfl⟩ := List.exists_cons_of_ne_nil (Ne.symm hnil)
    exact .cons (merges_trimmed hrun rfl) (ih hrest hmore)

theorem isRun_of_mem_splitBy (h : run ∈ cs.splitBy continues) : IsRun run :=
  List.isChain_of_mem_splitBy h

theorem merges_coalesce (cs : List Comment) :
    List.Forall₂ Merges (cs.splitBy continues) (coalesce cs) := by
  rw [coalesce_eq]
  exact forall₂_merges (List.nil_notMem_splitBy continues cs) fun run => isRun_of_mem_splitBy

theorem trimmed_trimmed (c : Comment) : trimmed (trimmed c) = trimmed c :=
  congrArg (fun t => { c with text := t }) (List.dropWhile_idempotent (· == ' ') c.text)

theorem splitBy_of_isChain_not (h : cs.IsChain fun c d => continues c d = false) :
    cs.splitBy continues = cs.map ([·]) := by
  refine List.splitBy_eq_iff.mpr ⟨?_, ?_, ?_, ?_⟩
  · rw [← List.flatMap_def, List.flatMap_singleton']
  · simp
  · intro run hrun
    obtain ⟨c, -, rfl⟩ := List.mem_map.mp hrun
    exact .singleton c
  · exact (List.isChain_map _).mpr (h.imp fun c d hcd => ⟨by simp, by simp, hcd⟩)

/-- Where no comment continues the one before it, none is merged. -/
theorem coalesce_of_isChain_not (h : cs.IsChain fun c d => continues c d = false) :
    coalesce cs = cs.map trimmed := by
  rw [coalesce_eq, splitBy_of_isChain_not h, List.filterMap_map]
  exact congrArg (List.map trimmed) List.filterMap_some

/-- Every list of comments is merged run by run, and completely. -/
theorem isCoalesced_coalesce (cs : List Comment) : IsCoalesced cs (coalesce cs) := by
  have hmerges := merges_coalesce cs
  have hcomplete : (coalesce cs).IsChain fun r s => continues r s = false :=
    complete_of_forall₂ hmerges (fun run => isRun_of_mem_splitBy)
      (List.isChain_getLast_head_splitBy continues cs)
  refine ⟨⟨cs.splitBy continues, List.flatten_splitBy continues cs, fun run hrun => ?_, hmerges⟩,
    hcomplete.imp fun r s h => ?_, ?_⟩
  · exact (isRun_of_mem_splitBy hrun).imp fun c d => follows_iff.mpr
  · rwa [follows_iff, Bool.not_eq_true]
  · rw [coalesce_of_isChain_not hcomplete, coalesce_eq, List.map_map]
    exact List.map_congr_left fun c _ => trimmed_trimmed c

/-- Two lines in one column, a comment in another column, and a block on the line after it. -/
def mixedNotes : List Comment :=
  [⟨" One", "// One", 1, 0, "text.comment.line"⟩, ⟨"  two", "//  two", 2, 0, "text.comment.line"⟩,
    ⟨" aside", "// aside", 3, 4, "text.comment.line"⟩,
    ⟨"a\nb", "/*a\nb*/", 4, 4, "text.comment.block"⟩]

theorem isCoalesced_mixedNotes :
    coalesce mixedNotes =
        [⟨"One\ntwo", "// One\n//  two", 1, 0, "text.comment.line"⟩,
          ⟨"aside", "// aside", 3, 4, "text.comment.line"⟩,
          ⟨"a\nb", "/*a\nb*/", 4, 4, "text.comment.block"⟩] ∧
      IsCoalesced mixedNotes (coalesce mixedNotes) :=
  ⟨by decide, isCoalesced_coalesce mixedNotes⟩

end Copydesk.Comment
