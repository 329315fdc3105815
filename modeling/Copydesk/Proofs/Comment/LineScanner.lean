import Copydesk.Comment.Extract
import Copydesk.Proofs.Regex.Erase
import Copydesk.Proofs.Regex.Literal
import Copydesk.Proofs.Text.Line
import Copydesk.Proofs.Text.Split

/-! Comments found line by line stand in the source where they say. Reading a line either ends a
comment on that line or keeps all the lines since one was opened. -/

namespace Copydesk.Comment

open Regex (Avoids exists_slice?_of_find?)
open Text (size slice?_eq_some_iff before_append after_append count_dropWhile)

variable {syn : Syntax} {c : Comment} {cs : List Comment} {ls rest : List Text} {l raw : Text}
variable {line offset : Nat}

def sourceLines (c : Comment) : List Text := Text.splitOn '\n' c.source

/-- The lines hold the source of the comment where it says: the first line after `offset`
characters, the last of several at the beginning of a line, the ones between as whole lines. The
text has a line for each of them. -/
structure StandsIn (ls : List Text) (c : Comment) : Prop where
  one_le_line : 1 ≤ c.line
  first : ∃ before first after, ls[c.line - 1]? = some (before ++ (first ++ after)) ∧
    before.length = c.offset ∧ c.sourceLines.head? = some first
  inner : ∀ i l, 0 < i → i + 1 < c.sourceLines.length → c.sourceLines[i]? = some l →
    ls[c.line - 1 + i]? = some l
  last : ∀ l, 1 < c.sourceLines.length → c.sourceLines.getLast? = some l →
    ∃ after, ls[c.line - 1 + (c.sourceLines.length - 1)]? = some (l ++ after)
  newlines : c.text.count '\n' = c.source.count '\n'

/-- Comments that stand in the lines, none before the given line and each below the last line of the
one before it. -/
inductive StandInTurn (ls : List Text) : Nat → List Comment → Prop
  | nil (n : Nat) : StandInTurn ls n []
  | cons {n : Nat} {c : Comment} {cs : List Comment} : n ≤ c.line → c.StandsIn ls →
    StandInTurn ls (c.line + c.source.count '\n' + 1) cs → StandInTurn ls n (c :: cs)

namespace StandInTurn

variable {m n : Nat}

theorem mono (h : StandInTurn ls n cs) (hmn : m ≤ n) : StandInTurn ls m cs := by
  cases h with
  | nil => exact .nil m
  | cons hn hc hcs => exact .cons (Nat.le_trans hmn hn) hc hcs

theorem forall_mem (h : StandInTurn ls n cs) : ∀ c ∈ cs, n ≤ c.line ∧ c.StandsIn ls := by
  induction h with
  | nil => simp
  | cons hn hc _ ih =>
    refine List.forall_mem_cons.mpr ⟨⟨hn, hc⟩, fun d hd => ?_⟩
    obtain ⟨hline, hstands⟩ := ih d hd
    exact ⟨by omega, hstands⟩

theorem pairwise (h : StandInTurn ls n cs) :
    cs.Pairwise fun c d => c.line + c.source.count '\n' < d.line := by
  induction h with
  | nil => exact .nil
  | cons _ _ hcs ih => exact .cons (fun d hd => (hcs.forall_mem d hd).1) ih

end StandInTurn

section Newlines

/-- Trimming a line from both sides leaves it a line. -/
theorem count_scanned (h : syn.delims.Avoids '\n') (hraw : '\n' ∉ raw) :
    (scanned syn raw line offset).text.count '\n' = raw.count '\n' := by
  have hcount : (trimSpaces (syn.delims.replaceAll raw fun _ => [])).count '\n' = 0 := by
    rw [trimSpaces, count_dropWhile (by decide), h.count_erase, List.count_eq_zero.mpr hraw]
  have hnot : '\n' ∉ (scanned syn raw line offset).text := fun hc =>
    List.count_eq_zero.mp hcount ((Text.dropEndWhile_prefix _ _).subset hc)
  rw [List.count_eq_zero.mpr hnot, List.count_eq_zero.mpr hraw]

theorem count_scannedBlock (h : syn.delims.Avoids '\n') :
    (scannedBlock syn raw line offset).text.count '\n' = raw.count '\n' := by
  generalize ht : trimSpaces (syn.delims.replaceAll raw fun _ => []) = t
  have hcount : t.count '\n' = raw.count '\n' := by
    rw [← ht, trimSpaces, count_dropWhile (by decide), h.count_erase]
  have hlines : ∀ p ∈ (Text.splitOn '\n' t).map fun l => l.dropWhile fun c => c == ' ' || c == '*',
      '\n' ∉ p := by
    intro p hp hc
    obtain ⟨q, hq, rfl⟩ := List.mem_map.mp hp
    exact Text.not_mem_of_mem_splitOn hq ((List.dropWhile_suffix _).subset hc)
  have hne : (Text.splitOn '\n' t).map (fun l => l.dropWhile fun c => c == ' ' || c == '*') ≠ [] :=
    fun h => Text.splitWhere_ne_nil (· == '\n') t (List.map_eq_nil_iff.mp h)
  have hjoin := Text.count_join_of_not_mem hne hlines
  rw [List.length_map, Text.length_splitOn] at hjoin
  rw [← hcount, scannedBlock, ht]
  exact Nat.succ.inj hjoin

end Newlines

section Finds

theorem exists_append_of_find? {r : Regex} {m : Regex.Match} (h : r.find? l = some m) :
    ∃ a s z, l = a ++ (s ++ z) ∧ size a = m.start ∧ m.start + size s = m.stop := by
  obtain ⟨s, hs⟩ := exists_slice?_of_find? h (i := 0) rfl
  obtain ⟨a, z, rfl, ha, hstop⟩ := slice?_eq_some_iff.mp hs
  exact ⟨a, s, z, rfl, ha, hstop⟩

theorem exists_append_of_endsBlock? {e : Regex.Match} (h : endsBlock? syn l = some e) :
    ∃ s z, l = s ++ z ∧ size s = e.stop := by
  obtain ⟨r, -, hfind⟩ := Option.bind_eq_some_iff.mp h
  obtain ⟨a, s, z, rfl, ha, hstop⟩ := exists_append_of_find? hfind
  exact ⟨a ++ s, z, (List.append_assoc a s z).symm, by rw [Text.size_append, ha, hstop]⟩

theorem exists_of_inlineComment? (h : inlineComment? syn l line = some c) :
    ∃ a s z, l = a ++ (s ++ z) ∧ c = scanned syn s line a.length := by
  simp only [inlineComment?, Option.bind_eq_bind, Option.bind_eq_some_iff, Prod.exists,
    Option.pure_def, Option.some.injEq] at h
  obtain ⟨m, hfind, i, j, hgroup, rfl⟩ := h
  obtain ⟨k, -, hk⟩ := List.exists_of_findSome?_eq_some hgroup
  obtain ⟨s, hs⟩ := exists_slice?_of_find? hfind hk
  rw [Text.slice_eq_of_slice? hs]
  obtain ⟨a, z, rfl, rfl, -⟩ := slice?_eq_some_iff.mp hs
  exact ⟨a, s, z, rfl, by rw [before_append]⟩

/-- A block is closed on the line where it is opened, or has the rest of that line, or is none. -/
theorem blockComment_cases (syn : Syntax) (l : Text) (line : Nat) (skipping : Bool) :
    (∃ a s z, l = a ++ (s ++ z) ∧
      blockComment syn l line skipping = .comment (scanned syn s line a.length)) ∨
    (∃ a s, l = a ++ s ∧ blockComment syn l line skipping = .opens ⟨line, a.length, [s]⟩) ∨
    blockComment syn l line skipping = .nothing := by
  unfold blockComment
  split
  · rename_i m hm
    obtain ⟨r, -, hfind⟩ := Option.bind_eq_some_iff.mp hm
    obtain ⟨a, opener, rest, rfl, ha, hstop⟩ := exists_append_of_find? hfind
    have hopener : m.stop - size a = size opener := by omega
    simp only [← ha, before_append, after_append, hopener]
    split
    · rename_i e he
      obtain ⟨body, z, rfl, hbody⟩ := exists_append_of_endsBlock? he
      rw [← hbody, ← Text.size_append, ← List.append_assoc opener, before_append]
      exact .inl ⟨a, opener ++ body, z, rfl, rfl⟩
    · exact .inr (.inl ⟨a, opener ++ rest, rfl, rfl⟩)
  · exact .inr (.inr rfl)

end Finds

/-- The block has all the lines since it was opened, `rest` being left to read. -/
def OpenBlock.Holds (b : OpenBlock) (ls rest : List Text) : Prop :=
  ∃ before a first inner, ls = before ++ (a ++ first) :: (inner ++ rest) ∧
    b = ⟨before.length + 1, a.length, (first :: inner).reverse⟩

/-- The scanner is at the given line of `ls`, with `rest` left to read. -/
structure Reads (ls : List Text) (line : Nat) (opened : Option OpenBlock) (rest : List Text) :
    Prop where
  read : ∃ before, ls = before ++ rest ∧ line = before.length + 1
  holds : ∀ b, opened = some b → b.Holds ls rest

namespace Reads

variable {opened : Option OpenBlock} {b : OpenBlock} {a s z : Text}

theorem next (h : Reads ls line opened (l :: rest)) : Reads ls (line + 1) none rest := by
  obtain ⟨before, hls, rfl⟩ := h.read
  exact ⟨⟨before ++ [l], by simpa using hls, by simp⟩, by simp⟩

theorem opens (h : Reads ls line opened ((a ++ s) :: rest)) :
    Reads ls (line + 1) (some ⟨line, a.length, [s]⟩) rest := by
  obtain ⟨before, hls, rfl⟩ := h.read
  refine ⟨h.next.read, fun b hb => ?_⟩
  exact ⟨before, a, s, [], hls, (Option.some.inj hb).symm⟩

theorem push (h : Reads ls line (some b) (l :: rest)) :
    Reads ls (line + 1) (some { b with lines := l :: b.lines }) rest := by
  obtain ⟨before, a, first, inner, hls, rfl⟩ := h.holds b rfl
  refine ⟨h.next.read, fun d hd => ?_⟩
  refine ⟨before, a, first, inner ++ [l], by simpa using hls, ?_⟩
  rw [← Option.some.inj hd]
  simp

theorem standsIn (h : Reads ls line opened ((a ++ (s ++ z)) :: rest)) (hs : '\n' ∉ s)
    (hsource : c.source = s) (hline : c.line = line) (hoffset : c.offset = a.length)
    (hnewlines : c.text.count '\n' = c.source.count '\n') :
    c.StandsIn ls ∧ c.line + c.source.count '\n' = line := by
  obtain ⟨before, rfl, rfl⟩ := h.read
  have hlines : c.sourceLines = [s] := by rw [sourceLines, hsource, Text.splitOn_of_not_mem hs]
  refine ⟨⟨by omega, ⟨a, s, z, ?_, hoffset.symm, by rw [hlines]; rfl⟩, ?_, ?_, hnewlines⟩, ?_⟩
  · simp [hline]
  · intro i l hi hlen
    rw [hlines, List.length_singleton] at hlen
    omega
  · intro l hlen
    rw [hlines, List.length_singleton] at hlen
    omega
  · rw [hsource, hline, List.count_eq_zero.mpr hs]

theorem standsIn_block (h : Reads ls line (some b) ((s ++ z) :: rest)) (hls : ∀ l ∈ ls, '\n' ∉ l)
    (hsource : c.source = Text.join ['\n'] (s :: b.lines).reverse) (hline : c.line = b.line)
    (hoffset : c.offset = b.offset) (hnewlines : c.text.count '\n' = c.source.count '\n') :
    c.StandsIn ls ∧ c.line + c.source.count '\n' = line := by
  obtain ⟨before, a, first, inner, rfl, rfl⟩ := h.holds b rfl
  obtain ⟨read, hread, rfl⟩ := h.read
  -- an open block has its lines in reverse
  have hpieces : (s :: (first :: inner).reverse).reverse = first :: (inner ++ [s]) := by simp
  simp only [hpieces] at hsource hline hoffset
  have hfirst : '\n' ∉ first := fun hc => hls (a ++ first) (by simp) (List.mem_append_right a hc)
  have hlast : '\n' ∉ s := fun hc => hls (s ++ z) (by simp) (List.mem_append_left z hc)
  have hfree : ∀ p ∈ first :: (inner ++ [s]), '\n' ∉ p :=
    List.forall_mem_cons.mpr ⟨hfirst, List.forall_mem_append.mpr
      ⟨fun p hp => hls p (by simp [hp]), List.forall_mem_singleton.mpr hlast⟩⟩
  have hlines : c.sourceLines = first :: (inner ++ [s]) := by
    rw [sourceLines, hsource, Text.splitOn_join (List.cons_ne_nil _ _) hfree]
  have hlength : c.sourceLines.length = inner.length + 2 := by simp [hlines]
  have hat (i : Nat) : (before ++ (a ++ first) :: (inner ++ (s ++ z) :: rest))[c.line - 1 + i]? =
      ((a ++ first) :: (inner ++ (s ++ z) :: rest))[i]? := by
    rw [hline, Nat.add_sub_cancel, List.getElem?_append_right (by omega), Nat.add_sub_cancel_left]
  refine ⟨⟨by omega, ⟨a, first, [], ?_, hoffset.symm, by rw [hlines]; rfl⟩, ?_, ?_, hnewlines⟩, ?_⟩
  · rw [List.append_nil]
    exact hat 0
  · intro i l hi hi' hl
    obtain ⟨j, rfl⟩ := Nat.exists_eq_succ_of_ne_zero (Nat.ne_of_gt hi)
    have hj : j < inner.length := by omega
    rw [hlines, List.getElem?_cons_succ, List.getElem?_append_left hj] at hl
    rw [hat, List.getElem?_cons_succ, List.getElem?_append_left hj, hl]
  · intro l _ hl
    rw [hlines, List.getLast?_cons, List.getLast?_concat] at hl
    have hl : s = l := by simpa using hl
    refine ⟨z, ?_⟩
    rw [hat, hlength, show inner.length + 2 - 1 = inner.length + 1 from rfl,
      List.getElem?_cons_succ, List.getElem?_append_right (Nat.le_refl _), Nat.sub_self, hl]
    rfl
  -- the block has one newline for every line that was read since it began
  · have hcount := Text.count_join_of_not_mem (List.cons_ne_nil _ _) hfree
    have hread := congrArg List.length hread
    simp only [List.length_append, List.length_cons, List.length_nil] at hcount hread
    rw [← hsource] at hcount
    omega

end Reads

/-- What is read from here on stands in turn, after the lines of a comment that is open. -/
theorem Reads.standInTurn {opened : Option OpenBlock} (h : Reads ls line opened rest)
    (hsyn : syn.delims.Avoids '\n') (hls : ∀ l ∈ ls, '\n' ∉ l) (skipping : Bool) :
    StandInTurn ls ((opened.map OpenBlock.line).getD line)
      (scanFrom syn line opened skipping rest) := by
  induction rest generalizing line opened skipping with
  | nil => cases opened <;> exact .nil _
  | cons l rest ih =>
    have hl : '\n' ∉ l := by
      obtain ⟨before, rfl, -⟩ := h.read
      exact hls l (List.mem_append_right _ List.mem_cons_self)
    have hnone := ih h.next
    cases opened with
    | some b =>
      rw [scanFrom]
      split
      · rename_i e he
        obtain ⟨s, z, rfl, hs⟩ := exists_append_of_endsBlock? he
        rw [← hs, before_append]
        generalize hraw : Text.join ['\n'] (s :: b.lines).reverse = raw
        obtain ⟨hc, hend⟩ := h.standsIn_block hls (c := scannedBlock syn raw b.line b.offset)
          hraw.symm rfl rfl (count_scannedBlock hsyn)
        exact .cons (Nat.le_refl _) hc (by rw [hend]; exact hnone skipping)
      · exact ih h.push skipping
    | none =>
      -- A comment on this line, which the next one begins below.
      have hsingle {a s z : Text} (hasz : l = a ++ (s ++ z)) : StandInTurn ls line
          (scanned syn s line a.length :: scanFrom syn (line + 1) none skipping rest) := by
        subst hasz
        have hs : '\n' ∉ s := fun hc => hl (List.mem_append_right a (List.mem_append_left z hc))
        obtain ⟨hc, hend⟩ := h.standsIn hs (c := scanned syn s line a.length) rfl rfl rfl
          (count_scanned hsyn hs)
        exact .cons (Nat.le_refl _) hc (by rw [hend]; exact hnone skipping)
      rw [scanFrom]
      split
      · rename_i c hc
        obtain ⟨a, s, z, hasz, rfl⟩ := exists_of_inlineComment? hc
        exact hsingle hasz
      · obtain ⟨a, s, z, hasz, heq⟩ | ⟨a, s, rfl, heq⟩ | heq := blockComment_cases syn l line skipping
        · rw [heq]
          exact hsingle hasz
        · rw [heq]
          exact ih h.opens skipping
        · rw [heq]
          exact (hnone _).mono (Nat.le_succ line)

namespace Syntax

theorem avoids_of_ofExtension? {ext : Text} (h : ofExtension? ext = some syn) :
    syn.delims.Avoids '\n' := by
  have hknown : ∀ s ∈ [slashes, hashes, dashes, hashesAndQuotes, hashesAndBegin, dashesAndBrackets,
      stars], s.delims.root.mentions '\n' = false := by decide +kernel
  refine Regex.avoids_of_mentions (hknown syn ?_)
  unfold ofExtension? at h
  split at h <;> cases h
  all_goals simp only [List.mem_cons, true_or, or_true]

theorem avoids_of_ofDelimiters? {start stop : Text} (h : ofDelimiters? start stop = some syn)
    (hstart : '\n' ∉ start) (hstop : '\n' ∉ stop) : syn.delims.Avoids '\n' := by
  unfold ofDelimiters? at h
  simp only at h
  split at h
  · rename_i single s e delims _ _ _ hdelims
    rw [Regex.compile_either] at hdelims
    split at hdelims
    · cases hdelims
    · rw [← Option.some.inj h]
      refine Regex.avoids_of_mentions ?_
      rw [← Except.ok.inj hdelims, Regex.Node.mentions, Bool.or_eq_false_iff,
        ← Bool.not_eq_true, ← Bool.not_eq_true, Regex.Node.mentions_literal,
        Regex.Node.mentions_literal]
      exact ⟨hstart, hstop⟩
  · cases h

end Syntax

theorem standInTurn_scan (hsyn : syn.delims.Avoids '\n') (source : Text) :
    StandInTurn (Text.lines source) 1 (scan syn source) := by
  have hreads : Reads (Text.lines source) 1 none (Text.lines source) :=
    ⟨⟨[], rfl, rfl⟩, by simp⟩
  exact hreads.standInTurn hsyn (fun l => Text.newline_not_mem_of_mem_lines) false

/-- Every comment stands in the source where it says, below the last line of the one before it. -/
theorem scan_standsIn (hsyn : syn.delims.Avoids '\n') (source : Text) :
    (∀ c ∈ scan syn source, c.StandsIn (Text.lines source)) ∧
      (scan syn source).Pairwise fun c d => c.line + c.source.count '\n' < d.line := by
  have hturn := standInTurn_scan hsyn source
  exact ⟨fun c hc => (hturn.forall_mem c hc).2, hturn.pairwise⟩

def notedSource : Text := "x; // a\n  /*\n   * b\n   */ y\n"

theorem standsIn_notedSource : Syntax.slashes.delims.Avoids '\n' ∧
    ((scan .slashes notedSource).map fun c => (c.line, c.offset, String.ofList c.source)) =
      [(1, 3, "// a"), (2, 2, "/*\n   * b\n   */")] ∧
    (∀ c ∈ scan .slashes notedSource, c.StandsIn (Text.lines notedSource)) ∧
    (scan .slashes notedSource).Pairwise fun c d => c.line + c.source.count '\n' < d.line :=
  have hsyn : Syntax.slashes.delims.Avoids '\n' := Regex.avoids_of_mentions (by decide +kernel)
  ⟨hsyn, by decide +kernel, scan_standsIn hsyn notedSource⟩

/-- So do the comments of a file that has no grammar, in a syntax that is known by its extension or
one of delimiters that stand on a line. -/
theorem standInTurn_of_extract? {languages : Registry} {ext source : Text}
    {queries : Option (List Query)} {delimiters : Option (Text × Text)} {e : Extraction}
    (hnone : languages.find? ext = none)
    (hdelims : ∀ start stop, delimiters = some (start, stop) → '\n' ∉ start ∧ '\n' ∉ stop)
    (h : extract? languages ext queries delimiters source = .ok (some e)) :
    StandInTurn (Text.lines source) 1 e.comments := by
  rw [extract?, hnone] at h
  obtain ⟨syn, hsyn, rfl⟩ := Option.map_eq_some_iff.mp (Except.ok.inj h)
  refine standInTurn_scan ?_ source
  rcases Option.or_eq_some_iff.mp hsyn with hsyn | ⟨-, hsyn⟩
  · exact Syntax.avoids_of_ofExtension? hsyn
  · obtain ⟨⟨start, stop⟩, hpair, hsyn⟩ := Option.bind_eq_some_iff.mp hsyn
    obtain ⟨hstart, hstop⟩ := hdelims start stop hpair
    exact Syntax.avoids_of_ofDelimiters? hsyn hstart hstop

end Copydesk.Comment
