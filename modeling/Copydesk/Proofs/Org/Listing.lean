import Copydesk.Proofs.Org.Nesting

/-! Source blocks of Org documents. What stands in a source or example block is rendered within one
preformatted element, and a walker that skips such elements comes out of it as it went in, so the
blocks of prose do not depend on it. -/

namespace Copydesk

open Text

namespace Html.Walker

variable {w : Walker} {a r r' x x' : Text}

/-- Documents that a walker reads alike from any state, also when they continue a text. -/
def WalksAlike (w : Walker) (r r' : Text) : Prop :=
  ∀ p s, '<' ∉ p → (tokenize (p ++ r)).foldl w.step s = (tokenize (p ++ r')).foldl w.step s

namespace WalksAlike

theorem refl (w : Walker) (r : Text) : w.WalksAlike r r := fun _ _ _ => rfl

theorem walk_eq (h : w.WalksAlike r r') : w.walk r = w.walk r' := by
  rw [walk, walk, walkTokens, walkTokens]
  exact congrArg (fun s => (w.flush s).blocks.reverse) (h [] {} List.not_mem_nil)

theorem markup (ha : IsMarkup a) (h : w.WalksAlike r r') : w.WalksAlike (a ++ r) (a ++ r') := by
  induction ha with
  | nil => exact h
  | @char c t hc _ ih =>
    intro p s hp
    -- The character joins the text before it, so what follows is read as it was.
    have hpc : '<' ∉ p ++ [c] := by simp [hp, Ne.symm hc]
    have hread := ih (p ++ [c]) s hpc
    rwa [List.append_assoc, List.append_assoc] at hread
  | @tag inner t hinner _ ih =>
    intro p s hp
    rw [List.cons_append, List.cons_append, List.append_assoc, List.append_assoc, List.cons_append,
      List.cons_append, tokenize_append hp (by simp), tokenize_append hp (by simp),
      tokenize_tag hinner, tokenize_tag hinner, List.foldl_append, List.foldl_append,
      List.foldl_cons, List.foldl_cons]
    exact ih [] _ List.not_mem_nil

end WalksAlike

theorem foldl_textTokens {s : State} (h : 0 < s.skipDepth) (t : Text) :
    (textTokens t).foldl w.step s = s := by
  rw [textTokens]
  split
  · rfl
  · exact if_neg fun hnone => by omega

theorem skipDepth_openTag {name : Text} (h : w.skips name = true) (hvoid : name ∉ voidTags)
    (s : State) : 0 < (w.openTag name [] false s).skipDepth := by
  rcases Nat.eq_zero_or_pos s.skipDepth with hskip | hskip
  · rw [openTag_of_not_skipped hskip hvoid, if_pos h]
    exact Nat.one_pos
  · rw [openTag_of_skipped hskip]
    exact Nat.succ_pos _

theorem tokenize_listing (hx : '<' ∉ x) (r : Text) :
    tokenize ("<pre><code>".toList ++ (x ++ ("</code></pre>".toList ++ r))) =
      [.start "pre" [] false, .start "code" [] false] ++ (textTokens x ++
        ([.stop "code", .stop "pre"] ++ tokenize r)) := by
  have hopen (y : Text) : tokenize ("<pre><code>".toList ++ y) =
      [.start "pre" [] false, .start "code" [] false] ++ tokenize y := by
    have hpre : (Token.start "pre" [] false).IsWritable := by decide
    have hcode : (Token.start "code" [] false).IsWritable := by decide
    have hread := tokenize_write_append hpre rfl ((Token.start "code" [] false).write ++ y)
    rwa [tokenize_write_append hcode rfl] at hread
  have hend (y : Text) : tokenize ("</code></pre>".toList ++ y) =
      [.stop "code", .stop "pre"] ++ tokenize y := by
    have hcode : (Token.stop "code").IsWritable := by decide
    have hpre : (Token.stop "pre").IsWritable := by decide
    have hread := tokenize_write_append hcode rfl ((Token.stop "pre").write ++ y)
    rwa [tokenize_write_append hpre rfl] at hread
  rw [hopen, tokenize_append hx (by simp), hend]

/-- The content of a listing leaves no trace in a walker that skips it. -/
theorem WalksAlike.listing (hw : "pre".toList ∈ w.skipped) (hx : '<' ∉ x) (hx' : '<' ∉ x')
    (h : w.WalksAlike r r') : w.WalksAlike
      ("<pre><code>".toList ++ (x ++ ("</code></pre>".toList ++ r)))
      ("<pre><code>".toList ++ (x' ++ ("</code></pre>".toList ++ r'))) := by
  intro p s hp
  have hskips : w.skips "pre" = true := by
    rw [skips, Bool.or_eq_true]
    exact .inl (decide_eq_true hw)
  rw [tokenize_append hp (by simp), tokenize_append hp (by simp), tokenize_listing hx,
    tokenize_listing hx']
  simp only [List.foldl_append]
  generalize (textTokens p).foldl w.step s = s
  have hdepth := skipDepth_openTag hskips (by decide) s
  have hcode : 0 < (([.start "pre" [] false, .start "code" [] false] : List Token).foldl w.step
      s).skipDepth := by
    rw [List.foldl_cons, List.foldl_cons, List.foldl_nil, step, step, openTag_of_skipped hdepth]
    exact Nat.succ_pos _
  rw [foldl_textTokens hcode, foldl_textTokens hcode]
  exact h [] _ List.not_mem_nil

end Html.Walker

namespace Org

open Html Walker

variable {w : Walker} {s : State} {l : Text} {ls ls' inner inner' : List Text}

def opensSource (line : Text) : Bool :=
  let upper := asciiUpper (Text.trim line)
  Text.startsWith upper "#+BEGIN_SRC" || Text.startsWith upper "#+BEGIN_EXAMPLE"

/-- Lines that are the same but for those inside of source and example blocks, each of which goes on
up to the first line that ends it or to the last line. -/
inductive SameOutside : List Text → List Text → Prop
  | nil : SameOutside [] []
  | line {l : Text} {ls ls' : List Text} : opensSource l = false → SameOutside ls ls' →
    SameOutside (l :: ls) (l :: ls')
  | block {l stop : Text} {inner inner' ls ls' : List Text} : opensSource l = true →
    (∀ x ∈ inner, endsSource x = false) → (∀ x ∈ inner', endsSource x = false) →
    endsSource stop = true → SameOutside ls ls' →
    SameOutside (l :: (inner ++ stop :: ls)) (l :: (inner' ++ stop :: ls'))
  | unended {l : Text} {inner inner' : List Text} : opensSource l = true →
    (∀ x ∈ inner, endsSource x = false) → (∀ x ∈ inner', endsSource x = false) →
    SameOutside (l :: inner) (l :: inner')

theorem ofText_eq_beginSource_iff (l : Text) :
    Line.ofText l = .beginSource ↔ opensSource l = true := by
  unfold Line.ofText opensSource
  dsimp only
  split
  · rename_i h
    exact iff_of_true rfl h
  · rename_i h
    refine iff_of_false ?_ h
    repeat' split
    all_goals exact nofun

theorem inSource_renderLine (hs : s.inSource = false) (l : Text) :
    (renderLine s l).2.inSource = opensSource l := by
  have hiff := ofText_eq_beginSource_iff l
  rw [renderLine, if_neg (by simp [hs])]
  cases hopens : opensSource l with
  | true => rw [hiff.mpr hopens]
  | false =>
    have hnot : Line.ofText l ≠ .beginSource := fun hline => by simp [hiff.mp hline] at hopens
    dsimp only
    cases hline : Line.ofText l with
    | beginSource => exact absurd hline hnot
    | _ => exact hs

/-- The lines inside of a block as they are rendered. -/
def listing (inner : List Text) : Text := inner.flatMap fun l => escape l ++ ['\n']

theorem not_mem_listing (inner : List Text) : '<' ∉ listing inner := by
  intro hmem
  obtain ⟨l, -, hl⟩ := List.mem_flatMap.mp hmem
  rcases List.mem_append.mp hl with hl | hl
  · exact (ne_of_mem_escape hl).1 rfl
  · exact absurd (List.mem_singleton.mp hl) (by decide)

theorem renderLines_inner (hs : s.inSource = true) (h : ∀ l ∈ inner, endsSource l = false)
    (ls : List Text) : renderLines s (inner ++ ls) = listing inner ++ renderLines s ls := by
  induction inner with
  | nil => rfl
  | cons l inner ih =>
    obtain ⟨hl, hinner⟩ := List.forall_mem_cons.mp h
    have hline : renderLine s l = (escape l ++ ['\n'], s) := by
      rw [renderLine, if_pos hs, if_neg (by simp [hl])]
    rw [List.cons_append, renderLines_cons, hline, ih hinner, listing, listing, List.flatMap_cons]
    simp only [List.append_assoc]

theorem renderLines_opensSource (hs : s.inSource = false) (hl : opensSource l = true)
    (h : ∀ l ∈ inner, endsSource l = false) (ls : List Text) :
    renderLines s (l :: (inner ++ ls)) = s.flow.close ++ ("<pre><code>".toList ++
      (listing inner ++ renderLines { s with flow := .none, inSource := true } ls)) := by
  have hopen : renderLine s l = (s.flow.close ++ "<pre><code>".toList,
      { s with flow := .none, inSource := true }) := by
    rw [renderLine, if_neg (by simp [hs]), (ofText_eq_beginSource_iff l).mpr hl]
  rw [renderLines_cons, hopen, renderLines_inner (by rfl) h, List.append_assoc]

theorem renderLines_endsSource (hs : s.inSource = true) (hl : endsSource l = true)
    (ls : List Text) : renderLines s (l :: ls) =
      "</code></pre>".toList ++ ('\n' :: renderLines { s with inSource := false } ls) := by
  rw [renderLines_cons, renderLine, if_pos hs, if_pos hl]
  rfl

theorem walksAlike_renderLines (hw : "pre".toList ∈ w.skipped) (h : SameOutside ls ls')
    (hs : s.inSource = false) : w.WalksAlike (renderLines s ls) (renderLines s ls') := by
  induction h generalizing s with
  | nil => exact .refl w _
  | @line l ls ls' hl _ ih =>
    have hsettled : s.IsSettled := fun hin => nomatch hs.symm.trans hin
    exact .markup (nests_renderLine hsettled l 0).markup (ih ((inSource_renderLine hs l).trans hl))
  | @block l stop inner inner' ls ls' hl hinner hinner' hstop _ ih =>
    have hclose := (nests_close s.flow []).markup
    rw [renderLines_opensSource hs hl hinner, renderLines_opensSource hs hl hinner',
      renderLines_endsSource rfl hstop, renderLines_endsSource rfl hstop]
    have hrest := WalksAlike.markup (nests_newline []).markup
      (ih (s := ⟨.none, false, s.inQuote⟩) rfl)
    exact .markup hclose (.listing hw (not_mem_listing inner) (not_mem_listing inner') hrest)
  | @unended l inner inner' hl hinner hinner' =>
    have hclose := (nests_close s.flow []).markup
    have hopen := renderLines_opensSource hs hl hinner []
    have hopen' := renderLines_opensSource hs hl hinner' []
    rw [List.append_nil] at hopen hopen'
    rw [hopen, hopen']
    exact .markup hclose (.listing hw (not_mem_listing inner) (not_mem_listing inner') (.refl w _))

/-- Documents that differ inside of source and example blocks alone have the same blocks of prose
for a walker that skips preformatted elements. -/
theorem walk_render_of_sameOutside {t t' : Text} (w : Walker) (hw : "pre".toList ∈ w.skipped)
    (h : SameOutside (Text.lines t) (Text.lines t')) : w.walk (render t) = w.walk (render t') :=
  (walksAlike_renderLines hw h rfl).walk_eq

def plainListing : Text := "- Item\n#+begin_src c\nx\n#+END_SRC\nText.\n".toList

/-- The same document with code that looks like the end of the listing and like markup. -/
def taggedListing : Text :=
  "- Item\n#+begin_src c\n</code></pre><p>bad &amp;\n#+BEGIN_QUOTE\n#+END_SRC\nText.\n".toList

theorem walk_render_taggedListing :
    SameOutside (Text.lines plainListing) (Text.lines taggedListing) ∧
    (ofTags ["PRE"] ["code"] "org").walk (render plainListing) =
      (ofTags ["PRE"] ["code"] "org").walk (render taggedListing) := by
  have hlines : Text.lines plainListing = ["- Item".toList, "#+begin_src c".toList, "x".toList,
      "#+END_SRC".toList, "Text.".toList] := by
    decide
  have hlines' : Text.lines taggedListing = ["- Item".toList, "#+begin_src c".toList,
      "</code></pre><p>bad &amp;".toList, "#+BEGIN_QUOTE".toList, "#+END_SRC".toList,
      "Text.".toList] := by
    decide
  have hrest : SameOutside ["Text.".toList] ["Text.".toList] := .line (by decide) .nil
  have hcode : ∀ x ∈ ["x".toList], endsSource x = false := by decide
  have hcode' : ∀ x ∈ ["</code></pre><p>bad &amp;".toList, "#+BEGIN_QUOTE".toList],
      endsSource x = false := by decide
  have hopens : opensSource "#+begin_src c" = true := by decide
  have hends : endsSource "#+END_SRC" = true := by decide
  have hsame : SameOutside (Text.lines plainListing) (Text.lines taggedListing) := by
    rw [hlines, hlines']
    exact .line (by decide) (.block hopens hcode hcode' hends hrest)
  exact ⟨hsame, walk_render_of_sameOutside _ (by decide) hsame⟩

end Org

end Copydesk
