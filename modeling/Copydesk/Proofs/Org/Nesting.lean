import Copydesk.Org
import Copydesk.Proofs.Html.Nesting
import Copydesk.Proofs.Regex.Erase
import Copydesk.Proofs.Text.Decimal

/-! Tags of rendered Org documents. Every line of a document is rendered as whole tags, and each end
tag closes the innermost element; what stays open at the end are the quotes that begin within an
open quote, since only one end tag is written for them. -/

namespace Copydesk.Org

open Html Text

variable {s : State} {l t : Text} {ls : List Text}

section Pieces

theorem infix_groupText? (m : Regex.Match) (i : Nat) (t : Text) :
    (m.groupText? i t).getD [] <:+: t := by
  rw [Regex.Match.groupText?]
  cases m.group? i with
  | none => exact List.nil_infix
  | some p => exact infix_slice t p.1 p.2

theorem nests_escape (t : Text) (stack : List Text) : Nests (escape t) stack stack :=
  .of_not_mem (fun hmem => (ne_of_mem_escape hmem).1 rfl) stack

theorem nests_inlineHtml (t : Text) (stack : List Text) : Nests (inlineHtml t) stack stack := by
  have hplain {a u : Text} (ha : a <:+: escape u) (stack : List Text) : Nests a stack stack :=
    .of_not_mem (fun hmem => (ne_of_mem_escape (ha.subset hmem)).1 rfl) stack
  unfold inlineHtml
  refine Regex.replaceAll_induction (fun a b ha hb => ha.append hb) (fun a ha => hplain ha stack)
    fun m => ?_
  have hname : Token.IsTagName "code" := by decide
  rw [List.append_assoc]
  exact .element hname (by decide) (hplain (infix_groupText? m 1 _) _)

theorem isTagName_headingTag (level : Nat) : Token.IsTagName (headingTag level) := by
  refine ⟨⟨'h', rfl, by decide⟩, fun c hc => ?_, fun hmem => ?_⟩
  · rcases List.mem_cons.mp hc with rfl | hc
    · exact .inl (by decide)
    · exact .inr (isDigit_of_mem_ofNat hc)
  · simp [rawTextTags, headingTag] at hmem

theorem headingTag_not_mem_voidTags (level : Nat) : headingTag level ∉ voidTags := by
  intro hmem
  have hrule : Text.ofNat level = ['r'] := by simpa [voidTags, headingTag] using hmem
  have hdigit : 'r'.isDigit = true := isDigit_of_mem_ofNat (hrule ▸ List.mem_cons_self)
  cases hdigit

end Pieces

def Flow.elements : Flow → List Text
  | .none => []
  | .paragraph => ["p"]
  | .list => ["ul"]

def State.elements (s : State) : List Text :=
  s.flow.elements ++ ((if s.inSource then ["code".toList, "pre".toList] else []) ++
    if s.inQuote then ["blockquote".toList] else [])

/-- No paragraph or list is open within a source block. -/
def State.IsSettled (s : State) : Prop := s.inSource = true → s.flow = .none

/-- A quote begins within an open quote. -/
def Strays (s : State) (l : Text) : Prop :=
  s.inSource = false ∧ s.inQuote = true ∧ Line.ofText l = .beginQuote

instance (s : State) (l : Text) : Decidable (Strays s l) :=
  inferInstanceAs (Decidable (s.inSource = false ∧ s.inQuote = true ∧ Line.ofText l = .beginQuote))

def strays (s : State) (l : Text) : Nat := if Strays s l then 1 else 0

def countStrays : State → List Text → Nat
  | _, [] => 0
  | s, l :: ls => countStrays (renderLine s l).2 ls + strays s l

/-- Quotes that no end tag is left for. -/
def lostQuotes (n : Nat) : List Text := List.replicate n "blockquote".toList

section Lines

theorem nests_close (flow : Flow) (stack : List Text) :
    Nests flow.close (flow.elements ++ stack) stack := by
  cases flow with
  | none => exact .of_not_mem List.not_mem_nil stack
  | paragraph =>
    have hp : Nests (Token.stop "p").write (["p".toList] ++ stack) stack := .stop (by decide) stack
    exact hp.append (.of_not_mem (t := ['\n']) (by decide) stack)
  | list =>
    have hul : Nests (Token.stop "ul").write (["ul".toList] ++ stack) stack :=
      .stop (by decide) stack
    exact hul.append (.of_not_mem (t := ['\n']) (by decide) stack)

theorem nests_cells (cells : List Text) (stack : List Text) :
    Nests (cells.flatMap fun c => "<td>".toList ++ inlineHtml c ++ "</td>".toList) stack stack := by
  have hname : Token.IsTagName "td" := by decide
  induction cells with
  | nil => exact .of_not_mem List.not_mem_nil stack
  | cons c cells ih =>
    rw [List.flatMap_cons, List.append_assoc "<td>".toList]
    exact (Nests.element hname (by decide) (nests_inlineHtml c _)).append ih

theorem nests_newline (stack : List Text) : Nests ['\n'] stack stack :=
  .of_not_mem (by decide) stack

theorem nests_startSource (stack : List Text) :
    Nests "<pre><code>" stack (["code".toList, "pre".toList] ++ stack) := by
  have hpre : Token.IsTagName "pre" := by decide
  have hcode : Token.IsTagName "code" := by decide
  exact (Nests.start hpre (by decide) stack).append (.start hcode (by decide) _)

theorem nests_endSource (stack : List Text) :
    Nests "</code></pre>\n" (["code".toList, "pre".toList] ++ stack) stack := by
  have hcode : Token.IsTagName "code" := by decide
  have hpre : Token.IsTagName "pre" := by decide
  exact (Nests.stop hcode _).append ((Nests.stop hpre _).append (nests_newline stack))

theorem nests_startQuote (stack : List Text) :
    Nests "<blockquote>\n" stack ("blockquote".toList :: stack) := by
  have hquote : Token.IsTagName "blockquote" := by decide
  exact (Nests.start hquote (by decide) stack).append (nests_newline _)

theorem nests_endQuote (stack : List Text) :
    Nests "</blockquote>\n" ("blockquote".toList :: stack) stack := by
  have hquote : Token.IsTagName "blockquote" := by decide
  exact (Nests.stop hquote _).append (nests_newline stack)

theorem nests_startList (stack : List Text) :
    Nests "<ul>\n" stack (Flow.list.elements ++ stack) := by
  have hlist : Token.IsTagName "ul" := by decide
  exact (Nests.start hlist (by decide) stack).append (nests_newline _)

theorem nests_startParagraph (stack : List Text) :
    Nests "<p>" stack (Flow.paragraph.elements ++ stack) := by
  have hparagraph : Token.IsTagName "p" := by decide
  exact .start hparagraph (by decide) stack

theorem elements_append (s : State) (stack : List Text) :
    s.elements ++ stack = s.flow.elements ++
      ((if s.inSource then ["code".toList, "pre".toList] else []) ++
        ((if s.inQuote then ["blockquote".toList] else []) ++ stack)) := by
  rw [State.elements, List.append_assoc, List.append_assoc]

theorem nests_elements {stack stack' : List Text} (h : Nests t stack (s.flow.elements ++
    ((if s.inSource then ["code".toList, "pre".toList] else []) ++
      ((if s.inQuote then ["blockquote".toList] else []) ++ stack')))) :
    Nests t stack (s.elements ++ stack') := by
  rwa [elements_append]

theorem nests_heading (level : Nat) (title : Text) (stack : List Text) :
    Nests ('<' :: headingTag level ++ '>' :: inlineHtml title ++ "</".toList ++ headingTag level ++
      ">\n".toList) stack stack := by
  have hwritten : '<' :: headingTag level ++ '>' :: inlineHtml title ++ "</".toList ++
      headingTag level ++ ">\n".toList = (Token.start (headingTag level) [] false).write ++
        (inlineHtml title ++ (Token.stop (headingTag level)).write) ++ ['\n'] := by
    simp [Token.write, Token.startTag]
  have helement : Nests ((Token.start (headingTag level) [] false).write ++
      (inlineHtml title ++ (Token.stop (headingTag level)).write)) stack stack :=
    .element (isTagName_headingTag level) (headingTag_not_mem_voidTags level)
      (nests_inlineHtml title _)
  rw [hwritten]
  exact helement.append (nests_newline stack)

theorem nests_row (cells : List Text) (stack : List Text) :
    Nests ("<table><tr>".toList ++
      cells.flatMap (fun c => "<td>".toList ++ inlineHtml c ++ "</td>".toList) ++
      "</tr></table>\n".toList) stack stack := by
  have htable : Token.IsTagName "table" := by decide
  have htr : Token.IsTagName "tr" := by decide
  have hopen : Nests "<table><tr>" stack ("tr".toList :: "table".toList :: stack) :=
    (Nests.start htable (by decide) stack).append (.start htr (by decide) _)
  have hend : Nests "</tr></table>\n" ("tr".toList :: "table".toList :: stack) stack :=
    (Nests.stop htr _).append ((Nests.stop htable _).append (nests_newline stack))
  exact (hopen.append (nests_cells cells _)).append hend

theorem nests_item (body : Text) (stack : List Text) :
    Nests ("<li>".toList ++ inlineHtml body ++ "</li>\n".toList) stack stack := by
  have hname : Token.IsTagName "li" := by decide
  exact ((Nests.start hname (by decide) stack).append (nests_inlineHtml body _)).append
    ((Nests.stop hname stack).append (nests_newline stack))

theorem nests_flow {flow flow' : Flow} {start : Text} (stack : List Text)
    (hstart : Nests start stack (flow'.elements ++ stack)) {more : Text}
    (hmore : '<' ∉ more) : Nests (if flow = flow' then more else flow.close ++ start)
      (flow.elements ++ stack) (flow'.elements ++ stack) := by
  split
  · rename_i hsame
    rw [hsame]
    exact .of_not_mem hmore _
  · exact (nests_close flow stack).append hstart

theorem strays_eq_zero (h : Line.ofText l ≠ .beginQuote) : strays s l = 0 :=
  if_neg fun hstray => h hstray.2.2

theorem nests_sourceLine (inQuote : Bool) (l : Text) (n : Nat) :
    Nests (renderLine ⟨.none, true, inQuote⟩ l).1
      (State.elements ⟨.none, true, inQuote⟩ ++ lostQuotes n)
      ((renderLine ⟨.none, true, inQuote⟩ l).2.elements ++
        lostQuotes (strays ⟨.none, true, inQuote⟩ l + n)) := by
  have hstays : strays ⟨.none, true, inQuote⟩ l = 0 := if_neg fun hstray => nomatch hstray.1
  rw [hstays, Nat.zero_add, renderLine, if_pos rfl, elements_append]
  split
  · exact nests_elements (nests_endSource _)
  · exact nests_elements ((nests_escape l _).append (nests_newline _))

/-- The state knows of one quote only, so of two the outer one is lost. -/
theorem nests_beginQuote (flow : Flow) (inQuote : Bool) (hline : Line.ofText l = .beginQuote)
    (n : Nat) : Nests "<blockquote>\n"
      ((if inQuote then ["blockquote".toList] else []) ++ lostQuotes n)
      ("blockquote".toList :: lostQuotes (strays ⟨flow, false, inQuote⟩ l + n)) := by
  cases inQuote with
  | true =>
    have hstray : strays ⟨flow, false, true⟩ l = 1 := if_pos ⟨rfl, rfl, hline⟩
    rw [hstray, Nat.add_comm 1 n, lostQuotes, lostQuotes, List.replicate_succ]
    exact nests_startQuote _
  | false =>
    have hstays : strays ⟨flow, false, false⟩ l = 0 := if_neg fun hstray => nomatch hstray.2.1
    rw [hstays, Nat.zero_add]
    exact nests_startQuote _

/-- The tags of one line take the elements of the state before it to those of the state after it. -/
theorem nests_renderLine (h : s.IsSettled) (l : Text) (n : Nat) :
    Nests (renderLine s l).1 (s.elements ++ lostQuotes n)
      ((renderLine s l).2.elements ++ lostQuotes (strays s l + n)) := by
  obtain ⟨flow, inSource, inQuote⟩ := s
  cases inSource with
  | true =>
    obtain rfl : flow = .none := h rfl
    exact nests_sourceLine inQuote l n
  | false =>
    -- outside of source blocks every line but those of the flow at hand closes the flow first
    have hclose := nests_close flow
      ((if inQuote then ["blockquote".toList] else []) ++ lostQuotes n)
    rw [elements_append, renderLine, if_neg Bool.false_ne_true]
    dsimp only
    cases hline : Line.ofText l with
    | beginQuote => exact nests_elements (hclose.append (nests_beginQuote flow inQuote hline n))
    | beginSource =>
      rw [strays_eq_zero (by simp [hline]), Nat.zero_add]
      exact nests_elements (hclose.append (nests_startSource _))
    | endQuote =>
      rw [strays_eq_zero (by simp [hline]), Nat.zero_add]
      refine nests_elements (hclose.append ?_)
      cases inQuote with
      | true => exact nests_endQuote _
      | false => exact .of_not_mem List.not_mem_nil _
    | directive | blank | rule =>
      rw [strays_eq_zero (by simp [hline]), Nat.zero_add]
      exact nests_elements hclose
    | heading level title =>
      rw [strays_eq_zero (by simp [hline]), Nat.zero_add]
      have hheading := hclose.append (nests_heading level title _)
      simp only [List.append_assoc] at hheading ⊢
      exact nests_elements hheading
    | row cells =>
      rw [strays_eq_zero (by simp [hline]), Nat.zero_add]
      have hrow := hclose.append (nests_row cells _)
      simp only [List.append_assoc] at hrow ⊢
      exact nests_elements hrow
    | item body =>
      rw [strays_eq_zero (by simp [hline]), Nat.zero_add]
      refine nests_elements ?_
      simpa only [List.append_assoc] using
        (nests_flow _ (nests_startList _) List.not_mem_nil).append (nests_item body _)
    | prose body =>
      rw [strays_eq_zero (by simp [hline]), Nat.zero_add]
      exact nests_elements ((nests_flow _ (nests_startParagraph _) (by decide)).append
        (nests_inlineHtml body _))

theorem isSettled_renderLine (h : s.IsSettled) (l : Text) : (renderLine s l).2.IsSettled := by
  obtain ⟨flow, inSource, inQuote⟩ := s
  rw [renderLine]
  split
  · rename_i hsource
    obtain rfl : flow = .none := h hsource
    split
    · exact fun _ => rfl
    · exact h
  · rename_i hsource
    dsimp only
    cases Line.ofText l with
    | item | prose => exact fun hin => absurd hin hsource
    | _ => exact fun _ => rfl

/-- At the end all elements are closed that the state knows of. -/
theorem nests_finish (s : State) (stack : List Text) :
    Nests (finish s) (s.elements ++ stack) stack := by
  obtain ⟨flow, inSource, inQuote⟩ := s
  have hsource (stack : List Text) : Nests (if inSource then "</code></pre>\n".toList else [])
      ((if inSource then ["code".toList, "pre".toList] else []) ++ stack) stack := by
    cases inSource with
    | true => exact nests_endSource _
    | false => exact .of_not_mem List.not_mem_nil _
  have hquote : Nests (if inQuote then "</blockquote>\n".toList else [])
      ((if inQuote then ["blockquote".toList] else []) ++ stack) stack := by
    cases inQuote with
    | true => exact nests_endQuote _
    | false => exact .of_not_mem List.not_mem_nil _
  rw [elements_append, finish]
  exact ((nests_close flow _).append (hsource _)).append hquote

end Lines

def rendered : State → List Text → Text
  | _, [] => []
  | s, l :: ls => (renderLine s l).1 ++ rendered (renderLine s l).2 ls

def stateAfter (s : State) (ls : List Text) : State := ls.foldl (fun s l => (renderLine s l).2) s

theorem renderLines_cons (s : State) (l : Text) (ls : List Text) :
    renderLines s (l :: ls) = (renderLine s l).1 ++ renderLines (renderLine s l).2 ls := rfl

theorem renderLines_append (s : State) (ls ls' : List Text) :
    renderLines s (ls ++ ls') = rendered s ls ++ renderLines (stateAfter s ls) ls' := by
  induction ls generalizing s with
  | nil => rfl
  | cons l ls ih =>
    rw [List.cons_append, renderLines_cons, rendered, List.append_assoc, ih]
    rfl

theorem nests_rendered (h : s.IsSettled) (ls : List Text) (n : Nat) :
    Nests (rendered s ls) (s.elements ++ lostQuotes n)
      ((stateAfter s ls).elements ++ lostQuotes (countStrays s ls + n)) := by
  induction ls generalizing s n with
  | nil =>
    rw [countStrays, Nat.zero_add]
    exact .of_not_mem List.not_mem_nil _
  | cons l ls ih =>
    rw [rendered, countStrays, Nat.add_assoc]
    exact (nests_renderLine h l n).append (ih (isSettled_renderLine h l) _)

theorem nests_render (t : Text) :
    Nests (render t) [] (lostQuotes (countStrays {} (Text.lines t))) := by
  have hlines := nests_rendered (fun _ => rfl) (Text.lines t) 0 (s := {})
  have hall := hlines.append (nests_finish _ _)
  have hrender := renderLines_append {} (Text.lines t) []
  rw [List.append_nil] at hrender
  rw [render, hrender]
  exact hall

theorem countStrays_eq_zero_iff (s : State) (ls : List Text) : countStrays s ls = 0 ↔
    ∀ pre l post, ls = pre ++ l :: post → ¬Strays (stateAfter s pre) l := by
  induction ls generalizing s with
  | nil => exact iff_of_true rfl fun pre l post h => by simp at h
  | cons x ls ih =>
    rw [countStrays, Nat.add_eq_zero_iff, ih, strays]
    constructor
    · rintro ⟨hrest, hx⟩ pre l post h
      cases pre with
      | nil =>
        obtain ⟨rfl, -⟩ := List.cons.inj h
        exact fun hstray => Nat.one_ne_zero ((if_pos hstray).symm.trans hx)
      | cons y pre =>
        obtain ⟨rfl, hsplit⟩ := List.cons.inj h
        exact hrest pre l post hsplit
    · intro h
      refine ⟨fun pre l post hsplit => h (x :: pre) l post (by rw [hsplit, List.cons_append]), ?_⟩
      exact if_neg (h [] x ls rfl)

/-- How the tags of a rendered document nest: after any of its lines the elements are open that the
state knows of, and outside of these one quote for each that began within an open quote. -/
structure NestsTags (t : Text) : Prop where
  lines : ∀ pre post, Text.lines t = pre ++ post →
    render t = rendered {} pre ++ renderLines (stateAfter {} pre) post ∧
      nest? [] (tokenize (rendered {} pre)) =
        some ((stateAfter {} pre).elements ++ lostQuotes (countStrays {} pre))
  whole : nest? [] (tokenize (render t)) = some (lostQuotes (countStrays {} (Text.lines t)))
  isBalanced_iff : IsBalanced (tokenize (render t)) ↔
    ∀ pre l post, Text.lines t = pre ++ l :: post → ¬Strays (stateAfter {} pre) l

theorem nestsTags (t : Text) : NestsTags t := by
  have hwhole := (nests_render t).nest
  rw [tags, nest?_filter] at hwhole
  refine ⟨fun pre post h => ⟨?_, ?_⟩, hwhole, ?_⟩
  · rw [render, h, renderLines_append]
  · have hlines := (nests_rendered (fun _ => rfl) pre 0 (s := {})).nest
    rwa [tags, nest?_filter] at hlines
  · rw [IsBalanced, hwhole, Option.some.injEq, lostQuotes, List.replicate_eq_nil_iff,
      countStrays_eq_zero_iff]

/-- A quote that begins twice and ends twice. -/
def twofoldQuote : Text :=
  "#+BEGIN_QUOTE\n#+BEGIN_QUOTE\nFine.\n#+END_QUOTE\n#+END_QUOTE\nSo bad.\n".toList

/-- The second end tag is not written, so the text after the quotes is still within one. -/
theorem not_isBalanced_twofoldQuote : ¬IsBalanced (tokenize (render twofoldQuote)) ∧
    (Walker.ofTags ["pre"] ["code"] "org").walk (render twofoldQuote) =
      [.ofText "Fine." "text.blockquote.org", .ofText "So bad." "text.blockquote.org"] := by
  decide +kernel

end Copydesk.Org
