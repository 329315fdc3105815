import Copydesk.Html.Walker
import Mathlib.Data.List.Basic
import Mathlib.Data.List.Induction

/-! Which elements are open, and what the walker's depths say about them. The depth of skipped
content is that of the outermost skipped element. The depth of ignored content counts the ignored
elements outside of that, and those that were closed from around a skipped element. -/

namespace Copydesk.Html

/-- The open elements after a token, the innermost first. -/
def nextElements (stack : List Text) : Token → List Text
  | .start name _ selfClosing => if selfClosing then stack else name :: stack
  | .stop name => if name ∈ stack then (stack.dropWhile (· != name)).tail else stack
  | .text _ => stack

def openElements (tokens : List Token) : List Text := tokens.foldl nextElements []

theorem openElements_concat (tokens : List Token) (token : Token) :
    openElements (tokens ++ [token]) = nextElements (openElements tokens) token := by
  rw [openElements, List.foldl_append]
  rfl

theorem nextElements_stop {inner outer : List Text} {name : Text} (h : name ∉ inner) :
    nextElements (inner ++ name :: outer) (.stop name) = outer := by
  have hdrop : (inner ++ name :: outer).dropWhile (· != name) = name :: outer := by
    rw [List.dropWhile_append_of_pos fun tag htag => by simpa using ne_of_mem_of_not_mem htag h]
    exact List.dropWhile_cons_of_neg (by simp)
  rw [nextElements, if_pos (by simp), hdrop, List.tail_cons]

/-- Elements that never have content close themselves. -/
def Token.IsSound : Token → Prop
  | .start name _ selfClosing => name ∈ voidTags → selfClosing = true
  | _ => True

namespace Token

theorem isSound_ofTag (inner : Text) : (ofTag inner).IsSound := by
  unfold ofTag
  split
  · trivial
  · dsimp only
    split
    · intro hvoid
      rw [Bool.or_eq_true]
      exact .inr (decide_eq_true hvoid)
    · trivial

theorem isSound_of_mem_readFrom {fuel : Nat} {t : Text} {token : Token}
    (h : token ∈ readFrom fuel t) : token.IsSound := by
  induction fuel generalizing t with
  | zero => cases h
  | succ fuel ih =>
    rw [readFrom] at h
    dsimp only at h
    split at h
    · rcases List.mem_cons.mp h with rfl | h
      · trivial
      · exact ih h
    · split at h
      · cases h
      · split at h
        · exact ih h
        · split at h
          · rw [List.mem_singleton.mp h]
            trivial
          · rcases List.mem_cons.mp h with rfl | h
            · exact isSound_ofTag _
            · rcases List.mem_append.mp h with h | h
              · unfold ofText at h
                split at h
                · cases h
                · rw [List.mem_singleton.mp h]
                  trivial
              · exact ih h

end Token

theorem isSound_of_mem_tokenize {html : Text} {token : Token} (h : token ∈ tokenize html) :
    token.IsSound := Token.isSound_of_mem_readFrom h

namespace Walker

variable {w : Walker} {s : State} {name : Text}

/-- The state after some tokens of a document. -/
def run (w : Walker) (tokens : List Token) : State := tokens.foldl w.step {}

theorem run_concat (w : Walker) (tokens : List Token) (token : Token) :
    w.run (tokens ++ [token]) = w.step (w.run tokens) token := by
  rw [run, List.foldl_append]
  rfl

/-- Whether text at hand would be taken down. -/
def State.admits (s : State) : Bool := s.skipDepth == 0 && s.ignoreDepth == 0

theorem State.admits_iff : s.admits = true ↔ s.skipDepth = 0 ∧ s.ignoreDepth = 0 := by
  rw [admits, Bool.and_eq_true, beq_iff_eq, beq_iff_eq]

theorem step_text (w : Walker) (s : State) (t : Text) :
    w.step s (.text t) = if s.admits then { s with buffer := s.buffer ++ t } else s := by
  simp only [step, State.admits_iff]

def hides (w : Walker) (tag : Text) : Bool := w.skips tag || w.ignores tag

/-- An end tag closes an ignored element from around a skipped one. -/
def Strands (w : Walker) (stack : List Text) (name : Text) : Prop :=
  ∃ inner tag outer, stack = inner ++ tag :: outer ∧ name ∈ stack ∧ name ∉ inner ∧
    (∃ t ∈ inner, w.skips t = true) ∧ (∀ t ∈ tag :: outer, w.skips t = false) ∧
    w.ignores tag = true

/-- Some end tag among the tokens closes an ignored element from around a skipped one. -/
def Stranded (w : Walker) (tokens : List Token) : Prop :=
  ∃ before name after, tokens = before ++ .stop name :: after ∧
    w.Strands (openElements before) name

theorem stranded_concat {tokens : List Token} {token : Token} :
    w.Stranded (tokens ++ [token]) ↔ w.Stranded tokens ∨
      ∃ name, token = .stop name ∧ w.Strands (openElements tokens) name := by
  constructor
  · rintro ⟨before, name, after, htokens, hstrands⟩
    rcases List.eq_nil_or_concat' after with rfl | ⟨after, last, rfl⟩
    · obtain ⟨rfl, htoken⟩ := List.append_inj' htokens rfl
      exact .inr ⟨name, List.head_eq_of_cons_eq htoken, hstrands⟩
    · rw [← List.cons_append, ← List.append_assoc] at htokens
      exact .inl ⟨before, name, after, (List.append_inj' htokens rfl).1, hstrands⟩
  · rintro (⟨before, name, after, rfl, hstrands⟩ | ⟨name, rfl, hstrands⟩)
    · exact ⟨before, name, after ++ [token], by simp, hstrands⟩
    · exact ⟨tokens, name, [], rfl, hstrands⟩

section Closing

variable {inner outer : List Text}

theorem findIdx?_append_of_not_mem (h : name ∉ inner) (outer : List Text) :
    (inner ++ outer).findIdx? (· == name) =
      (outer.findIdx? (· == name)).map (· + inner.length) := by
  have hnone : inner.findIdx? (· == name) = none :=
    List.findIdx?_eq_none_iff.mpr fun _ htag => by simpa using ne_of_mem_of_not_mem htag h
  rw [List.findIdx?_append, hnone, Option.none_or]

theorem closeTag_of_not_mem (h : name ∉ s.stack) : w.closeTag name s = s := by
  have hnone := findIdx?_append_of_not_mem h []
  rw [List.append_nil, List.findIdx?_nil, Option.map_none] at hnone
  rw [closeTag, hnone]

theorem findIdx?_append_cons (h : name ∉ inner) (outer : List Text) :
    (inner ++ name :: outer).findIdx? (· == name) = some inner.length := by
  rw [findIdx?_append_of_not_mem h, List.findIdx?_cons]
  simp

theorem closeTag_of_skipped (hs : s.stack = inner ++ name :: outer) (h : name ∉ inner)
    (hskip : 0 < s.skipDepth) : w.closeTag name s =
      { s with skipDepth := s.skipDepth - (inner.length + 1), stack := outer } := by
  have hdrop : (inner ++ name :: outer).drop (inner.length + 1) = outer := by simp
  rw [closeTag, hs, findIdx?_append_cons h]
  simp only [hskip, if_true, hdrop]

def flushAt (w : Walker) (name : Text) (s : State) : State :=
  if name ∈ blockTags then w.flush s else s

theorem flushAt_eq (w : Walker) (name : Text) (s : State) :
    w.flushAt name s =
      { s with buffer := (w.flushAt name s).buffer, blocks := (w.flushAt name s).blocks } := by
  unfold flushAt
  split <;> rfl

theorem closeTag_of_not_skipped (hs : s.stack = inner ++ name :: outer) (h : name ∉ inner)
    (hskip : s.skipDepth = 0) : w.closeTag name s =
      { w.flushAt name s with
        ignoreDepth := s.ignoreDepth - (inner ++ [name]).countP w.ignores
        stack := outer } := by
  have hdrop : (inner ++ name :: outer).drop (inner.length + 1) = outer := by simp
  have htake : (inner ++ name :: outer).take (inner.length + 1) = inner ++ [name] := by
    rw [List.take_length_add_append, List.take_succ_cons, List.take_zero]
  have hstack : (w.flushAt name s).stack = s.stack := by rw [flushAt_eq]
  have hignore : (w.flushAt name s).ignoreDepth = s.ignoreDepth := by rw [flushAt_eq]
  rw [closeTag, hs, findIdx?_append_cons h]
  simp only [hskip, Nat.lt_irrefl, if_false]
  rw [← flushAt, hstack, hignore, hs, hdrop, htake]

end Closing

section Opening

variable {attrs : List (Text × Text)}

theorem openTag_selfClosing (w : Walker) (name : Text) (attrs : List (Text × Text)) (s : State) :
    (w.openTag name attrs true s).stack = s.stack ∧
      (w.openTag name attrs true s).skipDepth = s.skipDepth ∧
      (w.openTag name attrs true s).ignoreDepth = s.ignoreDepth := by
  have hflush := w.flushAt_eq name s
  rw [openTag, ← flushAt, hflush]
  split
  · exact ⟨rfl, rfl, rfl⟩
  · split
    · exact ⟨rfl, rfl, rfl⟩
    · split <;> exact ⟨rfl, rfl, rfl⟩

theorem openTag_of_skipped (hskip : 0 < s.skipDepth) : w.openTag name attrs false s =
    { s with skipDepth := s.skipDepth + 1, stack := name :: s.stack } := by
  rw [openTag, if_pos hskip]
  rfl

theorem openTag_of_not_skipped (hskip : s.skipDepth = 0) (hvoid : name ∉ voidTags) :
    w.openTag name attrs false s =
      if w.skips name then { w.flushAt name s with skipDepth := 1, stack := name :: s.stack }
      else { w.flushAt name s with
        ignoreDepth := if w.ignores name then s.ignoreDepth + 1 else s.ignoreDepth
        stack := name :: s.stack } := by
  have hstack : (w.flushAt name s).stack = s.stack := by rw [flushAt_eq]
  have hignore : (w.flushAt name s).ignoreDepth = s.ignoreDepth := by rw [flushAt_eq]
  have himg : name ≠ "img" := by rintro rfl; exact hvoid (by decide)
  have hbr : name ≠ "br" := by rintro rfl; exact hvoid (by decide)
  rw [openTag, ← flushAt, if_neg (by omega), if_neg himg, if_neg hbr]
  dsimp only
  rw [hstack, hignore]
  rfl

end Opening

/-- The outermost skipped element and those within it are `inner`, and `lost` ignored elements were
closed from around a skipped one. -/
structure Tracks (w : Walker) (tokens : List Token) (s : State) (inner outer : List Text)
    (lost : Nat) : Prop where
  elements : openElements tokens = inner ++ outer
  stack : s.stack = inner ++ outer
  skipped : ∀ tag ∈ inner.getLast?, w.skips tag = true
  unskipped : ∀ tag ∈ outer, w.skips tag = false
  skipDepth : s.skipDepth = inner.length
  ignoreDepth : s.ignoreDepth = outer.countP w.ignores + lost
  lost_eq_zero : lost = 0 ↔ ¬w.Stranded tokens

namespace Tracks

variable {tokens : List Token} {inner outer : List Text} {lost : Nat}

/-- A part of the open elements with a skipped element but none outside has all of `inner`. -/
theorem exists_append (h : w.Tracks tokens s inner outer lost) {front back : List Text}
    (hsplit : inner ++ outer = front ++ back) (hback : ∀ tag ∈ back, w.skips tag = false) :
    ∃ more, front = inner ++ more ∧ outer = more ++ back := by
  rcases List.append_eq_append_iff.mp hsplit with ⟨more, hfront, houter⟩ | ⟨more, hinner, hmore⟩
  · exact ⟨more, hfront, houter⟩
  · -- The last element of `inner` is a skipped one, so it is not in `back`.
    rcases List.eq_nil_or_concat' more with rfl | ⟨more, tag, rfl⟩
    · exact ⟨[], by rw [hinner, List.append_nil, List.append_nil], hmore.symm⟩
    · have hskips : w.skips tag = true := h.skipped tag (by simp [hinner])
      rw [hback tag (by simp [hmore])] at hskips
      cases hskips

theorem congr_state (h : w.Tracks tokens s inner outer lost) {s' : State}
    (hstack : s'.stack = s.stack) (hskip : s'.skipDepth = s.skipDepth)
    (hignore : s'.ignoreDepth = s.ignoreDepth) : w.Tracks tokens s' inner outer lost :=
  { h with
    stack := hstack.trans h.stack
    skipDepth := hskip.trans h.skipDepth
    ignoreDepth := hignore.trans h.ignoreDepth }

theorem lost_concat (h : w.Tracks tokens s inner outer lost) {token : Token}
    (htoken : ∀ name, token = .stop name → ¬w.Strands (openElements tokens) name) :
    lost = 0 ↔ ¬w.Stranded (tokens ++ [token]) := by
  rw [h.lost_eq_zero, stranded_concat, not_iff_not]
  refine ⟨.inl, fun hor => hor.resolve_right ?_⟩
  rintro ⟨name, hname, hstrands⟩
  exact htoken name hname hstrands

theorem openTag (h : w.Tracks tokens s inner outer lost) {attrs : List (Text × Text)}
    {selfClosing : Bool} (hsound : (Token.start name attrs selfClosing).IsSound) :
    ∃ inner' outer', w.Tracks (tokens ++ [.start name attrs selfClosing])
      (w.openTag name attrs selfClosing s) inner' outer' lost := by
  have hlost : lost = 0 ↔ ¬w.Stranded (tokens ++ [.start name attrs selfClosing]) :=
    h.lost_concat nofun
  have hopen := openElements_concat tokens (.start name attrs selfClosing)
  rw [nextElements, h.elements] at hopen
  cases selfClosing with
  | true =>
    obtain ⟨hstack, hskip, hignore⟩ := w.openTag_selfClosing name attrs s
    exact ⟨inner, outer, congr_state { h with elements := hopen, lost_eq_zero := hlost }
      hstack hskip hignore⟩
  | false =>
    have hvoid : name ∉ voidTags := fun hmem => Bool.false_ne_true (hsound hmem)
    -- outside skipped content the element may begin some; inside it only the depth grows
    rcases List.eq_nil_or_concat' inner with rfl | ⟨front, tag, rfl⟩
    · rw [openTag_of_not_skipped h.skipDepth hvoid]
      split
      · rename_i hskips
        exact ⟨[name], outer, hopen, congrArg (name :: ·) h.stack, by simpa using hskips,
          h.unskipped, rfl, by rw [flushAt_eq]; exact h.ignoreDepth, hlost⟩
      · rename_i hskips
        refine ⟨[], name :: outer, hopen, congrArg (name :: ·) h.stack, nofun, ?_, ?_, ?_, hlost⟩
        · exact List.forall_mem_cons.mpr ⟨Bool.eq_false_iff.mpr hskips, h.unskipped⟩
        · rw [flushAt_eq]
          exact h.skipDepth
        · rw [List.countP_cons, h.ignoreDepth]
          dsimp only
          split <;> omega
    · have hskip : s.skipDepth = front.length + 1 := by rw [h.skipDepth, List.length_append]; rfl
      rw [openTag_of_skipped (by omega)]
      refine ⟨name :: (front ++ [tag]), outer, hopen, congrArg (name :: ·) h.stack, ?_,
        h.unskipped, ?_, h.ignoreDepth, hlost⟩
      · intro t ht
        rw [← List.cons_append, List.getLast?_concat, ← List.getLast?_concat] at ht
        exact h.skipped t ht
      · exact congrArg (· + 1) h.skipDepth

theorem closeTag_inner (h : w.Tracks tokens s inner outer lost) {front back : List Text}
    (hinner : inner = front ++ name :: back) (hname : name ∉ front) :
    w.Tracks (tokens ++ [.stop name]) (w.closeTag name s) back outer lost := by
  subst hinner
  have hopen := openElements_concat tokens (.stop name)
  have hstack : s.stack = front ++ name :: (back ++ outer) := by rw [h.stack]; simp
  have hskip : s.skipDepth = front.length + (back.length + 1) := by
    rw [h.skipDepth, List.length_append, List.length_cons]
  rw [h.elements, ← h.stack, hstack, nextElements_stop hname] at hopen
  rw [closeTag_of_skipped hstack hname (by omega)]
  refine ⟨hopen, rfl, ?_, h.unskipped, ?_, h.ignoreDepth, h.lost_concat ?_⟩
  · intro tag htag
    refine h.skipped tag ?_
    rw [List.getLast?_append, List.getLast?_cons, Option.mem_def.mp htag]
    rfl
  · dsimp only
    omega
  · rintro _ ⟨⟩ ⟨x, tag, y, hsplit, -, hnot, -, hback, -⟩
    obtain ⟨more, rfl, -⟩ := h.exists_append (h.elements ▸ hsplit) hback
    exact hnot (by simp)

/-- The end tag of an element around skipped content strands the ignored ones that it closes. -/
theorem strands_iff (h : w.Tracks tokens s inner outer lost) {front back : List Text}
    (hinner : inner ≠ []) (houter : outer = front ++ name :: back)
    (hname : name ∉ inner ++ front) : w.Strands (openElements tokens) name ↔
      ∃ tag ∈ front ++ [name], w.ignores tag = true := by
  subst houter
  have hskips : ∃ t ∈ inner, w.skips t = true :=
    ⟨inner.getLast hinner, List.getLast_mem hinner,
      h.skipped _ (List.getLast?_eq_some_getLast hinner)⟩
  constructor
  · rintro ⟨x, tag, y, hsplit, -, hnot, -, hback, hignores⟩
    obtain ⟨more, rfl, hmore⟩ := h.exists_append (h.elements ▸ hsplit) hback
    refine ⟨tag, ?_, hignores⟩
    rcases List.append_eq_append_iff.mp hmore with ⟨z, rfl, hz⟩ | ⟨z, rfl, hz⟩
    · cases z with
      | nil => simp [List.head_eq_of_cons_eq hz]
      | cons t z => exact absurd (by simp [List.head_eq_of_cons_eq hz]) hnot
    · cases z with
      | nil => simp [List.head_eq_of_cons_eq hz]
      | cons t z => simp [List.head_eq_of_cons_eq hz]
  · rintro ⟨tag, htag, hignores⟩
    -- `tag` is closed from `inner`, which holds the skipped element, and from `x` between the two
    obtain ⟨x, y, hall, hx⟩ : ∃ x y, front ++ name :: back = x ++ tag :: y ∧ name ∉ x := by
      rcases List.mem_append.mp htag with hfront | hlast
      · obtain ⟨x, z, rfl⟩ := List.append_of_mem hfront
        exact ⟨x, z ++ name :: back, by simp, fun hx => hname (by simp [hx])⟩
      · rw [List.mem_singleton.mp hlast]
        exact ⟨front, back, rfl, fun hx => hname (by simp [hx])⟩
    refine ⟨inner ++ x, tag, y, ?_, ?_, ?_, ?_, ?_, hignores⟩
    · rw [h.elements, hall, List.append_assoc]
    · rw [h.elements]
      simp
    · rw [List.mem_append, not_or] at hname ⊢
      exact ⟨hname.1, hx⟩
    · exact hskips.imp fun t ht => ⟨List.mem_append_left x ht.1, ht.2⟩
    · exact fun t ht => h.unskipped t (hall ▸ List.mem_append_right x ht)

theorem closeTag_around (h : w.Tracks tokens s inner outer lost) {front back : List Text}
    (hinner : inner ≠ []) (houter : outer = front ++ name :: back) (hname : name ∉ inner ++ front) :
    w.Tracks (tokens ++ [.stop name]) (w.closeTag name s) [] back
      (lost + (front ++ [name]).countP w.ignores) := by
  have hstrands := h.strands_iff hinner houter hname
  subst houter
  have hopen := openElements_concat tokens (.stop name)
  have hstack : s.stack = (inner ++ front) ++ name :: back := by rw [h.stack]; simp
  have hskip : 0 < s.skipDepth := by rw [h.skipDepth]; exact List.length_pos_iff.mpr hinner
  rw [h.elements, ← h.stack, hstack, nextElements_stop hname] at hopen
  rw [closeTag_of_skipped hstack hname hskip]
  refine ⟨hopen, rfl, nofun, ?_, ?_, ?_, ?_⟩
  · exact fun tag htag => h.unskipped tag (by simp [htag])
  · dsimp only
    rw [h.skipDepth, List.length_append, List.length_nil]
    omega
  · have hcount := h.ignoreDepth
    rw [List.append_cons, List.countP_append] at hcount
    dsimp only
    omega
  · have hnone : (front ++ [name]).countP w.ignores = 0 ↔
        ¬w.Strands (openElements tokens) name := by
      rw [List.countP_eq_zero, hstrands]
      simp only [not_exists, not_and]
    rw [Nat.add_eq_zero_iff, h.lost_eq_zero, hnone, stranded_concat, not_or]
    simp

theorem closeTag_outer (h : w.Tracks tokens s [] outer lost) {front back : List Text}
    (houter : outer = front ++ name :: back) (hname : name ∉ front) :
    w.Tracks (tokens ++ [.stop name]) (w.closeTag name s) [] back lost := by
  subst houter
  have hopen := openElements_concat tokens (.stop name)
  rw [h.elements, List.nil_append, nextElements_stop hname] at hopen
  rw [closeTag_of_not_skipped h.stack hname h.skipDepth]
  refine ⟨hopen, rfl, nofun, ?_, ?_, ?_, h.lost_concat ?_⟩
  · exact fun tag htag => h.unskipped tag (by simp [htag])
  · rw [flushAt_eq]
    exact h.skipDepth
  · have hcount := h.ignoreDepth
    rw [List.append_cons, List.countP_append] at hcount
    dsimp only
    omega
  · rintro _ ⟨⟩ ⟨x, tag, y, hsplit, -, -, ⟨t, ht, hskips⟩, -⟩
    rw [h.unskipped t (by rw [← List.nil_append (front ++ _), ← h.elements, hsplit]; simp [ht])]
      at hskips
    cases hskips

theorem closeTag (h : w.Tracks tokens s inner outer lost) (name : Text) :
    ∃ inner' outer' lost', w.Tracks (tokens ++ [.stop name]) (w.closeTag name s)
      inner' outer' lost' := by
  have hopen := openElements_concat tokens (.stop name)
  by_cases hinner : name ∈ inner
  · obtain ⟨front, back, rfl, hname⟩ := List.eq_append_cons_of_mem hinner
    exact ⟨back, outer, lost, h.closeTag_inner rfl hname⟩
  · by_cases houter : name ∈ outer
    · obtain ⟨front, back, rfl, hname⟩ := List.eq_append_cons_of_mem houter
      by_cases hnil : inner = []
      · subst hnil
        exact ⟨[], back, lost, h.closeTag_outer rfl hname⟩
      · have hnot : name ∉ inner ++ front := by simp [hinner, hname]
        exact ⟨[], back, _, h.closeTag_around hnil rfl hnot⟩
    · have hname : name ∉ inner ++ outer := by simp [hinner, houter]
      have hstrands : ∀ tag, Token.stop name = .stop tag →
          ¬w.Strands (openElements tokens) tag := by
        rintro _ ⟨⟩ ⟨front, other, back, -, hmem, -⟩
        exact hname (h.elements ▸ hmem)
      rw [closeTag_of_not_mem (h.stack ▸ hname)]
      rw [nextElements, h.elements, if_neg hname] at hopen
      exact ⟨inner, outer, lost,
        { h with elements := hopen, lost_eq_zero := h.lost_concat hstrands }⟩

theorem step (h : w.Tracks tokens s inner outer lost) {token : Token} (hsound : token.IsSound) :
    ∃ inner' outer' lost', w.Tracks (tokens ++ [token]) (w.step s token) inner' outer' lost' := by
  cases token with
  | start name attrs selfClosing =>
    obtain ⟨inner', outer', h'⟩ := h.openTag hsound
    exact ⟨inner', outer', lost, h'⟩
  | stop name => exact h.closeTag name
  | text t =>
    have hopen := openElements_concat tokens (.text t)
    have h' : w.Tracks (tokens ++ [.text t]) s inner outer lost :=
      { h with elements := hopen.trans h.elements, lost_eq_zero := h.lost_concat nofun }
    rw [Walker.step]
    refine ⟨inner, outer, lost, ?_⟩
    split
    · exact h'.congr_state rfl rfl rfl
    · exact h'

end Tracks

theorem exists_tracks {tokens : List Token} (hsound : ∀ token ∈ tokens, token.IsSound) :
    ∃ inner outer lost, w.Tracks tokens (w.run tokens) inner outer lost := by
  induction tokens using List.reverseRecOn with
  | nil =>
    refine ⟨[], [], 0, rfl, rfl, nofun, nofun, rfl, rfl, iff_of_true rfl ?_⟩
    rintro ⟨before, name, after, hnil, -⟩
    simp at hnil
  | append_singleton tokens token ih =>
    obtain ⟨hsounds, htoken⟩ := List.forall_mem_append.mp hsound
    obtain ⟨inner, outer, lost, h⟩ := ih hsounds
    rw [run_concat]
    exact h.step (htoken token List.mem_cons_self)

/-- Each end tag closes the innermost open element or none. -/
def IsWellNested (tokens : List Token) : Prop :=
  ∀ before name after, tokens = before ++ .stop name :: after →
    (openElements before).head? = some name ∨ name ∉ openElements before

theorem not_stranded_of_isWellNested {tokens : List Token} (h : IsWellNested tokens) :
    ¬w.Stranded tokens := by
  rintro ⟨before, name, after, htokens, inner, tag, outer, hsplit, hmem, hnot, ⟨t, ht, -⟩, -⟩
  rcases h before name after htokens with hhead | hnone
  · obtain ⟨first, inner, rfl⟩ := List.exists_cons_of_ne_nil (List.ne_nil_of_mem ht)
    rw [hsplit, List.cons_append, List.head?_cons, Option.some.injEq] at hhead
    exact hnot (hhead ▸ List.mem_cons_self)
  · exact hnone hmem

/-- Text is dropped within an element that hides it, and everywhere after an ignored element was
closed from around a skipped one. -/
structure HidesText (w : Walker) (tokens : List Token) : Prop where
  stack : (w.run tokens).stack = openElements tokens
  step_text : ∀ t, w.step (w.run tokens) (.text t) =
    if (w.run tokens).admits then { w.run tokens with buffer := (w.run tokens).buffer ++ t }
    else w.run tokens
  admits_iff : (w.run tokens).admits = true ↔
    (∀ tag ∈ openElements tokens, w.hides tag = false) ∧ ¬w.Stranded tokens
  not_stranded : IsWellNested tokens → ¬w.Stranded tokens

theorem Tracks.skipDepth_eq_zero_iff {tokens : List Token} {inner outer : List Text} {lost : Nat}
    (h : w.Tracks tokens s inner outer lost) :
    s.skipDepth = 0 ↔ ∀ tag ∈ openElements tokens, w.skips tag = false := by
  rw [h.skipDepth, List.length_eq_zero_iff, h.elements]
  constructor
  · rintro rfl
    exact h.unskipped
  · intro hnone
    by_contra hinner
    have hlast := hnone _ (List.mem_append_left outer (List.getLast_mem hinner))
    rw [h.skipped _ (List.getLast?_eq_some_getLast hinner)] at hlast
    cases hlast

theorem skipDepth_run_eq_zero_iff {tokens : List Token}
    (hsound : ∀ token ∈ tokens, token.IsSound) :
    (w.run tokens).skipDepth = 0 ↔ ∀ tag ∈ (w.run tokens).stack, w.skips tag = false := by
  obtain ⟨inner, outer, lost, h⟩ := exists_tracks (w := w) hsound
  rw [h.skipDepth_eq_zero_iff, h.elements, h.stack]

theorem Tracks.admits_iff {tokens : List Token} {inner outer : List Text} {lost : Nat}
    (h : w.Tracks tokens s inner outer lost) : s.admits = true ↔
      (∀ tag ∈ openElements tokens, w.hides tag = false) ∧ ¬w.Stranded tokens := by
  have hhides : (∀ tag ∈ openElements tokens, w.hides tag = false) ↔
      (∀ tag ∈ openElements tokens, w.skips tag = false) ∧
        ∀ tag ∈ openElements tokens, w.ignores tag = false := by
    simp only [hides, Bool.or_eq_false_iff, forall_and]
  rw [State.admits_iff, h.ignoreDepth, Nat.add_eq_zero_iff, List.countP_eq_zero, h.lost_eq_zero,
    ← and_assoc, hhides, ← h.skipDepth_eq_zero_iff]
  refine and_congr_left fun _ => and_congr_right fun hskip => ?_
  rw [h.skipDepth, List.length_eq_zero_iff] at hskip
  rw [h.elements, hskip, List.nil_append]
  simp only [Bool.not_eq_true]

/-- What happens to a text in a document depends on the elements that are open and on whether an
ignored element was closed from around a skipped one. -/
theorem hidesText (w : Walker) (html : Text) (n : Nat) : w.HidesText ((tokenize html).take n) := by
  have hsound : ∀ token ∈ (tokenize html).take n, token.IsSound :=
    fun _ htoken => isSound_of_mem_tokenize (List.mem_of_mem_take htoken)
  obtain ⟨inner, outer, lost, h⟩ := exists_tracks (w := w) hsound
  exact ⟨h.stack.trans h.elements.symm, w.step_text _, h.admits_iff, not_stranded_of_isWellNested⟩

def misnestedPage : Text := "<p><code><pre>x</p>Bad"

/-- No element is open any more, and still the text is dropped. -/
theorem admits_misnestedPage : (tokenize misnestedPage)[5]? = some (.text "Bad") ∧
    openElements ((tokenize misnestedPage).take 5) = [] ∧
    ((ofTags ["pre"] ["code"] "html").run ((tokenize misnestedPage).take 5)).admits = false ∧
    (ofTags ["pre"] ["code"] "html").walk misnestedPage = [] := by
  decide +kernel

end Walker

end Copydesk.Html
