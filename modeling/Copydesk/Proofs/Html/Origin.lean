import Copydesk.Proofs.Html.Elements
import Copydesk.Proofs.Text.Trim

/-! Where the text of a block comes from. The walk is repeated with every character marked by the
number of the token that it comes from; without the marks it is the walk itself. The visible
characters of the blocks of prose are those of the texts that were taken down, in order, and the
other blocks are those of the images with an alternative text outside of skipped content. -/

namespace Copydesk.Html

/-- Characters with the numbers of the tokens that they come from. -/
abbrev Marked := List (Char × Nat)

namespace Marked

def ofText (t : Text) (n : Nat) : Marked := t.map fun c => (c, n)

def text (m : Marked) : Text := m.map (·.1)

def isBlank (x : Char × Nat) : Bool := Text.isSpace x.1

def trim (m : Marked) : Marked := (m.dropWhile isBlank).rdropWhile isBlank

def visible (m : Marked) : Marked := m.filter fun x => !isBlank x

variable (m : Marked)

theorem text_ofText (t : Text) (n : Nat) : text (ofText t n) = t := by
  rw [text, ofText, List.map_map]
  exact List.map_id t

theorem text_append (m k : Marked) : text (m ++ k) = text m ++ text k := List.map_append

theorem visible_append (m k : Marked) : visible (m ++ k) = visible m ++ visible k :=
  List.filter_append ..

theorem text_trim : text (trim m) = Text.trim (text m) := by
  rw [Text.trim, Text.trimStart, Text.trimEnd, Text.dropEndWhile, text, text, List.dropWhile_map,
    ← List.map_reverse, List.dropWhile_map, ← List.map_reverse]
  rfl

theorem visible_eq_nil {m : Marked} (h : ∀ x ∈ m, isBlank x = true) : visible m = [] :=
  List.filter_eq_nil_iff.mpr fun x hx => by simp [h x hx]

theorem visible_trim : visible (trim m) = visible m := by
  have hlead := visible_eq_nil fun x (hx : x ∈ m.takeWhile isBlank) => List.mem_takeWhile_imp hx
  have htrail := visible_eq_nil fun x (hx : x ∈ (m.dropWhile isBlank).rtakeWhile isBlank) =>
    List.mem_rtakeWhile_imp hx
  conv_rhs => rw [← List.takeWhile_append_dropWhile (p := isBlank) (l := m), visible_append, hlead,
    ← List.rdropWhile_append_rtakeWhile (p := isBlank) (l := m.dropWhile isBlank), visible_append,
    htrail]
  rw [List.nil_append, List.append_nil, trim]

theorem head?_trim : (trim m).head? = (visible m).head? := by
  rw [← visible_trim m]
  cases htrim : trim m with
  | nil => rfl
  | cons x rest =>
    have hprefix : x :: rest <+: m.dropWhile isBlank := htrim ▸ List.rdropWhile_prefix _ _
    obtain ⟨more, hmore⟩ := hprefix
    have hx : isBlank x = false := by
      have hnot := List.head?_dropWhile_not isBlank m
      rw [← hmore] at hnot
      simpa using hnot
    rw [visible, List.filter_cons_of_pos (by simp [hx])]
    rfl

theorem trim_eq_nil_iff : trim m = [] ↔ Text.isBlank (text m) = true := by
  rw [← Text.trim_eq_nil_iff, ← text_trim, text, List.map_eq_nil_iff]

theorem visible_eq_nil_iff : visible m = [] ↔ Text.isBlank (text m) = true := by
  rw [← trim_eq_nil_iff, ← List.head?_eq_none_iff, ← head?_trim, List.head?_eq_none_iff]

end Marked

/-- What a token brings about. -/
inductive Event
  /-- Text joins the block of prose at hand. -/
  | prose (t : Text)
  /-- The block of prose at hand ends. -/
  | cut (scope : Text)
  | alt (block : Block)

/-- Where a block comes from: the token of an image, or the characters of texts. -/
inductive Origin
  | alt (place : Nat)
  | prose (chars : Marked)

namespace Origin

def chars : Origin → Marked
  | alt _ => []
  | prose m => m

def isAlt : Origin → Bool
  | alt _ => true
  | prose _ => false

/-- The token of the image or of the first character. -/
def place : Origin → Nat
  | alt n => n
  | prose m => (m.head?.map (·.2)).getD 0

end Origin

/-- The walk so far: the marked buffer, and the blocks in order with their origins. -/
structure Draft where
  buffer : Marked := []
  blocks : List (Origin × Block) := []

/-- The block of prose that the characters make up, if they are not blank. -/
def proseBlock? (scope : Text) (m : Marked) : Option (Origin × Block) :=
  if (Marked.trim m).isEmpty then none
  else some (.prose (Marked.trim m), .ofText (Marked.text (Marked.trim m)) scope)

def Draft.add (d : Draft) (n : Nat) : Event → Draft
  | .prose t => { d with buffer := d.buffer ++ Marked.ofText t n }
  | .cut scope => { buffer := [], blocks := d.blocks ++ (proseBlock? scope d.buffer).toList }
  | .alt b => { d with blocks := d.blocks ++ [(.alt n, b)] }

def Draft.addAny (d : Draft) (n : Nat) (e : Option Event) : Draft := e.elim d (d.add n)

namespace Walker

variable {β : Type}

/-- What `f` reads off the tokens, given the state before each and its number. -/
def readOff (w : Walker) (f : State → Nat → Token → Option β) (tokens : List Token) : List β :=
  tokens.zipIdx.filterMap fun p => f (w.run (tokens.take p.2)) p.2 p.1

theorem readOff_concat (w : Walker) (f : State → Nat → Token → Option β) (tokens : List Token)
    (token : Token) : w.readOff f (tokens ++ [token]) =
      w.readOff f tokens ++ (f (w.run tokens) tokens.length token).toList := by
  rw [readOff, List.zipIdx_append, List.filterMap_append, readOff]
  congr 1
  · refine List.filterMap_congr fun p hp => ?_
    have hlt : p.2 ≤ tokens.length := by
      obtain ⟨-, hlt, -⟩ := List.mem_zipIdx hp
      omega
    rw [List.take_append_of_le_length hlt]
  · rw [Nat.zero_add, List.zipIdx_singleton, List.filterMap_cons, List.take_left]
    cases f (w.run tokens) tokens.length token <;> rfl

theorem mem_readOff {w : Walker} {f : State → Nat → Token → Option β} {tokens : List Token}
    {b : β} : b ∈ w.readOff f tokens ↔
      ∃ n token, tokens[n]? = some token ∧ f (w.run (tokens.take n)) n token = some b := by
  rw [readOff, List.mem_filterMap, Prod.exists, exists_comm]
  simp only [List.mk_mem_zipIdx_iff_getElem?]

def event? (w : Walker) (s : State) : Token → Option Event
  | .start name attrs _ =>
    if 0 < s.skipDepth then none
    else if name = "img" then (w.altBlock? attrs).map .alt
    else if name = "br" then some (.prose ['\n'])
    else if name ∈ blockTags then some (.cut (w.scope s.stack)) else none
  | .stop name =>
    if s.skipDepth = 0 ∧ name ∈ s.stack ∧ name ∈ blockTags then some (.cut (w.scope s.stack))
    else none
  | .text t => if s.admits then some (.prose t) else none

/-- The events of a run, each with the number of its token. -/
def events (w : Walker) (tokens : List Token) : List (Nat × Event) :=
  w.readOff (fun s n token => (w.event? s token).map (n, ·)) tokens

def draft (w : Walker) (tokens : List Token) : Draft :=
  (w.events tokens).foldl (fun d p => d.add p.1 p.2) {}

/-- The blocks of a document with their origins. -/
def traced (w : Walker) (html : Text) : List (Origin × Block) :=
  ((w.draft (tokenize html)).add (tokenize html).length
    (.cut (w.scope (w.run (tokenize html)).stack))).blocks

theorem draft_concat (w : Walker) (tokens : List Token) (token : Token) :
    w.draft (tokens ++ [token]) =
      (w.draft tokens).addAny tokens.length (w.event? (w.run tokens) token) := by
  rw [draft, events, readOff_concat, List.foldl_append]
  cases w.event? (w.run tokens) token <;> rfl

/-- The walker has taken down the same, without the marks. -/
structure Reads (s : State) (d : Draft) : Prop where
  buffer : Marked.text d.buffer = s.buffer
  blocks : d.blocks.map (·.2) = s.blocks.reverse

namespace Reads

variable {w : Walker} {s s' : State} {d : Draft} {name : Text}

theorem congr_state (h : Reads s d) (hbuffer : s'.buffer = s.buffer)
    (hblocks : s'.blocks = s.blocks) : Reads s' d :=
  ⟨h.buffer.trans hbuffer.symm, by rw [h.blocks, hblocks]⟩

theorem prose (h : Reads s d) (t : Text) (n : Nat) :
    Reads { s with buffer := s.buffer ++ t } (d.add n (.prose t)) :=
  ⟨by rw [Draft.add, Marked.text_append, h.buffer, Marked.text_ofText], h.blocks⟩

theorem flush (h : Reads s d) (w : Walker) (n : Nat) :
    Reads (w.flush s) (d.add n (.cut (w.scope s.stack))) := by
  have htext : Marked.text (Marked.trim d.buffer) = Text.trim s.buffer := by
    rw [Marked.text_trim, h.buffer]
  have hempty : (Marked.trim d.buffer).isEmpty = (Text.trim s.buffer).isEmpty := by
    rw [← htext, Marked.text, List.isEmpty_map]
  refine ⟨rfl, ?_⟩
  simp only [Draft.add, Walker.flush, proseBlock?, hempty, htext]
  split
  · simpa using h.blocks
  · simp [h.blocks]

theorem flushAt (h : Reads s d) (w : Walker) (name : Text) (n : Nat) :
    Reads (w.flushAt name s)
      (d.addAny n (if name ∈ blockTags then some (.cut (w.scope s.stack)) else none)) := by
  unfold Walker.flushAt
  split
  · exact h.flush w n
  · exact h

theorem image (h : Reads s d) (b : Option Block) (n : Nat) :
    Reads { s with blocks := b.toList ++ s.blocks } (d.addAny n (b.map .alt)) := by
  cases b with
  | none => exact h
  | some b => exact ⟨h.buffer, by simp [Draft.addAny, Draft.add, h.blocks]⟩

theorem openTag (h : Reads s d) (w : Walker) (name : Text) (attrs : List (Text × Text))
    (selfClosing : Bool) (n : Nat) : Reads (w.openTag name attrs selfClosing s)
      (d.addAny n (w.event? s (.start name attrs selfClosing))) := by
  have hflush := h.flushAt w name n
  rw [Walker.openTag, event?, ← Walker.flushAt]
  split
  · split <;> exact h.congr_state rfl rfl
  · split
    · exact h.image _ n
    · split
      · exact h.prose _ n
      · dsimp only
        split
        · exact hflush
        · split <;> exact hflush.congr_state rfl rfl

theorem closeTag (h : Reads s d) (w : Walker) (name : Text) (n : Nat) :
    Reads (w.closeTag name s) (d.addAny n (w.event? s (.stop name))) := by
  have hflush := h.flushAt w name n
  rw [event?]
  by_cases hmem : name ∈ s.stack
  · obtain ⟨inner, outer, hs, hname⟩ := List.eq_append_cons_of_mem hmem
    rcases Nat.eq_zero_or_pos s.skipDepth with hskip | hskip
    · rw [closeTag_of_not_skipped hs hname hskip]
      simp only [hskip, hmem, true_and]
      exact hflush.congr_state rfl rfl
    · rw [closeTag_of_skipped hs hname hskip, if_neg (by omega)]
      exact h.congr_state rfl rfl
  · rw [closeTag_of_not_mem hmem, if_neg (by simp [hmem])]
    exact h

theorem step (h : Reads s d) (w : Walker) (token : Token) (n : Nat) :
    Reads (w.step s token) (d.addAny n (w.event? s token)) := by
  cases token with
  | start name attrs selfClosing => exact h.openTag w name attrs selfClosing n
  | stop name => exact h.closeTag w name n
  | text t =>
    rw [step_text, event?]
    split
    · exact h.prose t n
    · exact h

end Reads

theorem reads_draft (w : Walker) (tokens : List Token) : Reads (w.run tokens) (w.draft tokens) := by
  induction tokens using List.reverseRecOn with
  | nil => exact ⟨rfl, rfl⟩
  | append_singleton tokens token ih =>
    rw [run_concat, draft_concat]
    exact ih.step w token tokens.length

theorem map_traced (w : Walker) (html : Text) : (w.traced html).map (·.2) = w.walk html :=
  ((w.reads_draft (tokenize html)).flush w (tokenize html).length).blocks

end Walker

end Copydesk.Html
