import Copydesk.Proofs.Html.Content

/-! In which order the blocks of a document come. Blocks of prose come in the order of the text, and
so do images; an image that stands in a block of prose comes before that block. So all blocks come
in the order of the document just in case no image stands in prose that has already begun. -/

namespace Copydesk.Html

open Marked

variable {d : Draft} {n : Nat} {e : Option Event}

theorem mem_of_head?_visible {m : Marked} {x : Char × Nat} (h : (visible m).head? = some x) :
    x ∈ m := (List.mem_filter.mp (List.mem_of_head? h)).1

theorem place_of_proseBlock? {scope : Text} {m : Marked} {p : Origin × Block}
    (h : proseBlock? scope m = some p) :
    p.1.isAlt = false ∧ ∃ x, (visible m).head? = some x ∧ p.1.place = x.2 := by
  obtain ⟨hne, rfl⟩ := proseBlock?_eq_some_iff.mp h
  obtain ⟨x, rest, htrim⟩ := List.exists_cons_of_ne_nil hne
  refine ⟨rfl, x, ?_, ?_⟩
  · rw [← head?_trim, htrim, List.head?_cons]
  · rw [Origin.place, htrim]
    rfl

theorem proseBlock?_eq_none_iff {scope : Text} {m : Marked} :
    proseBlock? scope m = none ↔ visible m = [] := by
  rw [visible_eq_nil_iff, ← trim_eq_nil_iff, proseBlock?]
  cases trim m <;> simp

namespace Draft

/-- The draft of the first `n` tokens, its prose and its images each in order. -/
structure Ascends (d : Draft) (n : Nat) : Prop where
  buffer_lt : ∀ x ∈ d.buffer, x.2 < n
  place_lt : ∀ p ∈ d.blocks, p.1.place < n
  prose_lt : ∀ p ∈ d.blocks, p.1.isAlt = false → ∀ x ∈ d.buffer, p.1.place < x.2
  pairwise : d.blocks.Pairwise fun p q =>
    p.1.place < q.1.place ∨ p.1.isAlt = true ∧ q.1.isAlt = false

namespace Ascends

variable (h : d.Ascends n)

include h

theorem succ : d.Ascends (n + 1) :=
  { h with
    buffer_lt := fun x hx => Nat.lt_succ_of_lt (h.buffer_lt x hx)
    place_lt := fun p hp => Nat.lt_succ_of_lt (h.place_lt p hp) }

theorem prose (t : Text) : (d.add n (.prose t)).Ascends (n + 1) := by
  have hnew : ∀ x ∈ ofText t n, x.2 = n := by
    intro x hx
    obtain ⟨c, -, rfl⟩ := List.mem_map.mp hx
    rfl
  refine ⟨List.forall_mem_append.mpr ⟨h.succ.buffer_lt, fun x hx => ?_⟩, h.succ.place_lt,
    fun p hp hprose => List.forall_mem_append.mpr ⟨h.prose_lt p hp hprose, fun x hx => ?_⟩,
    h.pairwise⟩
  · exact (hnew x hx).symm ▸ Nat.lt_succ_self n
  · exact (hnew x hx).symm ▸ h.place_lt p hp

theorem cut (scope : Text) : (d.add n (.cut scope)).Ascends (n + 1) := by
  have hnew : ∀ q ∈ (proseBlock? scope d.buffer).toList,
      q.1.isAlt = false ∧ ∃ x ∈ d.buffer, q.1.place = x.2 := by
    intro q hq
    obtain ⟨hprose, x, hx, hplace⟩ := place_of_proseBlock? (Option.mem_toList.mp hq)
    exact ⟨hprose, x, mem_of_head?_visible hx, hplace⟩
  refine ⟨nofun, List.forall_mem_append.mpr ⟨h.succ.place_lt, fun q hq => ?_⟩,
    fun _ _ _ => nofun, List.pairwise_append.mpr ⟨h.pairwise, ?_, fun p hp q hq => ?_⟩⟩
  · obtain ⟨-, x, hx, hplace⟩ := hnew q hq
    exact hplace ▸ h.succ.buffer_lt x hx
  · cases proseBlock? scope d.buffer <;> simp
  · obtain ⟨hprose, x, hx, hplace⟩ := hnew q hq
    cases halt : p.1.isAlt with
    | true => exact .inr ⟨rfl, hprose⟩
    | false => exact .inl (hplace ▸ h.prose_lt p hp halt x hx)

theorem alt (b : Block) : (d.add n (.alt b)).Ascends (n + 1) := by
  refine ⟨h.succ.buffer_lt, List.forall_mem_append.mpr ⟨h.succ.place_lt, ?_⟩,
    List.forall_mem_append.mpr ⟨h.prose_lt, ?_⟩,
    List.pairwise_append.mpr ⟨h.pairwise, List.pairwise_singleton .., fun p hp q hq => ?_⟩⟩
  · simp [Origin.place]
  · simp [Origin.isAlt]
  · rw [List.mem_singleton.mp hq]
    exact .inl (h.place_lt p hp)

theorem addAny (e : Option Event) : (d.addAny n e).Ascends (n + 1) := by
  cases e with
  | none => exact h.succ
  | some e =>
    cases e with
    | prose t => exact h.prose t
    | cut scope => exact h.cut scope
    | alt b => exact h.alt b

end Ascends

/-- The blocks come in the order of the document, those in the buffer included. -/
structure InOrder (d : Draft) : Prop where
  pairwise : d.blocks.Pairwise fun p q => p.1.place ≤ q.1.place
  buffer : ∀ x, (visible d.buffer).head? = some x → ∀ p ∈ d.blocks, p.1.place ≤ x.2

theorem inOrder_prose_iff (h : d.Ascends n) (t : Text) :
    (d.add n (.prose t)).InOrder ↔ d.InOrder := by
  have hbuffer : visible (d.add n (.prose t)).buffer = visible d.buffer ++ visible (ofText t n) :=
    visible_append ..
  cases hvisible : visible d.buffer with
  | nil =>
    rw [hvisible, List.nil_append] at hbuffer
    refine ⟨fun ho => ⟨ho.pairwise, by simp [hvisible]⟩, fun ho => ⟨ho.pairwise, ?_⟩⟩
    intro x hx p hp
    obtain ⟨c, -, rfl⟩ := List.mem_map.mp (mem_of_head?_visible (hbuffer ▸ hx))
    exact Nat.le_of_lt (h.place_lt p hp)
  | cons y rest =>
    have hhead : (visible (d.add n (.prose t)).buffer).head? = (visible d.buffer).head? := by
      rw [hbuffer, hvisible]
      rfl
    exact ⟨fun ho => ⟨ho.pairwise, hhead ▸ ho.buffer⟩, fun ho => ⟨ho.pairwise, hhead ▸ ho.buffer⟩⟩

theorem pairwise_cut_iff (d : Draft) (n : Nat) (scope : Text) :
    ((d.add n (.cut scope)).blocks.Pairwise fun p q => p.1.place ≤ q.1.place) ↔ d.InOrder := by
  rw [add]
  cases hblock : proseBlock? scope d.buffer with
  | none =>
    have hnone := proseBlock?_eq_none_iff.mp hblock
    rw [Option.toList_none, List.append_nil]
    exact ⟨fun hp => ⟨hp, by simp [hnone]⟩, InOrder.pairwise⟩
  | some q =>
    obtain ⟨-, x, hx, hplace⟩ := place_of_proseBlock? hblock
    rw [Option.toList_some, List.pairwise_append]
    constructor
    · rintro ⟨hp, -, hlast⟩
      refine ⟨hp, fun y hy p hmem => ?_⟩
      rw [hx] at hy
      obtain rfl := Option.some.inj hy
      exact hplace ▸ hlast p hmem q List.mem_cons_self
    · intro ho
      refine ⟨ho.pairwise, List.pairwise_singleton .., fun p hp r hr => ?_⟩
      rw [List.mem_singleton.mp hr, hplace]
      exact ho.buffer x hx p hp

theorem inOrder_cut_iff (d : Draft) (n : Nat) (scope : Text) :
    (d.add n (.cut scope)).InOrder ↔ d.InOrder := by
  rw [← pairwise_cut_iff d n scope]
  exact ⟨InOrder.pairwise, fun hp => ⟨hp, nofun⟩⟩

theorem inOrder_alt_iff (h : d.Ascends n) (b : Block) :
    (d.add n (.alt b)).InOrder ↔ d.InOrder ∧ visible d.buffer = [] := by
  have hlast : ∀ p ∈ d.blocks, ∀ q ∈ [(Origin.alt n, b)], p.1.place ≤ q.1.place := by
    intro p hp q hq
    rw [List.mem_singleton.mp hq]
    exact Nat.le_of_lt (h.place_lt p hp)
  constructor
  · intro ho
    have hpairwise := (List.pairwise_append.mp ho.pairwise).1
    have hnone : visible d.buffer = [] := by
      rw [← List.head?_eq_none_iff, Option.eq_none_iff_forall_not_mem]
      intro x hx
      have hle := ho.buffer x hx (.alt n, b) (List.mem_append_right _ List.mem_cons_self)
      exact absurd (h.buffer_lt x (mem_of_head?_visible hx)) (Nat.not_lt.mpr hle)
    exact ⟨⟨hpairwise, by simp [hnone]⟩, hnone⟩
  · rintro ⟨ho, hnone⟩
    refine ⟨List.pairwise_append.mpr ⟨ho.pairwise, List.pairwise_singleton .., hlast⟩, ?_⟩
    simp [add, hnone]

/-- Only an image within prose that has begun upsets the order. -/
theorem inOrder_addAny_iff (h : d.Ascends n) (e : Option Event) : (d.addAny n e).InOrder ↔
    d.InOrder ∧ ∀ b, e = some (.alt b) → visible d.buffer = [] := by
  cases e with
  | none => exact ⟨fun ho => ⟨ho, nofun⟩, And.left⟩
  | some e =>
    cases e with
    | prose t => exact (inOrder_prose_iff h t).trans ⟨fun ho => ⟨ho, nofun⟩, And.left⟩
    | cut scope => exact (inOrder_cut_iff d n scope).trans ⟨fun ho => ⟨ho, nofun⟩, And.left⟩
    | alt b =>
      refine (inOrder_alt_iff h b).trans (and_congr_right fun _ => ?_)
      exact ⟨fun hnone _ _ => hnone, fun hall => hall b rfl⟩

end Draft

namespace Walker

variable {w : Walker} {tokens : List Token} {q : Nat × Text}

theorem ascends_draft (w : Walker) (tokens : List Token) :
    (w.draft tokens).Ascends tokens.length := by
  induction tokens using List.reverseRecOn with
  | nil => exact ⟨nofun, nofun, nofun, .nil⟩
  | append_singleton tokens token ih =>
    rw [draft_concat, List.length_append]
    exact ih.addAny _

theorem exists_event?_alt_iff {s : State} {token : Token}
    (hskip : s.skipDepth = 0 ↔ ∀ tag ∈ s.stack, w.skips tag = false) :
    (∃ b, w.event? s token = some (.alt b)) ↔ ∃ q, w.image? s n token = some q := by
  rw [← bind_event? hskip]
  constructor
  · rintro ⟨b, hb⟩
    exact ⟨(n, b.text), by rw [hb]; rfl⟩
  · rintro ⟨q, hq⟩
    obtain ⟨e, he, himage⟩ := Option.bind_eq_some_iff.mp hq
    cases e with
    | prose t => cases himage
    | cut scope => cases himage
    | alt b => exact ⟨b, he⟩

/-- Blocks stay in order as long as no image comes within prose that has begun. -/
theorem inOrder_draft_iff (hsound : ∀ token ∈ tokens, token.IsSound) :
    (w.draft tokens).InOrder ↔
      ∀ q ∈ w.images tokens, Text.isBlank (w.run (tokens.take q.1)).buffer = true := by
  induction tokens using List.reverseRecOn with
  | nil => exact iff_of_true ⟨.nil, nofun⟩ nofun
  | append_singleton tokens token ih =>
    have hsounds := (List.forall_mem_append.mp hsound).1
    -- The state before an earlier image is the same, that before the last token is the whole run.
    have hold : ∀ q ∈ w.images tokens, (tokens ++ [token]).take q.1 = tokens.take q.1 :=
      fun q hq => List.take_append_of_le_length (Nat.le_of_lt (lt_of_mem_images hq))
    have hnew : ∀ q, w.image? (w.run tokens) tokens.length token = some q →
        (tokens ++ [token]).take q.1 = tokens := by
      intro q hq
      rw [fst_of_image? hq]
      exact List.take_left
    have hbuffer : visible (w.draft tokens).buffer = [] ↔
        Text.isBlank (w.run tokens).buffer = true := by
      rw [visible_eq_nil_iff, (w.reads_draft tokens).buffer]
    have halt : (∃ b, w.event? (w.run tokens) token = some (.alt b)) ↔
        ∃ q, w.image? (w.run tokens) tokens.length token = some q :=
      exists_event?_alt_iff (skipDepth_run_eq_zero_iff hsounds)
    rw [draft_concat, Draft.inOrder_addAny_iff (w.ascends_draft tokens), ih hsounds, images_concat,
      List.forall_mem_append, hbuffer]
    refine and_congr (forall₂_congr fun q hq => by rw [hold q hq]) ?_
    rw [← exists_imp, halt, exists_imp]
    refine forall_congr' fun q => ?_
    rw [Option.mem_toList]
    exact forall_congr' fun hq => by rw [hnew q hq]

theorem exists_text_of_mem_admitted {x : Char × Nat} (h : x ∈ w.admitted tokens) :
    ∃ t, tokens[x.2]? = some (.text t) ∧ x.1 ∈ t := by
  obtain ⟨m, hm, hx⟩ := List.mem_flatten.mp h
  obtain ⟨n, token, hget, hadmitted⟩ := mem_readOff.mp hm
  cases token with
  | start name attrs selfClosing => cases hadmitted
  | stop name => cases hadmitted
  | text t =>
    rw [admitted?] at hadmitted
    split at hadmitted
    · obtain rfl := Option.some.inj hadmitted
      obtain ⟨c, hc, rfl⟩ := List.mem_map.mp hx
      exact ⟨t, hget, hc⟩
    · cases hadmitted

theorem exists_text_of_mem_traced {html : Text} {p : Origin × Block} (hp : p ∈ w.traced html)
    (hprose : p.1.isAlt = false) : ∃ t c, (tokenize html)[p.1.place]? = some (.text t) ∧ c ∈ t ∧
      p.2.text.head? = some c ∧ Text.isSpace c = false := by
  have htext := w.holds_traced html
  obtain ⟨c, hc, hspace⟩ := (htext.trimmed p hp).head
  obtain ⟨_ | m, b⟩ := p
  · cases hprose
  · have hb : b.text = Marked.text m := htext.text _ hp m rfl
    rw [hb] at hc
    cases m with
    | nil => cases hc
    | cons x rest =>
      obtain rfl : x.1 = c := Option.some.inj hc
      have hchars : x ∈ Draft.chars { blocks := w.traced html } :=
        List.mem_append_left _ (List.mem_flatMap.mpr ⟨_, hp, List.mem_cons_self⟩)
      have hvisible : x ∈ visible (Draft.chars { blocks := w.traced html }) :=
        List.mem_filter.mpr ⟨hchars, by simp [isBlank, hspace]⟩
      rw [htext.prose] at hvisible
      obtain ⟨t, ht, hmem⟩ := exists_text_of_mem_admitted (List.mem_filter.mp hvisible).1
      exact ⟨t, x.1, ht, hmem, by rw [hb]; rfl, hspace⟩

/-- Each block has its place in the document: that of its image, or of the text that its first
character comes from. Prose ascends and so do images; only an image in prose that has begun is
out of place, before the block that it stands in. -/
structure OrdersBlocks (w : Walker) (html : Text) : Prop where
  walk : (w.traced html).map (·.2) = w.walk html
  image : ∀ p ∈ w.traced html, p.1.isAlt = true →
    (p.1.place, p.2.text) ∈ w.images (tokenize html)
  prose : ∀ p ∈ w.traced html, p.1.isAlt = false →
    ∃ t c, (tokenize html)[p.1.place]? = some (.text t) ∧ c ∈ t ∧ p.2.text.head? = some c ∧
      Text.isSpace c = false
  ascending : (w.traced html).Pairwise fun p q =>
    p.1.place < q.1.place ∨ p.1.isAlt = true ∧ q.1.isAlt = false
  inOrder_iff : ((w.traced html).Pairwise fun p q => p.1.place ≤ q.1.place) ↔
    ∀ q ∈ w.images (tokenize html), Text.isBlank (w.run ((tokenize html).take q.1)).buffer = true

theorem ordersBlocks (w : Walker) (html : Text) : w.OrdersBlocks html := by
  have hsound : ∀ token ∈ tokenize html, token.IsSound := fun token => isSound_of_mem_tokenize
  refine ⟨w.map_traced html, fun p hp halt => ?_, fun p hp hprose => ?_, ?_, ?_⟩
  · rw [← (w.holds_traced html).images]
    refine List.mem_filterMap.mpr ⟨p, hp, ?_⟩
    obtain ⟨_ | _, b⟩ := p
    · rfl
    · cases halt
  · exact exists_text_of_mem_traced hp hprose
  · exact ((w.ascends_draft (tokenize html)).cut _).pairwise
  · rw [← inOrder_draft_iff hsound, traced, Draft.pairwise_cut_iff]

def illustratedPage : Text := "<p>Very <img alt=\"pic\"> good</p>"

/-- An image comes before the prose that it stands in. -/
theorem traced_illustratedPage :
    let traced := (ofTags ["pre"] ["code"] "html").traced illustratedPage
    traced.map (fun p => (p.1.place, String.ofList p.2.text)) = [(2, "pic"), (1, "Very  good")] ∧
      ¬traced.Pairwise fun p q => p.1.place ≤ q.1.place := by
  decide +kernel

end Walker

end Copydesk.Html
