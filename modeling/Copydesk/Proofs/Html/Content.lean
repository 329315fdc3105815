import Copydesk.Proofs.Html.Origin

/-! What the blocks of a document hold. The visible characters of its prose are those of the texts
that were taken down, in order and once each; no block begins or ends with white space; and the
other blocks are those of the images with an alternative text outside of skipped content. -/

namespace Copydesk

namespace Html

open Marked

variable {w : Walker}

theorem mem_blocks_addAny {d : Draft} {n : Nat} {e : Option Event} {p : Origin × Block}
    (h : p ∈ (d.addAny n e).blocks) : p ∈ d.blocks ∨
      (∃ b, e = some (.alt b) ∧ p = (.alt n, b)) ∨
      ∃ scope, e = some (.cut scope) ∧ proseBlock? scope d.buffer = some p := by
  cases e with
  | none => exact .inl h
  | some e =>
    cases e with
    | prose t => exact .inl h
    | cut scope =>
      rcases List.mem_append.mp h with h | h
      · exact .inl h
      · exact .inr (.inr ⟨scope, rfl, Option.mem_toList.mp h⟩)
    | alt b =>
      rcases List.mem_append.mp h with h | h
      · exact .inl h
      · exact .inr (.inl ⟨b, rfl, List.mem_singleton.mp h⟩)

theorem proseBlock?_eq_some_iff {scope : Text} {m : Marked} {p : Origin × Block} :
    proseBlock? scope m = some p ↔ trim m ≠ [] ∧
      p = (.prose (trim m), .ofText (text (trim m)) scope) := by
  unfold proseBlock?
  split
  · rename_i h
    simp [List.isEmpty_iff.mp h]
  · rename_i h
    rw [List.isEmpty_iff] at h
    simp [h, eq_comm]

def Origin.image? : Origin × Block → Option (Nat × Text)
  | (.alt n, b) => some (n, b.text)
  | (.prose _, _) => none

def Event.image? (n : Nat) : Event → Option (Nat × Text)
  | .alt b => some (n, b.text)
  | _ => none

def Event.chars (n : Nat) : Event → Marked
  | .prose t => ofText t n
  | _ => []

namespace Draft

variable (d : Draft) (n : Nat) (e : Option Event)

def chars : Marked := d.blocks.flatMap (·.1.chars) ++ d.buffer

theorem visible_chars_addAny : visible (d.addAny n e).chars =
    visible d.chars ++ visible (e.elim [] (Event.chars n)) := by
  cases e with
  | none => exact (List.append_nil _).symm
  | some e =>
    cases e with
    | prose t =>
      rw [addAny, Option.elim_some, add, chars, ← List.append_assoc, visible_append]
      rfl
    | cut scope =>
      have hblock : visible ((proseBlock? scope d.buffer).toList.flatMap (·.1.chars)) =
          visible d.buffer := by
        rw [← visible_trim d.buffer, proseBlock?]
        cases htrim : trim d.buffer <;> simp [Origin.chars]
      rw [addAny, Option.elim_some, add, chars, List.flatMap_append, List.append_nil,
        visible_append, hblock, ← visible_append]
      exact (List.append_nil _).symm
    | alt b => simp [addAny, add, chars, Origin.chars, Event.chars, visible]

theorem images_addAny : (d.addAny n e).blocks.filterMap Origin.image? =
    d.blocks.filterMap Origin.image? ++ (e.bind (Event.image? n)).toList := by
  cases e with
  | none => exact (List.append_nil _).symm
  | some e =>
    cases e with
    | prose t => exact (List.append_nil _).symm
    | cut scope =>
      have hblock : (proseBlock? scope d.buffer).toList.filterMap Origin.image? = [] := by
        rw [proseBlock?]
        split <;> rfl
      rw [addAny, Option.elim_some, add, List.filterMap_append, hblock]
      rfl
    | alt b =>
      rw [addAny, Option.elim_some, add, List.filterMap_append]
      rfl

end Draft

namespace Walker

/-- The alternative text of an image that is not within skipped content. -/
def image? (w : Walker) (s : State) (n : Nat) : Token → Option (Nat × Text)
  | .start name attrs _ =>
    if name = "img" ∧ ∀ tag ∈ s.stack, w.skips tag = false then
      ((attrs.lookup "alt".toList).filter (!Text.isBlank ·)).map fun alt => (n, Text.trim alt)
    else none
  | _ => none

/-- The images of a document with an alternative text, outside of skipped content. -/
def images (w : Walker) (tokens : List Token) : List (Nat × Text) := w.readOff w.image? tokens

/-- The text that a token has taken down. -/
def admitted? (s : State) (n : Nat) : Token → Option Marked
  | .text t => if s.admits then some (ofText t n) else none
  | _ => none

def admitted (w : Walker) (tokens : List Token) : Marked := (w.readOff admitted? tokens).flatten

theorem altBlock?_eq (w : Walker) (attrs : List (Text × Text)) (n : Nat) :
    (w.altBlock? attrs).map (fun b => (n, b.text)) =
      ((attrs.lookup "alt".toList).filter (!Text.isBlank ·)).map fun alt => (n, Text.trim alt) := by
  rw [altBlock?]
  cases attrs.lookup "alt".toList with
  | none => rfl
  | some alt => by_cases h : Text.isBlank alt <;> simp [h, Option.filter, Block.ofText]

theorem isTrimmed_of_altBlock? {attrs : List (Text × Text)} {b : Block}
    (h : w.altBlock? attrs = some b) : Text.IsTrimmed b.text := by
  have halt := w.altBlock?_eq attrs 0
  rw [h, Option.map_some, eq_comm, Option.map_eq_some_iff] at halt
  obtain ⟨alt, hfilter, heq⟩ := halt
  rw [← (Prod.mk.inj heq).2]
  refine Text.isTrimmed_trim fun hnil => ?_
  have hblank := (Option.filter_eq_some_iff.mp hfilter).2
  rw [Text.trim_eq_nil_iff.mp hnil] at hblank
  cases hblank

theorem visible_event? (w : Walker) (s : State) (n : Nat) (token : Token) :
    visible ((w.event? s token).elim [] (Event.chars n)) =
      visible ((admitted? s n token).toList.flatten) := by
  cases token with
  | start name attrs selfClosing =>
    rw [event?]
    split
    · rfl
    · split
      · cases w.altBlock? attrs <;> rfl
      · split
        · rfl
        · split <;> rfl
  | stop name =>
    rw [event?]
    split <;> rfl
  | text t =>
    rw [event?, admitted?]
    split
    · simp [Event.chars]
    · rfl

theorem bind_event? {s : State} (hskip : s.skipDepth = 0 ↔ ∀ tag ∈ s.stack, w.skips tag = false)
    (n : Nat) (token : Token) :
    (w.event? s token).bind (Event.image? n) = w.image? s n token := by
  cases token with
  | start name attrs selfClosing =>
    have halt : ((w.altBlock? attrs).map Event.alt).bind (Event.image? n) =
        (w.altBlock? attrs).map fun b => (n, b.text) := by
      cases w.altBlock? attrs <;> rfl
    rcases Nat.eq_zero_or_pos s.skipDepth with hdepth | hdepth
    · rw [event?, if_neg (by omega), image?]
      by_cases himg : name = "img"
      · rw [if_pos himg, if_pos ⟨himg, hskip.mp hdepth⟩, halt, altBlock?_eq]
      · have hnot : ¬(name = "img" ∧ ∀ tag ∈ s.stack, w.skips tag = false) := fun h => himg h.1
        rw [if_neg himg, if_neg hnot]
        split
        · rfl
        · split <;> rfl
    · have hnot : ¬(name = "img" ∧ ∀ tag ∈ s.stack, w.skips tag = false) :=
        fun h => absurd (hskip.mpr h.2) (by omega)
      rw [event?, if_pos hdepth, image?, if_neg hnot]
      rfl
  | stop name =>
    rw [event?]
    split <;> rfl
  | text t =>
    rw [event?]
    split <;> rfl

theorem exists_altBlock? {s : State} {token : Token} {b : Block}
    (h : w.event? s token = some (.alt b)) : ∃ attrs, w.altBlock? attrs = some b := by
  cases token with
  | start name attrs selfClosing =>
    refine ⟨attrs, ?_⟩
    rw [event?] at h
    split at h
    · cases h
    · split at h
      · obtain ⟨b', halt, hb⟩ := Option.map_eq_some_iff.mp h
        cases hb
        exact halt
      · split at h
        · cases h
        · split at h <;> cases h
  | stop name =>
    rw [event?] at h
    split at h <;> cases h
  | text t =>
    rw [event?] at h
    split at h <;> cases h

/-- The draft holds the visible characters that were taken down and the images met so far. -/
structure Holds (w : Walker) (tokens : List Token) (d : Draft) : Prop where
  prose : visible d.chars = visible (w.admitted tokens)
  images : d.blocks.filterMap Origin.image? = w.images tokens
  trimmed : ∀ p ∈ d.blocks, p.2.text.IsTrimmed
  text : ∀ p ∈ d.blocks, ∀ m, p.1 = .prose m → p.2.text = Marked.text m

theorem admitted_concat (w : Walker) (tokens : List Token) (token : Token) :
    w.admitted (tokens ++ [token]) = w.admitted tokens ++
      (admitted? (w.run tokens) tokens.length token).toList.flatten := by
  rw [admitted, readOff_concat, List.flatten_append, ← admitted]

theorem images_concat (w : Walker) (tokens : List Token) (token : Token) :
    w.images (tokens ++ [token]) =
      w.images tokens ++ (w.image? (w.run tokens) tokens.length token).toList :=
  w.readOff_concat w.image? tokens token

theorem Holds.addAny {tokens tokens' : List Token} {d : Draft} (h : w.Holds tokens d) (n : Nat)
    (e : Option Event) (hprose : visible (w.admitted tokens') =
      visible (w.admitted tokens) ++ visible (e.elim [] (Event.chars n)))
    (himages : w.images tokens' = w.images tokens ++ (e.bind (Event.image? n)).toList)
    (halt : ∀ b, e = some (.alt b) → b.text.IsTrimmed) : w.Holds tokens' (d.addAny n e) := by
  constructor
  · rw [Draft.visible_chars_addAny, h.prose, hprose]
  · rw [Draft.images_addAny, h.images, himages]
  · intro p hp
    rcases mem_blocks_addAny hp with hp | ⟨b, hb, rfl⟩ | ⟨scope, -, hscope⟩
    · exact h.trimmed p hp
    · exact halt b hb
    · obtain ⟨hne, rfl⟩ := proseBlock?_eq_some_iff.mp hscope
      rw [Ne, ← List.map_eq_nil_iff (f := (·.1)), ← Marked.text, text_trim] at hne
      exact text_trim d.buffer ▸ Text.isTrimmed_trim hne
  · intro p hp m hm
    rcases mem_blocks_addAny hp with hp | ⟨b, -, rfl⟩ | ⟨scope, -, hscope⟩
    · exact h.text p hp m hm
    · cases hm
    · obtain ⟨-, rfl⟩ := proseBlock?_eq_some_iff.mp hscope
      cases hm
      rfl

theorem Holds.concat {tokens : List Token} {token : Token} {d : Draft} (h : w.Holds tokens d)
    (hskip : (w.run tokens).skipDepth = 0 ↔ ∀ tag ∈ (w.run tokens).stack, w.skips tag = false) :
    w.Holds (tokens ++ [token]) (d.addAny tokens.length (w.event? (w.run tokens) token)) := by
  refine h.addAny _ _ ?_ ?_ fun b hb => ?_
  · rw [visible_event?, ← visible_append, admitted_concat]
  · rw [bind_event? hskip, images_concat]
  · obtain ⟨attrs, halt⟩ := exists_altBlock? hb
    exact isTrimmed_of_altBlock? halt

theorem Holds.cut {tokens : List Token} {d : Draft} (h : w.Holds tokens d) (n : Nat)
    (scope : Text) : w.Holds tokens (d.add n (.cut scope)) := by
  have hnone : ∀ b, some (Event.cut scope) = some (.alt b) → b.text.IsTrimmed := nofun
  exact h.addAny n (some (.cut scope)) (List.append_nil _).symm (List.append_nil _).symm hnone

theorem holds_draft {tokens : List Token} (hsound : ∀ token ∈ tokens, token.IsSound) :
    w.Holds tokens (w.draft tokens) := by
  induction tokens using List.reverseRecOn with
  | nil => exact ⟨rfl, rfl, nofun, nofun⟩
  | append_singleton tokens token ih =>
    have hsounds := (List.forall_mem_append.mp hsound).1
    rw [draft_concat]
    exact (ih hsounds).concat (skipDepth_run_eq_zero_iff hsounds)

section Images

variable {tokens : List Token} {n : Nat} {p : Nat × Text}

theorem fst_of_image? {s : State} {token : Token} (h : w.image? s n token = some p) : p.1 = n := by
  cases token with
  | start name attrs selfClosing =>
    rw [image?] at h
    split at h
    · obtain ⟨alt, -, rfl⟩ := Option.map_eq_some_iff.mp h
      rfl
    · cases h
  | stop name => cases h
  | text t => cases h

theorem lt_of_mem_images (h : p ∈ w.images tokens) : p.1 < tokens.length := by
  obtain ⟨n, token, hget, hp⟩ := mem_readOff.mp h
  rw [fst_of_image? hp]
  exact (List.getElem?_eq_some_iff.mp hget).1

theorem pairwise_images (w : Walker) (tokens : List Token) :
    (w.images tokens).Pairwise fun p q => p.1 < q.1 := by
  induction tokens using List.reverseRecOn with
  | nil => exact .nil
  | append_singleton tokens token ih =>
    rw [images_concat]
    refine List.pairwise_append.mpr ⟨ih, ?_, fun p hp q hq => ?_⟩
    · cases w.image? (w.run tokens) tokens.length token <;> simp
    · rw [fst_of_image? (Option.mem_toList.mp hq)]
      exact lt_of_mem_images hp

end Images

theorem holds_traced (w : Walker) (html : Text) :
    w.Holds (tokenize html) { blocks := w.traced html } :=
  (holds_draft fun _ => isSound_of_mem_tokenize).cut (tokenize html).length
    (w.scope (w.run (tokenize html)).stack)

/-- The blocks of a document, told apart by their origins: each holds the characters that it comes
from, the visible ones of prose are those that were taken down, and the others are the images, each
with a tag of its own. -/
structure KeepsText (w : Walker) (html : Text) : Prop where
  walk : (w.traced html).map (·.2) = w.walk html
  prose : visible ((w.traced html).flatMap (·.1.chars)) = visible (w.admitted (tokenize html))
  text : ∀ p ∈ w.traced html, ∀ m, p.1 = .prose m → p.2.text = Marked.text m
  trimmed : ∀ b ∈ w.walk html, b.text.IsTrimmed
  images : (w.traced html).filterMap Origin.image? = w.images (tokenize html)
  distinct : (w.images (tokenize html)).Pairwise fun p q => p.1 < q.1

theorem keepsText (w : Walker) (html : Text) : w.KeepsText html := by
  have h := w.holds_traced html
  refine ⟨w.map_traced html, ?_, h.text, ?_, h.images, w.pairwise_images _⟩
  · rw [← h.prose, Draft.chars, List.append_nil]
  · intro b hb
    rw [← w.map_traced html] at hb
    obtain ⟨p, hp, rfl⟩ := List.mem_map.mp hb
    exact h.trimmed p hp

end Walker

end Html

end Copydesk
