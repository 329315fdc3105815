import Copydesk.Proofs.Html.Written

/-! How tags nest. Markup is made of characters and whole tags, so the tags of two pieces of it are
those of the one and then those of the other, and a piece is known by the elements that it leaves
open. -/

namespace Copydesk.Html

open Text

variable {a b t inner : Text} {s s' s'' : List Text} {name : Text}

/-- Characters outside of tags, and tags that are read as they stand. -/
inductive IsMarkup : Text → Prop
  | nil : IsMarkup []
  | char {c : Char} {t : Text} : c ≠ '<' → IsMarkup t → IsMarkup (c :: t)
  | tag {inner t : Text} : IsTag inner → IsMarkup t → IsMarkup ('<' :: (inner ++ '>' :: t))

namespace IsMarkup

theorem of_not_mem (h : '<' ∉ t) : IsMarkup t := by
  induction t with
  | nil => exact .nil
  | cons c t ih =>
    obtain ⟨hc, ht⟩ := List.ne_and_not_mem_of_not_mem_cons h
    exact .char (Ne.symm hc) (ih ht)

theorem append (ha : IsMarkup a) (hb : IsMarkup b) : IsMarkup (a ++ b) := by
  induction ha with
  | nil => exact hb
  | char hc _ ih => exact .char hc ih
  | tag hinner _ ih =>
    rw [List.cons_append, List.append_assoc]
    exact .tag hinner ih

theorem write {token : Token} (h : token.IsWritable) : IsMarkup token.write := by
  cases token with
  | start name attrs selfClosing => exact .tag (Token.IsWritable.isTag_startTag h) .nil
  | stop name => exact .tag (Token.IsTagName.isTag_stop h) .nil
  | text t => exact of_not_mem fun hmem => (ne_of_mem_escape hmem).1 rfl

end IsMarkup

def tags (html : Text) : List Token := (tokenize html).filter (!·.isText)

theorem filter_textTokens (t : Text) : (textTokens t).filter (!·.isText) = [] := by
  rw [textTokens]
  split <;> rfl

theorem tags_cons {c : Char} (hc : c ≠ '<') (t : Text) : tags (c :: t) = tags t := by
  have hplain : '<' ∉ t.takeWhile (· != '<') := fun hmem => by
    simpa using List.mem_takeWhile_imp hmem
  have hhead : ∀ d ∈ (t.dropWhile (· != '<')).head?, d = '<' := by
    intro d hd
    have hnot := List.head?_dropWhile_not (· != '<') t
    rw [Option.mem_def.mp hd] at hnot
    simpa using hnot
  have htext : '<' ∉ c :: t.takeWhile (· != '<') :=
    List.not_mem_cons_of_ne_of_not_mem hc.symm hplain
  rw [← List.takeWhile_append_dropWhile (p := (· != '<')) (l := t), ← List.cons_append, tags, tags,
    tokenize_append htext hhead, tokenize_append hplain hhead, List.filter_append,
    List.filter_append, filter_textTokens, filter_textTokens]

theorem IsMarkup.tags_append (ha : IsMarkup a) (b : Text) : tags (a ++ b) = tags a ++ tags b := by
  induction ha with
  | nil => rfl
  | char hc _ ih => rw [List.cons_append, tags_cons hc, tags_cons hc, ih]
  | @tag inner t hinner _ ih =>
    rw [tags, tags] at ih
    rw [List.cons_append, List.append_assoc, List.cons_append, tags, tags, tokenize_tag hinner,
      tokenize_tag hinner, List.filter_cons, List.filter_cons, ih]
    split <;> rfl

section Elements

/-- Whether a token closes no element but the innermost. -/
def closesInnermost (open' : List Text) : Token → Bool
  | .stop name => open'.head? == some name
  | _ => true

/-- The elements that are open after some tokens, if each end tag closes the innermost one. -/
def nest? (open' : List Text) : List Token → Option (List Text)
  | [] => some open'
  | token :: tokens =>
    if closesInnermost open' token then nest? (nextElements open' token) tokens else none

/-- Each end tag closes the innermost element, and none is left open. -/
def IsBalanced (tokens : List Token) : Prop := nest? [] tokens = some []

instance : DecidablePred IsBalanced := fun tokens =>
  inferInstanceAs (Decidable (nest? [] tokens = some []))

theorem nest?_append (s : List Text) (xs ys : List Token) :
    nest? s (xs ++ ys) = (nest? s xs).bind (nest? · ys) := by
  induction xs generalizing s with
  | nil => rfl
  | cons token xs ih =>
    rw [List.cons_append, nest?, nest?]
    split
    · exact ih _
    · rfl

theorem nest?_filter (s : List Text) (tokens : List Token) :
    nest? s (tokens.filter (!·.isText)) = nest? s tokens := by
  induction tokens generalizing s with
  | nil => rfl
  | cons token tokens ih =>
    cases token with
    | text t => exact ih s
    | start name attrs selfClosing => exact ih _
    | stop name =>
      rw [List.filter_cons_of_pos rfl, nest?, nest?, ih]

end Elements

/-- The markup takes the open elements `s` to `s'`. -/
structure Nests (t : Text) (s s' : List Text) : Prop where
  markup : IsMarkup t
  nest : nest? s (tags t) = some s'

namespace Nests

theorem of_not_mem (h : '<' ∉ t) (s : List Text) : Nests t s s := by
  refine ⟨.of_not_mem h, ?_⟩
  induction t with
  | nil => rfl
  | cons c t ih =>
    obtain ⟨hc, ht⟩ := List.ne_and_not_mem_of_not_mem_cons h
    rw [tags_cons (Ne.symm hc), ih ht]

theorem append (ha : Nests a s s') (hb : Nests b s' s'') : Nests (a ++ b) s s'' := by
  refine ⟨ha.markup.append hb.markup, ?_⟩
  rw [ha.markup.tags_append, nest?_append, ha.nest]
  exact hb.nest

theorem tags_write {token : Token} (h : token.IsWritable) (htag : token.isText = false) :
    tags token.write = [token] := by
  have hread := tokenize_write_append h htag []
  rw [List.append_nil, tokenize_nil] at hread
  rw [tags, hread, List.filter_cons_of_pos (by simp [htag]), List.filter_nil]

theorem start (h : Token.IsTagName name) (hvoid : name ∉ voidTags) (s : List Text) :
    Nests (Token.start name [] false).write s (name :: s) := by
  have hwrite : (Token.start name [] false).IsWritable := ⟨h, nofun, fun hmem => absurd hmem hvoid⟩
  refine ⟨.write hwrite, ?_⟩
  rw [tags_write hwrite rfl]
  rfl

theorem stop (h : Token.IsTagName name) (s : List Text) :
    Nests (Token.stop name).write (name :: s) s := by
  have hwrite : (Token.stop name).IsWritable := h
  have hnext : nextElements ([] ++ name :: s) (.stop name) = s := nextElements_stop List.not_mem_nil
  rw [List.nil_append] at hnext
  refine ⟨.write hwrite, ?_⟩
  rw [tags_write hwrite rfl, nest?, closesInnermost, hnext, List.head?_cons,
    beq_self_eq_true, if_pos rfl]
  rfl

theorem element (h : Token.IsTagName name) (hvoid : name ∉ voidTags)
    (ht : Nests t (name :: s) (name :: s)) :
    Nests ((Token.start name [] false).write ++ (t ++ (Token.stop name).write)) s s :=
  (start h hvoid s).append (ht.append (stop h s))

end Nests

end Copydesk.Html
