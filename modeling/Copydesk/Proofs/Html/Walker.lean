import Copydesk.Html.Walker
import Copydesk.Proofs.Text.Split
import Mathlib.Data.List.Forall2

/-! Blocks of a document under different extensions. They have the same texts, and their scopes
differ only behind the sections that the elements give. -/

namespace Copydesk

open Text

namespace Html

def Alike (e e' : Text) (b b' : Block) : Prop :=
  ∃ text head, b = .ofText text (head ++ '.' :: e) ∧ b' = .ofText text (head ++ '.' :: e')

namespace Walker

structure IsEnding (e : Text) : Prop where
  ne_nil : e ≠ []
  head : e.head? ≠ some '.'
  last : e.getLast? ≠ some '.'

variable {e e' : Text} {skipped ignored : List Text}

theorem ofTags_ext (he : IsEnding e) : (ofTags skipped ignored e).ext = e := by
  cases e with
  | nil => rfl
  | cons c e =>
    have hc : ¬(c == '.') = true := fun h => he.head (congrArg some (beq_iff_eq.mp h))
    exact List.dropWhile_cons_of_neg (p := (· == '.')) hc

theorem join_concat {ps : List Text} (hne : ps ≠ []) (p : Text) :
    join ['.'] (ps ++ [p]) = join ['.'] ps ++ '.' :: p := by
  induction ps with
  | nil => exact absurd rfl hne
  | cons q ps ih =>
    cases ps with
    | nil => simp [join, List.intercalate]
    | cons r ps =>
      rw [List.cons_append, join_cons _ _ (by simp), ih (by simp), join_cons ['.'] q (by simp)]
      simp only [List.append_assoc]

/-- The sections of a scope before the ending. -/
def sections (stack : List Text) : List Text :=
  let quote : List Text := if "blockquote".toList ∈ stack then ["blockquote"] else []
  "text".toList :: (quote ++ (stack.findSome? tagScope?).toList)

theorem scope_ofTags (he : IsEnding e) (stack : List Text) :
    (ofTags skipped ignored e).scope stack = join ['.'] (sections stack) ++ '.' :: e := by
  have hscope (w : Walker) :
      w.scope stack = join ['.'] (sections stack ++ if w.ext.isEmpty then [] else [w.ext]) := rfl
  have hempty : e.isEmpty = false := by simpa using he.ne_nil
  rw [hscope, ofTags_ext he, hempty]
  exact join_concat (List.cons_ne_nil _ _) e

theorem altScope_eq (he : IsEnding e) (t : Text) :
    dropEndWhile (· == '.') (t ++ e) = t ++ e := by
  obtain ⟨e, c, rfl⟩ := List.eq_nil_or_concat' e |>.resolve_left he.ne_nil
  have hc : ¬(c == '.') = true := fun h => he.last (by simpa using h)
  rw [dropEndWhile, ← List.append_assoc, List.reverse_append]
  simp [hc]

theorem altBlock?_alike (he : IsEnding e) (he' : IsEnding e') (attrs : List (Text × Text)) :
    List.Forall₂ (Alike e e') ((ofTags skipped ignored e).altBlock? attrs).toList
      ((ofTags skipped ignored e').altBlock? attrs).toList := by
  simp only [altBlock?, ofTags_ext he, ofTags_ext he', altScope_eq he, altScope_eq he']
  cases attrs.lookup "alt".toList with
  | none => exact .nil
  | some alt =>
    simp only [Option.bind_eq_bind, Option.bind_some]
    split
    · exact .nil
    · exact .cons ⟨trim alt, "text.alt".toList, rfl, rfl⟩ .nil

def State.Alike (e e' : Text) (s s' : State) : Prop :=
  ∃ bs, s' = { s with blocks := bs } ∧ List.Forall₂ (Html.Alike e e') s.blocks bs

variable {s s' : State}

theorem State.Alike.flush (he : IsEnding e) (he' : IsEnding e') (h : State.Alike e e' s s') :
    State.Alike e e' ((ofTags skipped ignored e).flush s)
      ((ofTags skipped ignored e').flush s') := by
  obtain ⟨bs, rfl, hbs⟩ := h
  simp only [Walker.flush, scope_ofTags he, scope_ofTags he']
  split
  · exact ⟨bs, rfl, hbs⟩
  · exact ⟨_, rfl, .cons ⟨_, _, rfl, rfl⟩ hbs⟩

theorem State.Alike.flushAt (skipped ignored : List Text) (he : IsEnding e) (he' : IsEnding e')
    (h : State.Alike e e' s s') (name : Text) : State.Alike e e'
      (if name ∈ blockTags then (ofTags skipped ignored e).flush s else s)
      (if name ∈ blockTags then (ofTags skipped ignored e').flush s' else s') := by
  split
  · exact h.flush he he'
  · exact h

theorem State.Alike.openTag (he : IsEnding e) (he' : IsEnding e') (h : State.Alike e e' s s')
    (name : Text) (attrs : List (Text × Text)) (selfClosing : Bool) :
    State.Alike e e' ((ofTags skipped ignored e).openTag name attrs selfClosing s)
      ((ofTags skipped ignored e').openTag name attrs selfClosing s') := by
  have hflush := h.flushAt skipped ignored he he' name
  obtain ⟨bs, rfl, hbs⟩ := h
  obtain ⟨bs', hs', hbs'⟩ := hflush
  have hskips : (ofTags skipped ignored e').skips = (ofTags skipped ignored e).skips := rfl
  have hignores : (ofTags skipped ignored e').ignores = (ofTags skipped ignored e).ignores := rfl
  simp only [Walker.openTag, hs', hskips, hignores]
  -- both walkers take the same branch, since only the blocks of their states differ
  split
  · split
    · exact ⟨bs, rfl, hbs⟩
    · exact ⟨bs, rfl, hbs⟩
  · split
    · exact ⟨_, rfl, List.rel_append (altBlock?_alike he he' attrs) hbs⟩
    · split
      · exact ⟨bs, rfl, hbs⟩
      · split
        · exact ⟨bs', rfl, hbs'⟩
        · split
          · exact ⟨bs', rfl, hbs'⟩
          · exact ⟨bs', rfl, hbs'⟩

theorem State.Alike.closeTag (he : IsEnding e) (he' : IsEnding e') (h : State.Alike e e' s s')
    (name : Text) : State.Alike e e' ((ofTags skipped ignored e).closeTag name s)
      ((ofTags skipped ignored e').closeTag name s') := by
  have hflush := h.flushAt skipped ignored he he' name
  obtain ⟨bs, rfl, hbs⟩ := h
  obtain ⟨bs', hs', hbs'⟩ := hflush
  have hignores : (ofTags skipped ignored e').ignores = (ofTags skipped ignored e).ignores := rfl
  simp only [Walker.closeTag, hs', hignores]
  split
  · exact ⟨bs, rfl, hbs⟩
  · split
    · exact ⟨bs, rfl, hbs⟩
    · exact ⟨bs', rfl, hbs'⟩

theorem State.Alike.step (he : IsEnding e) (he' : IsEnding e') (h : State.Alike e e' s s')
    (token : Token) : State.Alike e e' ((ofTags skipped ignored e).step s token)
      ((ofTags skipped ignored e').step s' token) := by
  cases token with
  | start name attrs selfClosing => exact h.openTag he he' name attrs selfClosing
  | stop name => exact h.closeTag he he' name
  | text t =>
    obtain ⟨bs, rfl, hbs⟩ := h
    simp only [Walker.step]
    split <;> exact ⟨bs, rfl, hbs⟩

theorem State.Alike.foldl (he : IsEnding e) (he' : IsEnding e') (h : State.Alike e e' s s')
    (tokens : List Token) : State.Alike e e' (tokens.foldl (ofTags skipped ignored e).step s)
      (tokens.foldl (ofTags skipped ignored e').step s') := by
  induction tokens generalizing s s' with
  | nil => exact h
  | cons token tokens ih => exact ih (h.step he he' token)

/-- The blocks of a document, one by one, differ only in the endings of their scopes. -/
theorem walk_alike (he : IsEnding e) (he' : IsEnding e') (html : Text) :
    List.Forall₂ (Html.Alike e e') ((ofTags skipped ignored e).walk html)
      ((ofTags skipped ignored e').walk html) := by
  have hstart : State.Alike e e' {} {} := ⟨[], rfl, .nil⟩
  obtain ⟨bs, hs, hbs⟩ := (hstart.foldl he he' (tokenize html)).flush he he'
  rw [walk, walk, walkTokens, walkTokens, hs]
  exact List.rel_reverse hbs

end Walker

end Html

end Copydesk
