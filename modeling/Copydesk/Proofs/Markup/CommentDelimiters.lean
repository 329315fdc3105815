import Copydesk.Markup.Prepare
import Copydesk.Proofs.Config.Valid
import Copydesk.Proofs.Markup.FrontMatter
import Copydesk.Proofs.Text.Replace
import Mathlib.Data.List.Basic

/-! Comments with configured delimiters. The two delimiters are replaced one after the other, so the
second replacement also takes what the first has put in, and either takes what it finds across the
delimiters of two comments that touch. -/

namespace Copydesk.Markup

open Outcome Text

/-- A text with comments, each given with the text after it. -/
def written (start stop : Text) : Text → List (Text × Text) → Text
  | x, [] => x
  | x, (comment, y) :: more => x ++ (start ++ (comment ++ (stop ++ written start stop y more)))

def IsFree (start stop t : Text) : Prop := ∀ c ∈ t, c ∉ start ∧ c ∉ stop

/-- No piece of the text, within comments or around them, holds a character of the delimiters. -/
def AreFree (start stop x : Text) (comments : List (Text × Text)) : Prop :=
  IsFree start stop x ∧ ∀ p ∈ comments, IsFree start stop p.1 ∧ IsFree start stop p.2

instance (start stop t : Text) : Decidable (IsFree start stop t) :=
  List.decidableBAll _ t

instance (start stop x : Text) (comments : List (Text × Text)) :
    Decidable (AreFree start stop x comments) :=
  inferInstanceAs (Decidable (_ ∧ _))

/-- No two delimiters touch: no comment is empty, and none follows another at once. -/
def AreApart (comments : List (Text × Text)) : Prop :=
  (∀ p ∈ comments, p.1 ≠ []) ∧ ∀ p ∈ comments.dropLast, p.2 ≠ []

/-- Native delimiters in the place of the configured ones. -/
def nativized (start stop nativeStart nativeStop t : Text) : Text :=
  replace stop nativeStop (replace start nativeStart t)

variable {c : Config} {path start stop nativeStart nativeStop old new x y s t : Text}
  {format : Format} {comments more : List (Text × Text)}

theorem prepare_of_fenceFrontMatter (h : fenceFrontMatter t = t) :
    prepare c path format t = (withNativeComments c path format t).bind fun t =>
      match codeMarks? format with
      | none => .ok t
      | some marks => (c.tokenIgnoresFor path).foldlM (markCode marks) t := by
  cases format <;> simp only [prepare, h] <;> rfl

theorem prepare_eq (hvalid : c.IsValid) (hpair : c.delimitersFor? path = some (start, stop))
    (hnative : nativeDelimiters? format = some (nativeStart, nativeStop))
    (hignores : c.tokenIgnoresFor path = []) (hfront : IsEmpty (FrontMatter t)) :
    prepare c path format t = .ok (nativized start stop nativeStart nativeStop t) := by
  have hfence : fenceFrontMatter t = t := by
    by_contra hne
    exact (nonempty_frontMatter hne).elim hfront.false
  obtain ⟨hstart, hstop⟩ := hvalid.ne_nil_of_delimitersFor? hpair
  have hcomments : withNativeComments c path format t =
      .ok (nativized start stop nativeStart nativeStop t) := by
    rw [withNativeComments, hpair]
    dsimp only
    rw [if_neg (by simp [hstart, hstop]), hnative]
    rfl
  rw [prepare_of_fenceFrontMatter hfence, hcomments, hignores]
  cases codeMarks? format <;> rfl

theorem AreFree.tail {p : Text × Text} (h : AreFree start stop x (p :: more)) :
    IsFree start stop p.1 ∧ AreFree start stop p.2 more := by
  obtain ⟨hp, hmore⟩ := List.forall_mem_cons.mp h.2
  exact ⟨hp.1, hp.2, hmore⟩

theorem AreApart.tail {p : Text × Text} (h : AreApart (p :: more)) :
    p.1 ≠ [] ∧ (more = [] ∨ p.2 ≠ []) ∧ AreApart more := by
  obtain ⟨hcomments, hbetween⟩ := h
  obtain ⟨hp, hcomments⟩ := List.forall_mem_cons.mp hcomments
  cases more with
  | nil => exact ⟨hp, .inl rfl, hcomments, hbetween⟩
  | cons q more =>
    rw [List.dropLast_cons_of_ne_nil (List.cons_ne_nil q more)] at hbetween
    obtain ⟨hy, hbetween⟩ := List.forall_mem_cons.mp hbetween
    exact ⟨hp, .inr hy, hcomments, hbetween⟩

section Apart

/-- A piece without a character of the text that is replaced parts what comes before from what comes
after. -/
theorem replace_append_free (hold : old ≠ []) (hx : ∀ c ∈ x, c ∉ old) (hne : x ≠ []) (s t : Text) :
    replace old new (s ++ (x ++ t)) = replace old new s ++ (x ++ replace old new t) := by
  have hhead : ∀ c ∈ (x ++ t).head?, c ∉ old := by
    intro c hc
    rw [List.head?_append_of_ne_nil x hne] at hc
    exact hx c (List.mem_of_head? hc)
  rw [replace_append_of_head hold hhead, replace_append _ (beginsNowhere_of_not_mem hold hx)]

theorem replace_written (hold : old ≠ []) (hx : ∀ c ∈ x, c ∉ old)
    (hfree : ∀ p ∈ comments, (∀ c ∈ p.1, c ∉ old) ∧ ∀ c ∈ p.2, c ∉ old)
    (hapart : AreApart comments) : replace old new (written start stop x comments) =
      written (replace old new start) (replace old new stop) x comments := by
  induction comments generalizing x with
  | nil =>
    have hnone : BeginsNowhere old x [] := beginsNowhere_of_not_mem hold hx
    simpa [written, replace_nil] using replace_append new hnone
  | cons p more ih =>
    obtain ⟨⟨hcomment, hy⟩, hmore⟩ := List.forall_mem_cons.mp hfree
    obtain ⟨hne, hbetween, hapart⟩ := hapart.tail
    rw [written, replace_append _ (beginsNowhere_of_not_mem hold hx),
      replace_append_free hold hcomment hne]
    have hrest : replace old new (stop ++ written start stop p.2 more) =
        replace old new stop ++ replace old new (written start stop p.2 more) := by
      refine replace_append_of_head hold (fun c hc => hy c ?_) stop
      rcases hbetween with rfl | hbetween
      · exact List.mem_of_head? hc
      · cases more with
        | nil => exact List.mem_of_head? hc
        | cons q more =>
          rw [written, List.head?_append_of_ne_nil _ hbetween] at hc
          exact List.mem_of_head? hc
    rw [hrest, ih hy hmore hapart]
    rfl

theorem nativized_written (hstart : start ≠ []) (hstop : stop ≠ [])
    (hfree : AreFree start stop x comments) (hapart : AreApart comments) :
    nativized start stop nativeStart nativeStop (written start stop x comments) =
      written (nativized start stop nativeStart nativeStop start)
        (nativized start stop nativeStart nativeStop stop) x comments := by
  obtain ⟨hx, hpieces⟩ := hfree
  rw [nativized, replace_written hstart (fun c hc => (hx c hc).1)
      (fun p hp => ⟨fun c hc => ((hpieces p hp).1 c hc).1, fun c hc => ((hpieces p hp).2 c hc).1⟩)
      hapart,
    replace_written hstop (fun c hc => (hx c hc).2)
      (fun p hp => ⟨fun c hc => ((hpieces p hp).1 c hc).2, fun c hc => ((hpieces p hp).2 c hc).2⟩)
      hapart]
  rfl

end Apart

section Touching

theorem beginsNowhere_written (h : BeginsNowhere start s start) (hx : ∀ c ∈ x, c ∉ start) :
    BeginsNowhere start s (written start stop x comments) := by
  cases x with
  | nil =>
    cases comments with
    | nil => exact h.of_head nofun
    | cons p more => exact h.append _
  | cons c x =>
    refine h.of_head fun d hd => ?_
    cases comments <;> (obtain rfl := Option.some.inj hd; exact hx c List.mem_cons_self)

theorem replace_start (hstart : start ≠ []) (h : BeginsNowhere start stop start)
    (hfree : AreFree start stop x comments) : replace start nativeStart
      (written start stop x comments) = written nativeStart stop x comments := by
  induction comments generalizing x with
  | nil =>
    have hnone : BeginsNowhere start x [] :=
      beginsNowhere_of_not_mem hstart fun c hc => (hfree.1 c hc).1
    simpa [written, replace_nil] using replace_append nativeStart hnone
  | cons p more ih =>
    obtain ⟨hcomment, hmore⟩ := hfree.tail
    have hrest : BeginsNowhere start stop (written start stop p.2 more) :=
      beginsNowhere_written h fun c hc => (hmore.1 c hc).1
    rw [written, replace_append _ (beginsNowhere_of_not_mem hstart fun c hc => (hfree.1 c hc).1),
      replace_append_self _ hstart,
      replace_append _ (beginsNowhere_of_not_mem hstart fun c hc => (hcomment c hc).1),
      replace_append _ hrest, ih hmore]
    rfl

theorem replace_stop (hstop : stop ≠ []) (h : BeginsNowhere stop nativeStart stop)
    (hfree : AreFree start stop x comments) : replace stop nativeStop
      (written nativeStart stop x comments) = written nativeStart nativeStop x comments := by
  induction comments generalizing x with
  | nil =>
    have hnone : BeginsNowhere stop x [] :=
      beginsNowhere_of_not_mem hstop fun c hc => (hfree.1 c hc).2
    simpa [written, replace_nil] using replace_append nativeStop hnone
  | cons p more ih =>
    obtain ⟨hcomment, hmore⟩ := hfree.tail
    have hbefore : BeginsNowhere stop nativeStart
        (p.1 ++ (stop ++ written nativeStart stop p.2 more)) := by
      cases hp : p.1 with
      | nil => exact h.append _
      | cons c comment =>
        refine h.of_head fun d hd => ?_
        obtain rfl := Option.some.inj hd
        exact (hcomment c (hp ▸ List.mem_cons_self)).2
    rw [written, replace_append _ (beginsNowhere_of_not_mem hstop fun c hc => (hfree.1 c hc).2),
      replace_append _ hbefore,
      replace_append _ (beginsNowhere_of_not_mem hstop fun c hc => (hcomment c hc).2),
      replace_append_self _ hstop, ih hmore]
    rfl

/-- Delimiters are replaced by the native ones if neither begins within what it may come after. -/
theorem nativized_of_beginsNowhere (hstart : start ≠ []) (hstop : stop ≠ [])
    (hfirst : start = nativeStart ∨ BeginsNowhere start stop start)
    (hsecond : BeginsNowhere stop nativeStart stop) (hfree : AreFree start stop x comments) :
    nativized start stop nativeStart nativeStop (written start stop x comments) =
      written nativeStart nativeStop x comments := by
  have hreplace : replace start nativeStart (written start stop x comments) =
      written nativeStart stop x comments := by
    rcases hfirst with rfl | hfirst
    · exact replace_self hstart _
    · exact replace_start hstart hfirst hfree
  rw [nativized, hreplace, replace_stop hstop hsecond hfree]

end Touching

section Native

/-- Neither delimiter begins within the other where they follow one another, the first does not
overlap itself, and no letter is in them. -/
structure AreUnlike (start stop : Text) : Prop where
  start_ne : start ≠ []
  stop_ne : stop ≠ []
  stop_after_start : BeginsNowhere stop start stop
  start_after_stop : BeginsNowhere start stop start
  stop_once : BeginsNowhere stop (stop ++ start).tail []
  no_border : ∀ k < start.length, 0 < k → ¬start <+: start.take k ++ start
  no_letter : (start ++ stop).any Char.isAlpha = false

theorem areUnlike_native (h : nativeDelimiters? format = some (nativeStart, nativeStop)) :
    AreUnlike nativeStart nativeStop := by
  have hhtml : AreUnlike "<!--" "-->" := by constructor <;> decide
  have hasciidoc : AreUnlike "////\n" "\n////" := by constructor <;> decide
  cases format with
  | markdown | mdx | html =>
    cases h
    exact hhtml
  | asciidoc =>
    cases h
    exact hasciidoc
  | _ => cases h

variable (hunlike : AreUnlike nativeStart nativeStop)
include hunlike

theorem AreUnlike.not_stop_infix_start : ¬nativeStop <:+: nativeStart := by
  rintro ⟨x, y, rfl⟩
  refine hunlike.stop_after_start x (nativeStop ++ y) (List.append_assoc _ _ _)
    (by simp [hunlike.stop_ne]) ?_
  rw [List.append_assoc]
  exact List.prefix_append _ _

theorem AreUnlike.not_start_infix_stop : ¬nativeStart <:+: nativeStop := by
  rintro ⟨x, y, rfl⟩
  refine hunlike.start_after_stop x (nativeStart ++ y) (List.append_assoc _ _ _)
    (by simp [hunlike.start_ne]) ?_
  rw [List.append_assoc]
  exact List.prefix_append _ _

/-- On their own the delimiters become the native ones unless the second is part of the native first
one or the first is part of the second. -/
theorem AreUnlike.nativized_iff (hstart : start ≠ []) (hstop : stop ≠ []) :
    (nativized start stop nativeStart nativeStop start = nativeStart ∧
      nativized start stop nativeStart nativeStop stop = nativeStop) ↔
    ¬stop <:+: nativeStart ∧ (start = nativeStart ∨ ¬start <:+: stop) := by
  have hself : replace start nativeStart start = nativeStart := by
    simpa [replace_nil] using replace_append_self nativeStart (t := []) hstart
  have hself' : replace stop nativeStop stop = nativeStop := by
    simpa [replace_nil] using replace_append_self nativeStop (t := []) hstop
  rw [nativized, nativized, hself]
  constructor
  · rintro ⟨hfirst, hsecond⟩
    refine ⟨fun hin => ?_, ?_⟩
    · obtain rfl := eq_of_replace_eq_self hstop hin hfirst
      exact hunlike.not_stop_infix_start hin
    · by_contra hnot
      obtain ⟨hne, hin⟩ := not_or.mp hnot
      rw [not_not] at hin
      have hnative := infix_replace nativeStart hstart hin
      by_cases hagain : stop <:+: replace start nativeStart stop
      · -- the native delimiter is all that is left, so the text was the delimiter itself
        obtain ⟨p, q, hparts, heq⟩ :=
          exists_replace_of_present nativeStop hstop hagain
        rw [hsecond] at heq
        have hlengths := congrArg List.length heq
        simp only [List.length_append] at hlengths
        obtain rfl : p = [] := List.length_eq_zero_iff.mp (by omega)
        obtain rfl : q = [] := replace_eq_nil hunlike.stop_ne hstop
          (List.length_eq_zero_iff.mp (by omega))
        rw [List.nil_append, List.append_nil] at hparts
        exact hne (eq_of_replace_eq_self hstart hin hparts)
      · rw [replace_of_absent hagain] at hsecond
        rw [hsecond] at hnative
        exact hunlike.not_start_infix_stop hnative
  · rintro ⟨hnot, hfirst⟩
    refine ⟨replace_of_absent hnot, ?_⟩
    rcases hfirst with rfl | hfirst
    · rw [replace_self hstart, hself']
    · rw [replace_of_absent hfirst, hself']

theorem AreUnlike.beginsNowhere_stop (hstop : stop ≠ []) (hin : ¬stop <:+: nativeStart)
    (h : replace stop nativeStop (nativeStart ++ stop) = nativeStart ++ nativeStop) :
    BeginsNowhere stop nativeStart stop := by
  by_contra hbegins
  obtain ⟨p, y, r, hp, hy, -, -, heq⟩ := exists_overlap nativeStop hstop hin hbegins
  rw [h, hp, List.append_assoc] at heq
  exact hunlike.stop_after_start p y hp hy ⟨r, (List.append_cancel_left heq).symm⟩

theorem AreUnlike.eq_append_of_replace {t : Text} (hstop : stop ≠ []) (hin : stop <:+: t)
    (h : replace stop nativeStop t = nativeStop ++ nativeStart) : t = stop ++ nativeStart := by
  obtain ⟨p, q, rfl, heq⟩ := exists_replace_of_present nativeStop hstop hin
  rw [h] at heq
  obtain rfl : p = [] := by
    cases p with
    | nil => rfl
    | cons d p =>
      have htail := congrArg List.tail heq
      refine (hunlike.stop_once p _ htail (by simp [hunlike.stop_ne]) ?_).elim
      rw [List.append_nil]
      exact List.prefix_append _ _
  have hq : replace stop nativeStop q = nativeStart := (List.append_cancel_left heq).symm
  have hqin : ¬stop <:+: q := fun hinfix => hunlike.not_stop_infix_start
    (hq ▸ infix_replace nativeStop hstop hinfix)
  rw [replace_of_absent hqin] at hq
  rw [List.nil_append, hq]

theorem AreUnlike.prefix_of_prefix_append {y : Text} (hy : y ≠ [])
    (h : nativeStart <+: y ++ nativeStart) : nativeStart <+: y := by
  rcases Nat.lt_or_ge y.length nativeStart.length with hlt | hge
  · have hbegin : y <+: nativeStart := List.prefix_of_prefix_length_le
      (List.prefix_append y nativeStart) h (Nat.le_of_lt hlt)
    rw [List.prefix_iff_eq_take.mp hbegin] at h
    exact (hunlike.no_border y.length hlt (List.length_pos_iff.mpr hy) h).elim
  · exact List.prefix_of_prefix_length_le h (List.prefix_append y nativeStart) hge

theorem AreUnlike.beginsNowhere_start (hstart : start ≠ []) (hstop : stop ≠ [])
    (hin : ¬start <:+: stop) (hproper : ¬nativeStart <:+: start)
    (h : nativized start stop nativeStart nativeStop (stop ++ start) = nativeStop ++ nativeStart) :
    BeginsNowhere start stop start := by
  by_contra hbegins
  obtain ⟨p, y, r, hp, hy, hshort, hr, heq⟩ := exists_overlap nativeStart hstart hin hbegins
  rw [nativized, heq] at h
  -- the second replacement finds its delimiter in the result of the first, or it changes nothing
  by_cases hagain : stop <:+: p ++ (nativeStart ++ r)
  · have hparts := hunlike.eq_append_of_replace hstop hagain h
    rw [hp, List.append_assoc] at hparts
    have hbegin : nativeStart <+: y :=
      hunlike.prefix_of_prefix_append hy ⟨r, List.append_cancel_left hparts⟩
    have hstarty : y <+: start := List.prefix_of_prefix_length_le (List.prefix_append y start)
      ⟨r, hr.symm⟩ (Nat.le_of_lt hshort)
    exact hproper (hbegin.trans hstarty).isInfix
  · rw [replace_of_absent hagain] at h
    have hlength := congrArg List.length h
    have hlengths := congrArg List.length hr
    have hypos := List.length_pos_iff.mpr hy
    simp only [List.length_append] at hlength hlengths
    have hbegin : p <+: nativeStop := List.prefix_of_prefix_length_le
      ⟨nativeStart ++ r, h⟩ (List.prefix_append nativeStop nativeStart) (by omega)
    obtain ⟨v, rfl⟩ := hbegin
    rw [List.append_assoc] at h
    have hv : v ≠ [] := by
      rintro rfl
      simp only [List.append_nil] at hlength
      omega
    exact hunlike.start_after_stop p v rfl hv ⟨r, List.append_cancel_left h⟩

end Native

section Faithful

/-- Every text with comments gets the native delimiters in the place of the configured ones. -/
def IsFaithful (start stop nativeStart nativeStop : Text) : Prop :=
  ∀ x comments, AreFree start stop x comments →
    IsEmpty (FrontMatter (written start stop x comments)) →
      nativized start stop nativeStart nativeStop (written start stop x comments) =
        written nativeStart nativeStop x comments

theorem isEmpty_frontMatter {z : Char} (hz : z.isAlpha = true) (t : Text) :
    IsEmpty (FrontMatter (z :: t)) := by
  refine ⟨fun fm => ?_⟩
  have htext := fm.text_eq
  rcases fm.marker_eq with hm | hm <;>
  · rw [hm] at htext
    obtain ⟨rfl, -⟩ := List.cons.inj htext
    exact absurd hz (by decide)

theorem nativized_append_cons {z : Char} (nativeStart nativeStop : Text) (hstart : start ≠ [])
    (hstop : stop ≠ []) (hz : z ∉ start ∧ z ∉ stop) (s t : Text) :
    nativized start stop nativeStart nativeStop (s ++ z :: t) =
      nativized start stop nativeStart nativeStop s ++
        z :: nativized start stop nativeStart nativeStop t := by
  have hsplit {old : Text} (new : Text) (hold : old ≠ []) (hz : z ∉ old) (s t : Text) :
      replace old new (s ++ ([z] ++ t)) = replace old new s ++ ([z] ++ replace old new t) :=
    replace_append_free hold (by simpa using hz) (List.cons_ne_nil z []) s t
  exact (congrArg _ (hsplit nativeStart hstart hz.1 s t)).trans (hsplit nativeStop hstop hz.2 _ _)

section Letter

variable {z : Char} (hstart : start ≠ []) (hstop : stop ≠ [])
  (hz : z.isAlpha = true) (hfree : z ∉ start ∧ z ∉ stop)
  (h : IsFaithful start stop nativeStart nativeStop)

include hz hfree h

theorem IsFaithful.nativized_eq (comments : List (Text × Text))
    (hcomments : ∀ p ∈ comments, IsFree start stop p.1 ∧ IsFree start stop p.2) :
    nativized start stop nativeStart nativeStop (written start stop [z] comments) =
      written nativeStart nativeStop [z] comments := by
  refine h [z] comments ⟨by simpa [IsFree] using hfree, hcomments⟩ ?_
  cases comments <;> exact isEmpty_frontMatter hz _

include hstart hstop

theorem IsFaithful.nativized_own (hunlike : AreUnlike nativeStart nativeStop) :
    nativized start stop nativeStart nativeStop start = nativeStart ∧
      nativized start stop nativeStart nativeStop stop = nativeStop := by
  have hletter : IsFree start stop [z] := by simpa [IsFree] using hfree
  have hnative : z ∉ nativeStart ++ nativeStop :=
    fun hmem => List.any_eq_false.mp hunlike.no_letter z hmem hz
  simp only [List.mem_append, not_or] at hnative
  have happend := nativized_append_cons nativeStart nativeStop hstart hstop hfree
  have hend : nativized start stop nativeStart nativeStop [] = [] := rfl
  have hone := h.nativized_eq hz hfree [([z], [z])] (by simp [hletter])
  simp only [written, List.cons_append, List.nil_append] at hone
  rw [← List.nil_append (z :: _), happend, happend, happend, hend] at hone
  obtain ⟨-, hone⟩ := List.cons.inj hone
  have hnot : z ∉ nativized start stop nativeStart nativeStop start := by
    intro hmem
    rcases mem_of_mem_replace hstop hmem with hmem | hmem
    · rcases mem_of_mem_replace hstart hmem with hmem | hmem
      · exact hfree.1 hmem
      · exact hnative.1 hmem
    · exact hnative.2 hmem
  -- both sides are parted at their first such letter
  have hsplit := splitOnce?_eq_some_iff.mpr ⟨hone, hnative.1⟩
  rw [splitOnce?_eq_some_iff.mpr ⟨rfl, hnot⟩] at hsplit
  obtain ⟨hfirst, hrest⟩ := Prod.mk.inj (Option.some.inj hsplit)
  exact ⟨hfirst, List.append_cancel_right hrest⟩

end Letter

/-- A pair that is faithful to every text begins nowhere within what it may come after. -/
theorem beginsNowhere_of_isFaithful {z : Char} (hunlike : AreUnlike nativeStart nativeStop)
    (hstart : start ≠ []) (hstop : stop ≠ []) (hz : z.isAlpha = true)
    (hfree : z ∉ start ∧ z ∉ stop) (hproper : start = nativeStart ∨ ¬nativeStart <:+: start)
    (h : IsFaithful start stop nativeStart nativeStop) :
    (start = nativeStart ∨ BeginsNowhere start stop start) ∧
      BeginsNowhere stop nativeStart stop := by
  have hletter : IsFree start stop [z] := by simpa [IsFree] using hfree
  have hnil : IsFree start stop [] := fun c hc => absurd hc List.not_mem_nil
  have happend := nativized_append_cons nativeStart nativeStop hstart hstop hfree
  have hend : nativized start stop nativeStart nativeStop [] = [] := rfl
  have hown := h.nativized_own hstart hstop hz hfree hunlike
  obtain ⟨hin, hfirst⟩ := (hunlike.nativized_iff hstart hstop).mp hown
  refine ⟨?_, ?_⟩
  · by_cases hne : start = nativeStart
    · exact .inl hne
    · -- a comment that another one follows at once
      have htwo := h.nativized_eq hz hfree [([z], []), ([z], [z])] (by simp [hletter, hnil])
      simp only [written, List.cons_append, List.nil_append] at htwo
      rw [← List.nil_append (z :: _), happend, happend, ← List.append_assoc stop, happend, happend,
        hown.1, hown.2, hend] at htwo
      obtain ⟨-, htwo⟩ := List.cons.inj htwo
      obtain ⟨-, htwo⟩ := List.cons.inj (List.append_cancel_left htwo)
      rw [← List.append_assoc] at htwo
      exact .inr (hunlike.beginsNowhere_start hstart hstop (hfirst.resolve_left hne)
        (hproper.resolve_left hne) (List.append_cancel_right htwo))
  · -- an empty comment
    have hempty := h.nativized_eq hz hfree [([], [z])] (by simp [hletter, hnil])
    simp only [written, List.cons_append, List.nil_append] at hempty
    rw [← List.nil_append (z :: _), happend, ← List.append_assoc start, happend, hend] at hempty
    obtain ⟨-, hempty⟩ := List.cons.inj hempty
    rw [← List.append_assoc] at hempty
    have hboth := List.append_cancel_right hempty
    have hreplace : replace start nativeStart (start ++ stop) = nativeStart ++ stop := by
      rw [replace_append_self _ hstart]
      rcases hfirst with rfl | hfirst
      · rw [replace_self hstart]
      · rw [replace_of_absent hfirst]
    rw [nativized, hreplace] at hboth
    exact hunlike.beginsNowhere_stop hstop hin hboth

/-- What becomes of comments with a pair of delimiters that is configured for a path. -/
structure ReplacesComments (c : Config) (path : Text) (format : Format)
    (start stop nativeStart nativeStop : Text) : Prop where
  /-- Where no delimiters touch, each is replaced on its own, whatever they are. -/
  apart : ∀ x comments, AreFree start stop x comments → AreApart comments →
    IsEmpty (FrontMatter (written start stop x comments)) →
      prepare c path format (written start stop x comments) =
        .ok (written (nativized start stop nativeStart nativeStop start)
          (nativized start stop nativeStart nativeStop stop) x comments)
  apart_iff : (nativized start stop nativeStart nativeStop start = nativeStart ∧
      nativized start stop nativeStart nativeStop stop = nativeStop) ↔
    ¬stop <:+: nativeStart ∧ (start = nativeStart ∨ ¬start <:+: stop)
  /-- A pair that begins nowhere within what it may come after is replaced faithfully. -/
  faithful : (start = nativeStart ∨ BeginsNowhere start stop start) →
    BeginsNowhere stop nativeStart stop → ∀ x comments, AreFree start stop x comments →
      IsEmpty (FrontMatter (written start stop x comments)) →
        prepare c path format (written start stop x comments) =
          .ok (written nativeStart nativeStop x comments)
  /-- No other pair is, if some letter is in neither delimiter and the first one does not hold the
  native one within more. -/
  only : (∃ z : Char, z.isAlpha = true ∧ z ∉ start ∧ z ∉ stop) →
    (start = nativeStart ∨ ¬nativeStart <:+: start) →
    (∀ x comments, AreFree start stop x comments →
      IsEmpty (FrontMatter (written start stop x comments)) →
        prepare c path format (written start stop x comments) =
          .ok (written nativeStart nativeStop x comments)) →
    (start = nativeStart ∨ BeginsNowhere start stop start) ∧ BeginsNowhere stop nativeStart stop

theorem replacesComments (hvalid : c.validate = .ok ())
    (hpair : c.delimitersFor? path = some (start, stop))
    (hnative : nativeDelimiters? format = some (nativeStart, nativeStop))
    (hignores : c.tokenIgnoresFor path = []) :
    ReplacesComments c path format start stop nativeStart nativeStop := by
  have hc := Config.validate_eq_ok_iff.mp hvalid
  obtain ⟨hstart, hstop⟩ := hc.ne_nil_of_delimitersFor? hpair
  have hunlike := areUnlike_native hnative
  have hprepare {t : Text} (hfront : IsEmpty (FrontMatter t)) :=
    prepare_eq hc hpair hnative hignores hfront
  constructor
  · intro x comments hfree hapart hfront
    rw [hprepare hfront, nativized_written hstart hstop hfree hapart]
  · exact hunlike.nativized_iff hstart hstop
  · intro hfirst hsecond x comments hfree hfront
    rw [hprepare hfront, nativized_of_beginsNowhere hstart hstop hfirst hsecond hfree]
  · rintro ⟨z, hz, hfree⟩ hproper hlaw
    refine beginsNowhere_of_isFaithful hunlike hstart hstop hz hfree hproper ?_
    intro x comments hpieces hfront
    exact Except.ok.inj ((hprepare hfront).symm.trans (hlaw x comments hpieces hfront))

end Faithful

/-- Markdown files have comments of their own. -/
def commentConfig (start stop : Text) : Config := { delimiters := [("*.md", [start, stop])] }

theorem validate_commentConfig (hstart : start ≠ []) (hstop : stop ≠ []) :
    (commentConfig start stop).validate = .ok () := by
  refine Config.validate_eq_ok_iff.mpr ⟨rfl, ?_, nofun, nofun, ?_⟩
  · intro p hp
    obtain rfl := List.mem_singleton.mp hp
    exact ⟨_, rfl⟩
  · intro e he
    obtain rfl := List.mem_singleton.mp he
    exact ⟨⟨_, rfl⟩, start, stop, rfl, hstart, hstop⟩

theorem delimitersFor?_commentConfig :
    (commentConfig start stop).delimitersFor? "page.md" = some (start, stop) := by
  have haccepts : Glob.accepts "*.md" "page.md" = true := by decide +kernel
  have hmatching : Config.matching (commentConfig start stop).delimiters "page.md" =
      [[start, stop]] := by
    rw [Config.matching, commentConfig, List.filter_cons_of_pos]
    · rfl
    · exact haccepts
  rw [Config.delimitersFor?, hmatching]
  rfl

/-- A comment that turns checking off is seen by the renderer. -/
theorem replacesComments_starred :
    (commentConfig "(*" "*)").validate = .ok () ∧
      (commentConfig "(*" "*)").delimitersFor? "page.md" = some ("(*".toList, "*)".toList) ∧
      nativeDelimiters? .markdown = some ("<!--".toList, "-->".toList) ∧
      (commentConfig "(*" "*)").tokenIgnoresFor "page.md" = [] ∧
      prepare (commentConfig "(*" "*)") "page.md" .markdown "Text (* vellum off *) more" =
        .ok "Text <!-- vellum off --> more".toList := by
  have hvalid : (commentConfig "(*" "*)").validate = .ok () :=
    validate_commentConfig (by decide) (by decide)
  have hpair : (commentConfig "(*" "*)").delimitersFor? "page.md" =
      some ("(*".toList, "*)".toList) := delimitersFor?_commentConfig
  have hnative : nativeDelimiters? .markdown = some ("<!--".toList, "-->".toList) := rfl
  refine ⟨hvalid, hpair, hnative, rfl, ?_⟩
  exact (replacesComments hvalid hpair hnative rfl).faithful (.inr (by decide)) (by decide)
    "Text " [(" vellum off ", " more")]
    ⟨by decide, by decide⟩ (isEmpty_frontMatter rfl _)

/-- Where both delimiters are the same, no comment is ended, and the rest is lost in the first. -/
theorem prepare_percents :
    (commentConfig "%%" "%%").validate = .ok () ∧
      (commentConfig "%%" "%%").delimitersFor? "page.md" = some ("%%".toList, "%%".toList) ∧
      (commentConfig "%%" "%%").tokenIgnoresFor "page.md" = [] ∧
      AreFree "%%" "%%" "a " [(" b ", " c")] ∧
      IsEmpty (FrontMatter (written "%%" "%%" "a " [(" b ", " c")])) ∧
      prepare (commentConfig "%%" "%%") "page.md" .markdown
          (written "%%" "%%" "a " [(" b ", " c")]) = .ok "a <!-- b <!-- c".toList ∧
      written "<!--" "-->" "a " [(" b ", " c")] = "a <!-- b --> c".toList := by
  have hvalid : (commentConfig "%%" "%%").validate = .ok () :=
    validate_commentConfig (by decide) (by decide)
  have hpair : (commentConfig "%%" "%%").delimitersFor? "page.md" =
      some ("%%".toList, "%%".toList) := delimitersFor?_commentConfig
  have hfront : IsEmpty (FrontMatter (written "%%" "%%" "a " [(" b ", " c")])) :=
    isEmpty_frontMatter rfl _
  refine ⟨hvalid, hpair, rfl, ⟨by decide, by decide⟩, hfront, ?_, by decide⟩
  rw [prepare_eq (Config.validate_eq_ok_iff.mp hvalid) hpair rfl rfl hfront]
  decide

end Copydesk.Markup
