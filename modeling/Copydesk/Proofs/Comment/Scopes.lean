import Copydesk.Proofs.Comment.Runs

/-! The scopes of merged comments. A run has the scope of its first comment, whatever queries found
the others, so a comment keeps its own where it continues none of another scope. -/

namespace Copydesk.Comment

open Text

variable {c d r : Comment} {cs run rs : List Comment} {runs : List (List Comment)}

/-- The text of the comment is part of what it is merged to, and under its own scope. -/
def KeepsScope (cs : List Comment) (c : Comment) : Prop :=
  ∃ r ∈ coalesce cs, trimSpaces c.text <:+: r.text ∧ r.scope = c.scope

def SharesScope (c d : Comment) : Prop := continues c d = true → c.scope = d.scope

/-- What becomes of the scopes of a list of comments. -/
structure ScopesOf (cs rs : List Comment) : Prop where
  /-- The run's text has those of its comments, the scope is that of the first. -/
  part : List.Forall₂ (fun run r => run.head?.map (·.scope) = some r.scope ∧
    ∀ c ∈ run, trimSpaces c.text <:+: r.text) (cs.splitBy continues) rs
  same_iff : List.Forall₂ (fun run r => ∀ c ∈ run, c.scope = r.scope) (cs.splitBy continues) rs ↔
    cs.IsChain SharesScope
  keepsScope : cs.IsChain SharesScope → ∀ c ∈ cs, KeepsScope cs c
  block : ∀ c ∈ cs, c.isBlock = true → KeepsScope cs c

theorem Merges.infix_text (h : Merges run r) (hc : c ∈ run) : trimSpaces c.text <:+: r.text := by
  obtain ⟨before, after, rfl⟩ := List.append_of_mem hc
  obtain ⟨⟨rest, htext⟩, -⟩ := h.aligned before c after rfl
  exact ⟨textBefore before, rest, by rw [htext, List.append_assoc]⟩

theorem Merges.scope_eq (h : Merges run r) : run.head?.map (·.scope) = some r.scope := by
  obtain ⟨c, rest, rfl, -, -, hscope⟩ := h.first
  exact congrArg some hscope.symm

theorem IsRun.scope_eq {rest : List Comment} (hrun : IsRun (c :: rest))
    (h : (c :: rest).IsChain SharesScope) (hd : d ∈ rest) : d.scope = c.scope := by
  induction rest generalizing c with
  | nil => cases hd
  | cons x rest ih =>
    obtain ⟨hcontinues, hrun⟩ := List.isChain_cons_cons.mp hrun
    obtain ⟨hshares, h⟩ := List.isChain_cons_cons.mp h
    rcases List.mem_cons.mp hd with rfl | hd
    · exact (hshares hcontinues).symm
    · exact (ih hrun h hd).trans (hshares hcontinues).symm

theorem Merges.scopes_iff (h : Merges run r) (hrun : IsRun run) :
    (∀ c ∈ run, c.scope = r.scope) ↔ run.IsChain SharesScope := by
  constructor
  · intro hall
    have hpairs : run.Pairwise SharesScope := List.pairwise_of_forall_mem_list
      fun x hx y hy _ => (hall x hx).trans (hall y hy).symm
    exact hpairs.isChain
  · intro hchain d hd
    obtain ⟨c, rest, rfl, -, -, hscope⟩ := h.first
    rcases List.mem_cons.mp hd with rfl | hd
    · exact hscope.symm
    · exact (hrun.scope_eq hchain hd).trans hscope.symm

theorem forall₂_scopes_iff (h : List.Forall₂ Merges runs rs) (hruns : ∀ run ∈ runs, IsRun run) :
    List.Forall₂ (fun run r => ∀ c ∈ run, c.scope = r.scope) runs rs ↔
      ∀ run ∈ runs, run.IsChain SharesScope := by
  induction h with
  | nil => exact ⟨fun _ run hrun => (by cases hrun), fun _ => .nil⟩
  | cons hmerges _ ih =>
    obtain ⟨hrun, hruns⟩ := List.forall_mem_cons.mp hruns
    rw [List.forall₂_cons, hmerges.scopes_iff hrun, ih hruns, List.forall_mem_cons]

/-- Between two runs nothing is continued, so only neighbours within a run matter. -/
theorem isChain_sharesScope_iff (cs : List Comment) :
    cs.IsChain SharesScope ↔ ∀ run ∈ cs.splitBy continues, run.IsChain SharesScope := by
  have hbetween : (cs.splitBy continues).IsChain
      fun a b => ∀ c ∈ a.getLast?, ∀ d ∈ b.head?, SharesScope c d := by
    refine (List.isChain_getLast_head_splitBy continues cs).imp ?_
    rintro a b ⟨ha, hb, hfalse⟩ c hc d hd hcontinues
    rw [← List.getLast_of_mem_getLast? hc, ← List.head_of_mem_head? hd, hfalse] at hcontinues
    cases hcontinues
  have hflatten := List.isChain_flatten (R := SharesScope) (List.nil_notMem_splitBy continues cs)
  rw [List.flatten_splitBy] at hflatten
  exact hflatten.trans ⟨fun h => h.1, fun h => ⟨h, hbetween⟩⟩

theorem exists_merges_of_mem (h : List.Forall₂ Merges runs rs) (hrun : run ∈ runs) :
    ∃ r ∈ rs, Merges run r := by
  induction h with
  | nil => cases hrun
  | cons hmerges _ ih =>
    rcases List.mem_cons.mp hrun with rfl | hrun
    · exact ⟨_, List.mem_cons_self, hmerges⟩
    · obtain ⟨r, hr, h⟩ := ih hrun
      exact ⟨r, List.mem_cons_of_mem _ hr, h⟩

theorem keepsScope_of_run (hc : c ∈ cs)
    (hscope : ∀ run ∈ cs.splitBy continues, c ∈ run → run.head?.map (·.scope) = some c.scope) :
    KeepsScope cs c := by
  rw [← List.flatten_splitBy continues cs] at hc
  obtain ⟨run, hrun, hc⟩ := List.mem_flatten.mp hc
  obtain ⟨r, hr, hmerges⟩ := exists_merges_of_mem (merges_coalesce cs) hrun
  exact ⟨r, hr, hmerges.infix_text hc,
    Option.some.inj (hmerges.scope_eq.symm.trans (hscope run hrun hc))⟩

/-- The scopes of merged comments, whatever the comments. -/
theorem scopesOf_coalesce (cs : List Comment) : ScopesOf cs (coalesce cs) := by
  have hmerges := merges_coalesce cs
  have hruns : ∀ run ∈ cs.splitBy continues, IsRun run := fun run => isRun_of_mem_splitBy
  have hsame := (forall₂_scopes_iff hmerges hruns).trans (isChain_sharesScope_iff cs).symm
  constructor
  case part => exact hmerges.imp fun run r h => ⟨h.scope_eq, fun c => h.infix_text⟩
  case same_iff => exact hsame
  case keepsScope =>
    intro hchain c hc
    refine keepsScope_of_run hc fun run hrun hmem => ?_
    obtain ⟨r, -, h⟩ := exists_merges_of_mem hmerges hrun
    have hall := (h.scopes_iff (hruns run hrun)).mpr ((isChain_sharesScope_iff cs).mp hchain run hrun)
    rw [h.scope_eq, hall c hmem]
  case block =>
    intro c hc hblock
    refine keepsScope_of_run hc fun run hrun hmem => ?_
    rw [(hruns run hrun).eq_singleton_of_isBlock hmem hblock]
    rfl

/-- A docstring and a comment on the line after it, found by queries of different names. -/
def docstring : Comment := ⟨"Good.", "\"\"\"Good.\"\"\"", 1, 0, "text.comment.docs.line"⟩

def noteBelow : Comment := ⟨" bad", "# bad", 2, 0, "text.comment.note.line"⟩

/-- The comment is merged with the docstring, under the docstring's scope. -/
theorem not_keepsScope_noteBelow :
    noteBelow ∈ [docstring, noteBelow] ∧ ¬KeepsScope [docstring, noteBelow] noteBelow := by
  refine ⟨by decide, ?_⟩
  rintro ⟨r, hr, -, hscope⟩
  revert r
  decide

end Copydesk.Comment
