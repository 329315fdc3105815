import Copydesk.Proofs.Outcome
import Copydesk.Proofs.Text.Order
import Copydesk.RuleSet

/-! Drafts hold rules under their own names, each name once and in order, through every step from
the configuration to the finished set. -/

namespace Copydesk.RuleSet

open Outcome

namespace Draft

structure IsProper (draft : Draft) : Prop where
  ascending : draft.Pairwise fun e f => Text.le e.1 f.1 = true ∧ e.1 ≠ f.1
  named : ∀ e ∈ draft, e.1 = e.2.name

variable {draft : Draft}

theorem isProper_nil : IsProper [] :=
  ⟨List.Pairwise.nil, fun _ h => (List.not_mem_nil h).elim⟩

theorem isProper_cons {e : Text × Rule.Definition} : IsProper (e :: draft) ↔
    (∀ f ∈ draft, Text.le e.1 f.1 = true ∧ e.1 ≠ f.1) ∧ e.1 = e.2.name ∧ draft.IsProper := by
  constructor
  · rintro ⟨hasc, hnamed⟩
    obtain ⟨he, hasc⟩ := List.pairwise_cons.mp hasc
    exact ⟨he, hnamed e List.mem_cons_self,
      hasc, fun f hf => hnamed f (List.mem_cons_of_mem e hf)⟩
  · rintro ⟨he, hname, hasc, hnamed⟩
    exact ⟨List.pairwise_cons.mpr ⟨he, hasc⟩, List.forall_mem_cons.mpr ⟨hname, hnamed⟩⟩

theorem mem_of_mem_insert {d : Rule.Definition} {e : Text × Rule.Definition}
    (h : e ∈ draft.insert d) : e = (d.name, d) ∨ e ∈ draft := by
  induction draft with
  | nil => exact .inl (List.mem_singleton.mp h)
  | cons f rest ih =>
    rw [insert] at h
    split at h
    · exact .inr h
    · split at h
      · exact List.mem_cons.mp h
      · rcases List.mem_cons.mp h with rfl | h
        · exact .inr List.mem_cons_self
        · exact (ih h).imp_right (List.mem_cons_of_mem f)

theorem IsProper.insert (h : draft.IsProper) (d : Rule.Definition) :
    (draft.insert d).IsProper := by
  induction draft with
  | nil => exact isProper_cons.mpr ⟨fun _ hf => (List.not_mem_nil hf).elim, rfl, isProper_nil⟩
  | cons e rest ih =>
    obtain ⟨he, hname, hrest⟩ := isProper_cons.mp h
    rw [Draft.insert]
    split
    · exact h
    · rename_i hne
      split
      · -- the rule goes first, before names that are all greater
        rename_i hle
        refine isProper_cons.mpr ⟨List.forall_mem_cons.mpr ⟨⟨hle, hne⟩, fun f hf => ?_⟩, rfl, h⟩
        obtain ⟨hef, hnef⟩ := he f hf
        refine ⟨Text.le_trans hle hef, fun heq => hnef ?_⟩
        exact Text.le_antisymm hef (heq ▸ hle)
      · rename_i hle
        refine isProper_cons.mpr ⟨fun f hf => ?_, hname, ih hrest⟩
        rcases mem_of_mem_insert hf with rfl | hf
        · exact ⟨(Text.le_total e.1 d.name).resolve_right hle, fun heq => hne heq.symm⟩
        · exact he f hf

theorem lookup_cons_of_ne {e : Text × Rule.Definition} {name : Text} (h : name ≠ e.1) :
    (e :: draft).lookup name = draft.lookup name := by
  rw [List.lookup_cons, beq_eq_false_iff_ne.mpr h]

theorem lookup_eq_none_of_isProper {e : Text × Rule.Definition} (h : IsProper (e :: draft))
    {name : Text} (hle : Text.le name e.1 = true) : draft.lookup name = none := by
  refine List.lookup_eq_none_iff.mpr fun f hf => bne_iff_ne.mpr fun heq => ?_
  obtain ⟨hef, hne⟩ := (isProper_cons.mp h).1 f hf
  exact hne (Text.le_antisymm hef (heq ▸ hle))

theorem IsProper.lookup_insert (h : draft.IsProper) (d : Rule.Definition) (name : Text) :
    (draft.insert d).lookup name =
      (draft.lookup name).or (if d.name = name then some d else none) := by
  induction draft with
  | nil =>
    rw [Draft.insert, List.lookup_nil, Option.none_or]
    split
    · rename_i hname
      rw [hname, List.lookup_cons_self]
    · rename_i hname
      rw [lookup_cons_of_ne (Ne.symm hname), List.lookup_nil]
  | cons e rest ih =>
    obtain ⟨n, e⟩ := e
    -- the place is that of the name, before a greater one or further on
    rw [Draft.insert]
    split
    · rename_i hn
      split
      · rename_i hname
        rw [← hname, hn, List.lookup_cons_self, Option.some_or]
      · rw [Option.or_none]
    · rename_i hn
      split
      · rename_i hle
        split
        · rename_i hname
          rw [← hname, List.lookup_cons_self, lookup_cons_of_ne hn,
            lookup_eq_none_of_isProper h hle, Option.none_or]
        · rename_i hname
          rw [lookup_cons_of_ne (Ne.symm hname), Option.or_none]
      · by_cases hname : name = n
        · rw [hname, List.lookup_cons_self, List.lookup_cons_self, Option.some_or]
        · rw [lookup_cons_of_ne hname, lookup_cons_of_ne hname, ih (isProper_cons.mp h).2.2]

theorem IsProper.mem_iff_lookup (h : draft.IsProper) {name : Text} {d : Rule.Definition} :
    (name, d) ∈ draft ↔ draft.lookup name = some d := by
  induction draft with
  | nil => simp
  | cons e rest ih =>
    rw [List.mem_cons, ih (isProper_cons.mp h).2.2]
    obtain ⟨n, e⟩ := e
    by_cases hname : name = n
    · subst hname
      have hle : Text.le name name = true := (Text.le_total name name).elim id id
      rw [lookup_eq_none_of_isProper h hle, List.lookup_cons_self]
      simp [eq_comm]
    · rw [lookup_cons_of_ne hname]
      simp [hname]

theorem IsProper.addNew (h : draft.IsProper) (ds : List Rule.Definition) :
    (draft.addNew ds).IsProper := by
  unfold Draft.addNew
  induction ds generalizing draft with
  | nil => exact h
  | cons d ds ih => exact ih (h.insert d)

theorem IsProper.filter (h : draft.IsProper) (p : Text × Rule.Definition → Bool) :
    IsProper (draft.filter p) :=
  ⟨h.ascending.filter p, fun e he => h.named e (List.mem_filter.mp he).1⟩

end Draft

theorem addConfigured_isProper {c : Config} {files : FileTree} {styles : List Text}
    {draft draft' : Draft} {name : Text} (hd : draft.IsProper)
    (h : addConfigured c files styles draft name = .ok draft') : draft'.IsProper := by
  unfold addConfigured at h
  split at h
  · rwa [← pure_eq_ok_iff.mp h]
  · split at h
    · rwa [← pure_eq_ok_iff.mp h]
    · split at h
      · rwa [← pure_eq_ok_iff.mp h]
      · obtain ⟨d, -, h⟩ := bind_eq_ok_iff.mp h
        rw [← pure_eq_ok_iff.mp h]
        exact hd.insert d

theorem addBuiltin_isProper {c : Config} {files : FileTree} {draft draft' : Draft}
    (hd : draft.IsProper) (h : addBuiltin c files draft = .ok draft') : draft'.IsProper := by
  unfold addBuiltin at h
  split at h
  · have h := mapError_eq_ok_iff.mp h
    cases hrules : builtinRules c files with
    | error e =>
      rw [hrules] at h
      cases h
    | ok ds =>
      rw [hrules] at h
      rw [← Except.ok.inj h]
      exact hd.addNew ds
  · rwa [← Except.ok.inj h]

theorem collect_isProper {c : Config} {files : FileTree} {draft draft' : Draft}
    (hd : draft.IsProper) (h : collect c files draft = .ok draft') : draft'.IsProper := by
  obtain ⟨draft₁, h₁, h⟩ := bind_eq_ok_iff.mp h
  obtain ⟨draft₂, h₂, h⟩ := bind_eq_ok_iff.mp h
  have hd₂ : draft₂.IsProper := by
    refine foldlM_invariant ?_ (addBuiltin_isProper hd h₁) h₂
    intro draft style draft' hd h
    obtain ⟨ds, -, h⟩ := bind_eq_ok_iff.mp h
    rw [← pure_eq_ok_iff.mp h]
    exact hd.addNew ds
  exact foldlM_invariant (fun _ _ _ hd h => addConfigured_isProper hd h) hd₂ h

theorem configure_isProper (c : Config) {draft : Draft} (hd : draft.IsProper) :
    (configure c draft).IsProper := by
  have hkept := hd.filter fun e => !c.disables e.1
  refine ⟨List.pairwise_map.mpr hkept.ascending, ?_⟩
  intro e he
  obtain ⟨f, hf, rfl⟩ := List.mem_map.mp he
  exact hkept.named f hf

/-- No filter chooses among the rules. -/
def IsUnfiltered (c : Config) (filter : Option Text) : Prop :=
  ∀ f ∈ filter.or c.settings.filter, Text.isBlank f = true

theorem build_of_isUnfiltered {c : Config} {files : FileTree} {filter : Option Text} {draft : Draft}
    (h : IsUnfiltered c filter) :
    build c files filter draft = (do
      let collected ← collect c files draft
      (freeze (configure c collected) c.settings.minLevel).mapError RunError.rule) := by
  have hnone : (filter.or c.settings.filter).filter (!Text.isBlank ·) = none :=
    Option.filter_eq_none_iff.mpr fun f hf => by simp [h f hf]
  have happly (collected : Draft) : applyFilter c files filter (configure c collected) =
      .ok (configure c collected, c.settings.minLevel) := by
    rw [applyFilter, hnone]
    rfl
  simp only [build, happly]
  rfl

end Copydesk.RuleSet
