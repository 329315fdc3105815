import Copydesk.Proofs.RuleSet.Draft

/-! Parts of a set of rules: some of its rules with the same definitions, in the same order. -/

namespace Copydesk.RuleSet

open Outcome

def holds (s : RuleSet) (name : Text) : Bool := s.names.contains name

/-- The rules are those of another set that have their names. -/
structure IsPart (s s' : RuleSet) : Prop where
  rules : s.rules = s'.rules.filter fun c => s.holds c.definition.name
  minLevel : s.minLevel = s'.minLevel

theorem holds_iff {s : RuleSet} {name : Text} :
    s.holds name = true ↔ ∃ c ∈ s.rules, c.definition.name = name := by
  rw [holds, List.contains_iff_mem, names, List.mem_map]

theorem filter_name_eq {s : RuleSet} (hs : s.names.Nodup) {c : Rule.Check} (hc : c ∈ s.rules) :
    s.rules.filter (fun c' => c'.definition.name == c.definition.name) = [c] := by
  unfold names at hs
  generalize s.rules = rules at hs hc
  induction rules with
  | nil => cases hc
  | cons c' rules ih =>
    obtain ⟨hnew, hs⟩ := List.nodup_cons.mp hs
    rw [List.filter_cons]
    rcases List.mem_cons.mp hc with rfl | hc
    · rw [if_pos (beq_self_eq_true _), List.cons_inj_right]
      refine List.filter_eq_nil_iff.mpr fun d hd hname => hnew ?_
      exact List.mem_map.mpr ⟨d, hd, beq_iff_eq.mp hname⟩
    · have hother : ¬(c'.definition.name == c.definition.name) = true := fun hname =>
        hnew (List.mem_map.mpr ⟨c, hc, (beq_iff_eq.mp hname).symm⟩)
      rw [if_neg hother]
      exact ih hs hc

def alone (s : RuleSet) (c : Rule.Check) : RuleSet := { s with rules := [c] }

theorem alone_holds (s : RuleSet) (c : Rule.Check) :
    (s.alone c).holds = (· == c.definition.name) := by
  funext name
  rw [Bool.eq_iff_iff, holds_iff, beq_iff_eq]
  constructor
  · rintro ⟨c', hc', rfl⟩
    rw [List.mem_singleton.mp hc']
  · rintro rfl
    exact ⟨c, List.mem_cons_self, rfl⟩

theorem alone_isPart {s : RuleSet} (hs : s.names.Nodup) {c : Rule.Check} (hc : c ∈ s.rules) :
    (s.alone c).IsPart s := by
  refine ⟨?_, rfl⟩
  rw [alone_holds]
  exact (filter_name_eq hs hc).symm

theorem definition_eq_of_compile {d : Rule.Definition} {c : Rule.Check}
    (h : Rule.Check.compile d = .ok c) : c.definition = d := by
  obtain ⟨compiled, -, h⟩ := bind_eq_ok_iff.mp h
  rw [← pure_eq_ok_iff.mp h]

theorem freeze_eq_ok_iff {draft : Draft} {level : Level} {s : RuleSet} :
    freeze draft level = .ok s ↔ ∃ rules, draft.mapM (fun e => Rule.Check.compile e.2) = .ok rules ∧
      ⟨rules, sortUnique (draft.flatMap fun e => chosenScopes e.2),
        draft.any fun e => e.2.needsTagging, level⟩ = s := by
  simp only [freeze, bind_eq_ok_iff, pure_eq_ok_iff]

theorem minLevel_of_freeze {draft : Draft} {level : Level} {s : RuleSet}
    (h : freeze draft level = .ok s) : s.minLevel = level := by
  obtain ⟨rules, -, rfl⟩ := freeze_eq_ok_iff.mp h
  rfl

theorem definitions_of_freeze {draft : Draft} {level : Level} {s : RuleSet}
    (h : freeze draft level = .ok s) :
    s.rules.map Rule.Check.definition = draft.map (·.2) := by
  obtain ⟨rules, hrules, rfl⟩ := freeze_eq_ok_iff.mp h
  have hcopy : draft.mapM (fun e => (Except.ok e.2 : Except RuleError Rule.Definition)) =
      .ok (rules.map Rule.Check.definition) :=
    mapM_eq_ok_map (fun e _ c hc => congrArg Except.ok (definition_eq_of_compile hc).symm) hrules
  exact Except.ok.inj (hcopy.symm.trans (mapM_eq_map fun _ _ => rfl))

theorem exists_rule_iff {draft : Draft} {level : Level} {s : RuleSet}
    (h : freeze draft level = .ok s) {p : Rule.Definition → Prop} :
    (∃ r ∈ s.rules, p r.definition) ↔ ∃ e ∈ draft, p e.2 := by
  have hdefinitions := definitions_of_freeze h
  have hmap {d : Rule.Definition} :
      d ∈ s.rules.map Rule.Check.definition ↔ d ∈ draft.map (·.2) := by
    rw [hdefinitions]
  simp only [List.mem_map] at hmap
  constructor
  · rintro ⟨r, hr, hp⟩
    obtain ⟨e, he, hd⟩ := hmap.mp ⟨r, hr, rfl⟩
    exact ⟨e, he, hd ▸ hp⟩
  · rintro ⟨e, he, hp⟩
    obtain ⟨r, hr, hd⟩ := hmap.mpr ⟨e, he, rfl⟩
    exact ⟨r, hr, hd ▸ hp⟩

end Copydesk.RuleSet
