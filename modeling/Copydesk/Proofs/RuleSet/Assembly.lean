import Copydesk.Proofs.RuleSet.Collect

/-! What the rules of a run are. Of every name on offer the first rule is kept, unless the
configuration disables it, and nothing of it is changed but its level. -/

namespace Copydesk.RuleSet

open Rule Outcome

variable {c : Config} {files : FileTree} {ds : List Definition}

/-- The offer stands at the first origin of those with its name. -/
structure IsFirst (c : Config) (files : FileTree) (ds : List Definition) (origin : Origin)
    (offer : Offer) : Prop where
  offers : origin.Offers c files ds offer
  first : ∀ origin' offer', origin'.Offers c files ds offer' → offer'.name = offer.name →
    origin.le origin'

theorem IsFirst.unique {o o' : Origin} {offer offer' : Offer} (h : IsFirst c files ds o offer)
    (h' : IsFirst c files ds o' offer') (hname : offer.name = offer'.name) : offer = offer' := by
  obtain rfl := Origin.le_antisymm (h.first o' offer' h'.offers hname.symm)
    (h'.first o offer h.offers hname)
  exact h.offers.unique h'.offers hname

theorem mem_configure {draft : Draft} {name : Text} {d' : Definition} :
    (name, d') ∈ configure c draft ↔ c.disables name = false ∧ ∃ d, (name, d) ∈ draft ∧
      { d with level := (c.levelOf? name).getD d.level } = d' := by
  simp only [configure, List.mem_map, List.mem_filter, Bool.not_eq_true']
  constructor
  · rintro ⟨⟨n, d⟩, ⟨hd, hdisables⟩, h⟩
    obtain ⟨rfl, rfl⟩ := Prod.mk.inj h
    exact ⟨hdisables, d, hd, rfl⟩
  · rintro ⟨hdisables, d, hd, rfl⟩
    exact ⟨(name, d), ⟨hd, hdisables⟩, rfl⟩

section Collected

variable {draft : Draft}

end Collected

section Frozen

variable {draft : Draft} {level : Level} {s : RuleSet}

end Frozen

end Copydesk.RuleSet
