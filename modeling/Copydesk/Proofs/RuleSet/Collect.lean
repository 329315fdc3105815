import Copydesk.Proofs.RuleSet
import Copydesk.Proofs.RuleSet.Origin

/-! Collecting the rules of a run: every step offers rules of its own to the draft, which holds of
each name the first that was offered. -/

namespace Copydesk.RuleSet

open Rule Outcome

namespace Draft

/-- Rules registered one after another. One whose name is taken is refused. -/
def register (ds : List Definition) : Draft :=
  ds.foldl (fun draft d => (draft.add d).toOption.getD draft) []

/-- The draft holds of each name the first offer, which was read. -/
structure Collects (draft : Draft) (offers : List Offer) : Prop where
  proper : draft.IsProper
  first : ∀ name, (offers.find? (·.name == name)).map Offer.definition =
    (draft.lookup name).map .ok

namespace Collects

variable {draft draft' : Draft} {offers : List Offer}

theorem nil : Collects [] [] := ⟨isProper_nil, fun _ => rfl⟩

theorem insert (h : draft.Collects offers) (d : Definition) :
    (draft.insert d).Collects (offers ++ [.given d]) := by
  refine ⟨h.proper.insert d, fun name => ?_⟩
  have hnext : ([Offer.given d].find? (·.name == name)).map Offer.definition =
      (if d.name = name then some d else none).map Except.ok := by
    rw [List.find?_singleton]
    simp only [Offer.given, beq_iff_eq]
    split <;> rfl
  rw [List.find?_append, Option.map_or, h.first, hnext, ← Option.map_or, h.proper.lookup_insert]

theorem skip (h : draft.Collects offers) {offer : Offer}
    (hholds : draft.holds offer.name = true) : draft.Collects (offers ++ [offer]) := by
  refine ⟨h.proper, fun name => ?_⟩
  rw [List.find?_append, Option.map_or, h.first, List.find?_singleton]
  split
  · rename_i hname
    obtain ⟨d, hd⟩ := Option.isSome_iff_exists.mp hholds
    rw [← beq_iff_eq.mp hname, hd]
    rfl
  · rw [Option.map_none, Option.or_none]

theorem add (h : draft.Collects offers) (d : Definition) :
    Collects ((draft.add d).toOption.getD draft) (offers ++ [.given d]) := by
  unfold Draft.add
  split
  · rename_i hholds
    exact h.skip hholds
  · exact h.insert d

theorem foldl {f : Draft → Definition → Draft}
    (hf : ∀ draft offers d, draft.Collects offers → (f draft d).Collects (offers ++ [.given d]))
    (h : draft.Collects offers) (ds : List Definition) :
    (ds.foldl f draft).Collects (offers ++ ds.map .given) := by
  induction ds generalizing draft offers with
  | nil => rwa [List.map_nil, List.append_nil]
  | cons d ds ih =>
    have hrest := ih (hf draft offers d h)
    rwa [List.append_assoc] at hrest

theorem addNew (h : draft.Collects offers) (ds : List Definition) :
    (draft.addNew ds).Collects (offers ++ ds.map .given) :=
  foldl (fun _ _ d h => h.insert d) h ds

theorem register (ds : List Definition) : (register ds).Collects (ds.map .given) :=
  foldl (fun _ _ d h => h.add d) nil ds

/-- What each step offers, the steps together offer in turn. -/
theorem foldlM {α ε : Type} {f : Draft → α → Except ε Draft} {g : α → List Offer} {as : List α}
    (hf : ∀ draft offers a draft', a ∈ as → draft.Collects offers → f draft a = .ok draft' →
      draft'.Collects (offers ++ g a))
    (h : draft.Collects offers) (hfold : as.foldlM f draft = .ok draft') :
    draft'.Collects (offers ++ as.flatMap g) := by
  induction as generalizing draft offers with
  | nil =>
    rw [List.foldlM_nil, pure_eq_ok_iff] at hfold
    rwa [← hfold, List.flatMap_nil, List.append_nil]
  | cons a as ih =>
    rw [List.foldlM_cons] at hfold
    obtain ⟨next, hnext, hfold⟩ := bind_eq_ok_iff.mp hfold
    have hstep := hf draft offers a next List.mem_cons_self h hnext
    have hrest := ih (fun draft offers b draft' hb => hf draft offers b draft'
      (List.mem_cons_of_mem a hb)) hstep hfold
    rwa [List.append_assoc] at hrest

end Collects

end Draft

variable {c : Config} {files : FileTree} {draft draft' : Draft} {offers : List Offer}

def styleOffers (c : Config) (files : FileTree) (style : Text) : List Offer :=
  ((Style.folders c files style).flatMap (Style.ruleFiles files)).map (fileOffer files)

theorem fileOffer_of_load {path : Text} {d : Definition}
    (h : Definition.load files path = .ok d) : fileOffer files path = .given d := by
  rw [fileOffer, Definition.nameOfPath?_of_load h, h]
  rfl

theorem styleOffers_of_load {style : Text} {ds : List Definition}
    (h : Style.load c files style = .ok ds) : styleOffers c files style = ds.map .given := by
  unfold Style.load at h
  split at h
  · cases h
  · -- every file of the folders was read, so that each offer is that of a definition
    have hoffers : ((Style.folders c files style).flatMap (Style.ruleFiles files)).mapM
        (fun path => (Except.ok (fileOffer files path) : Except RunError Offer)) =
          .ok (ds.map .given) :=
      mapM_eq_ok_map (fun path _ d hd =>
        congrArg Except.ok (fileOffer_of_load (mapError_eq_ok_iff.mp hd))) h
    exact Except.ok.inj ((mapM_eq_map fun _ _ => rfl).symm.trans hoffers)

theorem addStyle_collects {style : Text} (h : draft.Collects offers)
    (hadd : addStyle c files draft style = .ok draft') :
    draft'.Collects (offers ++ styleOffers c files style) := by
  obtain ⟨ds, hload, hadd⟩ := bind_eq_ok_iff.mp hadd
  rw [← pure_eq_ok_iff.mp hadd, styleOffers_of_load hload]
  exact h.addNew ds

end Copydesk.RuleSet
