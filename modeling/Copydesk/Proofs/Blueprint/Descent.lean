import Copydesk.Proofs.Blueprint.Selector
import Mathlib.Data.List.Basic
import Mathlib.Data.List.Forall2
import Mathlib.Data.Set.List

/-! What a key reaches below a node: the members of its name, however far below, each once, and a
node before those inside it. Steps after others go on from each node that those select. -/

namespace Copydesk

namespace Data.Value

/-- The way from a node to a child: a member of an object under its key, or an element of an
array. -/
inductive Edge
  | member (i : Nat) (key : Text)
  | element (i : Nat)
  deriving DecidableEq, Repr

namespace Edge

def position : Edge → Nat
  | member i _ => i
  | element i => i

end Edge

/-- The path leads from the first node to the second. -/
inductive Leads : List Edge → Value → Value → Prop
  | stay (v : Value) : Leads [] v v
  | member {i : Nat} {key : Text} {fields : List (Text × Value)} {p : List Edge} {v w : Value}
      (hv : fields[i]? = some (key, v)) (h : Leads p v w) :
      Leads (.member i key :: p) (.table fields) w
  | element {i : Nat} {items : List Value} {p : List Edge} {v w : Value}
      (hv : items[i]? = some v) (h : Leads p v w) : Leads (.element i :: p) (.list items) w

/-- Pre-order: the second path goes on where the first ends, or takes a later child where both
part. -/
def Precedes (p q : List Edge) : Prop :=
  (p <+: q ∧ p ≠ q) ∨
    ∃ r e e' s t, p = r ++ e :: s ∧ q = r ++ e' :: t ∧ e.position < e'.position

def EndsUnder (key : Text) (p : List Edge) : Prop := ∃ q i, p = q ++ [.member i key]

variable {p q : List Edge} {v u w w' : Value} {a : Address} {i : Nat} {e e' : Edge}

theorem Leads.at?_eq (h : Leads p v w) : v.at? (p.map Edge.position) = some w := by
  induction h with
  | stay v => rfl
  | @member i key fields p v w hv _ ih =>
    rw [List.map_cons, Edge.position, at?, children, List.getElem?_map, hv]
    exact ih
  | @element i items p v w hv _ ih =>
    rw [List.map_cons, Edge.position, at?, children, hv]
    exact ih

theorem exists_leads (h : v.at? a = some w) : ∃ p, p.map Edge.position = a ∧ Leads p v w := by
  induction a generalizing v with
  | nil =>
    obtain rfl := Option.some.inj h
    exact ⟨[], rfl, .stay v⟩
  | cons i a ih =>
    obtain ⟨u, hu, hrest⟩ := Option.bind_eq_some_iff.mp h
    obtain ⟨p, rfl, hp⟩ := ih hrest
    cases v with
    | table fields =>
      rw [children, List.getElem?_map] at hu
      obtain ⟨⟨key, v⟩, hfield, rfl⟩ := Option.map_eq_some_iff.mp hu
      exact ⟨.member i key :: p, rfl, .member hfield hp⟩
    | list items => exact ⟨.element i :: p, rfl, .element hu hp⟩
    | _ => cases hu

theorem Leads.eq_of_position (h : Leads (e :: p) v w) (h' : Leads (e' :: q) v w')
    (hpos : e.position = e'.position) : e = e' ∧ ∃ u, Leads p u w ∧ Leads q u w' := by
  cases h with
  | member hv hp =>
    cases h' with
    | member hv' hq =>
      obtain rfl : _ = _ := hpos
      obtain ⟨rfl, rfl⟩ := Prod.mk.inj (Option.some.inj (hv.symm.trans hv'))
      exact ⟨rfl, _, hp, hq⟩
  | element hv hp =>
    cases h' with
    | element hv' hq =>
      obtain rfl : _ = _ := hpos
      obtain rfl := Option.some.inj (hv.symm.trans hv')
      exact ⟨rfl, _, hp, hq⟩

theorem Leads.eq_of_positions (h : Leads p v w) (h' : Leads q v w')
    (hpos : p.map Edge.position = q.map Edge.position) : p = q := by
  induction p generalizing q v with
  | nil => exact (List.map_eq_nil_iff.mp hpos.symm).symm
  | cons e p ih =>
    cases q with
    | nil => cases hpos
    | cons e' q =>
      obtain ⟨hhead, htail⟩ := List.cons.inj hpos
      obtain ⟨rfl, u, hp, hq⟩ := h.eq_of_position h' hhead
      rw [ih hp hq htail]

/-- On paths from one node, pre-order is the order of the addresses. -/
theorem Leads.precedes_of_lt (h : Leads p v w) (h' : Leads q v w')
    (hlt : p.map Edge.position < q.map Edge.position) : Precedes p q := by
  induction p generalizing q v with
  | nil =>
    cases q with
    | nil => exact absurd hlt (List.not_lt_nil _)
    | cons e' q => exact .inl ⟨List.nil_prefix, (List.cons_ne_nil e' q).symm⟩
  | cons e p ih =>
    cases q with
    | nil => exact absurd hlt (List.not_lt_nil _)
    | cons e' q =>
      rw [List.map_cons, List.map_cons] at hlt
      rcases List.cons_lt_cons_iff.mp hlt with hhead | ⟨hhead, htail⟩
      · exact .inr ⟨[], e, e', p, q, rfl, rfl, hhead⟩
      · obtain ⟨rfl, u, hp, hq⟩ := h.eq_of_position h' hhead
        rcases ih hp hq htail with ⟨hpre, hne⟩ | ⟨r, d, d', s, t, rfl, rfl, hd⟩
        · exact .inl ⟨List.cons_prefix_cons.mpr ⟨rfl, hpre⟩, fun heq => hne (List.cons.inj heq).2⟩
        · exact .inr ⟨e :: r, d, d', s, t, rfl, rfl, hd⟩

theorem leads_concat_iff : Leads (p ++ [e]) v w ↔ ∃ u, Leads p v u ∧ Leads [e] u w := by
  constructor
  · intro h
    induction p generalizing v with
    | nil => exact ⟨v, .stay v, h⟩
    | cons d p ih =>
      cases h with
      | member hv h =>
        obtain ⟨u, hp, he⟩ := ih h
        exact ⟨u, .member hv hp, he⟩
      | element hv h =>
        obtain ⟨u, hp, he⟩ := ih h
        exact ⟨u, .element hv hp, he⟩
  · rintro ⟨u, hp, he⟩
    induction hp with
    | stay v => exact he
    | member hv _ ih => exact .member hv (ih he)
    | element hv _ ih => exact .element hv (ih he)

end Data.Value

open Data Data.Value

namespace Selector

variable {key : Text} {v w : Value} {p : List Edge}

theorem endsUnder_iff (h : Leads p v w) :
    EndsUnder key p ↔ StandsUnder key v (p.map Edge.position) := by
  constructor
  · rintro ⟨q, i, rfl⟩
    obtain ⟨u, hq, he⟩ := leads_concat_iff.mp h
    cases he with
    | @member _ _ fields _ x _ hx _ =>
      exact ⟨q.map Edge.position, i, fields, x, List.map_append, hq.at?_eq, hx⟩
  · rintro ⟨a, i, fields, x, ha, hat, hx⟩
    obtain ⟨q, last, rfl, rfl, hlast⟩ := List.map_eq_append_iff.mp ha
    obtain ⟨e, rfl, hpos⟩ := List.map_eq_singleton_iff.mp hlast
    obtain ⟨u, hq, he⟩ := leads_concat_iff.mp h
    obtain rfl := Option.some.inj (hq.at?_eq.symm.trans hat)
    cases he with
    | member hv _ =>
      obtain rfl : _ = i := hpos
      obtain ⟨rfl, -⟩ := Prod.mk.inj (Option.some.inj (hv.symm.trans hx))
      exact ⟨q, _, rfl⟩

/-- The nodes are those that paths to members of the name lead to, each once and in pre-order. -/
structure Reaches (key : Text) (v : Value) (paths : List (List Edge)) (nodes : List Value) :
    Prop where
  exact : ∀ p, p ∈ paths ↔ EndsUnder key p ∧ ∃ w, Leads p v w
  preorder : paths.Pairwise Precedes
  nodup : paths.Nodup
  nodes : List.Forall₂ (fun p w => Leads p v w) paths nodes

theorem exists_paths (key : Text) (v : Value) :
    ∃ paths : List {p // ∃ w, Leads p v w},
      paths.map (fun p => p.1.map Edge.position) = descendAt key v := by
  change descendAt key v ∈ Set.range
    (List.map fun p : {p // ∃ w, Leads p v w} => p.1.map Edge.position)
  rw [Set.range_list_map]
  intro a ha
  have hat : v.at? a ∈ (descend key v).map some := by
    rw [← descendAt_at]
    exact List.mem_map_of_mem ha
  obtain ⟨w, -, hw⟩ := List.mem_map.mp hat
  obtain ⟨p, hp, hleads⟩ := exists_leads hw.symm
  exact ⟨⟨p, w, hleads⟩, hp⟩

theorem exists_reaches (key : Text) (v : Value) : ∃ paths, Reaches key v paths (descend key v) := by
  obtain ⟨paths, hpaths⟩ := exists_paths key v
  have horder := descendAt_pairwise key v
  have hnodes := descendAt_at key v
  rw [← hpaths, List.pairwise_map] at horder
  rw [← hpaths, List.map_map, ← List.forall₂_eq_eq_eq, List.forall₂_map_left_iff,
    List.forall₂_map_right_iff] at hnodes
  -- the addresses that were found are those of `paths`, so what holds of the ones carries over
  refine ⟨paths.map (·.1), fun p => ⟨fun hp => ?_, ?_⟩, ?_, ?_, ?_⟩
  · obtain ⟨⟨p, w, hleads⟩, hmem, rfl⟩ := List.mem_map.mp hp
    have hat : p.map Edge.position ∈ descendAt key v := hpaths ▸ List.mem_map_of_mem hmem
    exact ⟨(endsUnder_iff hleads).mpr (mem_descendAt_iff.mp hat), w, hleads⟩
  · rintro ⟨hend, w, hleads⟩
    have hat := mem_descendAt_iff.mpr ((endsUnder_iff hleads).mp hend)
    rw [← hpaths] at hat
    obtain ⟨⟨q, w', hq⟩, hmem, hpos⟩ := List.mem_map.mp hat
    obtain rfl := hq.eq_of_positions hleads hpos
    exact List.mem_map_of_mem hmem
  · rw [List.pairwise_map]
    refine horder.imp fun {p q} hlt => ?_
    obtain ⟨w, hp⟩ := p.2
    obtain ⟨w', hq⟩ := q.2
    exact hp.precedes_of_lt hq hlt
  · rw [List.Nodup, List.pairwise_map]
    exact horder.imp fun hlt heq => Address.ne_of_lt hlt (congrArg (List.map Edge.position) heq)
  · rw [List.forall₂_map_left_iff]
    refine hnodes.imp fun p w hw => ?_
    obtain ⟨u, hu⟩ := p.2
    obtain rfl := Option.some.inj (hu.at?_eq.symm.trans hw)
    exact hu

theorem selectBy_eq_flatMap (steps : List Step) (vs : List Value) :
    selectBy steps vs = vs.flatMap fun v => selectBy steps [v] := by
  induction steps generalizing vs with
  | nil => exact (List.flatMap_singleton' vs).symm
  | cons s steps ih =>
    have hnode (v : Value) : selectBy (s :: steps) [v] = selectBy steps (s.apply v) := by
      rw [selectBy, List.flatMap_singleton]
    simp only [hnode]
    rw [selectBy, ih, List.flatMap_assoc]
    exact List.flatMap_congr fun v _ => (ih (s.apply v)).symm

theorem selectBy_append (before after : List Step) (vs : List Value) :
    selectBy (before ++ after) vs = selectBy after (selectBy before vs) := by
  induction before generalizing vs with
  | nil => rfl
  | cons s before ih => exact ih _

/-- A key anywhere below a node reaches every member of its name, and the steps of one list after
those of another go on from each node that these select, in order. -/
theorem reaches_and_select_append :
    (∀ key v, ∃ paths, Reaches key v paths ((Step.recursive key).apply v)) ∧
      ∀ (expr expr' expr'' : Text) (before after : List Step) (root : Value),
        select ⟨expr, before ++ after⟩ root =
          (select ⟨expr', before⟩ root).flatMap (select ⟨expr'', after⟩) := by
  refine ⟨exists_reaches, fun _ _ _ before after root => ?_⟩
  change selectBy (before ++ after) [root] =
    (selectBy before [root]).flatMap fun v => selectBy after [v]
  rw [selectBy_append, selectBy_eq_flatMap]

/-- The key is looked for below a node that stands under it, too, and through lists. -/
example : (Step.recursive "a".toList).apply (.table [("a", .table [("a", .int 1)]),
    ("b", .list [.table [("a", .int 2)]])]) = [.table [("a", .int 1)], .int 1, .int 2] := rfl

end Selector

end Copydesk
