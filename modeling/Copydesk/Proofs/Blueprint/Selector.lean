import Copydesk.Blueprint.Selector
import Mathlib.Data.List.Induction

/-! Where the nodes stand that a selector selects, in which order they come and when each comes once. -/

namespace Copydesk

/-- The positions of the children on the way to a node. Addresses are ordered as the nodes begin: a node
comes before those inside it. -/
abbrev Address := List Nat

namespace Data.Value

variable {v : Value} {a b : Address}

def children : Value → List Value
  | list items => items
  | table fields => fields.map (·.2)
  | _ => []

def at? : Value → Address → Option Value
  | v, [] => some v
  | v, i :: a => v.children[i]?.bind (at? · a)

theorem at?_append (v : Value) (a b : Address) : v.at? (a ++ b) = (v.at? a).bind (at? · b) := by
  induction a generalizing v with
  | nil => rfl
  | cons i a ih =>
    rw [List.cons_append, at?, at?]
    cases v.children[i]? with
    | none => rfl
    | some w => exact ih w

end Data.Value

open Data

namespace Address

variable {a b c : Address} {first rest : List Address}

/-- The address after a child has been put in front. -/
def next : Address → Address
  | [] => []
  | i :: a => (i + 1) :: a

theorem next_lt_next (h : a < b) : next a < next b := by
  cases b with
  | nil => exact absurd h (List.not_lt_nil a)
  | cons j b =>
    cases a with
    | nil => exact List.nil_lt_cons _ _
    | cons i a =>
      rw [List.cons_lt_cons_iff] at h
      rw [next, next, List.cons_lt_cons_iff]
      rcases h with h | ⟨rfl, h⟩
      · exact .inl (Nat.succ_lt_succ h)
      · exact .inr ⟨rfl, h⟩

theorem append_lt_append (c : Address) (h : a < b) : c ++ a < c ++ b := by
  induction c with
  | nil => exact h
  | cons i c ih => exact List.cons_lt_cons_iff.mpr (.inr ⟨rfl, ih⟩)

def siblings (first rest : List Address) : List Address :=
  first.map (0 :: ·) ++ rest.map next

theorem mem_siblings : a ∈ siblings first rest ↔
    (∃ b ∈ first, 0 :: b = a) ∨ ∃ b ∈ rest, next b = a := by
  simp only [siblings, List.mem_append, List.mem_map]

theorem zero_cons_mem_siblings : 0 :: a ∈ siblings first rest ↔ a ∈ first := by
  rw [mem_siblings]
  constructor
  · rintro (⟨b, hb, h⟩ | ⟨b, -, h⟩)
    · rwa [← (List.cons_inj_right 0).mp h]
    · cases b <;> cases h
  · exact fun h => .inl ⟨a, h, rfl⟩

theorem succ_cons_mem_siblings {i : Nat} :
    (i + 1) :: a ∈ siblings first rest ↔ i :: a ∈ rest := by
  rw [mem_siblings]
  constructor
  · rintro (⟨b, -, h⟩ | ⟨b, hb, h⟩)
    · cases h
    · cases b with
      | nil => cases h
      | cons j b =>
        cases h
        exact hb
  · exact fun h => .inr ⟨i :: a, h, rfl⟩

theorem siblings_ne_nil (hrest : ∀ a ∈ rest, a ≠ []) (h : a ∈ siblings first rest) :
    a ≠ [] := by
  rcases mem_siblings.mp h with ⟨b, -, rfl⟩ | ⟨b, hb, rfl⟩
  · exact List.cons_ne_nil 0 b
  · cases b with
    | nil => exact absurd rfl (hrest [] hb)
    | cons j b => exact List.cons_ne_nil (j + 1) b

theorem siblings_pairwise (hfirst : first.Pairwise (· < ·)) (hrest : rest.Pairwise (· < ·))
    (hne : ∀ a ∈ rest, a ≠ []) : (siblings first rest).Pairwise (· < ·) := by
  rw [siblings, List.pairwise_append, List.pairwise_map, List.pairwise_map]
  refine ⟨hfirst.imp fun h => append_lt_append [0] h, hrest.imp next_lt_next, ?_⟩
  intro a ha b hb
  obtain ⟨a, -, rfl⟩ := List.mem_map.mp ha
  obtain ⟨b, hrest, rfl⟩ := List.mem_map.mp hb
  cases b with
  | nil => exact absurd rfl (hne [] hrest)
  | cons j b => exact List.cons_lt_cons_iff.mpr (.inl (Nat.succ_pos j))

/-- The first node ends, with all that is inside it, before the second begins. -/
def Apart (a b : Address) : Prop :=
  ∃ p i j s t, a = p ++ i :: s ∧ b = p ++ j :: t ∧ i < j

theorem Apart.append (h : Apart a b) (c d : Address) : Apart (a ++ c) (b ++ d) := by
  obtain ⟨p, i, j, s, t, rfl, rfl, hij⟩ := h
  exact ⟨p, i, j, s ++ c, t ++ d, by simp, by simp, hij⟩

theorem Apart.within (h : Apart a b) (c : Address) : Apart (c ++ a) (c ++ b) := by
  obtain ⟨p, i, j, s, t, rfl, rfl, hij⟩ := h
  exact ⟨c ++ p, i, j, s, t, by simp, by simp, hij⟩

theorem Apart.lt (h : Apart a b) : a < b := by
  obtain ⟨p, i, j, s, t, rfl, rfl, hij⟩ := h
  exact append_lt_append p (List.cons_lt_cons_iff.mpr (.inl hij))

theorem ne_of_lt (h : a < b) : a ≠ b := by
  rintro rfl
  exact List.lt_irrefl a h

theorem apart_of_lt (h : a < b) (hin : ¬a <+: b) : Apart a b := by
  induction a generalizing b with
  | nil => exact absurd List.nil_prefix hin
  | cons i a ih =>
    cases b with
    | nil => exact absurd h (List.not_lt_nil _)
    | cons j b =>
      rcases List.cons_lt_cons_iff.mp h with hij | ⟨rfl, hab⟩
      · exact ⟨[], i, j, a, b, rfl, rfl, hij⟩
      · have hin : ¬a <+: b := fun h => hin (List.cons_prefix_cons.mpr ⟨rfl, h⟩)
        exact (ih hab hin).within [i]

end Address

namespace Selector

open Address

variable {root v : Value} {key : Text} {a b : Address} {as : List Address}

mutual

/-- Where the nodes stand that the key reaches below a node. -/
def descendAt (key : Text) : Value → List Address
  | .table fields => descendFieldsAt key fields
  | .list items => descendItemsAt key items
  | _ => []

def descendFieldsAt (key : Text) : List (Text × Value) → List Address
  | [] => []
  | (k, v) :: fs =>
    siblings ((if k = key then [[]] else []) ++ descendAt key v) (descendFieldsAt key fs)

def descendItemsAt (key : Text) : List Value → List Address
  | [] => []
  | v :: vs => siblings (descendAt key v) (descendItemsAt key vs)

end

/-- Where the nodes stand that a step selects below a node. -/
def Step.addresses : Step → Value → List Address
  | .key k, .table fields => (fields.findIdx? (k == ·.1)).toList.map ([·])
  | .index i, .list items => if i < items.length then [[i]] else []
  | .all, v => (List.range v.children.length).map ([·])
  | .properties ks, .table fields =>
    ks.filterMap fun k => (fields.findIdx? (k == ·.1)).map ([·])
  | .recursive k, v => descendAt k v
  | _, _ => []

def Step.below (s : Step) (root : Value) (a : Address) : List Address :=
  match root.at? a with
  | some v => (s.addresses v).map (a ++ ·)
  | none => []

def addressesBy (root : Value) (steps : List Step) : List Address :=
  steps.foldl (fun as s => as.flatMap (s.below root)) [[]]

/-- Where the selected nodes stand. -/
def addresses (s : Selector) (root : Value) : List Address := addressesBy root s.steps

section Descent

theorem ne_nil_of_mem_descendFieldsAt {fs : List (Text × Value)}
    (h : a ∈ descendFieldsAt key fs) : a ≠ [] := by
  induction fs generalizing a with
  | nil => simp [descendFieldsAt] at h
  | cons f fs ih =>
    rw [descendFieldsAt] at h
    exact siblings_ne_nil (fun a ha => ih ha) h

theorem ne_nil_of_mem_descendItemsAt {vs : List Value} (h : a ∈ descendItemsAt key vs) :
    a ≠ [] := by
  induction vs generalizing a with
  | nil => simp [descendItemsAt] at h
  | cons v vs ih =>
    rw [descendItemsAt] at h
    exact siblings_ne_nil (fun a ha => ih ha) h

theorem ne_nil_of_mem_descendAt (h : a ∈ descendAt key v) : a ≠ [] := by
  cases v with
  | table fields =>
    rw [descendAt] at h
    exact ne_nil_of_mem_descendFieldsAt h
  | list items =>
    rw [descendAt] at h
    exact ne_nil_of_mem_descendItemsAt h
  | _ => simp [descendAt] at h

mutual

theorem descendAt_pairwise (key : Text) : ∀ v, (descendAt key v).Pairwise (· < ·)
  | .table fields => by
    rw [descendAt]
    exact descendFieldsAt_pairwise key fields
  | .list items => by
    rw [descendAt]
    exact descendItemsAt_pairwise key items
  | .null | .bool _ | .int _ | .float _ | .str _ => .nil

theorem descendFieldsAt_pairwise (key : Text) : ∀ fs, (descendFieldsAt key fs).Pairwise (· < ·)
  | [] => .nil
  | (k, v) :: fs => by
    have hself : (if k = key then [[]] else [] : List Address).Pairwise (· < ·) := by
      split
      · exact List.pairwise_singleton _ _
      · exact .nil
    have hbelow : ((if k = key then [[]] else []) ++ descendAt key v).Pairwise (· < ·) := by
      refine List.pairwise_append.mpr ⟨hself, descendAt_pairwise key v, fun a ha b hb => ?_⟩
      obtain rfl : a = [] := by
        split at ha
        · exact List.mem_singleton.mp ha
        · cases ha
      obtain ⟨i, b, rfl⟩ := List.exists_cons_of_ne_nil (ne_nil_of_mem_descendAt hb)
      exact List.nil_lt_cons i b
    rw [descendFieldsAt]
    exact siblings_pairwise hbelow (descendFieldsAt_pairwise key fs)
      fun a ha => ne_nil_of_mem_descendFieldsAt ha

theorem descendItemsAt_pairwise (key : Text) : ∀ vs, (descendItemsAt key vs).Pairwise (· < ·)
  | [] => .nil
  | v :: vs => by
    rw [descendItemsAt]
    exact siblings_pairwise (descendAt_pairwise key v) (descendItemsAt_pairwise key vs)
      fun a ha => ne_nil_of_mem_descendItemsAt ha

end

theorem cons_mem_descendFieldsAt_iff {fs : List (Text × Value)} {i : Nat} :
    i :: a ∈ descendFieldsAt key fs ↔ (a = [] ∧ ∃ w, fs[i]? = some (key, w)) ∨
      ∃ w, (fs.map (·.2))[i]? = some w ∧ a ∈ descendAt key w := by
  induction fs generalizing i with
  | nil => simp [descendFieldsAt]
  | cons f fs ih =>
    obtain ⟨k, v⟩ := f
    rw [descendFieldsAt]
    cases i with
    | zero =>
      rw [zero_cons_mem_siblings, List.mem_append]
      by_cases hk : k = key <;> simp [hk]
    | succ i =>
      rw [succ_cons_mem_siblings, ih, List.getElem?_cons_succ, List.map_cons,
        List.getElem?_cons_succ]

theorem cons_mem_descendItemsAt_iff {vs : List Value} {i : Nat} :
    i :: a ∈ descendItemsAt key vs ↔ ∃ w, vs[i]? = some w ∧ a ∈ descendAt key w := by
  induction vs generalizing i with
  | nil => simp [descendItemsAt]
  | cons v vs ih =>
    rw [descendItemsAt]
    cases i with
    | zero => simp [zero_cons_mem_siblings]
    | succ i => rw [succ_cons_mem_siblings, ih, List.getElem?_cons_succ]

/-- A field of the key stands there. -/
def StandsUnder (key : Text) (v : Value) (a : Address) : Prop :=
  ∃ p i fields w, a = p ++ [i] ∧ v.at? p = some (.table fields) ∧ fields[i]? = some (key, w)

theorem standsUnder_cons_iff {i : Nat} : StandsUnder key v (i :: a) ↔
    (a = [] ∧ ∃ fields w, v = .table fields ∧ fields[i]? = some (key, w)) ∨
      ∃ w, v.children[i]? = some w ∧ StandsUnder key w a := by
  constructor
  · rintro ⟨p, j, fields, w, ha, hp, hw⟩
    cases p with
    | nil =>
      cases ha
      exact .inl ⟨rfl, fields, w, Option.some.inj hp, hw⟩
    | cons k p =>
      cases ha
      obtain ⟨u, hu, hp⟩ := Option.bind_eq_some_iff.mp hp
      exact .inr ⟨u, hu, p, j, fields, w, rfl, hp, hw⟩
  · rintro (⟨rfl, fields, w, rfl, hw⟩ | ⟨u, hu, p, j, fields, w, rfl, hp, hw⟩)
    · exact ⟨[], i, fields, w, rfl, rfl, hw⟩
    · exact ⟨i :: p, j, fields, w, rfl, Option.bind_eq_some_iff.mpr ⟨u, hu, hp⟩, hw⟩

/-- The key reaches the fields of its name, however far below the node, and nothing else. -/
theorem mem_descendAt_iff : a ∈ descendAt key v ↔ StandsUnder key v a := by
  induction a generalizing v with
  | nil =>
    constructor
    · exact fun h => absurd rfl (ne_nil_of_mem_descendAt h)
    · rintro ⟨p, i, fields, w, ha, -⟩
      exact absurd ha.symm (List.append_ne_nil_of_right_ne_nil p (List.cons_ne_nil i []))
  | cons i a ih =>
    rw [standsUnder_cons_iff]
    cases v with
    | table fields =>
      rw [descendAt, cons_mem_descendFieldsAt_iff]
      simp only [Value.children, ih, Value.table.injEq, exists_and_left, exists_eq_left']
    | list items =>
      rw [descendAt, cons_mem_descendItemsAt_iff]
      simp only [Value.children, ih, reduceCtorEq, false_and, exists_false, and_false, false_or]
    | _ => simp [descendAt, Value.children]

end Descent

section Steps

theorem map_at?_siblings {first rest : List Address} {v w u : Value} {vs us : List Value}
    (hfirst : first.map w.at? = vs.map some) (hrest : rest.map u.at? = us.map some)
    (hhead : v.children[0]? = some w) (htail : v.children.tail = u.children)
    (hne : ∀ a ∈ rest, a ≠ []) :
    (siblings first rest).map v.at? = (vs ++ us).map some := by
  have hzero (a : Address) : v.at? (0 :: a) = w.at? a := by
    rw [Value.at?, hhead]
    rfl
  have hnext : ∀ a ∈ rest, v.at? (next a) = u.at? a := by
    intro a ha
    cases a with
    | nil => exact absurd rfl (hne [] ha)
    | cons i a => rw [next, Value.at?, Value.at?, ← htail, List.getElem?_tail]
  rw [siblings, List.map_append, List.map_map, List.map_map, List.map_append, ← hfirst, ← hrest]
  congr 1
  · exact List.map_congr_left fun a _ => hzero a
  · exact List.map_congr_left hnext

mutual

theorem descendAt_at (key : Text) :
    ∀ v, (descendAt key v).map (Value.at? v) = (descend key v).map some
  | .table fields => by
    rw [descendAt, descend]
    exact descendFieldsAt_at key fields
  | .list items => by
    rw [descendAt, descend]
    exact descendItemsAt_at key items
  | .null | .bool _ | .int _ | .float _ | .str _ => rfl

theorem descendFieldsAt_at (key : Text) : ∀ fs,
    (descendFieldsAt key fs).map (Value.at? (.table fs)) = (descendFields key fs).map some
  | [] => rfl
  | (k, v) :: fs => by
    rw [descendFieldsAt, descendFields]
    refine map_at?_siblings (w := v) (u := .table fs) ?_ (descendFieldsAt_at key fs) rfl rfl
      fun a ha => ne_nil_of_mem_descendFieldsAt ha
    rw [List.map_append, List.map_append, descendAt_at key v]
    split <;> rfl

theorem descendItemsAt_at (key : Text) : ∀ vs,
    (descendItemsAt key vs).map (Value.at? (.list vs)) = (descendItems key vs).map some
  | [] => rfl
  | v :: vs => by
    rw [descendItemsAt, descendItems]
    exact map_at?_siblings (descendAt_at key v) (descendItemsAt_at key vs) rfl rfl
      fun a ha => ne_nil_of_mem_descendItemsAt ha

end

theorem get?_eq_bind (fields : List (Text × Value)) (k : Text) :
    get? fields k = (fields.findIdx? (k == ·.1)).bind fun i => (fields.map (·.2))[i]? := by
  induction fields with
  | nil => rfl
  | cons f fields ih =>
    rw [get?, List.lookup_cons, List.findIdx?_cons]
    cases k == f.1 with
    | true => rfl
    | false =>
      rw [← get?, ih]
      cases fields.findIdx? (k == ·.1) <;> rfl

theorem at?_child (v : Value) (i : Nat) : v.at? [i] = v.children[i]? := by
  rw [Value.at?]
  cases v.children[i]? <;> rfl

theorem at?_field (fields : List (Text × Value)) (k : Text) :
    ((fields.findIdx? (k == ·.1)).map ([·])).map (Value.table fields).at? =
      (get? fields k).map some := by
  rw [get?_eq_bind]
  cases hi : fields.findIdx? (k == ·.1) with
  | none => rfl
  | some i =>
    have hlt : i < (fields.map (·.2)).length := by
      rw [List.length_map]
      exact (List.findIdx?_eq_some_iff_getElem.mp hi).1
    have hget : (fields.map (·.2))[i]? = some (fields.map (·.2))[i] := List.getElem?_eq_getElem hlt
    rw [Option.map_some, Option.map_some, Option.bind_some, at?_child, Value.children, hget]
    rfl

theorem map_range_at? (v : Value) :
    ((List.range v.children.length).map ([·])).map v.at? = v.children.map some := by
  apply List.ext_getElem?
  intro i
  rw [List.map_map, List.getElem?_map, List.getElem?_map]
  by_cases hi : i < v.children.length
  · rw [List.getElem?_range hi, Option.map_some, Function.comp, at?_child,
      List.getElem?_eq_getElem hi, Option.map_some]
  · have hi := Nat.le_of_not_lt hi
    rw [List.getElem?_eq_none (by rwa [List.length_range]), List.getElem?_eq_none hi]
    rfl

theorem Step.addresses_at (s : Step) (v : Value) :
    (s.addresses v).map v.at? = (s.apply v).map some := by
  cases s with
  | recursive k => exact descendAt_at k v
  | key k => cases v with
    | table fields =>
      have h := congrArg Option.toList (at?_field fields k)
      rw [Option.toList_map, Option.toList_map, Option.toList_map] at h
      exact h
    | _ => rfl
  | index i => cases v with
    | list items =>
      rw [addresses, apply]
      by_cases hi : i < items.length
      · rw [if_pos hi, List.getElem?_eq_getElem hi, List.map_singleton, at?_child, Value.children,
          List.getElem?_eq_getElem hi]
        rfl
      -- past the end there is neither an address nor a value
      · rw [if_neg hi, List.getElem?_eq_none (Nat.le_of_not_lt hi)]
        rfl
    | _ => rfl
  | all => cases v with
    | list items => exact map_range_at? (.list items)
    | table fields => exact map_range_at? (.table fields)
    | _ => rfl
  | properties ks => cases v with
    | table fields =>
      rw [addresses, apply, List.map_filterMap, List.map_filterMap]
      simp only [at?_field]
    | _ => rfl

/-- Steps that select children in their order. -/
def Step.IsPlain : Step → Prop
  | .key _ | .index _ | .all => True
  | .properties _ | .recursive _ => False

theorem Step.IsPlain.addresses_eq {s : Step} (h : s.IsPlain) (v : Value) :
    ∃ is : List Nat, s.addresses v = is.map ([·]) ∧ is.Pairwise (· < ·) := by
  cases s with
  | key k => cases v with
    | table fields =>
      refine ⟨(fields.findIdx? (k == ·.1)).toList, rfl, ?_⟩
      cases fields.findIdx? (k == ·.1) with
      | none => exact .nil
      | some i => exact List.pairwise_singleton _ i
    | _ => exact ⟨[], rfl, .nil⟩
  | index i => cases v with
    | list items =>
      by_cases hi : i < items.length
      · exact ⟨[i], if_pos hi, List.pairwise_singleton _ i⟩
      · exact ⟨[], if_neg hi, .nil⟩
    | _ => exact ⟨[], rfl, .nil⟩
  | all => exact ⟨List.range v.children.length, rfl, List.pairwise_lt_range⟩
  | properties | recursive => exact h.elim

theorem Step.IsPlain.addresses_apart {s : Step} (h : s.IsPlain) (v : Value) :
    (s.addresses v).Pairwise Apart := by
  obtain ⟨is, heq, his⟩ := h.addresses_eq v
  rw [heq, List.pairwise_map]
  exact his.imp fun hij => ⟨[], _, _, [], [], rfl, rfl, hij⟩

end Steps

section Runs

variable {s : Step} {ss : List Step}

/-- None of the nodes is inside another. -/
def NoneInside (as : List Address) : Prop := as.Pairwise fun a b => ¬a <+: b

theorem addressesBy_concat (root : Value) (ss : List Step) (s : Step) :
    addressesBy root (ss ++ [s]) = (addressesBy root ss).flatMap (s.below root) := by
  rw [addressesBy, List.foldl_append]
  rfl

theorem exists_of_mem_below (h : a ∈ s.below root b) : ∃ v c, root.at? b = some v ∧
    c ∈ s.addresses v ∧ a = b ++ c := by
  rw [Step.below] at h
  split at h
  · obtain ⟨c, hc, rfl⟩ := List.mem_map.mp h
    exact ⟨_, c, ‹_›, hc, rfl⟩
  · cases h

theorem pairwise_below {R : Address → Address → Prop} (hR : ∀ c a b, R a b → R (c ++ a) (c ++ b))
    (h : ∀ v, (s.addresses v).Pairwise R) (a : Address) : (s.below root a).Pairwise R := by
  rw [Step.below]
  split
  · rw [List.pairwise_map]
    exact (h _).imp (hR a _ _)
  · exact .nil

/-- Where the nodes before a step stand apart, what it selects keeps the relation that it has below
each of them. -/
theorem pairwise_flatMap_below {R : Address → Address → Prop}
    (hR : ∀ c a b, R a b → R (c ++ a) (c ++ b)) (happart : ∀ a b, Apart a b → R a b)
    (h : ∀ v, (s.addresses v).Pairwise R) (has : as.Pairwise Apart) :
    (as.flatMap (s.below root)).Pairwise R := by
  refine List.pairwise_flatMap.mpr ⟨fun a _ => pairwise_below hR h a, has.imp ?_⟩
  intro a b hab c hc d hd
  obtain ⟨-, c, -, -, rfl⟩ := exists_of_mem_below hc
  obtain ⟨-, d, -, -, rfl⟩ := exists_of_mem_below hd
  exact happart _ _ (hab.append c d)

theorem Step.IsPlain.flatMap_apart (hs : s.IsPlain) (has : as.Pairwise Apart) :
    (as.flatMap (s.below root)).Pairwise Apart :=
  pairwise_flatMap_below (fun c _ _ h => h.within c) (fun _ _ h => h) hs.addresses_apart has

theorem Step.IsPlain.flatMap_nodup (hs : s.IsPlain) (has : as.Nodup) :
    (as.flatMap (s.below root)).Nodup := by
  have hlast {a b : Address} (h : a ∈ s.below root b) : ∃ i, a = b ++ [i] := by
    obtain ⟨v, c, -, hc, rfl⟩ := exists_of_mem_below h
    obtain ⟨is, heq, -⟩ := hs.addresses_eq v
    rw [heq] at hc
    obtain ⟨i, -, rfl⟩ := List.mem_map.mp hc
    exact ⟨i, rfl⟩
  refine List.pairwise_flatMap.mpr ⟨fun a _ => ?_, has.imp fun {a b} hab c hc d hd => ?_⟩
  · refine pairwise_below (fun c a b h => ?_) (fun v => (hs.addresses_apart v).imp fun h => ?_) a
    · exact fun heq => h (List.append_cancel_left heq)
    · exact Address.ne_of_lt h.lt
  · obtain ⟨i, rfl⟩ := hlast hc
    obtain ⟨j, rfl⟩ := hlast hd
    exact fun heq => hab (List.append_inj_left' heq rfl)

theorem apart_of_noneInside (h : as.Pairwise (· < ·)) (hin : NoneInside as) :
    as.Pairwise Apart :=
  (h.and hin).imp fun h => apart_of_lt h.1 h.2

/-- The steps that keep to the document's order below a node. -/
def Step.IsOrderly (s : Step) : Prop := s.IsPlain ∨ ∃ k, s = .recursive k

theorem Step.IsOrderly.addresses_pairwise (hs : s.IsOrderly) (v : Value) :
    (s.addresses v).Pairwise (· < ·) := by
  rcases hs with hs | ⟨k, rfl⟩
  · exact (hs.addresses_apart v).imp fun h => h.lt
  · exact descendAt_pairwise k v

theorem Step.IsOrderly.flatMap_pairwise (hs : s.IsOrderly) (has : as.Pairwise Apart) :
    (as.flatMap (s.below root)).Pairwise (· < ·) :=
  pairwise_flatMap_below (fun c _ _ h => append_lt_append c h) (fun _ _ h => h.lt)
    hs.addresses_pairwise has

/-- Where a key is looked for anywhere below and the steps after it satisfy the condition, none of the
nodes that it reaches is inside another. -/
def IsUnnested (root : Value) (steps : List Step) (p : List Step → Prop) : Prop :=
  ∀ before k after, steps = before ++ .recursive k :: after → p after →
    NoneInside (addressesBy root (before ++ [.recursive k]))

theorem IsUnnested.of_concat {p q : List Step → Prop} (h : IsUnnested root (ss ++ [s]) p)
    (hpq : ∀ after, q after → p (after ++ [s])) : IsUnnested root ss q := by
  intro before k after hss hafter
  have hsteps : ss ++ [s] = before ++ .recursive k :: (after ++ [s]) := by
    rw [hss, List.append_assoc, List.cons_append]
  exact h before k (after ++ [s]) hsteps (hpq after hafter)

theorem addressesBy_apart (hss : ∀ s ∈ ss, s.IsOrderly)
    (h : IsUnnested root ss fun _ => True) : (addressesBy root ss).Pairwise Apart := by
  induction ss using List.reverseRecOn with
  | nil => exact List.pairwise_singleton _ _
  | append_singleton ss s ih =>
    rw [List.forall_mem_append, List.forall_mem_singleton] at hss
    have hbefore := ih hss.1 (h.of_concat fun _ _ => trivial)
    rcases hss.2 with hs | ⟨k, rfl⟩
    · rw [addressesBy_concat]
      exact hs.flatMap_apart hbefore
    · refine apart_of_noneInside ?_ (h ss k [] rfl trivial)
      rw [addressesBy_concat]
      exact hss.2.flatMap_pairwise hbefore

theorem addressesBy_pairwise (hss : ∀ s ∈ ss, s.IsOrderly)
    (h : IsUnnested root ss (· ≠ [])) : (addressesBy root ss).Pairwise (· < ·) := by
  cases ss using List.reverseRecOn with
  | nil => exact List.pairwise_singleton _ _
  | append_singleton ss s =>
    rw [List.forall_mem_append, List.forall_mem_singleton] at hss
    have hbefore := addressesBy_apart hss.1 (h.of_concat fun after _ => by simp)
    rw [addressesBy_concat]
    exact hss.2.flatMap_pairwise hbefore

theorem addressesBy_nodup (hss : ∀ s ∈ ss, s.IsOrderly)
    (h : IsUnnested root ss fun after => ∃ k, .recursive k ∈ after) :
    (addressesBy root ss).Nodup := by
  induction ss using List.reverseRecOn with
  | nil => exact List.pairwise_singleton _ _
  | append_singleton ss s ih =>
    rw [List.forall_mem_append, List.forall_mem_singleton] at hss
    rw [addressesBy_concat]
    -- a step to children needs different nodes only; one to descendants needs them apart
    rcases hss.2 with hs | ⟨k, rfl⟩
    · refine hs.flatMap_nodup (ih hss.1 (h.of_concat fun after hafter => ?_))
      obtain ⟨k, hk⟩ := hafter
      exact ⟨k, List.mem_append_left _ hk⟩
    · have hbefore := addressesBy_apart hss.1 (h.of_concat fun after _ => ⟨k, by simp⟩)
      exact (hss.2.flatMap_pairwise hbefore).imp Address.ne_of_lt

theorem flatMap_below_at {vs : List Value} (h : as.map root.at? = vs.map some) :
    (as.flatMap (s.below root)).map root.at? = (vs.flatMap s.apply).map some := by
  induction as generalizing vs with
  | nil =>
    obtain rfl : vs = [] := List.map_eq_nil_iff.mp h.symm
    rfl
  | cons a as ih =>
    cases vs with
    | nil => cases h
    | cons v vs =>
      obtain ⟨ha, has⟩ := List.cons.inj h
      have hbelow : (s.below root a).map root.at? = (s.apply v).map some := by
        rw [Step.below, ha, ← s.addresses_at, List.map_map]
        apply List.map_congr_left
        intro b _
        rw [Function.comp, Value.at?_append, ha]
        rfl
      rw [List.flatMap_cons, List.flatMap_cons, List.map_append, List.map_append, hbelow, ih has]

theorem foldl_below_at {vs : List Value} (h : as.map root.at? = vs.map some) :
    (ss.foldl (fun as s => as.flatMap (s.below root)) as).map root.at? =
      (selectBy ss vs).map some := by
  induction ss generalizing as vs with
  | nil => exact h
  | cons s ss ih => exact ih (flatMap_below_at h)

/-- The order of the nodes that a selector selects. They come node by node, in the order of the steps
before the last. -/
structure SelectsInOrder (s : Selector) (root : Value) : Prop where
  nodes : (s.addresses root).map root.at? = (s.select root).map some
  groups : ∀ before last, s.steps = before ++ [last] →
    s.addresses root = (addressesBy root before).flatMap (last.below root) ∧
      ∀ a, (last.below root a).Pairwise (· < ·)
  ascending : IsUnnested root s.steps (· ≠ []) → (s.addresses root).Pairwise (· < ·)
  nodup : IsUnnested root s.steps (fun after => ∃ k, .recursive k ∈ after) →
    (s.addresses root).Nodup

theorem selectsInOrder {s : Selector} (h : ∀ step ∈ s.steps, step.IsOrderly) (root : Value) :
    SelectsInOrder s root where
  nodes := foldl_below_at rfl
  groups before last hsteps := by
    have hlast : last.IsOrderly := h last (by simp [hsteps])
    refine ⟨by rw [addresses, hsteps, addressesBy_concat], fun a => ?_⟩
    exact pairwise_below (fun c _ _ h => append_lt_append c h) hlast.addresses_pairwise a
  ascending := addressesBy_pairwise h
  nodup := addressesBy_nodup h

/-- The key `b` of everything that stands under `a`. -/
def keyBelow : Selector := ⟨"..a.b", [.recursive "a", .key "b"]⟩

/-- Two nodes stand under `a`, side by side. -/
def flatRoot : Value :=
  .list [.table [("a", .table [("b", .int 1)])], .table [("a", .table [("b", .int 2)])]]

theorem flatRoot_selectsInOrder : keyBelow.addresses flatRoot = [[0, 0, 0], [1, 0, 0]] ∧
    (keyBelow.addresses flatRoot).Pairwise (· < ·) := by
  have horderly : ∀ step ∈ keyBelow.steps, step.IsOrderly := by
    intro step hstep
    simp only [keyBelow, List.mem_cons, List.not_mem_nil, or_false] at hstep
    rcases hstep with rfl | rfl
    · exact .inr ⟨_, rfl⟩
    · exact .inl trivial
  have hunnested : IsUnnested flatRoot keyBelow.steps (· ≠ []) := by
    intro before k after hsteps _
    cases before with
    | nil =>
      cases hsteps
      unfold NoneInside
      decide
    | cons step before =>
      obtain ⟨-, hsteps⟩ := List.cons.inj hsteps
      cases before <;> simp at hsteps
  exact ⟨by decide, (selectsInOrder horderly flatRoot).ascending hunnested⟩

/-- Of the nodes that stand under `a` one is inside the other. -/
def nestedRoot : Value :=
  .table [("a", .table [("a", .table [("b", .int 1)]), ("b", .int 2)])]

theorem nestedRoot_addresses : Selector.ofText "..a.b" = .ok keyBelow ∧
    keyBelow.addresses nestedRoot = [[0, 1], [0, 0, 0]] ∧
    keyBelow.select nestedRoot = [.int 2, .int 1] ∧
    ¬(keyBelow.addresses nestedRoot).Pairwise (· < ·) ∧
    addressesBy nestedRoot [.recursive "a", .recursive "b"] = [[0, 0, 0], [0, 1], [0, 0, 0]] :=
  ⟨by rfl, by decide, by rfl, by decide, by decide⟩

end Runs

end Selector

end Copydesk
