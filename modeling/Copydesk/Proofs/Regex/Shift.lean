import Copydesk.Proofs.Regex.Repeat

/-! Numbering the groups of an expression from a higher index on. It matches what it did before, with
its groups under their new indices. Matches begin and end at points of the text. -/

namespace Copydesk.Regex

/-- Groups under indices that are higher by `d`. -/
def Groups.shift (d : Nat) (g : Groups) : Groups := g.map fun e => (e.1 + d, e.2)

theorem Groups.lookup_shift (d : Nat) (g : Groups) (i : Nat) :
    (g.shift d).lookup (i + d) = g.lookup i := by
  induction g with
  | nil => rfl
  | cons e g ih =>
    have hindex : (i + d == e.1 + d) = (i == e.1) := by
      rw [Bool.eq_iff_iff, beq_iff_eq, beq_iff_eq, Nat.add_right_cancel_iff]
    rw [shift, List.map_cons, List.lookup_cons, List.lookup_cons, hindex, ← shift, ih]

theorem Groups.lookup_shift_of_lt {d i : Nat} (g : Groups) (h : i < d) :
    (g.shift d).lookup i = none := by
  refine List.lookup_eq_none_iff.mpr fun e he => ?_
  obtain ⟨e, -, rfl⟩ := List.mem_map.mp he
  rw [bne_iff_ne]
  dsimp only
  omega

/-- A match with its groups under indices that are higher by `d`. -/
def Match.shift (d : Nat) (m : Match) : Match := { m with groups := m.groups.shift d }

namespace Node

def shift (d : Nat) : Node → Node
  | empty => empty
  | one s => one s
  | look l => look l
  | cat a b => cat (a.shift d) (b.shift d)
  | alt a b => alt (a.shift d) (b.shift d)
  | rep lo hi greedy a => rep lo hi greedy (a.shift d)
  | group i a => group (i + d) (a.shift d)

theorem shift_shift (d e : Nat) (a : Node) : (a.shift d).shift e = a.shift (d + e) := by
  induction a with
  | empty | one | look => rfl
  | cat a b iha ihb | alt a b iha ihb => simp only [shift, iha, ihb]
  | rep lo hi greedy a ih => simp only [shift, ih]
  | group i a ih => simp only [shift, ih, Nat.add_assoc]

theorem shift_ofList (d : Nat) (as : List Node) : (ofList as).shift d = ofList (as.map (shift d)) := by
  induction as with
  | nil => rfl
  | cons a as ih =>
    cases as with
    | nil => rfl
    | cons b bs => exact congrArg (cat (a.shift d)) ih

end Node

namespace Matcher

variable {α β : Type} {P : Point → Prop} {d : Nat} {f : α → β}

/-- At certain points, the second matcher does with shifted groups what the first one does. -/
def Shifts (P : Point → Prop) (d : Nat) (f : α → β) (m : Matcher α) (m' : Matcher β) : Prop :=
  ∀ p g k k', P p → (∀ q h, P q → k' q (Groups.shift d h) = (k q h).map f) →
    m' p (Groups.shift d g) k' = (m p g k).map f

variable {a b body : Matcher α} {a' b' body' : Matcher β}

theorem Shifts.skip : Shifts P d f (skip : Matcher α) skip := fun p g _ _ hp hk => hk p g hp

theorem Shifts.andThen (ha : Shifts P d f a a') (hb : Shifts P d f b b') :
    Shifts P d f (andThen a b) (andThen a' b') :=
  fun p g k k' hp hk => ha p g _ _ hp fun q h hq => hb q h k k' hq hk

theorem Shifts.orElse (ha : Shifts P d f a a') (hb : Shifts P d f b b') :
    Shifts P d f (orElse a b) (orElse a' b') := by
  intro p g k k' hp hk
  simp only [Matcher.orElse, ha p g k k' hp hk, hb p g k k' hp hk]
  cases a p g k <;> rfl

theorem Shifts.greedyOr (ha : Shifts P d f a a') (hb : Shifts P d f b b') (greedy : Bool) :
    Shifts P d f (if greedy then Matcher.orElse a b else Matcher.orElse b a)
      (if greedy then Matcher.orElse a' b' else Matcher.orElse b' a') := by
  cases greedy
  · exact hb.orElse ha
  · exact ha.orElse hb

theorem Shifts.oneOrMore (h : Shifts P d f body body') (greedy : Bool) (fuel : Nat) :
    Shifts P d f (oneOrMore body greedy fuel) (oneOrMore body' greedy fuel) := by
  induction fuel with
  | zero => exact h
  | succ fuel ih =>
    intro p g k k' hp hk
    refine h p g _ _ hp fun q u hq => ?_
    have hmore := ih.greedyOr .skip greedy q u k k' hq hk
    rw [apply_ite (fun m : Matcher α => m q u k), apply_ite (fun m : Matcher β => m q _ k')] at hmore
    split
    · exact hmore
    · exact hk q u hq

theorem Shifts.atMost (h : Shifts P d f body body') (greedy : Bool) (n : Nat) :
    Shifts P d f (atMost body greedy n) (atMost body' greedy n) := by
  induction n with
  | zero => exact .skip
  | succ n ih => exact (h.andThen ih).greedyOr .skip greedy

theorem Shifts.exactly (h : Shifts P d f body body') (n : Nat) :
    Shifts P d f (exactly body n) (exactly body' n) := by
  induction n with
  | zero => exact .skip
  | succ n ih => exact h.andThen ih

theorem Shifts.repeated (h : Shifts P d f body body') (lo : Nat) (hi : Option Nat) (greedy : Bool) :
    Shifts P d f (repeated body lo hi greedy) (repeated body' lo hi greedy) := by
  have hmore : Shifts P d f (fun p => Matcher.oneOrMore body greedy p.left p)
      fun p => Matcher.oneOrMore body' greedy p.left p :=
    fun p g k k' hp hk => h.oneOrMore greedy p.left p g k k' hp hk
  cases hi with
  | some hi => exact (h.exactly lo).andThen (h.atMost greedy (hi - lo))
  | none =>
    cases lo with
    | zero => exact hmore.greedyOr .skip greedy
    | succ n => exact (h.exactly n).andThen hmore

end Matcher

/-- The property is one of points of the text: it holds of the next point too. -/
def Point.IsKept (P : Point → Prop) : Prop := ∀ p c q, P p → p.next? = some (c, q) → P q

namespace Node

variable {P : Point → Prop} {n : Node} {p q : Point} {m : Match}

theorem matcher_shifts {α β : Type} (hP : Point.IsKept P) (d : Nat) (f : α → β) (n : Node) :
    Matcher.Shifts P d f n.matcher (n.shift d).matcher := by
  induction n with
  | empty => exact .skip
  | one s =>
    intro p g k k' hp hk
    simp only [shift, matcher]
    split
    · rename_i c q hq
      split
      · exact hk q g (hP p c q hp hq)
      · rfl
    · rfl
  | look l =>
    intro p g k k' hp hk
    simp only [shift, matcher]
    split
    · exact hk p g hp
    · rfl
  | cat a b iha ihb => exact iha.andThen ihb
  | alt a b iha ihb => exact iha.orElse ihb
  | rep lo hi greedy a ih => exact ih.repeated lo hi greedy
  | group i a ih =>
    exact fun p g k k' hp hk => ih p g _ _ hp fun q h hq => hk q ((i, p.offset, q.offset) :: h) hq

theorem matchAt?_shift (d : Nat) (n : Node) (p : Point) : (n.shift d).matchAt? p =
    (n.matchAt? p).map fun r => (r.1.shift d, r.2) :=
  n.matcher_shifts (P := fun _ => True) (fun _ _ _ _ _ => trivial) d
    (fun r : Match × Point => (r.1.shift d, r.2)) p [] _ _ trivial fun _ _ _ => rfl

theorem matchAt?_kept (hP : Point.IsKept P) (hp : P p) (h : n.matchAt? p = some (m, q)) : P q := by
  classical
  let found (x : Point) (g : Groups) : Option (Match × Point) := some (⟨p.offset, x.offset, g⟩, x)
  have hfound : n.matcher p [] found = some (m, q) := h
  -- the same matcher, which goes on at such points only
  have hshift := n.matcher_shifts hP 0 id p [] found (fun x g => if P x then found x g else none) hp
    fun x g hx => by
      rw [if_pos hx, Option.map_id, id, Groups.shift]
      simp
  rw [Option.map_id, id, hfound] at hshift
  obtain ⟨x, g, -, -, hk⟩ := (n.shift 0).matcher_advances p _ _ _ hshift
  split at hk
  · cases hk
    assumption
  · cases hk

theorem search_kept (hP : Point.IsKept P) {fuel : Nat} (hp : P p)
    (h : n.search fuel p = some (m, q)) : ∃ x, P x ∧ n.matchAt? x = some (m, q) := by
  induction fuel generalizing p with
  | zero => exact ⟨p, hp, h⟩
  | succ fuel ih =>
    unfold search at h
    split at h
    · rename_i hr
      exact ⟨p, hp, hr.trans h⟩
    · split at h
      · rename_i c p' hp'
        exact ih (hP p c p' hp hp') h
      · cases h

theorem searchAll_kept (hP : Point.IsKept P) {fuel : Nat} {last : Option Nat} (hp : P p)
    (h : m ∈ n.searchAll fuel last p) : ∃ x q, P x ∧ n.matchAt? x = some (m, q) := by
  induction fuel generalizing last p with
  | zero => cases h
  | succ fuel ih =>
    unfold searchAll at h
    split at h
    · cases h
    · rename_i m' q hs
      obtain ⟨x, hx, hmatch⟩ := search_kept hP hp hs
      split at h
      · split at h
        · rename_i c p' hp'
          exact ih (hP p c p' hp hp') h
        · cases h
      · rcases List.mem_cons.mp h with rfl | h
        · exact ⟨x, q, hx, hmatch⟩
        · exact ih (matchAt?_kept hP hx hmatch) h

end Node

/-- Each match is one between two parts of the text. -/
theorem exists_between_of_mem_findAll {r : Regex} {t : Text} {m : Match} (h : m ∈ r.findAll t) :
    ∃ pre rest q, t = pre ++ rest ∧ r.root.matchAt? (.between pre rest) = some (m, q) := by
  have hP : Point.IsKept fun p => ∃ pre rest, t = pre ++ rest ∧ p = .between pre rest := by
    rintro _ c q ⟨pre, rest, rfl, rfl⟩ hq
    cases rest with
    | nil => cases hq
    | cons d rest =>
      rw [Point.next?_between] at hq
      cases hq
      exact ⟨pre ++ [c], rest, by rw [List.append_assoc, List.singleton_append], rfl⟩
  obtain ⟨_, q, ⟨pre, rest, ht, rfl⟩, hmatch⟩ :=
    Node.searchAll_kept hP ⟨[], t, rfl, rfl⟩ h
  exact ⟨pre, rest, q, ht, hmatch⟩

end Copydesk.Regex
