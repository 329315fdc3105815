import Copydesk.Proofs.Regex.Repeat

/-! Patterns that are choices among words. Wherever such a pattern is tried, it takes the first of
its words, in the order of preference, that the text ahead begins with. To erase its matches is to
erase these words from left to right. -/

namespace Copydesk.Regex

open Text (size size_append afterPrefix? afterPrefix?_eq_some_iff)

def pairings (x y : List Text) : List Text := x.flatMap fun w => y.map (w ++ ·)

def copies (x : List Text) : Nat → List Text
  | 0 => [[]]
  | n + 1 => pairings x (copies x n)

/-- At most so many copies, more of them before fewer. -/
def copiesUpTo (x : List Text) : Nat → List Text
  | 0 => [[]]
  | n + 1 => pairings x (copiesUpTo x n) ++ [[]]

/-- The words that a pattern is a choice among, in the order of preference. -/
def Node.words? : Node → Option (List Text)
  | empty => some [[]]
  | one (.range a b) => if a = b then some [[a]] else none
  | cat a b => a.words?.bind fun x => b.words?.map fun y => pairings x y
  | alt a b => a.words?.bind fun x => b.words?.map fun y => x ++ y
  | rep lo (some hi) true a =>
    a.words?.map fun x => pairings (copies x lo) (copiesUpTo x (hi - lo))
  | _ => none

/-- The first of some words that a text begins with, and what follows it. -/
def firstWord? (ws : List Text) (t : Text) : Option (Text × Text) :=
  ws.findSome? fun w => (afterPrefix? w t).map (w, ·)

theorem eq_append_of_firstWord? {ws : List Text} {t w u : Text}
    (h : firstWord? ws t = some (w, u)) : w ∈ ws ∧ t = w ++ u := by
  obtain ⟨v, hv, hafter⟩ := List.exists_of_findSome?_eq_some h
  obtain ⟨z, hz, hpair⟩ := Option.map_eq_some_iff.mp hafter
  obtain ⟨rfl, rfl⟩ := Prod.mk.inj hpair
  exact ⟨hv, afterPrefix?_eq_some_iff.mp hz⟩

theorem firstWord?_nil {ws : List Text} (hws : [] ∉ ws) : firstWord? ws [] = none := by
  rw [Option.eq_none_iff_forall_ne_some]
  rintro ⟨w, u⟩ h
  obtain ⟨hw, ht⟩ := eq_append_of_firstWord? h
  exact hws ((List.append_eq_nil_iff.mp ht.symm).1 ▸ hw)

section Matching

variable {α : Type}

/-- The matcher takes one of the words, the first after which the rest matches. -/
def Matcher.Takes (m : Matcher α) (ws : List Text) : Prop := ∀ pre t g k,
  m (.between pre t) g k =
    ws.findSome? fun w => (afterPrefix? w t).bind fun u => k (.between (pre ++ w) u) g

theorem afterPrefix?_append (v w t : Text) :
    afterPrefix? (v ++ w) t = (afterPrefix? v t).bind (afterPrefix? w) := by
  refine Option.ext fun u => ?_
  simp only [Option.bind_eq_some_iff, afterPrefix?_eq_some_iff, List.append_assoc]
  constructor
  · rintro rfl
    exact ⟨w ++ u, rfl, rfl⟩
  · rintro ⟨_, rfl, rfl⟩
    rfl

namespace Matcher.Takes

variable {a b : Matcher α} {x y : List Text}

theorem skip : (Matcher.skip : Matcher α).Takes [[]] := by
  intro pre t g k
  rw [List.findSome?_singleton, afterPrefix?, Option.bind_some, List.append_nil]
  rfl

theorem orElse (ha : a.Takes x) (hb : b.Takes y) : (orElse a b).Takes (x ++ y) := by
  intro pre t g k
  rw [List.findSome?_append, ← ha, ← hb, Matcher.orElse]
  cases a (.between pre t) g k <;> rfl

theorem andThen (ha : a.Takes x) (hb : b.Takes y) : (andThen a b).Takes (pairings x y) := by
  intro pre t g k
  rw [Matcher.andThen, ha, pairings]
  clear ha
  induction x with
  | nil => rfl
  | cons w x ih =>
    have hhead : ((afterPrefix? w t).bind fun u => b (.between (pre ++ w) u) g k) =
        (y.map (w ++ ·)).findSome? fun v =>
          (afterPrefix? v t).bind fun u => k (.between (pre ++ v) u) g := by
      rw [List.findSome?_map]
      simp only [Function.comp_def, afterPrefix?_append, ← List.append_assoc]
      cases afterPrefix? w t with
      | none => exact (List.findSome?_eq_none_iff.mpr fun _ _ => rfl).symm
      | some u => exact hb (pre ++ w) u g k
    rw [List.flatMap_cons, List.findSome?_append, List.findSome?_cons, ← hhead, ← ih]
    cases (afterPrefix? w t).bind fun u => b (.between (pre ++ w) u) g k <;> rfl

theorem exactly (ha : a.Takes x) (n : Nat) : (exactly a n).Takes (copies x n) := by
  induction n with
  | zero => exact skip
  | succ n ih => exact ha.andThen ih

theorem atMost (ha : a.Takes x) (n : Nat) : (atMost a true n).Takes (copiesUpTo x n) := by
  induction n with
  | zero => exact skip
  | succ n ih => exact (ha.andThen ih).orElse skip

end Matcher.Takes

theorem takes_single (c : Char) :
    ((Node.one (.range c c)).matcher : Matcher α).Takes [[c]] := by
  intro pre t g k
  rw [List.findSome?_singleton]
  cases t with
  | nil => rfl
  | cons d t =>
    rw [matcher_one_cons, CharSet.mem_range_self, afterPrefix?]
    by_cases hd : d = c
    · subst hd
      rw [if_pos (beq_self_eq_true d), if_pos rfl]
      rfl
    · rw [if_neg (by simpa using hd), if_neg (Ne.symm hd)]
      rfl

theorem Node.takes_of_words? {n : Node} {ws : List Text} (h : n.words? = some ws) :
    (n.matcher : Matcher α).Takes ws := by
  induction n generalizing ws with
  | empty =>
    obtain rfl := Option.some.inj h
    exact .skip
  | one s =>
    cases s with
    | range a b =>
      rw [words?] at h
      split at h
      · rename_i hab
        obtain rfl := Option.some.inj h
        subst hab
        exact takes_single a
      · cases h
    | _ => cases h
  | look l => cases h
  | cat a b iha ihb =>
    obtain ⟨x, hx, h⟩ := Option.bind_eq_some_iff.mp h
    obtain ⟨y, hy, rfl⟩ := Option.map_eq_some_iff.mp h
    exact (iha hx).andThen (ihb hy)
  | alt a b iha ihb =>
    obtain ⟨x, hx, h⟩ := Option.bind_eq_some_iff.mp h
    obtain ⟨y, hy, rfl⟩ := Option.map_eq_some_iff.mp h
    exact (iha hx).orElse (ihb hy)
  | rep lo hi greedy a ih =>
    -- only a greedy repetition with a bound has a list of words
    cases hi with
    | none => cases greedy <;> cases h
    | some hi =>
      cases greedy with
      | false => cases h
      | true =>
        obtain ⟨x, hx, rfl⟩ := Option.map_eq_some_iff.mp h
        exact ((ih hx).exactly lo).andThen ((ih hx).atMost (hi - lo))
  | group i a ih => cases h

theorem Node.matchAt?_eq {n : Node} {ws : List Text} (h : n.words? = some ws) (pre t : Text) :
    n.matchAt? (.between pre t) = (firstWord? ws t).map fun p =>
      (⟨size pre, size (pre ++ p.1), []⟩, .between (pre ++ p.1) p.2) := by
  rw [matchAt?, takes_of_words? h, firstWord?, List.map_findSome?]
  refine congrArg (ws.findSome? ·) (funext fun w => ?_)
  cases hafter : afterPrefix? w t with
  | none => simp [hafter]
  | some u =>
    simp only [hafter, Function.comp_apply, Option.map_some, Option.bind_some]
    rfl

end Matching

section Erasing

variable {n : Node} {ws : List Text} {t w u : Text}

/-- What is left when the words are taken out of a text from left to right. -/
def erase (ws : List Text) : Text → Text
  | [] => []
  | c :: t =>
    match firstWord? ws (c :: t) with
    | none => c :: erase ws t
    | some (w, _) => erase ws (t.drop (w.length - 1))
termination_by t => t.length

theorem erase_nil (ws : List Text) : erase ws [] = [] := by rw [erase]

theorem erase_cons {c : Char} (h : firstWord? ws (c :: t) = none) :
    erase ws (c :: t) = c :: erase ws t := by
  rw [erase, h]

theorem erase_append (hw : w ≠ []) (h : firstWord? ws (w ++ u) = some (w, u)) :
    erase ws (w ++ u) = erase ws u := by
  obtain ⟨c, w, rfl⟩ := List.exists_cons_of_ne_nil hw
  rw [List.cons_append] at h ⊢
  rw [erase, h]
  simp

/-- At the head of a text stands either a character that is left or a word that is taken out. -/
@[elab_as_elim]
theorem words_induction (hws : [] ∉ ws) {motive : Text → Prop} (nil : motive [])
    (cons : ∀ c t, firstWord? ws (c :: t) = none → motive t → motive (c :: t))
    (append : ∀ w u, w ≠ [] → firstWord? ws (w ++ u) = some (w, u) → motive u → motive (w ++ u))
    (t : Text) : motive t := by
  induction hlength : t.length using Nat.strong_induction_on generalizing t with
  | _ n ih =>
    subst hlength
    cases t with
    | nil => exact nil
    | cons c t =>
      cases hfirst : firstWord? ws (c :: t) with
      | none => exact cons c t hfirst (ih t.length (Nat.lt_succ_self _) t rfl)
      | some p =>
        obtain ⟨hw, ht⟩ := eq_append_of_firstWord? hfirst
        have hne : p.1 ≠ [] := fun hnil => hws (hnil ▸ hw)
        have hlt : p.2.length < (c :: t).length := by
          have := List.length_pos_iff.mpr hne
          rw [ht, List.length_append]
          omega
        rw [ht] at hfirst ⊢
        exact append p.1 p.2 hne hfirst (ih _ hlt p.2 rfl)

theorem length_erase_le (hws : [] ∉ ws) (t : Text) : (erase ws t).length ≤ t.length := by
  induction t using words_induction hws with
  | nil => rw [erase_nil]
  | cons c t h ih =>
    rw [erase_cons h]
    exact Nat.succ_le_succ ih
  | append w u hw h ih =>
    rw [erase_append hw h, List.length_append]
    omega

/-- Characters that no word begins with are left. -/
theorem erase_append_of_not_head {s : Text} (h : ∀ c ∈ s, ∀ w ∈ ws, w.head? ≠ some c)
    (hws : [] ∉ ws) (t : Text) : erase ws (s ++ t) = s ++ erase ws t := by
  induction s with
  | nil => rfl
  | cons c s ih =>
    obtain ⟨hc, hs⟩ := List.forall_mem_cons.mp h
    have hnone : firstWord? ws (c :: (s ++ t)) = none := by
      rw [Option.eq_none_iff_forall_ne_some]
      rintro ⟨w, u⟩ hfirst
      obtain ⟨hw, heq⟩ := eq_append_of_firstWord? hfirst
      cases w with
      | nil => exact hws hw
      | cons d w =>
        obtain ⟨rfl, -⟩ := List.cons.inj heq
        exact hc _ hw rfl
    rw [List.cons_append, erase_cons hnone, ih hs]
    rfl

theorem noneBegins_single (hn : n.words? = some ws) {c : Char}
    (h : firstWord? ws (c :: t) = none) (pre : Text) : NoneBegins n pre [c] t := by
  intro x d y hsplit
  rcases List.singleton_eq_append_iff.mp hsplit with ⟨rfl, hcons⟩ | ⟨-, hnil⟩
  · obtain ⟨rfl, rfl⟩ := List.cons.inj hcons
    rw [Node.matchAt?_eq hn, List.nil_append, h]
    rfl
  · cases hnil

/-- Where nothing is taken out, no match begins. -/
theorem noneBegins_of_length_erase (hn : n.words? = some ws) (hws : [] ∉ ws)
    (h : (erase ws t).length = t.length) (pre : Text) : NoneBegins n pre t [] := by
  induction t using words_induction hws generalizing pre with
  | nil => exact noneBegins_nil
  | cons c t hfirst ih =>
    rw [erase_cons hfirst] at h
    refine NoneBegins.append (w := [c]) ?_ (ih (Nat.succ.inj h) (pre ++ [c]))
    rw [List.append_nil]
    exact noneBegins_single hn hfirst pre
  | append w u hw hfirst ih =>
    have := length_erase_le hws u
    have := List.length_pos_iff.mpr hw
    rw [erase_append hw hfirst, List.length_append] at h
    omega

theorem matchAt?_append (hn : n.words? = some ws) (h : firstWord? ws (w ++ u) = some (w, u))
    (pre : Text) : n.matchAt? (.between pre (w ++ u)) =
      some (⟨size pre, size (pre ++ w), []⟩, .between (pre ++ w) u) := by
  rw [Node.matchAt?_eq hn, h]
  rfl

theorem searchAll_append (hn : n.words? = some ws) (hw : w ≠ [])
    (h : firstWord? ws (w ++ u) = some (w, u)) {pre x : Text} (hx : NoneBegins n pre x (w ++ u))
    (fuel : Nat) (last : Option Nat) :
    n.searchAll (fuel + 1) last (.between pre (x ++ (w ++ u))) =
      ⟨size (pre ++ x), size (pre ++ x ++ w), []⟩ ::
        n.searchAll fuel (some (size (pre ++ x ++ w))) (.between (pre ++ x ++ w) u) := by
  refine searchAll_of_matchAt? hx (matchAt?_append hn h (pre ++ x)) ?_ fuel last
  have hsize : size w ≠ 0 := fun hzero => hw (Text.size_eq_zero hzero)
  rw [Match.isEmpty, beq_eq_false_iff_ne, size_append _ w]
  exact Nat.ne_of_lt (Nat.lt_add_of_pos_right (Nat.pos_of_ne_zero hsize))

theorem searchAll_of_length_erase (hn : n.words? = some ws) (hws : [] ∉ ws)
    (h : (erase ws t).length = t.length) (pre : Text) (fuel : Nat) (last : Option Nat) :
    n.searchAll fuel last (.between pre t) = [] := by
  refine searchAll_eq_nil (noneBegins_of_length_erase hn hws h pre) ?_ fuel last
  rw [Node.matchAt?_eq hn, firstWord?_nil hws]
  rfl

theorem spliceFrom_searchAll (hn : n.words? = some ws) (hws : [] ∉ ws) {pre x : Text}
    (hx : NoneBegins n pre x t) {fuel : Nat} (hfuel : t.length < fuel) (last : Option Nat) :
    spliceFrom (size pre) (x ++ t) ((n.searchAll fuel last (.between pre (x ++ t))).map
      fun m => (m.start, m.stop, [])) = x ++ erase ws t := by
  -- What has been passed since the last match is `x`, and a match ends where `pre` does.
  induction t using words_induction hws generalizing pre x fuel last with
  | nil =>
    have hend : n.matchAt? (.between (pre ++ x) []) = none := by
      rw [Node.matchAt?_eq hn, firstWord?_nil hws]
      rfl
    rw [erase_nil, List.append_nil, searchAll_eq_nil hx hend]
    rfl
  | cons c t hfirst ih =>
    have hxc : NoneBegins n pre (x ++ [c]) t :=
      hx.append (noneBegins_single hn hfirst (pre ++ x))
    have hrest := ih hxc (Nat.lt_of_succ_lt hfuel) last
    rwa [List.append_assoc, List.append_assoc, List.singleton_append, List.singleton_append,
      ← erase_cons hfirst] at hrest
  | append w u hw hfirst ih =>
    have hlength : u.length < fuel - 1 := by
      have := List.length_pos_iff.mpr hw
      rw [List.length_append] at hfuel
      omega
    obtain ⟨fuel, rfl⟩ : ∃ k, fuel = k + 1 := ⟨fuel - 1, by omega⟩
    rw [searchAll_append hn hw hfirst hx, List.map_cons, spliceFrom_piece, erase_append hw hfirst]
    exact congrArg (x ++ ·) (ih noneBegins_nil hlength _)

end Erasing

section Patterns

variable {r : Regex} {ws : List Text} {t w u : Text}

theorem replaceAll_eq_erase (hr : r.root.words? = some ws) (hws : [] ∉ ws) (t : Text) :
    (r.replaceAll t fun _ => []) = erase ws t := by
  have hstart : NoneBegins r.root [] [] t := noneBegins_nil
  exact spliceFrom_searchAll hr hws hstart (by omega) none

theorem findAll_append (hr : r.root.words? = some ws) (hws : [] ∉ ws)
    (h : firstWord? ws (w ++ u) = some (w, u)) : r.findAll (w ++ u) = ⟨0, size w, []⟩ ::
      r.root.searchAll (2 * (w ++ u).length + 1) (some (size w)) (.between w u) := by
  have hw : w ≠ [] := fun hnil => hws (hnil ▸ (eq_append_of_firstWord? h).1)
  have hstart : NoneBegins r.root [] [] (w ++ u) := noneBegins_nil
  exact searchAll_append hr hw h hstart _ none

/-- The first word of a text is the only match just in case nothing after it is taken out. -/
theorem findAll_eq_singleton_iff (hr : r.root.words? = some ws) (hws : [] ∉ ws)
    (h : firstWord? ws (w ++ u) = some (w, u)) :
    r.findAll (w ++ u) = [⟨0, size w, []⟩] ↔ erase ws u = u := by
  rw [findAll_append hr hws h, List.cons_eq_cons]
  constructor
  · rintro ⟨-, hnone⟩
    have hfuel : u.length < 2 * (w ++ u).length + 1 := by
      rw [List.length_append]
      omega
    have hstart : NoneBegins r.root w [] u := noneBegins_nil
    have hsplice := spliceFrom_searchAll hr hws hstart hfuel (some (size w))
    rw [List.nil_append, hnone] at hsplice
    exact hsplice.symm
  · exact fun hu => ⟨rfl, searchAll_of_length_erase hr hws (congrArg List.length hu) w _ _⟩

end Patterns

end Copydesk.Regex
