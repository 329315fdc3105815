import Copydesk.Proofs.Regex.Shift
import Copydesk.Proofs.Regex.Literal
import Copydesk.Proofs.Text.Split
import Mathlib.Data.List.TakeWhile
import Mathlib.Tactic.Choose

/-! Reading a piece of a pattern in two surroundings. A reader that succeeds in both does the same in
both, if what it has read in the first is only the piece. -/

namespace Copydesk.Regex.Reader

open Text

variable {α β γ δ : Type} {w w' x y m need : Text} {d n : Nat} {s s' t t' : ReadState}

/-- What follows the piece: a closing parenthesis, in the first surroundings maybe nothing. There a
comment may go on to the end, and then it takes all that follows in the second. -/
structure Surround (w w' : Text) : Prop where
  first : w = [] ∧ '\n' ∉ w' ∨ w.head? = some ')'
  second : w'.head? = some ')'

/-- Two states before the same piece, with groups that are numbered `d` apart. -/
structure Aligned (w w' : Text) (d : Nat) (x : Text) (s t : ReadState) : Prop where
  first : s.rest = x ++ w
  second : t.rest = x ++ w'
  flags : t.flags = s.flags
  groups : t.groups = s.groups + d

theorem Aligned.move (h : Aligned w w' d x s t) (y : Text) :
    Aligned w w' d y { s with rest := y ++ w } { t with rest := y ++ w' } :=
  ⟨rfl, rfl, h.flags, h.groups⟩

/-- What is read has the given characters in it. -/
def Takes (m : Text) (p : Reader α) : Prop :=
  ∀ s a s', p s = .ok (a, s') → ∃ u, s.rest = u ++ s'.rest ∧ m ⊆ u

abbrev Moves (p : Reader α) : Prop := Takes [] p

/-- Before the piece the readers move on alike in both surroundings, if the first stays within the
piece and leaves the given characters of it. -/
def AgreesAt (w w' : Text) (d : Nat) (need : Text) (R : α → β → Prop) (x : Text) (p : Reader α)
    (q : Reader β) : Prop :=
  ∀ ⦃s t a s' b t' y⦄, Aligned w w' d x s t → p s = .ok (a, s') → q t = .ok (b, t') →
    s'.rest = y ++ w → need ⊆ y → t'.rest ≠ [] → R a b ∧ Aligned w w' d y s' t'

/-- The readers put nothing back, and move on alike before every piece. -/
structure Corresponds (w w' : Text) (d : Nat) (need : Text) (R : α → β → Prop) (p : Reader α)
    (q : Reader β) : Prop where
  left : Moves p
  right : Moves q
  agrees : ∀ {x}, AgreesAt w w' d need R x p q

section Moves

theorem bind_eq_ok_iff {p : Reader α} {f : α → Reader β} {b : β} :
    (p >>= f) s = .ok (b, s') ↔ ∃ a s₁, p s = .ok (a, s₁) ∧ f a s₁ = .ok (b, s') := by
  rw [bind_apply]
  cases p s with
  | error e => simp [Except.bind]
  | ok r => exact ⟨fun h => ⟨r.1, r.2, rfl, h⟩, fun ⟨_, _, hp, hf⟩ => by cases hp; exact hf⟩

theorem Takes.bind {m' : Text} {p : Reader α} {f : α → Reader β} (hp : Takes m p)
    (hf : ∀ a, Takes m' (f a)) : Takes (m ++ m') (p >>= f) := by
  intro s b s' h
  obtain ⟨a, s₁, ha, hb⟩ := bind_eq_ok_iff.mp h
  obtain ⟨u, hu, hmu⟩ := hp s a s₁ ha
  obtain ⟨v, hv, hmv⟩ := hf a s₁ b s' hb
  refine ⟨u ++ v, by rw [hu, hv, List.append_assoc], List.append_subset.mpr ⟨?_, ?_⟩⟩
  · exact fun c hc => List.mem_append_left _ (hmu hc)
  · exact fun c hc => List.mem_append_right _ (hmv hc)

theorem Takes.moves {p : Reader α} (h : Takes m p) : Moves p := by
  intro s a s' hp
  obtain ⟨u, hu, -⟩ := h s a s' hp
  exact ⟨u, hu, List.nil_subset u⟩

theorem Moves.bind {p : Reader α} {f : α → Reader β} (hp : Moves p) (hf : ∀ a, Moves (f a)) :
    Moves (p >>= f) :=
  show Takes ([] ++ []) (p >>= f) from Takes.bind hp hf

theorem Takes.after {p : Reader α} {f : α → Reader β} (hp : Moves p) (hf : ∀ a, Takes m (f a)) :
    Takes m (p >>= f) :=
  show Takes ([] ++ m) (p >>= f) from Takes.bind hp hf

theorem fail_ne_ok {e : SyntaxError} {a : α} : (fail e : Reader α) s ≠ .ok (a, s') := by
  have herror : (fail e : Reader α) s = .error e := rfl
  simp [herror]

theorem fail_bind_ne_ok {e : SyntaxError} {k : α → Reader β} {b : β} :
    (fail e >>= k : Reader β) s ≠ .ok (b, s') := by
  have herror : (fail e >>= k : Reader β) s = .error e := rfl
  simp [herror]

theorem Takes.fail (m : Text) (e : SyntaxError) : Takes m (fail e : Reader α) :=
  fun _ _ _ h => absurd h fail_ne_ok

theorem Moves.guard {c : Prop} [Decidable c] {e : SyntaxError} {k : Unit → Reader α}
    (hk : Moves (k ())) : Moves (if c then Reader.fail e >>= k else k ()) := by
  split
  · exact .bind (.fail [] e) fun _ => hk
  · exact hk

theorem Moves.pure (a : α) : Moves (pure a : Reader α) := by
  intro s b s' h
  cases h
  exact ⟨[], rfl, List.nil_subset _⟩

theorem get_apply (s : ReadState) : (get : Reader ReadState) s = .ok (s, s) := rfl

theorem Moves.get {k : ReadState → Reader α} (hk : ∀ s, Moves (k s)) : Moves (get >>= k) := by
  intro s a s' h
  rw [bind_of_ok (get_apply s)] at h
  exact hk s s a s' h

theorem moves_advance (n : Nat) : Moves (advance n) := by
  intro s a s' h
  cases h
  exact ⟨s.rest.take n, (List.take_append_drop n s.rest).symm, List.nil_subset _⟩

theorem moves_peek : Moves peek := by
  intro s a s' h
  cases h
  exact ⟨[], rfl, List.nil_subset _⟩

theorem moves_next : Moves next? := moves_peek.bind fun a => (moves_advance 1).bind fun _ => .pure a

end Moves

/-- What is taken of the piece, and what is left of it, was in it before. -/
theorem AgreesAt.of_takes {R : α → β → Prop} {p : Reader α} {q : Reader β} (hp : Takes m p)
    (h : m ++ need ⊆ x → AgreesAt w w' d need R x p q) : AgreesAt w w' d need R x p q := by
  intro s t a s' b t' y hst hs ht hy hneed hne
  obtain ⟨u, hu, hmu⟩ := hp s a s' hs
  have hx : x = u ++ y := by
    refine (List.append_left_inj w).mp ?_
    rw [← hst.first, hu, hy, List.append_assoc]
  refine h (List.append_subset.mpr ⟨?_, ?_⟩) hst hs ht hy hneed hne
  · exact fun c hc => hx ▸ List.mem_append_left y (hmu hc)
  · exact fun c hc => hx ▸ List.mem_append_right u (hneed hc)

/-- What is found and what is refused depends on the flags only, and nothing is read. -/
def OfFlags (p : Reader α) : Prop :=
  ∃ h : Flags → Except SyntaxError α, ∀ s, p s = (h s.flags).map fun a => (a, s)

section OfFlags

theorem OfFlags.pure (a : α) : OfFlags (pure a : Reader α) := ⟨fun _ => .ok a, fun _ => rfl⟩

theorem OfFlags.fail (e : SyntaxError) : OfFlags (fail e : Reader α) :=
  ⟨fun _ => .error e, fun _ => rfl⟩

theorem OfFlags.flags : OfFlags flags := ⟨fun f => .ok f, fun _ => rfl⟩

theorem OfFlags.bind {p : Reader α} {f : α → Reader β} (hp : OfFlags p) (hf : ∀ a, OfFlags (f a)) :
    OfFlags (p >>= f) := by
  obtain ⟨h, hp⟩ := hp
  choose k hk using hf
  refine ⟨fun f => (h f).bind fun a => k a f, fun s => ?_⟩
  rw [bind_apply, hp]
  cases hflags : h s.flags with
  | error e => simp [Except.bind, Except.map, hflags]
  | ok a => simp [Except.bind, Except.map, hflags, hk]

theorem OfFlags.guard {c : Prop} [Decidable c] {e : SyntaxError} {k : Unit → Reader α}
    (hk : OfFlags (k ())) : OfFlags (if c then Reader.fail e >>= k else k ()) := by
  split
  · exact .bind (.fail e) fun _ => hk
  · exact hk

theorem OfFlags.exists_of_eq_ok {p : Reader α} (hp : OfFlags p) : ∃ h : Flags → Except SyntaxError α,
    ∀ s a s', p s = .ok (a, s') ↔ h s.flags = .ok a ∧ s' = s := by
  obtain ⟨h, hp⟩ := hp
  refine ⟨h, fun s a s' => ?_⟩
  rw [hp]
  cases h s.flags with
  | error e => simp [Except.map]
  | ok b => simp [Except.map, eq_comm]

theorem OfFlags.moves {p : Reader α} (hp : OfFlags p) : Moves p := by
  obtain ⟨h, hp⟩ := hp.exists_of_eq_ok
  intro s a s' hps
  obtain ⟨-, rfl⟩ := (hp s a s').mp hps
  exact ⟨[], rfl, List.nil_subset _⟩

end OfFlags

namespace Corresponds

variable {R : α → β → Prop} {S : γ → δ → Prop}

theorem pure {a : α} {b : β} (h : R a b) : Corresponds w w' d need R (pure a) (pure b) where
  left := .pure a
  right := .pure b
  agrees := by
    intro x s t a s' b t' y hst hp hq hs hneed ht
    cases hp
    cases hq
    obtain rfl := List.append_cancel_right (hst.first.symm.trans hs)
    exact ⟨h, hst⟩

theorem fail_left {q : Reader β} (e : SyntaxError) (hq : Moves q) :
    Corresponds w w' d need R (fail e) q where
  left := .fail [] e
  right := hq
  agrees := fun _ h => absurd h fail_ne_ok

theorem fail_right {p : Reader α} (e : SyntaxError) (hp : Moves p) :
    Corresponds w w' d need R p (fail e) where
  left := hp
  right := .fail [] e
  agrees := fun _ _ h => absurd h fail_ne_ok

theorem ofFlags {p : Reader α} (hp : OfFlags p) : Corresponds w w' d need Eq p p where
  left := hp.moves
  right := hp.moves
  agrees := by
    intro x s t a s' b t' y hst hps hpt hs hneed ht
    obtain ⟨h, hp⟩ := hp.exists_of_eq_ok
    obtain ⟨ha, rfl⟩ := (hp s a s').mp hps
    obtain ⟨hb, rfl⟩ := (hp t b t').mp hpt
    rw [hst.flags, ha] at hb
    obtain rfl := List.append_cancel_right (hst.first.symm.trans hs)
    exact ⟨Except.ok.inj hb, hst⟩

/-- The first reader must leave what it takes for the second one to go on alike. -/
theorem bindTaking {p : Reader α} {q : Reader β} {f : α → Reader γ} {g : β → Reader δ}
    (hp : Corresponds w w' d (m ++ need) R p q)
    (hf : ∀ a b, R a b → Corresponds w w' d need S (f a) (g b))
    (hleft : ∀ a, Takes m (f a)) (hright : ∀ b, Moves (g b)) :
    Corresponds w w' d need S (p >>= f) (q >>= g) where
  left := hp.left.bind fun a => (hleft a).moves
  right := hp.right.bind hright
  agrees := by
    intro x s t c s' e t' y hst hpf hqg hs hneed ht
    obtain ⟨a, s₁, hpa, hfc⟩ := bind_eq_ok_iff.mp hpf
    obtain ⟨b, t₁, hqb, hge⟩ := bind_eq_ok_iff.mp hqg
    obtain ⟨u, hu, hmu⟩ := hleft a s₁ c s' hfc
    obtain ⟨v, hv, -⟩ := hright b t₁ e t' hge
    have hs₁ : s₁.rest = (u ++ y) ++ w := by rw [hu, hs, List.append_assoc]
    have ht₁ : t₁.rest ≠ [] := fun hnil => ht (List.append_eq_nil_iff.mp (hv ▸ hnil)).2
    have hsub : m ++ need ⊆ u ++ y := List.append_subset.mpr
      ⟨fun c hc => List.mem_append_left _ (hmu hc), fun c hc => List.mem_append_right _ (hneed hc)⟩
    obtain ⟨hab, hst₁⟩ := hp.agrees hst hpa hqb hs₁ hsub ht₁
    exact (hf a b hab).agrees hst₁ hfc hge hs hneed ht

theorem bind' {p : Reader α} {q : Reader β} {f : α → Reader γ} {g : β → Reader δ}
    (hp : Corresponds w w' d need R p q)
    (hf : ∀ a b, R a b → Corresponds w w' d need S (f a) (g b))
    (hleft : ∀ a, Moves (f a)) (hright : ∀ b, Moves (g b)) :
    Corresponds w w' d need S (p >>= f) (q >>= g) :=
  bindTaking (m := []) hp hf hleft hright

theorem bind {p q : Reader α} {f : α → Reader γ} {g : α → Reader δ}
    (hp : Corresponds w w' d need Eq p q)
    (hf : ∀ a, Corresponds w w' d need S (f a) (g a)) :
    Corresponds w w' d need S (p >>= f) (q >>= g) :=
  hp.bind' (fun a _ hab => hab ▸ hf a) (fun a => (hf a).left) fun a => (hf a).right

theorem guard {c c' : Prop} [Decidable c] [Decidable c'] {e e' : SyntaxError}
    {k : Unit → Reader γ} {k' : Unit → Reader δ} (hk : Corresponds w w' d need S (k ()) (k' ())) :
    Corresponds w w' d need S (if c then fail e >>= k else k ())
      (if c' then fail e' >>= k' else k' ()) where
  left := .guard hk.left
  right := .guard hk.right
  agrees := by
    intro x s t a s' b t' y hst hs ht
    split at hs
    · exact absurd hs fail_bind_ne_ok
    · split at ht
      · exact absurd ht fail_bind_ne_ok
      · exact hk.agrees hst hs ht

theorem get {k : ReadState → Reader γ} {k' : ReadState → Reader δ} (hk : ∀ s, Moves (k s))
    (hk' : ∀ s, Moves (k' s))
    (h : ∀ x s t, s.rest = x ++ w → t.rest = x ++ w' → AgreesAt w w' d need S x (k s) (k' t)) :
    Corresponds w w' d need S (get >>= k) (get >>= k') where
  left := .get hk
  right := .get hk'
  agrees := by
    intro x s t a s' b t' y hst hs ht
    rw [bind_of_ok (get_apply s)] at hs
    rw [bind_of_ok (get_apply t)] at ht
    exact h x s t hst.first hst.second hst hs ht

theorem read {k : Unit → Reader γ} {k' : Unit → Reader δ} {v : Text} (hn : v.length = n)
    (hk : Corresponds w w' d need S (k ()) (k' ())) :
    AgreesAt w w' d need S (v ++ x) (advance n >>= k) (advance n >>= k') := by
  intro s t a s' b t' y hst hs ht
  rw [bind_of_ok (advance_apply n s), hst.first, List.append_assoc, List.drop_left' hn] at hs
  rw [bind_of_ok (advance_apply n t), hst.second, List.append_assoc, List.drop_left' hn] at ht
  exact hk.agrees (hst.move x) hs ht

theorem next {f : Option Char → Reader γ} {g : Option Char → Reader δ} {e e' : SyntaxError}
    (hf : f none = fail e) (hg : g none = fail e')
    (h : ∀ c, Corresponds w w' d need S (f (some c)) (g (some c))) :
    Corresponds w w' d need S (next? >>= f) (next? >>= g) where
  left := by
    refine moves_next.bind fun o => ?_
    cases o with
    | none => exact hf ▸ .fail [] e
    | some c => exact (h c).left
  right := by
    refine moves_next.bind fun o => ?_
    cases o with
    | none => exact hg ▸ .fail [] e'
    | some c => exact (h c).right
  agrees := by
    intro x s t a s' b t' y hst hs ht hy hneed hne
    rw [bind_of_ok (next?_apply s)] at hs
    rw [bind_of_ok (next?_apply t)] at ht
    cases hrest : s.rest with
    | nil =>
      rw [hrest, List.head?_nil, hf] at hs
      exact absurd hs fail_ne_ok
    | cons c r =>
      rw [hrest] at hs
      obtain ⟨u, hu, -⟩ := (h c).left _ _ _ hs
      -- `w` is still ahead after the character, so it is one of the part
      have hr : r = u ++ y ++ w := by
        rw [List.append_assoc, ← hy]
        exact hu
      have hx : x = c :: (u ++ y) := by
        refine (List.append_left_inj w).mp ?_
        rw [← hst.first, hrest, hr, List.cons_append]
      rw [hst.second, hx] at ht
      rw [hr] at hs
      exact (h c).agrees (hst.move (u ++ y)) hs ht hy hneed hne

/-- A choice by the next character, which is then read or left. -/
theorem head {f : Option Char → Reader γ} {g : Option Char → Reader δ} (hw : Surround w w')
    (hend : ∀ o, o = none ∨ o = some ')' → Corresponds w w' d need S (f o) (g (some ')')))
    (hnone : Moves (g none))
    (h : ∀ c, Corresponds w w' d need S (f (some c)) (g (some c)) ∨ ∃ k k',
      f (some c) = (advance 1 >>= k) ∧ g (some c) = (advance 1 >>= k') ∧
        Corresponds w w' d need S (k ()) (k' ())) :
    Corresponds w w' d need S (peek >>= f) (peek >>= g) where
  left := by
    refine moves_peek.bind fun o => ?_
    cases o with
    | none => exact (hend none (.inl rfl)).left
    | some c =>
      obtain hc | ⟨k, k', hk, -, hc⟩ := h c
      · exact hc.left
      · exact hk ▸ (moves_advance 1).bind fun _ => hc.left
  right := by
    refine moves_peek.bind fun o => ?_
    cases o with
    | none => exact hnone
    | some c =>
      obtain hc | ⟨k, k', -, hk, hc⟩ := h c
      · exact hc.right
      · exact hk ▸ (moves_advance 1).bind fun _ => hc.right
  agrees := by
    intro x s t a s' b t' y hst hs ht hy hneed hne
    rw [bind_of_ok (peek_apply s)] at hs
    rw [bind_of_ok (peek_apply t)] at ht
    cases x with
    | nil =>
      -- the part has been read, and what surrounds it ends it in both texts
      have ho : s.rest.head? = none ∨ s.rest.head? = some ')' := by
        rw [hst.first, List.nil_append]
        rcases hw.first with ⟨rfl, -⟩ | h
        · exact .inl rfl
        · exact .inr h
      have ht' : t.rest.head? = some ')' := by
        rw [hst.second]
        exact hw.second
      rw [ht'] at ht
      exact (hend _ ho).agrees hst hs ht hy hneed hne
    | cons c x =>
      rw [hst.first] at hs
      rw [hst.second] at ht
      obtain hc | ⟨k, k', hk, hk', hc⟩ := h c
      · exact hc.agrees hst hs ht hy hneed hne
      · replace hs : (advance 1 >>= k) s = .ok (a, s') := hk ▸ hs
        replace ht : (advance 1 >>= k') t = .ok (b, t') := hk' ▸ ht
        rw [bind_of_ok (advance_apply 1 s), hst.first] at hs
        rw [bind_of_ok (advance_apply 1 t), hst.second] at ht
        exact hc.agrees (hst.move x) hs ht hy hneed hne

end Corresponds

section Parts

def accept (c : Char) : Reader Bool := fun s =>
  if s.rest.head? = some c then .ok (true, { s with rest := s.rest.drop 1 }) else .ok (false, s)

def takeRun (p : Char → Bool) : Reader Text := fun s =>
  .ok (s.rest.takeWhile p, { s with rest := s.rest.dropWhile p })

def delimited (c : Char) (e : SyntaxError) (k : ReadState → Reader α) : Reader α := do
  let s ← get
  let body := s.rest.takeWhile (· != c)
  if (← get).rest.length = body.length then fail e
  advance (body.length + 1)
  k s

def takeExactly (n : Nat) (e : SyntaxError) : Reader Text := fun s =>
  if s.rest.length < n then .error e
  else .ok (s.rest.take n, { s with rest := s.rest.drop n })

theorem accept_bind_apply (c : Char) (f : Bool → Reader α) (s : ReadState) : (accept c >>= f) s =
    if s.rest.head? = some c then f true { s with rest := s.rest.drop 1 } else f false s := by
  rw [bind_apply, accept]
  split <;> rfl

theorem accept_bind (c : Char) (f : Bool → Reader α) : accept c >>= f = (do
    if (← peek) == some c then
      advance 1
      f true
    else f false) := by
  funext s
  rw [accept_bind_apply, bind_of_ok (peek_apply s)]
  by_cases h : s.rest.head? = some c
  · rw [if_pos h, if_pos (beq_iff_eq.mpr h), bind_of_ok (advance_apply 1 s)]
  · rw [if_neg h, if_neg (mt beq_iff_eq.mp h)]

theorem moves_accept (c : Char) : Moves (accept c) := by
  intro s a s' h
  unfold accept at h
  split at h
  · cases h
    exact ⟨s.rest.take 1, (List.take_append_drop 1 s.rest).symm, List.nil_subset _⟩
  · cases h
    exact ⟨[], rfl, List.nil_subset _⟩

theorem Takes.accept_bind {c : Char} {f : Bool → Reader α} (htrue : Takes m (f true))
    (hfalse : Takes (c :: m) (f false)) : Takes (c :: m) (accept c >>= f) := by
  intro s a s' h
  obtain ⟨taken, s₁, htaken, hf⟩ := bind_eq_ok_iff.mp h
  unfold accept at htaken
  split at htaken
  · rename_i hc
    cases htaken
    obtain ⟨r, hr⟩ := List.head?_eq_some_iff.mp hc
    obtain ⟨u, hu, hmu⟩ := htrue _ a s' hf
    refine ⟨c :: u, ?_, List.cons_subset_cons c hmu⟩
    rw [hr] at hu ⊢
    exact congrArg (c :: ·) hu
  · cases htaken
    exact hfalse s a s' hf

theorem accept_corresponds (hw : Surround w w') {c : Char} (hc : c ≠ ')') :
    Corresponds w w' d need Eq (accept c) (accept c) where
  left := moves_accept c
  right := moves_accept c
  agrees := by
    intro x s t a s' b t' y hst hs ht hy hneed hne
    simp only [accept, hst.first, hst.second] at hs ht
    cases x with
    | nil =>
      -- the part has been read, and neither text goes on with the character
      have hnot : ¬w.head? = some c := by
        rcases hw.first with ⟨rfl, -⟩ | h
        · exact nofun
        · exact fun h' => hc (Option.some.inj (h'.symm.trans h))
      have hnot' : ¬w'.head? = some c := fun h' => hc (Option.some.inj (h'.symm.trans hw.second))
      rw [List.nil_append, if_neg hnot] at hs
      rw [List.nil_append, if_neg hnot'] at ht
      cases hs
      cases ht
      obtain rfl := List.append_cancel_right (hst.first.symm.trans hy)
      exact ⟨rfl, hst⟩
    | cons e x =>
      by_cases he : e = c
      · subst he
        rw [List.cons_append, List.head?_cons, if_pos rfl] at hs ht
        cases hs
        cases ht
        obtain rfl := List.append_cancel_right hy
        exact ⟨rfl, hst.move x⟩
      · have hnot : ¬some e = some c := fun h => he (Option.some.inj h)
        rw [List.cons_append, List.head?_cons, if_neg hnot] at hs ht
        cases hs
        cases ht
        obtain rfl := List.append_cancel_right (hst.first.symm.trans hy)
        exact ⟨rfl, hst⟩

theorem Corresponds.acceptOr {R : α → β → Prop} (hw : Surround w w') {c : Char} (hc : c ≠ ')')
    {k p : Reader α} {k' q : Reader β} (hk : Corresponds w w' d need R k k')
    (hp : Corresponds w w' d need R p q) :
    Corresponds w w' d need R
      (do if (← peek) == some c then advance 1; k else p)
      (do if (← peek) == some c then advance 1; k' else q) := by
  have haccept {γ : Type} (k p : Reader γ) :
      (do if (← peek) == some c then advance 1; k else p) =
        accept c >>= fun taken => bif taken then k else p :=
    (accept_bind c fun taken => bif taken then k else p).symm
  rw [haccept, haccept]
  refine .bind (accept_corresponds hw hc) fun taken => ?_
  cases taken
  · exact hp
  · exact hk

theorem drop_length_takeWhile (p : Char → Bool) (t : Text) :
    t.drop (t.takeWhile p).length = t.dropWhile p := by
  rw [show t.drop _ = (t.takeWhile p ++ t.dropWhile p).drop (t.takeWhile p).length by
    rw [List.takeWhile_append_dropWhile], List.drop_left]

theorem takeWhile_append_of_head? {p : Char → Bool} (h : ∀ c ∈ w.head?, p c = false) (x : Text) :
    (x ++ w).takeWhile p = x.takeWhile p ∧ (x ++ w).dropWhile p = x.dropWhile p ++ w := by
  induction x with
  | nil =>
    cases w with
    | nil => exact ⟨rfl, rfl⟩
    | cons c w =>
      have hc : ¬p c = true := by simp [h c rfl]
      exact ⟨List.takeWhile_cons_of_neg hc, List.dropWhile_cons_of_neg hc⟩
  | cons c x ih =>
    rw [List.cons_append, List.takeWhile_cons, List.takeWhile_cons, List.dropWhile_cons,
      List.dropWhile_cons]
    cases p c with
    | false => exact ⟨rfl, rfl⟩
    | true => exact ⟨congrArg (c :: ·) ih.1, ih.2⟩

theorem Surround.head?_ne (hw : Surround w w') {p : Char → Bool} (hp : p ')' = false) :
    (∀ c ∈ w.head?, p c = false) ∧ ∀ c ∈ w'.head?, p c = false := by
  constructor
  · intro c hc
    rcases hw.first with ⟨rfl, -⟩ | h
    · cases hc
    · exact Option.some.inj (h.symm.trans hc) ▸ hp
  · intro c hc
    exact Option.some.inj (hw.second.symm.trans hc) ▸ hp

theorem takeRun_bind (p : Char → Bool) (f : Text → Reader α) : takeRun p >>= f = (do
    let s ← get
    advance (s.rest.takeWhile p).length
    f (s.rest.takeWhile p)) := by
  funext s
  rw [bind_of_ok (get_apply s), bind_of_ok (advance_apply _ s), drop_length_takeWhile]
  rfl

theorem moves_takeRun (p : Char → Bool) : Moves (takeRun p) := by
  intro s a s' h
  cases h
  exact ⟨_, List.takeWhile_append_dropWhile.symm, List.nil_subset _⟩

theorem takeRun_corresponds (hw : Surround w w') {p : Char → Bool} (hp : p ')' = false) :
    Corresponds w w' d need Eq (takeRun p) (takeRun p) where
  left := moves_takeRun p
  right := moves_takeRun p
  agrees := by
    intro x s t a s' b t' y hst hs ht hy hneed hne
    obtain ⟨hw₁, hw₂⟩ := hw.head?_ne hp
    obtain ⟨htake, hdrop⟩ := takeWhile_append_of_head? hw₁ x
    obtain ⟨htake', hdrop'⟩ := takeWhile_append_of_head? hw₂ x
    simp only [takeRun, hst.first, hst.second, htake, hdrop, htake', hdrop'] at hs ht
    cases hs
    cases ht
    obtain rfl := List.append_cancel_right hy
    exact ⟨rfl, hst.move _⟩

theorem takeWhile_ne_append {c : Char} {body r : Text} (h : c ∉ body) :
    (body ++ c :: r).takeWhile (· != c) = body := by
  have hne : ∀ e ∈ body, (e != c) = true := fun e he => bne_iff_ne.mpr fun heq => h (heq ▸ he)
  rw [List.takeWhile_append_of_pos hne, List.takeWhile_cons_of_neg (by simp), List.append_nil]

section Delimited

variable {c : Char} {e : SyntaxError} {body r : Text} {k : ReadState → Reader α}

theorem delimited_append (hrest : s.rest = body ++ c :: r) (h : c ∉ body) :
    delimited c e k s = k s { s with rest := r } := by
  have hlength : ¬s.rest.length = (s.rest.takeWhile (· != c)).length := by
    rw [hrest, takeWhile_ne_append h, List.length_append, List.length_cons]
    omega
  rw [delimited, bind_of_ok (get_apply s)]
  dsimp only
  rw [bind_of_ok (get_apply s), if_neg hlength, bind_of_ok (advance_apply _ s), hrest,
    takeWhile_ne_append h, ← List.singleton_append, ← List.append_assoc,
    List.drop_left' (by rw [List.length_append, List.length_singleton])]

theorem delimited_of_not_mem (h : c ∉ s.rest) : delimited c e k s = .error e := by
  have htake : s.rest.takeWhile (· != c) = s.rest :=
    List.takeWhile_eq_self_iff.mpr fun a ha => bne_iff_ne.mpr fun heq => h (heq ▸ ha)
  rw [delimited, bind_of_ok (get_apply s)]
  dsimp only
  rw [bind_of_ok (get_apply s), if_pos (by rw [htake])]
  rfl

theorem moves_delimited (hrest : ∀ s, Moves (k s)) : Moves (delimited c e k) := by
  intro s a s' h
  by_cases hc : c ∈ s.rest
  · obtain ⟨body, r, hr, hbody⟩ := List.eq_append_cons_of_mem hc
    rw [delimited_append hr hbody] at h
    obtain ⟨u, hu, -⟩ := hrest s _ a s' h
    exact ⟨body ++ c :: u, by rw [hr, List.append_assoc, List.cons_append, ← hu],
      List.nil_subset _⟩
  · rw [delimited_of_not_mem hc] at h
    cases h

theorem delimited_corresponds
    (hk : ∀ s t : ReadState, s.rest.takeWhile (· != c) = t.rest.takeWhile (· != c) → k s = k t)
    (hrest : ∀ s, Corresponds w w' d need Eq (k s) (k s)) :
    Corresponds w w' d need Eq (delimited c e k) (delimited c e k) where
  left := moves_delimited fun s => (hrest s).left
  right := moves_delimited fun s => (hrest s).left
  agrees := by
    intro x s t a s' b t' y hst hs ht hy hneed hne
    by_cases hc : c ∈ s.rest
    · obtain ⟨body, r, hr, hbody⟩ := List.eq_append_cons_of_mem hc
      rw [delimited_append hr hbody] at hs
      obtain ⟨u, hu, -⟩ := (hrest s).left _ a s' hs
      replace hu : r = u ++ y ++ w := by rw [List.append_assoc, ← hy, ← hu]
      have hx : x = body ++ c :: (u ++ y) := by
        refine (List.append_left_inj w).mp ?_
        rw [← hst.first, hr, hu, List.append_assoc body, List.cons_append]
      have htail : t.rest = body ++ c :: (u ++ y ++ w') := by
        rw [hst.second, hx, List.append_assoc, List.cons_append]
      have hsame : s.rest.takeWhile (· != c) = t.rest.takeWhile (· != c) := by
        rw [hr, htail, takeWhile_ne_append hbody, takeWhile_ne_append hbody]
      rw [delimited_append htail hbody, ← hk s t hsame] at ht
      rw [hu] at hs
      exact (hrest s).agrees (hst.move (u ++ y)) hs ht hy hneed hne
    · rw [delimited_of_not_mem hc] at hs
      cases hs

end Delimited

theorem takeExactly_bind (n : Nat) (e : SyntaxError) (f : Text → Reader α) :
    takeExactly n e >>= f = (do
      let body := (← get).rest.take n
      if body.length < n then fail e
      advance n
      f body) := by
  funext s
  rw [bind_of_ok (get_apply s), bind_apply, takeExactly]
  dsimp only
  rw [List.length_take]
  by_cases h : s.rest.length < n
  · rw [if_pos h, if_pos (by omega)]
    rfl
  · rw [if_neg h, if_neg (by omega), bind_of_ok (advance_apply n s)]
    rfl

theorem takeExactly_eq_ok_iff {e : SyntaxError} {body : Text} :
    takeExactly n e s = .ok (body, s') ↔
      s.rest = body ++ s'.rest ∧ body.length = n ∧ s' = { s with rest := s'.rest } := by
  unfold takeExactly
  by_cases hn : s.rest.length < n
  · rw [if_pos hn]
    simp only [reduceCtorEq, false_iff, not_and]
    intro hrest hbody
    have hlength := congrArg List.length hrest
    rw [List.length_append] at hlength
    omega
  · rw [if_neg hn]
    constructor
    · intro hs
      cases hs
      exact ⟨(List.take_append_drop n s.rest).symm, List.length_take_of_le (by omega), rfl⟩
    · rintro ⟨hrest, hbody, hs⟩
      rw [hrest, List.take_left' hbody, List.drop_left' hbody, ← hs]

theorem moves_takeExactly (n : Nat) (e : SyntaxError) : Moves (takeExactly n e) :=
  fun _ body _ h => ⟨body, (takeExactly_eq_ok_iff.mp h).1, List.nil_subset _⟩

theorem takeExactly_corresponds (n : Nat) (e : SyntaxError) :
    Corresponds w w' d need Eq (takeExactly n e) (takeExactly n e) where
  left := moves_takeExactly n e
  right := moves_takeExactly n e
  agrees := by
    intro x s t a s' b t' y hst hs ht hy hneed hne
    obtain ⟨hrest, ha, hs'⟩ := takeExactly_eq_ok_iff.mp hs
    have hx : x = a ++ y := by
      refine (List.append_left_inj w).mp ?_
      rw [← hst.first, hrest, hy, List.append_assoc]
    have hread : takeExactly n e t = .ok (a, { t with rest := y ++ w' }) :=
      takeExactly_eq_ok_iff.mpr ⟨by rw [hst.second, hx, List.append_assoc], ha, rfl⟩
    obtain ⟨rfl, rfl⟩ := Prod.mk.inj (Except.ok.inj (hread.symm.trans ht))
    rw [hs', hy]
    exact ⟨rfl, hst.move y⟩

end Parts

section Layout

/-- What is left of a text in front does not depend on what follows it, unless nothing is left. -/
theorem skipLayout_append (b : Bool) (x : Text) :
    (∃ y, ∀ v, skipLayout b (x ++ v) = y ++ v ∧ y ≠ []) ∨
      ∃ b', ∀ v, skipLayout b (x ++ v) = skipLayout b' v := by
  induction x generalizing b with
  | nil => exact .inr ⟨b, fun _ => rfl⟩
  | cons c x ih =>
    cases b with
    | true => exact ih (c != '\n')
    | false =>
      simp only [List.cons_append, skipLayout]
      split
      · exact ih false
      · split
        · exact ih true
        · exact .inl ⟨c :: x, fun v => ⟨rfl, List.cons_ne_nil c x⟩⟩

theorem skipLayout_suffix (b : Bool) (t : Text) : skipLayout b t <:+ t := by
  induction t generalizing b with
  | nil => cases b <;> exact List.suffix_refl _
  | cons c t ih =>
    cases b with
    | true => exact (ih _).trans (List.suffix_cons c t)
    | false =>
      simp only [skipLayout]
      split
      · exact (ih false).trans (List.suffix_cons c t)
      · split
        · exact (ih true).trans (List.suffix_cons c t)
        · exact List.suffix_refl _

theorem skipLayout_comment {t : Text} (h : '\n' ∉ t) : skipLayout true t = [] := by
  induction t with
  | nil => rfl
  | cons c t ih =>
    rw [List.mem_cons, not_or] at h
    rw [skipLayout, bne_iff_ne.mpr (Ne.symm h.1), ih h.2]

/-- A comment takes the parenthesis that follows it. -/
theorem length_skipLayout_comment {t : Text} (h : t ≠ []) :
    (skipLayout true t).length < t.length := by
  obtain ⟨c, t, rfl⟩ := List.exists_cons_of_ne_nil h
  exact Nat.lt_succ_of_le (skipLayout_suffix _ t).length_le

theorem skipLayout_of_head? (h : w.head? = some ')') : skipLayout false w = w := by
  obtain ⟨w, rfl⟩ := List.head?_eq_some_iff.mp h
  rfl

theorem skipBlank_apply (s : ReadState) : skipBlank s =
    .ok ((), if s.flags.extended then { s with rest := skipLayout false s.rest } else s) := by
  rw [skipBlank, bind_of_ok (flags_apply s)]
  split <;> rfl

theorem moves_skipBlank : Moves skipBlank := by
  intro s a s' h
  rw [skipBlank_apply] at h
  split at h
  · cases h
    obtain ⟨u, hu⟩ := skipLayout_suffix false s.rest
    exact ⟨u, hu.symm, List.nil_subset _⟩
  · cases h
    exact ⟨[], rfl, List.nil_subset _⟩

theorem skipBlank_corresponds (hw : Surround w w') :
    Corresponds w w' d need Eq skipBlank skipBlank where
  left := moves_skipBlank
  right := moves_skipBlank
  agrees := by
    intro x s t a s' b t' y hst hs ht hy hneed hne
    rw [skipBlank_apply] at hs ht
    by_cases hext : s.flags.extended = true
    · rw [if_pos hext, hst.first] at hs
      rw [if_pos (hst.flags ▸ hext), hst.second] at ht
      obtain ⟨z, hz⟩ | ⟨b', hb'⟩ := skipLayout_append false x
      · rw [(hz w).1] at hs
        rw [(hz w').1] at ht
        cases hs
        cases ht
        obtain rfl := List.append_cancel_right hy
        exact ⟨rfl, hst.move z⟩
      · rw [hb' w] at hs
        rw [hb' w'] at ht
        cases b' with
        | false =>
          have hleft : skipLayout false w = w := by
            rcases hw.first with ⟨rfl, -⟩ | h
            · rfl
            · exact skipLayout_of_head? h
          rw [hleft] at hs
          rw [skipLayout_of_head? hw.second] at ht
          cases hs
          cases ht
          obtain rfl := List.self_eq_append_left.mp hy
          exact ⟨rfl, hst.move []⟩
        | true =>
          -- the piece ends in a comment, which goes on in what follows
          cases hs
          cases ht
          rcases hw.first with ⟨rfl, hline⟩ | h
          · exact absurd (skipLayout_comment hline) hne
          · have hlt := length_skipLayout_comment (t := w) (by rintro rfl; cases h)
            rw [show skipLayout true w = y ++ w from hy, List.length_append] at hlt
            omega
    · rw [if_neg hext] at hs
      rw [if_neg (hst.flags ▸ hext)] at ht
      cases hs
      cases ht
      obtain rfl := List.append_cancel_right (hst.first.symm.trans hy)
      exact ⟨rfl, hst⟩

end Layout

end Copydesk.Regex.Reader
