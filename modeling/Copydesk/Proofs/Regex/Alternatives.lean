import Copydesk.Proofs.Regex.Surroundings.Alternation
import Copydesk.Proofs.Text.Split
import Mathlib

/-! Alternatives that are groups. Each is read as it would be on its own, and the first that matches
is the one whose group takes part in the match. -/

namespace Copydesk.Regex

open Text

namespace Reader

variable {s s' : ReadState} {n : Node} {c : Char} {r : Text} {fuel : Nat}
  {items : List (Option Node)}

section Inversion

theorem skipBlank_of_not_extended (h : s.flags.extended = false) : skipBlank s = .ok ((), s) := by
  rw [skipBlank_apply, h]
  rfl

theorem concatenation_stop (h : s.flags.extended = false)
    (hend : s.rest.head? = none ∨ s.rest.head? = some '|' ∨ s.rest.head? = some ')')
    (hn : concatenation fuel items s = .ok (n, s')) :
    n = Node.ofList (items.reverse.filterMap id) ∧ s' = s := by
  cases fuel with
  | zero => exact absurd hn fail_ne_ok
  | succ fuel =>
    rw [concatenation_succ, bind_of_ok (skipBlank_of_not_extended h), bind_of_ok (peek_apply s)] at hn
    rcases hend with hend | hend | hend
    all_goals
      rw [hend] at hn
      cases hn
      exact ⟨rfl, rfl⟩

theorem concatenation_cons (h : s.flags.extended = false) (hrest : s.rest = c :: r)
    (hbar : c ≠ '|') (hclose : c ≠ ')') :
    concatenation (fuel + 1) items s = item fuel items c { s with rest := r } := by
  have hread : item fuel items c { s with rest := r } =
      (advance 1 >>= fun _ => item fuel items c) s := by
    rw [bind_of_ok (advance_apply 1 s), hrest]
    rfl
  rw [concatenation_succ, bind_of_ok (skipBlank_of_not_extended h), bind_of_ok (peek_apply s),
    hrest, List.head?_cons, hread]
  refine congrFun ?_ s
  split
  · rename_i heq
    cases heq
  · rename_i heq
    exact absurd (Option.some.inj heq) hbar
  · rename_i heq
    exact absurd (Option.some.inj heq) hclose
  · rename_i heq
    cases heq
    rfl

/-- A reading of alternatives is a reading of the first, and then of the others if there are. -/
theorem exists_of_alternation (hn : alternation fuel s = .ok (n, s')) :
    ∃ fuel' a t, concatenation fuel' [] s = .ok (a, t) ∧
      (t.rest.head? ≠ some '|' ∧ n = a ∧ s' = t ∨ ∃ b r, t.rest = '|' :: r ∧
        alternation fuel' { t with rest := r } = .ok (b, s') ∧ n = .alt a b) := by
  cases fuel with
  | zero => exact absurd hn fail_ne_ok
  | succ fuel =>
    rw [alternation] at hn
    obtain ⟨a, t, ha, hn⟩ := bind_eq_ok_iff.mp hn
    refine ⟨fuel, a, t, ha, ?_⟩
    rw [bind_of_ok (peek_apply t)] at hn
    split at hn
    · rename_i hbar
      obtain ⟨r, hr⟩ := List.head?_eq_some_iff.mp (beq_iff_eq.mp hbar)
      rw [bind_of_ok (advance_apply 1 t), hr] at hn
      obtain ⟨b, t', hb, hn⟩ := bind_eq_ok_iff.mp hn
      cases hn
      exact .inr ⟨b, r, hr, hb, rfl⟩
    · rename_i hbar
      cases hn
      exact .inl ⟨fun h => hbar (beq_iff_eq.mpr h), rfl, rfl⟩

theorem exists_of_groupItem {f f' : Flags} {index : Option Nat}
    (hn : groupItem fuel items f (.inner f' index) s = .ok (n, s')) :
    ∃ a t r, alternation fuel { s with flags := f' } = .ok (a, t) ∧ t.rest = ')' :: r ∧
      concatenation fuel (some (index.elim a fun i => .group i a) :: items)
        { t with rest := r, flags := f } = .ok (n, s') := by
  rw [groupItem, bind_of_ok (modify_apply _ s)] at hn
  obtain ⟨a, t, ha, hn⟩ := bind_eq_ok_iff.mp hn
  rw [bind_of_ok (next?_apply t)] at hn
  dsimp only at hn
  split at hn
  · exact absurd hn fail_bind_ne_ok
  · rename_i hclose
    obtain ⟨r, hr⟩ := List.head?_eq_some_iff.mp (by simpa using hclose : t.rest.head? = some ')')
    rw [bind_of_ok (modify_apply _ _), hr] at hn
    exact ⟨a, t, r, ha, hr, hn⟩

theorem opening_of_head?_ne (h : s.rest.head? ≠ some '?') : opening s =
    .ok (.inner s.flags (some (s.groups + 1)), { s with groups := s.groups + 1 }) := by
  have hmark (p : Text) (hp : p.head? = some '?') : startsWith s.rest p = false :=
    startsWith_eq_false hp h
  rw [opening_eq, bind_of_ok (get_apply s), openingAt, looksAround, hmark "?=" rfl, hmark "?!" rfl,
    hmark "?<=" rfl, hmark "?<!" rfl, hmark "?P<" rfl, hmark "?<" rfl, hmark "?" rfl]
  rfl

theorem opening_of_plain (h : s.rest = '?' :: ':' :: r) :
    opening s = .ok (.inner s.flags none, { s with rest := r }) := by
  obtain ⟨rest, f, n, names⟩ := s
  obtain rfl : rest = '?' :: ':' :: r := h
  rfl

theorem item_paren {o : Opening} (ho : opening s = .ok (o, s')) :
    item fuel items '(' s = groupItem fuel items s.flags o s' := by
  have hlead : leadOf '(' = .paren := rfl
  rw [item, bind_of_ok (flags_apply s), hlead]
  exact bind_of_ok ho _

theorem exists_of_numbered {f : Flags} {m : Nat} {names : List Text} (hf : f.extended = false)
    (hopen : r.head? ≠ some '?')
    (hn : concatenation fuel items ⟨'(' :: r, f, m, names⟩ = .ok (n, s')) :
    ∃ fuel' a t v, alternation fuel' ⟨r, f, m + 1, names⟩ = .ok (a, t) ∧ t.rest = ')' :: v ∧
      concatenation fuel' (some (.group (m + 1) a) :: items) { t with rest := v, flags := f } =
        .ok (n, s') := by
  cases fuel with
  | zero => exact absurd hn fail_ne_ok
  | succ fuel =>
    rw [concatenation_cons hf rfl (by decide) (by decide),
      item_paren (opening_of_head?_ne hopen)] at hn
    obtain ⟨a, t, v, ha, ht, hn⟩ := exists_of_groupItem hn
    exact ⟨fuel, a, t, v, ha, ht, hn⟩

theorem escape_b (h : s.flags.unicode = true) (hrest : s.rest = 'b' :: r)
    (hbrace : r.head? ≠ some '{') :
    escape s = .ok (.look (.wordBoundary .unicode), { s with rest := r }) := by
  obtain ⟨rest, f, n, names⟩ := s
  obtain rfl : rest = 'b' :: r := hrest
  have hkind : wordKind ⟨r, f, n, names⟩ = .ok (.unicode, ⟨r, f, n, names⟩) := by
    rw [wordKind, bind_of_ok (flags_apply _)]
    exact congrArg (fun u : Bool => Except.ok (if u then WordKind.unicode else .ascii, _)) h
  change boundaryEscape ⟨r, f, n, names⟩ = _
  rw [boundaryEscape, bind_of_ok hkind, bind_of_ok (get_apply _)]
  dsimp only
  split
  · exact absurd rfl hbrace
  · rfl

/-- A mark of repetition has to follow what it repeats. -/
theorem alternation_question_ne_ok (h : s.flags.extended = false) (hrest : s.rest.head? = some '?') :
    alternation fuel s ≠ .ok (n, s') := by
  intro hn
  obtain ⟨r, hr⟩ := List.head?_eq_some_iff.mp hrest
  obtain ⟨fuel, a, t, ha, -⟩ := exists_of_alternation hn
  cases fuel with
  | zero => exact fail_ne_ok ha
  | succ fuel =>
    rw [concatenation_cons h hr (by decide) (by decide)] at ha
    exact fail_ne_ok (s := { s with rest := r }) ha

end Inversion

section Enclosed

variable {f : Flags} {k more : Text} {a b : Node} {g m : Nat} {t : ReadState} {names : List Text}
  {ks : List Text} {es : List (Node × Nat)}

/-- Wherever it stands in parentheses, a text is read as the expression, with so many groups. -/
def ReadsAs (f : Flags) (k : Text) (a : Node) (g : Nat) : Prop :=
  ∀ ⦃fuel m names more b t⦄, alternation fuel ⟨k ++ ')' :: more, f, m + 1, names⟩ = .ok (b, t) →
    t.rest ≠ [] → b = a.shift (m + 1) ∧ t.rest = ')' :: more ∧ t.groups = m + 1 + g

/-- A text that is an expression is read as that one in parentheses, unless a comment in it takes the
closing one for a part of it. -/
theorem readsAs_of_alone {fuel' : Nat} (halone : alternation fuel ⟨k, f, 0, []⟩ = .ok (a, s))
    (hend : s.rest = []) (hline : '\n' ∉ more)
    (henclosed : alternation fuel' ⟨k ++ ')' :: more, f, 1, []⟩ = .ok (b, t)) (hne : t.rest ≠ []) :
    ReadsAs f k a s.groups := by
  have hfirst : Surround [] (')' :: more) := ⟨.inl ⟨rfl, by simpa using hline⟩, rfl⟩
  have hst : Aligned [] (')' :: more) 1 k ⟨k, f, 0, []⟩ ⟨k ++ ')' :: more, f, 1, []⟩ :=
    ⟨(List.append_nil k).symm, rfl, rfl, rfl⟩
  obtain ⟨hb, hst⟩ := (alternation_corresponds hfirst fuel fuel').1.agrees hst halone henclosed
    (y := []) hend (List.nil_subset []) hne
  intro fuel₂ m names more₂ c u hread hu
  have hsecond : Surround (')' :: more) (')' :: more₂) := ⟨.inr rfl, rfl⟩
  have hst₂ : Aligned (')' :: more) (')' :: more₂) m k ⟨k ++ ')' :: more, f, 1, []⟩
      ⟨k ++ ')' :: more₂, f, m + 1, names⟩ :=
    ⟨rfl, rfl, rfl, Nat.add_comm m 1⟩
  obtain ⟨hc, hst₂⟩ := (alternation_corresponds hsecond fuel' fuel₂).1.agrees hst₂ henclosed hread
    hst.second (List.nil_subset []) hu
  refine ⟨?_, hst₂.second, ?_⟩
  · rw [hc, hb, Node.shift_shift, Nat.add_comm]
  · rw [hst₂.groups, hst.groups]
    omega

def enclosed (ks : List Text) : Text := join ['|'] (ks.map fun k => '(' :: k ++ [')'])

/-- The alternatives, each a group, with groups of their own after it. -/
def groupsFrom : Nat → List (Node × Nat) → Node
  | _, [] => .empty
  | m, [e] => (Node.group 0 e.1).shift (m + 1)
  | m, e :: e' :: es =>
    .alt ((Node.group 0 e.1).shift (m + 1)) (groupsFrom (m + 1 + e.2) (e' :: es))

def groupCount (es : List (Node × Nat)) : Nat := (es.map fun e => e.2 + 1).sum

theorem head?_append_close_ne (hk : k.head? ≠ some '?') (v : Text) :
    (k ++ ')' :: v).head? ≠ some '?' := by
  cases k with
  | nil => simp
  | cons c k => exact hk

theorem exists_of_group (hf : f.extended = false) (hk : k.head? ≠ some '?') (ha : ReadsAs f k a g)
    (hmore : more.head? = some '|' ∨ more.head? = some ')')
    (h : alternation fuel ⟨'(' :: (k ++ ')' :: more), f, m, names⟩ = .ok (b, t)) :
    ∃ fuel' names', let s : ReadState := ⟨more, f, m + 1 + g, names'⟩
      more.head? ≠ some '|' ∧ b = (Node.group 0 a).shift (m + 1) ∧ t = s ∨ ∃ c r, more = '|' :: r ∧
        alternation fuel' { s with rest := r } = .ok (c, t) ∧
          b = .alt ((Node.group 0 a).shift (m + 1)) c := by
  obtain ⟨fuel₁, b₁, t₁, hb₁, h⟩ := exists_of_alternation h
  have hread : ∃ names', b₁ = (Node.group 0 a).shift (m + 1) ∧
      t₁ = ⟨more, f, m + 1 + g, names'⟩ := by
    obtain ⟨fuel₂, c, u, r, hc, hr, hafter⟩ :=
      exists_of_numbered hf (head?_append_close_ne hk more) hb₁
    obtain ⟨rfl, hu, hgroups⟩ := ha hc (by rw [hr]; exact List.cons_ne_nil _ _)
    obtain ⟨-, rfl⟩ := List.cons.inj (hr.symm.trans hu)
    obtain ⟨rfl, rfl⟩ :=
      concatenation_stop (s := { u with rest := r, flags := f }) hf (.inr hmore) hafter
    refine ⟨u.names, ?_, by rw [hgroups]⟩
    rw [Node.shift, Nat.zero_add]
    rfl
  obtain ⟨names', rfl, rfl⟩ := hread
  refine ⟨fuel₁, names', h.imp id ?_⟩
  rintro ⟨c, r, hr, hc, hb⟩
  exact ⟨c, r, hr, hc, hb⟩

theorem enclosed_cons_cons (k k' : Text) (ks : List Text) (t : Text) :
    enclosed (k :: k' :: ks) ++ t = '(' :: (k ++ ')' :: ('|' :: (enclosed (k' :: ks) ++ t))) := by
  simp only [enclosed, List.map_cons, join_cons_cons, List.append_assoc, List.cons_append,
    List.nil_append]

theorem alternation_enclosed (hf : f.extended = false)
    (hks : List.Forall₂ (fun k e => k.head? ≠ some '?' ∧ ReadsAs f k e.1 e.2) ks es)
    (h : alternation fuel ⟨enclosed ks ++ ')' :: more, f, m, names⟩ = .ok (b, t)) :
    b = groupsFrom m es ∧ t.rest = ')' :: more ∧ t.groups = m + groupCount es := by
  induction hks generalizing fuel m names b with
  | nil =>
    obtain ⟨fuel', a, u, ha, h⟩ := exists_of_alternation h
    obtain ⟨rfl, rfl⟩ := concatenation_stop hf (.inr (.inr rfl)) ha
    obtain ⟨-, rfl, rfl⟩ | ⟨c, r, hr, -⟩ := h
    · exact ⟨rfl, rfl, rfl⟩
    · cases hr
  | @cons k e ks es hk hks ih =>
    -- the last key is followed by the parenthesis, every other one by a bar
    cases hks with
    | nil =>
      have hread : alternation fuel ⟨'(' :: (k ++ ')' :: (')' :: more)), f, m, names⟩ =
          .ok (b, t) := by
        simpa [enclosed, join_singleton] using h
      obtain ⟨fuel', names', ⟨-, rfl, rfl⟩ | ⟨c, r, hr, -⟩⟩ :=
        exists_of_group hf hk.1 hk.2 (.inr rfl) hread
      · refine ⟨rfl, rfl, ?_⟩
        simp [groupCount]
        omega
      · cases hr
    | @cons k' e' ks es hk' hks =>
      rw [enclosed_cons_cons] at h
      obtain ⟨fuel', names', ⟨hbar, -⟩ | ⟨c, r, hr, hc, rfl⟩⟩ :=
        exists_of_group hf hk.1 hk.2 (.inl rfl) h
      · exact absurd rfl hbar
      · obtain ⟨-, rfl⟩ := List.cons.inj hr
        obtain ⟨rfl, ht, hgroups⟩ := ih hc
        refine ⟨rfl, ht, ?_⟩
        rw [hgroups]
        simp only [groupCount, List.map_cons, List.sum_cons]
        omega

end Enclosed

end Reader

namespace Node

open Reader (groupsFrom groupCount)

variable {a b : Node} {p q : Point} {m : Match} {n : Nat} {es : List (Node × Nat)}

/-- An expression as a whole word, or anywhere. -/
def framed (nonword : Bool) (a : Node) : Node :=
  if nonword then a
  else .cat (.look (.wordBoundary .unicode)) (.cat a (.look (.wordBoundary .unicode)))

theorem shift_framed (nonword : Bool) (d : Nat) (a : Node) :
    (framed nonword a).shift d = framed nonword (a.shift d) := by
  cases nonword <;> rfl

theorem matcher_look {α : Type} (l : Look) (p : Point) (g : Groups) (k : Point → Groups → Option α) :
    (look l).matcher p g k = if l.holds p.back p.ahead.head? then k p g else none := rfl

theorem matchAt?_framed_alt (nonword : Bool) (a b : Node) (p : Point) :
    (framed nonword (.alt a b)).matchAt? p =
      ((framed nonword a).matchAt? p).or ((framed nonword b).matchAt? p) := by
  cases nonword with
  | true => exact matcher_alt p [] _ a b
  | false =>
    simp only [framed, matchAt?, matcher_cat, matcher_look, Bool.false_eq_true, if_false]
    split
    · exact matcher_alt p [] _ a b
    · rfl

/-- The group of an expression in its frame takes part in every match, and is the last to end. -/
theorem exists_groups_of_framed {nonword : Bool} {i : Nat}
    (h : (framed nonword (.group i a)).matchAt? p = some (m, q)) :
    ∃ start stop g, m.groups = (i, start, stop) :: g := by
  have hgroup (p : Point) (k : Point → Groups → Option (Match × Point))
      (hk : (Node.group i a).matcher p [] k = some (m, q)) :
      ∃ x g, k x ((i, p.offset, x.offset) :: g) = some (m, q) := by
    obtain ⟨x, g, -, -, hx⟩ := a.matcher_advances p [] _ _ hk
    exact ⟨x, _, hx⟩
  cases nonword with
  | true =>
    obtain ⟨x, g, hx⟩ := hgroup p _ h
    cases hx
    exact ⟨_, _, _, rfl⟩
  | false =>
    simp only [framed, matchAt?, matcher_cat, matcher_look, Bool.false_eq_true, if_false] at h
    split at h
    · obtain ⟨x, g, hx⟩ := hgroup p _ h
      split at hx
      · cases hx
        exact ⟨_, _, _, rfl⟩
      · cases hx
    · cases h

/-- Of the alternatives the first that matches on its own is taken. -/
theorem exists_of_groupsFrom {nonword : Bool} (hne : es ≠ [])
    (h : (framed nonword (groupsFrom n es)).matchAt? p = some (m, q)) :
    ∃ before e after m₀, es = before ++ e :: after ∧
      (∀ e' ∈ before, (framed nonword (.group 0 e'.1)).matchAt? p = none) ∧
      (framed nonword (.group 0 e.1)).matchAt? p = some (m₀, q) ∧
      m = m₀.shift (n + groupCount before + 1) := by
  induction es generalizing n with
  | nil => exact absurd rfl hne
  | cons e es ih =>
    -- the number of a group decides which group is set and not what matches
    have hshift : (framed nonword ((group 0 e.1).shift (n + 1))).matchAt? p =
        ((framed nonword (group 0 e.1)).matchAt? p).map fun r => (r.1.shift (n + 1), r.2) := by
      rw [← shift_framed, matchAt?_shift]
    cases es with
    | nil =>
      rw [groupsFrom, hshift] at h
      obtain ⟨⟨m₀, _⟩, hm₀, hm⟩ := Option.map_eq_some_iff.mp h
      cases hm
      exact ⟨[], e, [], m₀, rfl, by simp, hm₀, by simp [groupCount]⟩
    | cons e' es =>
      rw [groupsFrom, matchAt?_framed_alt, hshift] at h
      cases hfirst : (framed nonword (group 0 e.1)).matchAt? p with
      | some r =>
        rw [hfirst] at h
        cases h
        exact ⟨[], e, e' :: es, r.1, rfl, by simp, hfirst, by simp [groupCount]⟩
      | none =>
        rw [hfirst] at h
        obtain ⟨before, x, after, m₀, hsplit, hbefore, hx, rfl⟩ := ih (List.cons_ne_nil e' es) h
        refine ⟨e :: before, x, after, m₀, by rw [hsplit, List.cons_append], ?_, hx, ?_⟩
        · exact List.forall_mem_cons.mpr ⟨hfirst, hbefore⟩
        · congr 1
          simp only [groupCount, List.map_cons, List.sum_cons]
          omega

end Node

end Copydesk.Regex
