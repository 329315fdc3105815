import Copydesk.Proofs.Outcome
import Copydesk.Proofs.Regex.Alternatives
import Copydesk.Proofs.Text.Order
import Copydesk.Rule.Substitution

/-! Replacements are those of the key that matched. The alternatives of a pattern are numbered with
the groups that are left in those before them. -/

namespace Copydesk.Rule

open Regex Reader Text

variable {d : Definition} {ic nonword : Bool} {k u p : Text} {r : Regex}

section Reading

variable {f : Flags} {fuel : Nat} {items : List (Option Node)} {n : Node} {s s' : ReadState}
  {v : Text}

def frameEnd (nonword : Bool) : Text := if nonword then [] else ['\\', 'b']

theorem item_boundary (hu : s.flags.unicode = true) (hrest : s.rest = 'b' :: v)
    (hbrace : v.head? ≠ some '{') : item fuel items '\\' s =
      concatenation fuel (some (.look (.wordBoundary .unicode)) :: items) { s with rest := v } := by
  have hlead : leadOf '\\' = .backslash := rfl
  rw [item, bind_of_ok (flags_apply s), hlead]
  dsimp only
  rw [bind_of_ok (escape_b hu hrest hbrace)]

/-- A reading of a frame is one of what stands in it, and of what closes it. -/
theorem exists_of_plainGroup (hf : s.flags.extended = false) (hrest : s.rest = '(' :: '?' :: ':' :: v)
    (h : concatenation fuel items s = .ok (n, s')) :
    ∃ fuel' a t w, alternation fuel' { s with rest := v } = .ok (a, t) ∧ t.rest = ')' :: w ∧
      concatenation fuel' (some a :: items) { t with rest := w, flags := s.flags } = .ok (n, s') := by
  cases fuel with
  | zero => exact absurd h fail_ne_ok
  | succ fuel =>
    rw [concatenation_cons hf hrest (by decide) (by decide), item_paren (opening_of_plain rfl)] at h
    obtain ⟨a, t, w, ha, ht, h⟩ := exists_of_groupItem h
    exact ⟨fuel, a, t, w, ha, ht, h⟩

theorem exists_of_wordBounded (hf : f.extended = false) (hu : f.unicode = true)
    (h : alternation fuel ⟨wordBounded u nonword, f, 0, []⟩ = .ok (n, s)) :
    ∃ fuel' a t w, alternation fuel' ⟨u ++ ')' :: frameEnd nonword, f, 0, []⟩ = .ok (a, t) ∧
      t.rest = ')' :: w ∧ (w = frameEnd nonword →
        n = Node.framed nonword a ∧ s.groups = t.groups) := by
  obtain ⟨fuel₁, b, s₁, hb, h⟩ := exists_of_alternation h
  -- there is a boundary on either side of the group unless words do not matter
  cases nonword with
  | true =>
    have hrest : wordBounded u true = '(' :: '?' :: ':' :: (u ++ [')']) := rfl
    obtain ⟨fuel₂, a, t, w, ha, ht, hb⟩ := exists_of_plainGroup hf hrest hb
    refine ⟨fuel₂, a, t, w, ha, ht, ?_⟩
    rintro rfl
    obtain ⟨rfl, rfl⟩ := concatenation_stop hf (.inl rfl) hb
    obtain ⟨-, rfl, rfl⟩ | ⟨c, r, hr, -⟩ := h
    · exact ⟨rfl, rfl⟩
    · cases hr
  | false =>
    have hrest : wordBounded u false =
        '\\' :: 'b' :: '(' :: '?' :: ':' :: (u ++ [')', '\\', 'b']) := by
      simp [wordBounded]
    rw [hrest] at hb
    cases fuel₁ with
    | zero => exact absurd hb fail_ne_ok
    | succ fuel₁ =>
      rw [concatenation_cons hf rfl (by decide) (by decide), item_boundary hu rfl (by simp)] at hb
      obtain ⟨fuel₂, a, t, w, ha, ht, hb⟩ := exists_of_plainGroup hf rfl hb
      refine ⟨fuel₂, a, t, w, ha, ht, ?_⟩
      rintro rfl
      cases fuel₂ with
      | zero => exact absurd hb fail_ne_ok
      | succ fuel₂ =>
        rw [concatenation_cons hf rfl (by decide) (by decide),
          item_boundary (v := []) hu rfl (Option.some_ne_none _).symm] at hb
        obtain ⟨rfl, rfl⟩ := concatenation_stop hf (.inl rfl) hb
        obtain ⟨-, rfl, rfl⟩ | ⟨c, r, hr, -⟩ := h
        · exact ⟨rfl, rfl⟩
        · cases hr

end Reading

theorem exists_reading_of_regex (h : d.regex p ic = .ok r) : ∃ s,
    alternation (4 * p.length + 8) ⟨p, { ignoreCase := ic }, 0, []⟩ = .ok (r.root, s) ∧
      s.rest = [] ∧ s.groups = r.groups := by
  have hcompile : (do
      let x ← Node.ofText p { ignoreCase := ic }
      return ⟨p, x.1, x.2⟩ : Except SyntaxError Regex) = .ok r := by
    unfold Definition.regex at h
    split at h
    · rename_i r' hr'
      cases h
      cases ic <;> exact hr'
    · cases h
  obtain ⟨⟨root, groups⟩, hread, hr⟩ := Outcome.bind_eq_ok_iff.mp hcompile
  cases hr
  obtain ⟨⟨node, s⟩, hs, hread⟩ := Outcome.bind_eq_ok_iff.mp hread
  dsimp only at hread
  split at hread
  · cases hread
  · rename_i hend
    split at hread
    · cases hread
    · cases hread
      exact ⟨s, hs, by simpa using hend, rfl⟩

namespace Substitution

def only (s : Substitution) (e : Text × Text) : Substitution := { s with swap := [e] }

/-- The key is an expression, by itself and as the only one of the rule. -/
structure Stands (s : Substitution) (d : Definition) (e : Text × Text) : Prop where
  alone : ∃ q, d.regex (uncapture e.1) s.ignoreCase = .ok q
  only : ∃ q, d.regex (s.only e).pattern s.ignoreCase = .ok q

/-- What the key is read as. -/
def expression (s : Substitution) (d : Definition) (key : Text) : Node :=
  match d.regex (uncapture key) s.ignoreCase with
  | .ok q => q.root
  | .error _ => .empty

def kept (s : Substitution) (d : Definition) (key : Text) : Nat :=
  match d.regex (uncapture key) s.ignoreCase with
  | .ok q => q.groups
  | .error _ => 0

/-- As the only one of the rule, the key matches from a point up to an offset. -/
def MatchesAt (s : Substitution) (d : Definition) (e : Text × Text) (p : Point) (stop : Nat) :
    Prop :=
  ∃ q m p', d.regex (s.only e).pattern s.ignoreCase = .ok q ∧ q.root.matchAt? p = some (m, p') ∧
    m.stop = stop

variable {s : Substitution} {e : Text × Text}

theorem pattern_eq (s : Substitution) :
    s.pattern = wordBounded (enclosed (s.pairs.map fun e => uncapture e.1)) s.nonword := by
  rw [pattern, enclosed, List.map_map]
  rfl

theorem pattern_only (s : Substitution) (e : Text × Text) :
    (s.only e).pattern = wordBounded (enclosed [uncapture e.1]) s.nonword := by
  rw [pattern_eq, pairs, only, List.mergeSort_singleton]
  rfl

/-- The key is read as its expression, in the pattern of its own as in any other. -/
theorem Stands.readsAs (h : s.Stands d e) : ((uncapture e.1).head? ≠ some '?' ∧
    ReadsAs { ignoreCase := s.ignoreCase } (uncapture e.1) (s.expression d e.1) (s.kept d e.1)) ∧
      ∀ q, d.regex (s.only e).pattern s.ignoreCase = .ok q →
        q.root = Node.framed s.nonword ((Node.group 0 (s.expression d e.1)).shift 1) := by
  obtain ⟨q₀, hq₀⟩ := h.alone
  obtain ⟨q, hq⟩ := h.only
  obtain ⟨s₀, halone, hend, hgroups⟩ := exists_reading_of_regex hq₀
  obtain ⟨s₁, honly, -, -⟩ := exists_reading_of_regex hq
  have hexpression : s.expression d e.1 = q₀.root := by rw [expression, hq₀]
  have hkept : s.kept d e.1 = s₀.groups := by rw [kept, hq₀, hgroups]
  rw [hexpression, hkept]
  have hopen : (uncapture e.1).head? ≠ some '?' := fun h =>
    alternation_question_ne_ok rfl h halone
  rw [pattern_only] at honly
  obtain ⟨fuel, b, t, w, hb, ht, hroot⟩ := exists_of_wordBounded rfl rfl honly
  have hreads : ReadsAs { ignoreCase := s.ignoreCase } (uncapture e.1) q₀.root s₀.groups := by
    -- the group in the pattern is read as it would be without the frame
    have hgroup : alternation fuel ⟨'(' :: (uncapture e.1 ++ ')' :: ')' :: frameEnd s.nonword),
        { ignoreCase := s.ignoreCase }, 0, []⟩ = .ok (b, t) := by
      simpa [enclosed, join_singleton] using hb
    obtain ⟨fuel₁, b₁, t₁, hb₁, -⟩ := exists_of_alternation hgroup
    obtain ⟨fuel₂, c, u, v, hc, hu, -⟩ :=
      exists_of_numbered rfl (head?_append_close_ne hopen _) hb₁
    refine readsAs_of_alone halone hend ?_ hc (by rw [hu]; exact List.cons_ne_nil _ _)
    unfold frameEnd
    split <;> simp
  refine ⟨⟨hopen, hreads⟩, fun q' hq' => ?_⟩
  obtain rfl : q' = q := by
    rw [hq] at hq'
    exact (Except.ok.inj hq').symm
  obtain ⟨hb, ht', -⟩ :=
    alternation_enclosed rfl (.cons (b := (q₀.root, s₀.groups)) ⟨hopen, hreads⟩ .nil) hb
  obtain ⟨-, rfl⟩ := List.cons.inj (ht.symm.trans ht')
  rw [(hroot rfl).1, hb]
  rfl

theorem Stands.matchesAt_iff (h : s.Stands d e) {p : Point} {stop : Nat} :
    s.MatchesAt d e p stop ↔ ∃ m q,
      (Node.framed s.nonword (.group 0 (s.expression d e.1))).matchAt? p = some (m, q) ∧
        m.stop = stop := by
  have hown (q : Regex) (hq : d.regex (s.only e).pattern s.ignoreCase = .ok q) : q.root.matchAt? p =
      ((Node.framed s.nonword (.group 0 (s.expression d e.1))).matchAt? p).map
        fun r => (r.1.shift 1, r.2) := by
    rw [h.readsAs.2 q hq, ← Node.shift_framed, Node.matchAt?_shift]
  constructor
  · rintro ⟨q, m, p', hq, hm, rfl⟩
    rw [hown q hq] at hm
    obtain ⟨⟨m₀, q₀⟩, hm₀, hr⟩ := Option.map_eq_some_iff.mp hm
    cases hr
    exact ⟨m₀, q₀, hm₀, rfl⟩
  · rintro ⟨m, p', hm, rfl⟩
    obtain ⟨q, hq⟩ := h.only
    exact ⟨q, m.shift 1, p', hq, by rw [hown q hq, hm]; rfl, rfl⟩

/-- The alternatives of the pattern, with the groups that are left in each. -/
def parts (s : Substitution) (d : Definition) : List (Text × Text) → List (Node × Nat) :=
  List.map fun e => (s.expression d e.1, s.kept d e.1)

theorem groupCount_parts (es : List (Text × Text)) :
    groupCount (s.parts d es) = es.length + (es.map fun e => s.kept d e.1).sum := by
  induction es with
  | nil => rfl
  | cons e es ih =>
    have hcons : groupCount (s.parts d (e :: es)) =
        s.kept d e.1 + 1 + groupCount (s.parts d es) := rfl
    rw [hcons, ih, List.length_cons, List.map_cons, List.sum_cons]
    omega

theorem root_of_readsAs {parts : List (Node × Nat)}
    (hparts : List.Forall₂ (fun k e => k.head? ≠ some '?' ∧
      ReadsAs { ignoreCase := s.ignoreCase } k e.1 e.2) (s.pairs.map fun e => uncapture e.1) parts)
    (hr : d.regex s.pattern s.ignoreCase = .ok r) :
    r.root = Node.framed s.nonword (groupsFrom 0 parts) ∧ r.groups = groupCount parts := by
  obtain ⟨s₁, hread, -, hgroups⟩ := exists_reading_of_regex hr
  rw [pattern_eq] at hread
  obtain ⟨fuel, b, t, w, hb, ht, hroot⟩ := exists_of_wordBounded rfl rfl hread
  obtain ⟨rfl, ht', hcount⟩ := alternation_enclosed rfl hparts hb
  obtain ⟨-, rfl⟩ := List.cons.inj (ht.symm.trans ht')
  obtain ⟨hroot, hsame⟩ := hroot rfl
  exact ⟨hroot, by rw [← hgroups, hsame, hcount, Nat.zero_add]⟩

/-- The pattern is that of its alternatives. -/
theorem root_eq (h : ∀ e ∈ s.pairs, s.Stands d e) (hr : d.regex s.pattern s.ignoreCase = .ok r) :
    r.root = Node.framed s.nonword (groupsFrom 0 (s.parts d s.pairs)) ∧
      r.groups = groupCount (s.parts d s.pairs) := by
  refine root_of_readsAs ?_ hr
  rw [parts, List.forall₂_map_left_iff, List.forall₂_map_right_iff, List.forall₂_same]
  exact fun e he => (h e he).readsAs.1

theorem keyLe_iff {a b : Text × Text} : keyLe a b = true ↔
    size b.1 < size a.1 ∨ size a.1 = size b.1 ∧ Text.le a.1 b.1 = true := by
  rw [keyLe, Bool.or_eq_true, Bool.and_eq_true, decide_eq_true_eq, beq_iff_eq]

theorem pairwise_pairs (s : Substitution) : s.pairs.Pairwise fun a b => keyLe a b = true := by
  refine List.pairwise_mergeSort (fun a b c hab hbc => ?_) (fun a b => ?_) s.swap
  · rw [keyLe_iff] at *
    rcases hab with hab | ⟨hab, hle⟩
    · exact .inl (by omega)
    · rcases hbc with hbc | ⟨hbc, hle'⟩
      · exact .inl (by omega)
      · exact .inr ⟨hab.trans hbc, Text.le_trans hle hle'⟩
  · rw [Bool.or_eq_true, keyLe_iff, keyLe_iff]
    rcases Nat.lt_trichotomy (size a.1) (size b.1) with hab | hab | hba
    · exact .inr (.inl hab)
    · exact (Text.le_total a.1 b.1).imp (fun h => .inr ⟨hab, h⟩) fun h => .inr ⟨hab.symm, h⟩
    · exact .inl (.inl hba)

theorem keyIndex?_shift {m : Match} {g : Groups} {a b n groups : Nat} (hm : m.groups = (0, a, b) :: g)
    (hn : n < groups) : keyIndex? (m.shift (n + 1)) groups = some n := by
  have hgroup (i : Nat) :
      (m.shift (n + 1)).group? (i + 1) = (m.groups.shift (n + 1)).lookup (i + 1) :=
    if_neg (Nat.succ_ne_zero i)
  refine List.find?_range_eq_some.mpr ⟨?_, List.mem_range.mpr hn, fun i hi => ?_⟩
  · have hlookup := m.groups.lookup_shift (n + 1) 0
    rw [Nat.zero_add] at hlookup
    rw [hgroup, hlookup, hm, List.lookup_cons_self, Option.isSome_some]
  · rw [hgroup, Groups.lookup_shift_of_lt _ (Nat.succ_lt_succ hi)]
    rfl

/-- What is as it should be: the value itself, one of its options or an exception. -/
def Accepts (s : Substitution) (value observed : Text) : Prop :=
  observed = value ∨ observed ∈ options value ∨ ∃ e ∈ s.exceptions,
    observed = e ∨ s.ignoreCase = true ∧ eqIgnoreAsciiCase observed e = true

theorem isAccepted_iff {value observed : Text} :
    s.isAccepted value observed = true ↔ s.Accepts value observed := by
  simp only [isAccepted, Accepts, Bool.or_eq_true, Bool.and_eq_true, beq_iff_eq, decide_eq_true_eq,
    List.any_eq_true]
  constructor
  · rintro (((h | h) | ⟨hcase, e, he, h⟩) | h)
    · exact .inl h
    · exact .inr (.inr ⟨observed, h, .inl rfl⟩)
    · exact .inr (.inr ⟨e, he, .inr ⟨hcase, h⟩⟩)
    · exact .inr (.inl h)
  · rintro (h | h | ⟨e, he, rfl | ⟨hcase, h⟩⟩)
    · exact .inl (.inl (.inl h))
    · exact .inr h
    · exact .inl (.inl (.inr he))
    · exact .inl (.inr ⟨hcase, e, he, h⟩)

/-- What is made of a match that is to be replaced by a value. -/
structure Reports (s : Substitution) (d : Definition) (value t : Text) (m : Match)
    (a : Option Alert) : Prop where
  silent : s.Accepts value (m.text t) → a = none
  alert : ¬ s.Accepts value (m.text t) →
    a = some (d.alert t m.start m.stop [join "' or '" (options value), m.text t])

variable {t : Text} {m : Match}

theorem alertOf?_of_keyIndex? {i : Nat} {values : List Text} (hm : m.isEmpty = false)
    (hi : keyIndex? m r.groups = some i) : s.alertOf? d r values t m = values[i]?.bind fun value =>
      if s.isAccepted value (m.text t) then none
      else some (d.alert t m.start m.stop [join "' or '" (options value), m.text t]) := by
  unfold alertOf?
  rewrite [hm, hi]
  rfl

theorem reports_of_keyIndex? {i : Nat} {es : List (Text × Text)} {e : Text × Text}
    (hm : m.isEmpty = false) (hi : keyIndex? m r.groups = some i) (he : es[i]? = some e) :
    s.Reports d e.2 t m (s.alertOf? d r (es.map (·.2)) t m) := by
  rw [alertOf?_of_keyIndex? hm hi, List.getElem?_map, he, Option.map_some, Option.bind_some]
  exact ⟨fun h => if_pos (isAccepted_iff.mpr h), fun h => if_neg (mt isAccepted_iff.mp h)⟩

/-- The match is that of the key: those before it do not match where the match begins. -/
structure IsOf (s : Substitution) (d : Definition) (t : Text) (m : Match)
    (before : List (Text × Text)) (e : Text × Text) : Prop where
  order : ∃ after, s.pairs = before ++ e :: after
  point : ∃ pre rest, t = pre ++ rest ∧ size pre = m.start ∧
    s.MatchesAt d e (.between pre rest) m.stop ∧
      ∀ e' ∈ before, ∀ stop, ¬ s.MatchesAt d e' (.between pre rest) stop

/-- What becomes of the matches of a rule. -/
structure Attributes (s : Substitution) (d : Definition) (r : Regex) : Prop where
  perm : s.pairs.Perm s.swap
  /-- The longest key comes first, then the lexically first. -/
  longest : s.pairs.Pairwise fun a b =>
    size b.1 < size a.1 ∨ size a.1 = size b.1 ∧ Text.le a.1 b.1 = true
  /-- The value is that of the key, or of the one that stands after it by as many places as there are
  groups left in the keys before it. Where no key stands there, nothing is reported. -/
  value : ∀ t, ∀ m ∈ r.findAll t, m.isEmpty = false → ∃ before e, s.IsOf d t m before e ∧
    let alert := s.alertOf? d r (s.pairs.map (·.2)) t m
    let key? := s.pairs[before.length + (before.map fun e => s.kept d e.1).sum]?
    ((∀ e' ∈ before, s.kept d e'.1 = 0) → key? = some e) ∧
      (∀ e', key? = some e' → s.Reports d e'.2 t m alert) ∧ (key? = none → alert = none)

theorem isEmpty_of_framed_empty {nonword : Bool} {p q : Point}
    (h : (Node.framed nonword .empty).matchAt? p = some (m, q)) : m.isEmpty = true := by
  obtain ⟨hspans, w, -, hoff, hw⟩ := Node.matchAt?_spans h
  have hnone (c : Char) : (Node.framed nonword .empty).mentions c = false := by
    cases nonword <;> rfl
  obtain rfl : w = [] := List.eq_nil_iff_forall_not_mem.mpr fun c hc =>
    Bool.false_ne_true ((hnone c).symm.trans (hw c hc))
  rw [Match.isEmpty, hspans.start_eq, hspans.stop_eq, hoff]
  exact beq_self_eq_true _

/-- A match is one of the first alternative that matches on its own, and numbered with the groups of
the alternatives before it. -/
theorem exists_alternative {nonword : Bool} {parts : List (Node × Nat)}
    (hroot : r.root = Node.framed nonword (groupsFrom 0 parts)) (hgroups : r.groups = groupCount parts)
    (hm : m ∈ r.findAll t) (hne : m.isEmpty = false) :
    ∃ pre rest q firsts part others m₀, t = pre ++ rest ∧ parts = firsts ++ part :: others ∧
      (∀ e ∈ firsts, (Node.framed nonword (.group 0 e.1)).matchAt? (.between pre rest) = none) ∧
      (Node.framed nonword (.group 0 part.1)).matchAt? (.between pre rest) = some (m₀, q) ∧
      m = m₀.shift (groupCount firsts + 1) ∧ keyIndex? m r.groups = some (groupCount firsts) := by
  obtain ⟨pre, rest, q, ht, hmatch⟩ := exists_between_of_mem_findAll hm
  rw [hroot] at hmatch
  have hparts : parts ≠ [] := by
    rintro rfl
    rw [isEmpty_of_framed_empty hmatch] at hne
    cases hne
  obtain ⟨firsts, part, others, m₀, hsplit, hfirsts, hpart, hshift⟩ :=
    Node.exists_of_groupsFrom hparts hmatch
  rw [Nat.zero_add] at hshift
  obtain ⟨a, b, g, hg⟩ := Node.exists_groups_of_framed hpart
  have hcount : groupCount firsts < r.groups := by
    rw [hgroups, hsplit, groupCount, groupCount, List.map_append, List.sum_append, List.map_cons,
      List.sum_cons]
    omega
  refine ⟨pre, rest, q, firsts, part, others, m₀, ht, hsplit, hfirsts, hpart, hshift, ?_⟩
  rw [hshift]
  exact keyIndex?_shift hg hcount

/-- A match is that of a key, and numbered with the groups of the keys before it. -/
theorem exists_isOf (h : ∀ e ∈ s.pairs, s.Stands d e) (hr : d.regex s.pattern s.ignoreCase = .ok r)
    (hm : m ∈ r.findAll t) (hne : m.isEmpty = false) : ∃ before e, s.IsOf d t m before e ∧
      keyIndex? m r.groups = some (before.length + (before.map fun e => s.kept d e.1).sum) := by
  obtain ⟨hroot, hgroups⟩ := root_eq h hr
  obtain ⟨pre, rest, q, firsts, part, others, m₀, ht, hsplit, hfirsts, hpart, rfl, hindex⟩ :=
    exists_alternative hroot hgroups hm hne
  obtain ⟨before, l, hpairs, hbefore, hl⟩ := List.map_eq_append_iff.mp hsplit
  obtain ⟨e, after, rfl, rfl, rfl⟩ := List.map_eq_cons_iff.mp hl
  obtain rfl : s.parts d before = firsts := hbefore
  have hstands : ∀ e' ∈ before ++ e :: after, s.Stands d e' := hpairs ▸ h
  refine ⟨before, e, ⟨⟨after, hpairs⟩, pre, rest, ht, ?_, ?_, ?_⟩, ?_⟩
  · exact (Node.matchAt?_spans hpart).1.start_eq.symm
  · exact (hstands e (by simp)).matchesAt_iff.mpr ⟨m₀, q, hpart, rfl⟩
  · intro e' he' stop hstop
    obtain ⟨m', q', hm', -⟩ :=
      (hstands e' (List.mem_append_left _ he')).matchesAt_iff.mp hstop
    have hnone := hfirsts _ (List.mem_map_of_mem he')
    rw [hm'] at hnone
    cases hnone
  · rw [hindex, groupCount_parts]

/-- A match is reported with the value of the key that it is of, if the keys before it have no groups
left in them. -/
theorem attributes (h : ∀ e ∈ s.swap, s.Stands d e) (hr : d.regex s.pattern s.ignoreCase = .ok r) :
    s.Attributes d r := by
  have hpairs : ∀ e ∈ s.pairs, s.Stands d e := fun e he => h e (List.mem_mergeSort.mp he)
  refine ⟨List.mergeSort_perm _ _, s.pairwise_pairs.imp keyLe_iff.mp, fun t m hm hne => ?_⟩
  obtain ⟨before, e, he, hi⟩ := exists_isOf hpairs hr hm hne
  refine ⟨before, e, he, ?_, fun e' he' => reports_of_keyIndex? hne hi he', ?_⟩
  · intro hkept
    obtain ⟨after, hafter⟩ := he.order
    have hsum : (before.map fun e => s.kept d e.1).sum = 0 := by
      refine List.sum_eq_zero fun n hn => ?_
      obtain ⟨e', he', rfl⟩ := List.mem_map.mp hn
      exact hkept e' he'
    rw [hsum, hafter]
    simp
  · intro hnone
    rw [alertOf?_of_keyIndex? hne hi, List.getElem?_map, hnone, Option.map_none, Option.bind_none]

section Spellings

/-- The first of the keys has a group with a name. -/
def spellings : Substitution where
  swap := [("(?P<n>colour)", "color"), ("centre", "center"), ("grey", "gray")]

def spellingRule : Definition where
  name := "Test.Rule"
  checkType := "substitution"
  level := .warning
  scope := ⟨[.ofText "text"]⟩
  message := "Use '%s' instead of '%s'."
  kind := .substitution spellings

theorem pairs_spellings : spellings.pairs = spellings.swap := by
  refine List.mergeSort_of_pairwise ?_
  decide

theorem exists_regex_eq_ok (h : (d.regex p ic).toOption.isSome = true) :
    ∃ q, d.regex p ic = .ok q := by
  obtain ⟨q, hq⟩ := Option.isSome_iff_exists.mp h
  exact ⟨q, Outcome.toOption_eq_some_iff.mp hq⟩

theorem stands_of_mem_spellings : ∀ e ∈ spellings.swap, spellings.Stands spellingRule e := by
  simp only [spellings, List.forall_mem_cons, List.not_mem_nil, false_imp_iff, implies_true, and_true]
  refine ⟨?_, ?_, ?_⟩
  all_goals
    exact ⟨exists_regex_eq_ok (by decide +kernel), exists_regex_eq_ok (by decide +kernel)⟩

theorem attributes_spellings : (∀ e ∈ spellings.swap, spellings.Stands spellingRule e) ∧
    ∃ r, spellingRule.regex spellings.pattern spellings.ignoreCase = .ok r ∧
      spellings.Attributes spellingRule r := by
  obtain ⟨r, hr⟩ : ∃ r, spellingRule.regex spellings.pattern spellings.ignoreCase = .ok r :=
    exists_regex_eq_ok (by rw [pattern, pairs_spellings]; decide +kernel)
  exact ⟨stands_of_mem_spellings, r, hr, attributes stands_of_mem_spellings hr⟩

/-- After that key the others have lost their values, which each of them has on its own. -/
theorem run_spellings :
    let found (s : Substitution) (t : Text) : Option (List Alert) :=
      (spellingRule.regex s.pattern s.ignoreCase).toOption.map fun r => s.run spellingRule r t
    found (spellings.only ("centre", "center")) "centre" =
        some [spellingRule.alert "centre" 0 6 ["center", "centre"]] ∧
      found (spellings.only ("grey", "gray")) "grey" =
        some [spellingRule.alert "grey" 0 4 ["gray", "grey"]] ∧
      found spellings "centre" = some [spellingRule.alert "centre" 0 6 ["gray", "centre"]] ∧
      found spellings "grey" = some [] := by
  refine ⟨by decide +kernel, by decide +kernel, ?_⟩
  dsimp only
  unfold run pattern
  rw [pairs_spellings]
  decide +kernel

end Spellings

end Substitution

end Copydesk.Rule
