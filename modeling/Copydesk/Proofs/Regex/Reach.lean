import Copydesk.Proofs.Text.Offset
import Copydesk.Regex.Basic

/-! Where matching can get to. A matcher moves forward through the text at hand, past characters
that its pattern mentions, and records groups only between the points it passes; the matches of a
search follow one another. -/

namespace Copydesk.Regex

/-- The second point lies in the text ahead of the first, past characters that satisfy `P`. -/
def Point.Passes (P : Char → Prop) (p q : Point) : Prop :=
  ∃ m, p.ahead = m ++ q.ahead ∧ q.offset = p.offset + Text.size m ∧ ∀ c ∈ m, P c

/-- The second point lies in the text ahead of the first. -/
def Point.Reaches (p q : Point) : Prop :=
  ∃ m, p.ahead = m ++ q.ahead ∧ q.offset = p.offset + Text.size m

namespace Point

variable {p q r : Point} {P Q : Char → Prop} {t : Text}

namespace Passes

theorem refl (P : Char → Prop) (p : Point) : p.Passes P p := ⟨[], rfl, rfl, by simp⟩

theorem trans (hpq : p.Passes P q) (hqr : q.Passes P r) : p.Passes P r := by
  obtain ⟨m, hm, hmo, hmP⟩ := hpq
  obtain ⟨n, hn, hno, hnP⟩ := hqr
  refine ⟨m ++ n, ?_, ?_, List.forall_mem_append.mpr ⟨hmP, hnP⟩⟩
  · rw [hm, hn, List.append_assoc]
  · rw [hno, hmo, Text.size_append, Nat.add_assoc]

theorem next? {c : Char} (h : p.next? = some (c, q)) (hc : P c) : p.Passes P q := by
  unfold Point.next? at h
  split at h
  · simp at h
  · rename_i c' rest hp
    simp only [Option.some.injEq, Prod.mk.injEq] at h
    obtain ⟨rfl, rfl⟩ := h
    exact ⟨[c'], hp, by simp only [Text.size, Nat.add_zero], List.forall_mem_singleton.mpr hc⟩

theorem mono (h : p.Passes P q) (hPQ : ∀ c, P c → Q c) : p.Passes Q q := by
  obtain ⟨m, hm, hmo, hmP⟩ := h
  exact ⟨m, hm, hmo, fun c hc => hPQ c (hmP c hc)⟩

theorem reaches (h : p.Passes P q) : p.Reaches q := by
  obtain ⟨m, hm, hmo, -⟩ := h
  exact ⟨m, hm, hmo⟩

end Passes

namespace Reaches

theorem passes (h : p.Reaches q) : p.Passes (fun _ => True) q := by
  obtain ⟨m, hm, hmo⟩ := h
  exact ⟨m, hm, hmo, fun _ _ => trivial⟩

theorem refl (p : Point) : p.Reaches p := (Passes.refl (fun _ => True) p).reaches

theorem trans (hpq : p.Reaches q) (hqr : q.Reaches r) : p.Reaches r :=
  (hpq.passes.trans hqr.passes).reaches

theorem next? {c : Char} (h : p.next? = some (c, q)) : p.Reaches q :=
  (Passes.next? (P := fun _ => True) h trivial).reaches

theorem slice? (hp : (Point.ofText t).Reaches p) (hpq : p.Reaches q) :
    ∃ m, p.ahead = m ++ q.ahead ∧ Text.slice? t p.offset q.offset = some m := by
  obtain ⟨a, ha, hao⟩ := hp
  obtain ⟨m, hm, hmo⟩ := hpq
  rw [ofText, Nat.zero_add] at hao
  refine ⟨m, hm, Text.slice?_eq_some_iff.mpr ⟨a, q.ahead, ?_, hao.symm, hmo.symm⟩⟩
  rw [← hm, ← ha]
  rfl

end Reaches

end Point

def Groups.Between (p q : Point) (g : Groups) : Prop :=
  ∀ e ∈ g, ∃ x y : Point, p.Reaches x ∧ x.Reaches y ∧ y.Reaches q ∧ e.2 = (x.offset, y.offset)

theorem Groups.Between.append {p q r : Point} {g h : Groups} (hh : Groups.Between q r h)
    (hg : Groups.Between p q g) (hpq : p.Reaches q) (hqr : q.Reaches r) :
    Groups.Between p r (h ++ g) := by
  intro e he
  rcases List.mem_append.mp he with he | he
  · obtain ⟨x, y, hx, hxy, hy, hoff⟩ := hh e he
    exact ⟨x, y, hpq.trans hx, hxy, hy, hoff⟩
  · obtain ⟨x, y, hx, hxy, hy, hoff⟩ := hg e he
    exact ⟨x, y, hx, hxy, hy.trans hqr, hoff⟩

namespace Matcher

variable {α : Type} {P Q : Char → Prop}

/-- A result comes from the continuation, at a point further on past characters that satisfy `P` and
with groups in between. -/
def Advances (P : Char → Prop) (m : Matcher α) : Prop :=
  ∀ p g k r, m p g k = some r →
    ∃ q h, p.Passes P q ∧ Groups.Between p q h ∧ k q (h ++ g) = some r

variable {a b body : Matcher α}

theorem Advances.mono (ha : a.Advances P) (hPQ : ∀ c, P c → Q c) : a.Advances Q := by
  intro p g k r h
  obtain ⟨q, u, hpq, hu, hk⟩ := ha p g k r h
  exact ⟨q, u, hpq.mono hPQ, hu, hk⟩

theorem skip_advances : (skip : Matcher α).Advances P :=
  fun p _ _ _ h => ⟨p, [], .refl P p, by simp [Groups.Between], h⟩

theorem Advances.andThen (ha : a.Advances P) (hb : b.Advances P) : (andThen a b).Advances P := by
  intro p g k r h
  obtain ⟨q, u, hpq, hu, hb'⟩ := ha p g _ r h
  obtain ⟨s, v, hqs, hv, hk⟩ := hb q (u ++ g) k r hb'
  exact ⟨s, v ++ u, hpq.trans hqs, hv.append hu hpq.reaches hqs.reaches,
    by rw [List.append_assoc]; exact hk⟩

theorem Advances.orElse (ha : a.Advances P) (hb : b.Advances P) : (orElse a b).Advances P := by
  intro p g k r h
  unfold Matcher.orElse at h
  split at h
  · rename_i r' hr
    exact ha p g k r (hr.trans h)
  · exact hb p g k r h

theorem Advances.greedyOr (ha : a.Advances P) (hb : b.Advances P) (greedy : Bool) :
    (if greedy then Matcher.orElse a b else Matcher.orElse b a).Advances P := by
  cases greedy
  · exact hb.orElse ha
  · exact ha.orElse hb

theorem Advances.oneOrMore (hbody : body.Advances P) (greedy : Bool) (fuel : Nat) :
    (oneOrMore body greedy fuel).Advances P := by
  induction fuel with
  | zero => exact hbody
  | succ fuel ih =>
    intro p g k r h
    obtain ⟨q, u, hpq, hu, hrest⟩ := hbody p g _ r h
    split at hrest
    · -- The copy advanced, so more copies or none may follow.
      have hmore := ih.greedyOr skip_advances greedy
      rw [← apply_ite (fun m : Matcher α => m q (u ++ g) k)] at hrest
      obtain ⟨s, v, hqs, hv, hk⟩ := hmore q (u ++ g) k r hrest
      exact ⟨s, v ++ u, hpq.trans hqs, hv.append hu hpq.reaches hqs.reaches,
        by rw [List.append_assoc]; exact hk⟩
    · exact ⟨q, u, hpq, hu, hrest⟩

theorem Advances.atMost (hbody : body.Advances P) (greedy : Bool) (n : Nat) :
    (atMost body greedy n).Advances P := by
  induction n with
  | zero => exact skip_advances
  | succ n ih => exact (hbody.andThen ih).greedyOr skip_advances greedy

theorem Advances.exactly (hbody : body.Advances P) (n : Nat) : (exactly body n).Advances P := by
  induction n with
  | zero => exact skip_advances
  | succ n ih => exact hbody.andThen ih

theorem Advances.repeated (hbody : body.Advances P) (lo : Nat) (hi : Option Nat) (greedy : Bool) :
    (repeated body lo hi greedy).Advances P := by
  have hmore : Advances P fun p => Matcher.oneOrMore body greedy p.left p :=
    fun p g k r h => hbody.oneOrMore greedy p.left p g k r h
  cases hi with
  | some hi => exact (hbody.exactly lo).andThen (hbody.atMost greedy (hi - lo))
  | none =>
    cases lo with
    | zero => exact hmore.greedyOr skip_advances greedy
    | succ n => exact (hbody.exactly n).andThen hmore

end Matcher

def Node.mentions (c : Char) : Node → Bool
  | empty => false
  | one s => s.mem c
  | look _ => false
  | cat a b | alt a b => a.mentions c || b.mentions c
  | rep _ _ _ a => a.mentions c
  | group _ a => a.mentions c

theorem Node.matcher_advances {α : Type} (n : Node) :
    (n.matcher : Matcher α).Advances (n.mentions · = true) := by
  induction n with
  | empty => exact Matcher.skip_advances
  | one s =>
    intro p g k r h
    simp only [matcher] at h
    split at h
    · rename_i c q hq
      split at h
      · rename_i hc
        exact ⟨q, [], .next? hq hc, by simp [Groups.Between], h⟩
      · simp at h
    · simp at h
  | look l =>
    intro p g k r h
    simp only [matcher] at h
    split at h
    · exact ⟨p, [], .refl _ p, by simp [Groups.Between], h⟩
    · simp at h
  | cat a b iha ihb =>
    exact (iha.mono fun c hc => by simp [mentions, hc]).andThen
      (ihb.mono fun c hc => by simp [mentions, hc])
  | alt a b iha ihb =>
    exact (iha.mono fun c hc => by simp [mentions, hc]).orElse
      (ihb.mono fun c hc => by simp [mentions, hc])
  | rep lo hi greedy a ih => exact ih.repeated lo hi greedy
  | group i a ih =>
    intro p g k r h
    obtain ⟨q, u, hpq, hu, hk⟩ := ih p g _ r h
    -- the group reaches from where it began to where the matcher goes on
    refine ⟨q, (i, p.offset, q.offset) :: u, hpq, ?_, hk⟩
    intro e he
    rcases List.mem_cons.mp he with rfl | he
    · exact ⟨p, q, .refl p, hpq.reaches, .refl q, rfl⟩
    · exact hu e he

/-- The match begins and ends at the two points and has its groups between them. -/
structure Match.Spans (m : Match) (p q : Point) : Prop where
  start_eq : m.start = p.offset
  stop_eq : m.stop = q.offset
  reaches : p.Reaches q
  groups : m.groups.Between p q

theorem Match.Spans.group? {m : Match} {p q : Point} (hm : m.Spans p q) {i s e : Nat}
    (h : m.group? i = some (s, e)) :
    ∃ x y : Point, p.Reaches x ∧ x.Reaches y ∧ y.Reaches q ∧ s = x.offset ∧ e = y.offset := by
  unfold Match.group? at h
  split at h
  · simp only [Option.some.injEq, Prod.mk.injEq] at h
    obtain ⟨rfl, rfl⟩ := h
    exact ⟨p, q, .refl p, hm.reaches, .refl q, hm.start_eq, hm.stop_eq⟩
  · obtain ⟨before, after, hg, -⟩ := List.lookup_eq_some_iff.mp h
    have hmem : (i, s, e) ∈ m.groups := by rw [hg]; exact List.mem_append_right _ List.mem_cons_self
    obtain ⟨x, y, hx, hxy, hy, hoff⟩ := hm.groups _ hmem
    exact ⟨x, y, hx, hxy, hy, (Prod.mk.inj hoff).1, (Prod.mk.inj hoff).2⟩

theorem Node.matchAt?_spans {n : Node} {p q : Point} {m : Match}
    (h : n.matchAt? p = some (m, q)) : m.Spans p q ∧ p.Passes (n.mentions · = true) q := by
  obtain ⟨q', g, hpq, hg, hk⟩ := n.matcher_advances p [] _ _ h
  simp only [List.append_nil, Option.some.injEq, Prod.mk.injEq] at hk
  obtain ⟨rfl, rfl⟩ := hk
  exact ⟨⟨rfl, rfl, hpq.reaches, hg⟩, hpq⟩

theorem Node.search_matchAt? {n : Node} {fuel : Nat} {p q : Point} {m : Match}
    (h : n.search fuel p = some (m, q)) : ∃ s, p.Reaches s ∧ n.matchAt? s = some (m, q) := by
  induction fuel generalizing p with
  | zero => exact ⟨p, .refl p, h⟩
  | succ fuel ih =>
    unfold search at h
    split at h
    · rename_i r hr
      exact ⟨p, .refl p, hr.trans h⟩
    · split at h
      · rename_i c p' hp
        obtain ⟨s, hs, hm⟩ := ih h
        exact ⟨s, (Point.Reaches.next? hp).trans hs, hm⟩
      · simp at h

theorem exists_slice?_of_find? {r : Regex} {t : Text} {m : Match} (h : r.find? t = some m)
    {i s e : Nat} (hg : m.group? i = some (s, e)) : ∃ piece, Text.slice? t s e = some piece := by
  obtain ⟨⟨m', b⟩, hsearch, rfl⟩ := Option.map_eq_some_iff.mp h
  obtain ⟨a, ha, hm⟩ := Node.search_matchAt? hsearch
  obtain ⟨x, y, hx, hxy, -, rfl, rfl⟩ := (Node.matchAt?_spans hm).1.group? hg
  obtain ⟨piece, -, hs⟩ := (ha.trans hx).slice? hxy
  exact ⟨piece, hs⟩

/-- Matches of a pattern one after another in the text ahead of a point. -/
inductive Successive (n : Node) : Point → List Match → Prop
  | nil (p : Point) : Successive n p []
  | cons {p a b : Point} {m : Match} {ms : List Match} :
    p.Reaches a → n.matchAt? a = some (m, b) → Successive n b ms → Successive n p (m :: ms)

namespace Successive

variable {n : Node} {p q : Point} {m : Match} {ms : List Match}

theorem of_reaches (hpq : p.Reaches q) (h : Successive n q ms) : Successive n p ms := by
  cases h with
  | nil => exact .nil p
  | cons ha hm hms => exact .cons (hpq.trans ha) hm hms

theorem matchAt?_of_mem (h : Successive n p ms) (hm : m ∈ ms) :
    ∃ a b, p.Reaches a ∧ n.matchAt? a = some (m, b) := by
  induction h with
  | nil => simp at hm
  | cons ha hs _ ih =>
    rcases List.mem_cons.mp hm with rfl | hm
    · exact ⟨_, _, ha, hs⟩
    · obtain ⟨x, y, hx, hxy⟩ := ih hm
      exact ⟨x, y, (ha.trans (Node.matchAt?_spans hs).1.reaches).trans hx, hxy⟩

theorem pairwise (h : Successive n p ms) : ms.Pairwise fun a b => a.stop ≤ b.start := by
  induction h with
  | nil p => exact .nil
  | @cons p a b m ms _ hm hms ih =>
    refine List.pairwise_cons.mpr ⟨fun m' hm' => ?_, ih⟩
    obtain ⟨a', b', ha', hab'⟩ := hms.matchAt?_of_mem hm'
    have hstart : m'.start = a'.offset := (Node.matchAt?_spans hab').1.start_eq
    have hstop : m.stop = b.offset := (Node.matchAt?_spans hm).1.stop_eq
    obtain ⟨w, -, hw⟩ := ha'
    omega

end Successive

theorem Node.searchAll_successive (n : Node) (fuel : Nat) (last : Option Nat) (p : Point) :
    Successive n p (n.searchAll fuel last p) := by
  induction fuel generalizing last p with
  | zero => exact .nil p
  | succ fuel ih =>
    unfold searchAll
    split
    · exact .nil p
    · rename_i m q hs
      split
      · split
        · rename_i c p' hp
          exact (ih last p').of_reaches (.next? hp)
        · exact .nil p
      · obtain ⟨s, hps, hm⟩ := search_matchAt? hs
        exact .cons hps hm (ih _ q)

variable {r : Regex} {t : Text} {m : Match}

theorem findAll_successive (r : Regex) (t : Text) :
    Successive r.root (Point.ofText t) (r.findAll t) := r.root.searchAll_successive _ _ _

theorem Match.Spans.ahead {a b : Point} (hm : m.Spans a b) (ha : (Point.ofText t).Reaches a) :
    a.ahead = m.text t ++ b.ahead ∧ Text.slice? t m.start m.stop = some (m.text t) := by
  obtain ⟨piece, hpiece, hs⟩ := ha.slice? hm.reaches
  rw [← hm.start_eq, ← hm.stop_eq] at hs
  have htext : m.text t = piece := by rw [Match.text, Text.slice_eq_of_slice? hs]
  rw [htext]
  exact ⟨hpiece, hs⟩

/-- The text of a match is the slice at its byte range. -/
theorem slice?_of_mem_findAll (h : m ∈ r.findAll t) :
    Text.slice? t m.start m.stop = some (m.text t) := by
  obtain ⟨a, b, ha, hm⟩ := (findAll_successive r t).matchAt?_of_mem h
  exact ((Node.matchAt?_spans hm).1.ahead ha).2

theorem start_le_stop_of_mem_findAll (h : m ∈ r.findAll t) : m.start ≤ m.stop := by
  obtain ⟨a, b, -, hstart, hstop⟩ := Text.slice?_eq_some_iff.mp (slice?_of_mem_findAll h)
  omega

theorem mentions_of_mem_text {c : Char} (h : m ∈ r.findAll t) (hc : c ∈ m.text t) :
    r.root.mentions c = true := by
  obtain ⟨a, b, ha, hm⟩ := (findAll_successive r t).matchAt?_of_mem h
  obtain ⟨hspans, piece, hpiece, -, hall⟩ := Node.matchAt?_spans hm
  have htext := (hspans.ahead ha).1
  rw [List.append_cancel_right (htext.symm.trans hpiece)] at hc
  exact hall c hc

end Copydesk.Regex
