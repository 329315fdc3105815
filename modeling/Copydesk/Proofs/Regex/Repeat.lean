import Copydesk.Proofs.Regex.Reach
import Copydesk.Proofs.Text.Line

/-! Matching at the points of a text. Of the runs that copies of a single character can take, the
longest after which the rest of the expression matches is taken. -/

namespace Copydesk.Regex

open Text

/-- The point of a text between two parts of it. -/
def Point.between (pre rest : Text) : Point := ⟨pre.getLast?, rest, rest.length, size pre⟩

theorem Point.next?_between (pre : Text) (c : Char) (rest : Text) :
    (between pre (c :: rest)).next? = some (c, between (pre ++ [c]) rest) := by
  simp [next?, between, size_append, size]

namespace CharSet

variable (s t : CharSet) (a c : Char)

theorem mem_empty : empty.mem c = false := rfl

theorem mem_compl : s.compl.mem c = !s.mem c := rfl

theorem mem_union : (union s t).mem c = (s.mem c || t.mem c) := rfl

theorem mem_range_self : (range a a).mem c = (c == a) := by
  rw [mem, Bool.eq_iff_iff, Bool.and_eq_true, decide_eq_true_eq, decide_eq_true_eq, beq_iff_eq]
  exact ⟨fun h => Char.le_antisymm h.2 h.1, fun h => h ▸ ⟨Char.le_refl _, Char.le_refl _⟩⟩

end CharSet

theorem not_holds_line {c : Char} (hc : c ≠ '\n') (other : Option Char) :
    (Look.lineStart false).holds (some c) other = false ∧
      (Look.lineEnd false).holds other (some c) = false := by
  simp only [Look.holds]
  constructor <;> split <;> simp_all

theorem holds_lineStart (pre : Text) (ahead : Option Char) :
    (Look.lineStart false).holds pre.getLast? ahead = true ↔ lastLine pre = [] := by
  cases hpre : pre.getLast? with
  | none =>
    rw [List.getLast?_eq_none_iff.mp hpre]
    exact ⟨fun _ => rfl, fun _ => rfl⟩
  | some c =>
    obtain ⟨x, rfl⟩ := List.getLast?_eq_some_iff.mp hpre
    rw [lastLine_append]
    by_cases hc : c = '\n'
    · subst hc
      exact ⟨fun _ => rfl, fun _ => rfl⟩
    · rw [if_neg (by simpa using Ne.symm hc), (not_holds_line hc ahead).1]
      simp

theorem holds_lineEnd (back : Option Char) (t : Text) :
    (Look.lineEnd false).holds back t.head? = true ↔ firstLine t = [] := by
  cases t with
  | nil => exact ⟨fun _ => rfl, fun _ => rfl⟩
  | cons c t =>
    rw [firstLine_cons]
    by_cases hc : c = '\n'
    · subst hc
      exact ⟨fun _ => rfl, fun _ => rfl⟩
    · rw [if_neg hc, List.head?_cons, (not_holds_line hc back).2]
      simp

section Nodes

variable {α : Type} (p : Point) (g : Groups) (k : Point → Groups → Option α)

theorem matcher_cat (a b : Node) :
    (Node.cat a b).matcher p g k = a.matcher p g fun q h => b.matcher q h k := rfl

theorem matcher_alt (a b : Node) :
    (Node.alt a b).matcher p g k = (a.matcher p g k).or (b.matcher p g k) := by
  simp only [Node.matcher, Matcher.orElse]
  cases a.matcher p g k <;> rfl

theorem matcher_group (i : Nat) (a : Node) : (Node.group i a).matcher p g k =
    a.matcher p g fun q h => k q ((i, p.offset, q.offset) :: h) := rfl

theorem matcher_rep (lo : Nat) (hi : Option Nat) (greedy : Bool) (a : Node) :
    (Node.rep lo hi greedy a).matcher p g k =
      Matcher.repeated a.matcher lo hi greedy p g k := rfl

theorem matcher_lineStart (pre t : Text) :
    (Node.look (.lineStart false)).matcher (.between pre t) g k =
      if lastLine pre = [] then k (.between pre t) g else none := by
  simp only [Node.matcher, ← holds_lineStart pre t.head?]
  rfl

theorem matcher_lineEnd (pre t : Text) :
    (Node.look (.lineEnd false)).matcher (.between pre t) g k =
      if firstLine t = [] then k (.between pre t) g else none := by
  simp only [Node.matcher, ← holds_lineEnd pre.getLast? t]
  rfl

end Nodes

section Single

variable {α : Type} {s : CharSet} {pre t u w : Text} {g : Groups} {k : Point → Groups → Option α}
  {r : α}

theorem matcher_one_cons (s : CharSet) (pre : Text) (c : Char) (t : Text) (g : Groups)
    (k : Point → Groups → Option α) : (Node.one s).matcher (.between pre (c :: t)) g k =
      if s.mem c then k (.between (pre ++ [c]) t) g else none := by
  simp only [Node.matcher, Point.next?_between]

theorem exists_of_one (h : (Node.one s).matcher (.between pre t) g k = some r) :
    ∃ c u, t = c :: u ∧ s.mem c = true ∧ k (.between (pre ++ [c]) u) g = some r := by
  cases t with
  | nil => cases h
  | cons c u =>
    rw [matcher_one_cons] at h
    split at h
    · rename_i hc
      exact ⟨c, u, rfl, hc, h⟩
    · cases h

/-- As many copies as there are characters ahead, at most. -/
def many (s : CharSet) (pre t : Text) (g : Groups) (k : Point → Groups → Option α) : Option α :=
  Matcher.oneOrMore (Node.one s).matcher true t.length (.between pre t) g k

theorem many_cons {c : Char} (hc : s.mem c = true) :
    many s pre (c :: t) g k = (many s (pre ++ [c]) t g k).or (k (.between (pre ++ [c]) t) g) := by
  have hleft : (Point.between (pre ++ [c]) t).left < (Point.between pre (c :: t)).left :=
    Nat.lt_succ_self _
  simp only [many, List.length_cons, Matcher.oneOrMore, matcher_one_cons, if_pos hc, if_pos hleft,
    Matcher.orElse]
  rw [← many]
  cases many s (pre ++ [c]) t g k <;> rfl

theorem exists_of_many (h : many s pre t g k = some r) :
    ∃ w u, w ≠ [] ∧ t = w ++ u ∧ (∀ c ∈ w, s.mem c = true) ∧
      k (.between (pre ++ w) u) g = some r := by
  induction t generalizing pre with
  | nil => cases h
  | cons c t ih =>
    by_cases hc : s.mem c = true
    · rw [many_cons hc, Option.or_eq_some_iff] at h
      rcases h with h | ⟨-, h⟩
      · obtain ⟨w, u, -, rfl, hw, hk⟩ := ih h
        refine ⟨c :: w, u, List.cons_ne_nil c w, rfl, List.forall_mem_cons.mpr ⟨hc, hw⟩, ?_⟩
        rwa [List.append_assoc] at hk
      · exact ⟨[c], t, List.cons_ne_nil c [], rfl, by simpa using hc, h⟩
    · simp only [many, List.length_cons, Matcher.oneOrMore, matcher_one_cons, if_neg hc] at h
      cases h

theorem many_eq_none (hnone : ∀ v u, v ≠ [] → t = v ++ u → (∀ c ∈ v, s.mem c = true) →
    k (.between (pre ++ v) u) g = none) : many s pre t g k = none := by
  cases hmany : many s pre t g k with
  | none => rfl
  | some r =>
    obtain ⟨v, u, hv, hu, hvs, hk⟩ := exists_of_many hmany
    rw [hnone v u hv hu hvs] at hk
    cases hk

theorem many_eq_some (hne : w ≠ []) (hw : ∀ c ∈ w, s.mem c = true)
    (hk : k (.between (pre ++ w) u) g = some r)
    (hlonger : ∀ v u', v ≠ [] → u = v ++ u' → (∀ c ∈ v, s.mem c = true) →
      k (.between (pre ++ (w ++ v)) u') g = none) :
    many s pre (w ++ u) g k = some r := by
  induction w generalizing pre with
  | nil => exact absurd rfl hne
  | cons c w ih =>
    obtain ⟨hc, hw⟩ := List.forall_mem_cons.mp hw
    rw [List.cons_append, many_cons hc]
    by_cases hnil : w = []
    · subst hnil
      have hnone : many s (pre ++ [c]) u g k = none := by
        refine many_eq_none fun v u' hv hu hvs => ?_
        rw [List.append_assoc]
        exact hlonger v u' hv hu hvs
      rw [List.nil_append, hnone, Option.none_or, hk]
    · have hmore : many s (pre ++ [c]) (w ++ u) g k = some r := by
        refine ih hnil hw ?_ fun v u' hv hu hvs => ?_
        · rwa [List.append_assoc]
        · rw [List.append_assoc]
          exact hlonger v u' hv hu hvs
      rw [hmore, Option.some_or]

theorem exactly_append {n : Nat} (hn : w.length = n) (hw : ∀ c ∈ w, s.mem c = true) :
    Matcher.exactly (Node.one s).matcher n (.between pre (w ++ u)) g k =
      k (.between (pre ++ w) u) g := by
  induction w generalizing pre n with
  | nil =>
    obtain rfl := hn
    rw [List.append_nil]
    rfl
  | cons c w ih =>
    obtain rfl := hn
    obtain ⟨hc, hw⟩ := List.forall_mem_cons.mp hw
    rw [List.cons_append, List.length_cons, Matcher.exactly, Matcher.andThen, matcher_one_cons,
      if_pos hc, ih rfl hw, List.append_assoc]
    rfl

theorem exists_of_exactly {n : Nat}
    (h : Matcher.exactly (Node.one s).matcher n (.between pre t) g k = some r) :
    ∃ w u, w.length = n ∧ t = w ++ u ∧ (∀ c ∈ w, s.mem c = true) ∧
      k (.between (pre ++ w) u) g = some r := by
  induction n generalizing pre t with
  | zero => exact ⟨[], t, rfl, rfl, by simp, by rwa [List.append_nil]⟩
  | succ n ih =>
    rw [Matcher.exactly, Matcher.andThen] at h
    obtain ⟨c, t, rfl, hc, h⟩ := exists_of_one h
    obtain ⟨w, u, rfl, rfl, hw, hk⟩ := ih h
    refine ⟨c :: w, u, rfl, rfl, List.forall_mem_cons.mpr ⟨hc, hw⟩, ?_⟩
    rwa [List.append_assoc] at hk

theorem repeated_zero (s : CharSet) (pre t : Text) (g : Groups)
    (k : Point → Groups → Option α) :
    Matcher.repeated (Node.one s).matcher 0 none true (.between pre t) g k =
      (many s pre t g k).or (k (.between pre t) g) := by
  have hmore : Matcher.oneOrMore (Node.one s).matcher true (Point.between pre t).left
      (.between pre t) g k = many s pre t g k := rfl
  simp only [Matcher.repeated, Matcher.orElse, Matcher.skip, if_true, hmore]
  cases many s pre t g k <;> rfl

theorem exists_of_repeated {lo : Nat}
    (h : Matcher.repeated (Node.one s).matcher lo none true (.between pre t) g k = some r) :
    ∃ w u, lo ≤ w.length ∧ t = w ++ u ∧ (∀ c ∈ w, s.mem c = true) ∧
      k (.between (pre ++ w) u) g = some r := by
  cases lo with
  | zero =>
    rw [repeated_zero, Option.or_eq_some_iff] at h
    rcases h with h | ⟨-, h⟩
    · obtain ⟨w, u, -, hu, hw, hk⟩ := exists_of_many h
      exact ⟨w, u, Nat.zero_le _, hu, hw, hk⟩
    · exact ⟨[], t, Nat.le_refl 0, rfl, by simp, by rwa [List.append_nil]⟩
  | succ n =>
    obtain ⟨w, t, hn, rfl, hw, h⟩ := exists_of_exactly h
    obtain ⟨v, u, hv, rfl, hvs, hk⟩ := exists_of_many h
    have hlength : n + 1 ≤ (w ++ v).length := by
      have := List.length_pos_iff.mpr hv
      rw [List.length_append]
      omega
    refine ⟨w ++ v, u, hlength, (List.append_assoc w v u).symm, ?_, ?_⟩
    · exact List.forall_mem_append.mpr ⟨hw, hvs⟩
    · rwa [List.append_assoc] at hk

/-- The longest run after which the rest matches is taken. -/
theorem repeated_eq_some {lo : Nat} (hlo : lo ≤ w.length) (hw : ∀ c ∈ w, s.mem c = true)
    (hk : k (.between (pre ++ w) u) g = some r)
    (hlonger : ∀ v u', v ≠ [] → u = v ++ u' → (∀ c ∈ v, s.mem c = true) →
      k (.between (pre ++ (w ++ v)) u') g = none) :
    Matcher.repeated (Node.one s).matcher lo none true (.between pre (w ++ u)) g k = some r := by
  cases lo with
  | zero =>
    rw [repeated_zero]
    by_cases hnil : w = []
    · subst hnil
      rw [List.append_nil] at hk
      rw [List.nil_append, many_eq_none hlonger, Option.none_or, hk]
    · rw [many_eq_some hnil hw hk hlonger, Option.some_or]
  | succ n =>
    obtain ⟨x, y, rfl, hn⟩ : ∃ x y, x ++ y = w ∧ x.length = n :=
      ⟨_, _, List.take_append_drop n w, List.length_take_of_le (by omega)⟩
    have hy : y ≠ [] := by
      rintro rfl
      rw [List.append_nil] at hlo
      omega
    obtain ⟨hx, hys⟩ := List.forall_mem_append.mp hw
    rw [List.append_assoc]
    refine (exactly_append hn hx).trans (many_eq_some hy hys ?_ fun v u' hv hu hvs => ?_)
    · rwa [List.append_assoc]
    · have hnone := hlonger v u' hv hu hvs
      rwa [List.append_assoc x, ← List.append_assoc pre] at hnone

theorem exists_of_optional
    (h : (Node.rep 0 (some 1) true (.one s)).matcher (.between pre t) g k = some r) :
    ∃ w u, t = w ++ u ∧ (∀ c ∈ w, s.mem c = true) ∧ k (.between (pre ++ w) u) g = some r := by
  rw [matcher_rep] at h
  simp only [Matcher.repeated, Matcher.andThen, Matcher.exactly, Matcher.skip, Nat.sub_zero,
    Matcher.atMost, if_true, Matcher.orElse] at h
  split at h
  · rename_i hone
    obtain ⟨c, u, rfl, hc, hk⟩ := exists_of_one hone
    exact ⟨[c], u, rfl, by simpa using hc, hk.trans h⟩
  · exact ⟨[], t, rfl, by simp, by rwa [List.append_nil]⟩

def IsTotal (n : Node) : Prop := ∀ {α : Type} (p : Point) (g : Groups)
  (k : Point → Groups → Option α), (∀ p g, (k p g).isSome) → (n.matcher p g k).isSome

theorem isTotal_rep (hi : Option Nat) (s : CharSet) : IsTotal (.rep 0 hi true (.one s)) := by
  intro α p g k hk
  rw [matcher_rep]
  cases hi with
  | none =>
    simp only [Matcher.repeated, Matcher.orElse, Matcher.skip, if_true]
    split
    · rfl
    · exact hk p g
  | some n =>
    cases n with
    | zero => exact hk p g
    | succ n =>
      simp only [Matcher.repeated, Matcher.andThen, Matcher.exactly, Matcher.skip, Nat.sub_zero,
        Matcher.atMost, if_true, Matcher.orElse]
      split
      · rfl
      · exact hk p g

end Single

section Search

variable {n : Node} {pre t u w : Text} {r : Match × Point}

theorem search_of_matchAt? {fuel : Nat} {p : Point} (h : n.matchAt? p = some r) :
    n.search fuel p = some r := by
  cases fuel with
  | zero => exact h
  | succ fuel => rw [Node.search, h]

def NoneBegins (n : Node) (pre w t : Text) : Prop := ∀ x c y, w = x ++ c :: y →
  n.matchAt? (.between (pre ++ x) (c :: (y ++ t))) = none

theorem noneBegins_nil : NoneBegins n pre [] t := by simp [NoneBegins]

theorem NoneBegins.append {w' : Text} (h : NoneBegins n pre w (w' ++ t))
    (h' : NoneBegins n (pre ++ w) w' t) : NoneBegins n pre (w ++ w') t := by
  intro x c y hsplit
  rcases List.append_eq_append_iff.mp hsplit with ⟨z, rfl, hz⟩ | ⟨z, hz, hy⟩
  · rw [← List.append_assoc]
    exact h' z c y hz
  · cases z with
    | nil =>
      rw [List.append_nil] at hz
      have hfirst := h' [] c y hy.symm
      rwa [List.append_nil, hz] at hfirst
    | cons d z =>
      obtain ⟨rfl, rfl⟩ := List.cons.inj hy
      have hkept := h x c z hz
      rwa [← List.append_assoc] at hkept

theorem search_append (h : NoneBegins n pre w t) :
    n.search (w ++ t).length (.between pre (w ++ t)) =
      n.search t.length (.between (pre ++ w) t) := by
  induction w generalizing pre with
  | nil => rw [List.nil_append, List.append_nil]
  | cons c w ih =>
    have hfirst := h [] c w rfl
    rw [List.append_nil] at hfirst
    rw [List.cons_append, List.length_cons, Node.search, hfirst]
    simp only [Point.next?_between]
    rw [ih, List.append_assoc, List.singleton_append]
    intro x d y hw
    rw [List.append_assoc]
    exact h (c :: x) d y (by rw [hw, List.cons_append])

theorem searchAll_of_matchAt? {m : Match} {q : Point} (h : NoneBegins n pre w t)
    (hmatch : n.matchAt? (.between (pre ++ w) t) = some (m, q)) (hne : m.isEmpty = false)
    (fuel : Nat) (last : Option Nat) : n.searchAll (fuel + 1) last (.between pre (w ++ t)) =
      m :: n.searchAll fuel (some m.stop) q := by
  have hsearch : n.search (Point.between pre (w ++ t)).left (.between pre (w ++ t)) = some (m, q) :=
    (search_append h).trans (search_of_matchAt? hmatch)
  rw [Node.searchAll, hsearch]
  simp only [hne, Bool.false_and]
  rfl

theorem searchAll_eq_nil (h : NoneBegins n pre w [])
    (hend : n.matchAt? (.between (pre ++ w) []) = none) (fuel : Nat) (last : Option Nat) :
    n.searchAll fuel last (.between pre w) = [] := by
  cases fuel with
  | zero => rfl
  | succ fuel =>
    have hsearch := search_append h
    rw [List.append_nil] at hsearch
    have hnone : n.search (Point.between pre w).left (.between pre w) = none :=
      hsearch.trans hend
    rw [Node.searchAll, hnone]

/-- The match that is found is the leftmost. -/
theorem exists_noneBegins_of_search (h : n.search t.length (.between pre t) = some r) :
    ∃ w u, t = w ++ u ∧ NoneBegins n pre w u ∧ n.matchAt? (.between (pre ++ w) u) = some r := by
  induction t generalizing pre with
  | nil => exact ⟨[], [], rfl, noneBegins_nil, by rwa [List.append_nil]⟩
  | cons c t ih =>
    rw [List.length_cons, Node.search] at h
    split at h
    · rename_i r' hr
      exact ⟨[], c :: t, rfl, noneBegins_nil, by rw [List.append_nil, hr, h]⟩
    · rename_i hfirst
      simp only [Point.next?_between] at h
      obtain ⟨w, u, rfl, hw, hmatch⟩ := ih h
      refine ⟨c :: w, u, rfl, fun x d y hsplit => ?_, by rwa [List.append_assoc] at hmatch⟩
      cases x with
      | nil =>
        obtain ⟨rfl, rfl⟩ := List.cons.inj hsplit
        rwa [List.append_nil]
      | cons e x =>
        obtain ⟨rfl, htail⟩ := List.cons.inj hsplit
        have hnone := hw x d y htail
        rwa [List.append_assoc] at hnone

theorem exists_of_search (h : n.search t.length (.between pre t) = some r) :
    ∃ w u, t = w ++ u ∧ n.matchAt? (.between (pre ++ w) u) = some r := by
  obtain ⟨w, u, ht, -, hmatch⟩ := exists_noneBegins_of_search h
  exact ⟨w, u, ht, hmatch⟩

theorem noneBegins_of_search (h : n.search t.length (.between pre t) = none) :
    NoneBegins n pre t [] := by
  intro x c y hsplit
  induction t generalizing pre x with
  | nil => simp at hsplit
  | cons d t ih =>
    rw [List.length_cons, Node.search] at h
    split at h
    · cases h
    · rename_i hfirst
      simp only [Point.next?_between] at h
      cases x with
      | nil =>
        obtain ⟨rfl, rfl⟩ := List.cons.inj hsplit
        rwa [List.append_nil, List.append_nil]
      | cons e x =>
        obtain ⟨rfl, htail⟩ := List.cons.inj hsplit
        have hnone := ih h x htail
        rwa [List.append_assoc] at hnone

end Search

section Splice

theorem spliceFrom_piece (a x w new t : Text) (more : List (Nat × Nat × Text)) :
    spliceFrom (size a) (x ++ (w ++ t)) ((size (a ++ x), size (a ++ x ++ w), new) :: more) =
      x ++ (new ++ spliceFrom (size (a ++ x ++ w)) t more) := by
  have hstart : size (a ++ x) - size a = size x := by rw [size_append]; omega
  have hstop : size (a ++ x ++ w) - size a = size (x ++ w) := by
    rw [size_append, size_append, size_append]
    omega
  rw [spliceFrom, hstart, hstop, before_append, ← List.append_assoc x, after_append,
    List.append_assoc]

end Splice

end Copydesk.Regex
