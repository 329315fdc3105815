import Copydesk.Text.Basic

/-! Byte offsets of a text as cuts of it. A cut, a slice, a search each succeed exactly at the
offsets where the text falls into the pieces that they name. Occurrences are counted from the left
without overlap, and where none begins within another, all of them are counted. -/

namespace Copydesk.Text

theorem size_eq_zero {t : Text} (h : size t = 0) : t = [] := by
  cases t with
  | nil => rfl
  | cons c t =>
    have hc := Char.utf8Size_pos c
    simp only [size] at h
    omega

theorem length_le_size (t : Text) : t.length ≤ size t := by
  induction t with
  | nil => exact Nat.le_refl 0
  | cons c t ih =>
    have hc := Char.utf8Size_pos c
    rw [List.length_cons, size]
    omega

theorem size_replicate (n : Nat) (c : Char) : size (List.replicate n c) = n * c.utf8Size := by
  induction n with
  | zero => exact (Nat.zero_mul _).symm
  | succ n ih => rw [List.replicate_succ, size, ih, Nat.succ_mul, Nat.add_comm]

theorem cut?_append (a b : Text) : cut? (a ++ b) (size a) = some (a, b) := by
  induction a with
  | nil => cases b <;> rfl
  | cons c a ih =>
    obtain ⟨n, hn⟩ : ∃ n, c.utf8Size + size a = n + 1 :=
      ⟨c.utf8Size + size a - 1, by have := Char.utf8Size_pos c; omega⟩
    have hle : c.utf8Size ≤ n + 1 := by omega
    have hsub : n + 1 - c.utf8Size = size a := by omega
    rw [List.cons_append, size, hn, cut?, if_pos hle, hsub, ih]
    rfl

theorem cut?_eq_some_iff {t a b : Text} {n : Nat} :
    cut? t n = some (a, b) ↔ a ++ b = t ∧ size a = n := by
  constructor
  · exact append_of_cut?
  · rintro ⟨rfl, rfl⟩
    exact cut?_append a b

theorem append_inj_of_size {a b c d : Text} (h : a ++ b = c ++ d) (hs : size a = size c) :
    a = c ∧ b = d := by
  have hab := cut?_append a b
  rw [h, hs, cut?_append c d] at hab
  simpa only [Option.some.injEq, Prod.mk.injEq, eq_comm] using hab

theorem isBoundary_iff {t : Text} {n : Nat} :
    isBoundary t n = true ↔ ∃ a b, a ++ b = t ∧ size a = n := by
  simp only [isBoundary, Option.isSome_iff_exists, Prod.exists, cut?_eq_some_iff]

theorem before_append (a b : Text) : before (a ++ b) (size a) = a := by
  rw [before, cut?_append]
  rfl

theorem after_append (a b : Text) : after (a ++ b) (size a) = b := by
  rw [after, cut?_append]
  rfl

theorem slice?_eq_some_iff {t m : Text} {i j : Nat} :
    slice? t i j = some m ↔ ∃ a b, a ++ (m ++ b) = t ∧ size a = i ∧ i + size m = j := by
  constructor
  · intro h
    unfold slice? at h
    split at h
    · simp at h
    · simp only [Option.bind_eq_bind, Option.bind_eq_some_iff, Prod.exists,
        cut?_eq_some_iff, Option.pure_def, Option.some.injEq] at h
      obtain ⟨a, r, ⟨hr, ha⟩, m', b, ⟨hb, hm⟩, rfl⟩ := h
      exact ⟨a, b, by rw [hb, hr], ha, by omega⟩
  · rintro ⟨a, b, rfl, rfl, rfl⟩
    unfold slice?
    rw [if_neg (by omega), cut?_append]
    simp only [Option.bind_eq_bind, Option.bind_some, Nat.add_sub_cancel_left, cut?_append,
      Option.pure_def]

theorem slice?_append (a m b : Text) :
    slice? (a ++ (m ++ b)) (size a) (size a + size m) = some m := by
  rw [slice?_eq_some_iff]
  exact ⟨a, b, rfl, rfl, rfl⟩

theorem slice_append (a m b : Text) : slice (a ++ (m ++ b)) (size a) (size a + size m) = m := by
  rw [slice, slice?_append]
  rfl

theorem slice_between (a m b : Text) : slice (a ++ (m ++ b)) (size a) (size (a ++ m)) = m := by
  rw [size_append, slice_append]

theorem slice_eq_of_slice? {t m : Text} {i j : Nat} (h : slice? t i j = some m) :
    slice t i j = m := by
  rw [slice, h]
  rfl

theorem slice?_trans {t m m' : Text} {i j k : Nat} (hm : slice? t i j = some m)
    (hm' : slice? t j k = some m') : slice? t i k = some (m ++ m') := by
  rw [slice?_eq_some_iff] at hm hm' ⊢
  obtain ⟨a, b, rfl, rfl, rfl⟩ := hm
  obtain ⟨c, d, hcd, hc, rfl⟩ := hm'
  rw [← List.append_assoc a] at hcd
  obtain ⟨rfl, rfl⟩ := append_inj_of_size hcd (hc.trans (size_append a m).symm)
  refine ⟨a, d, by simp only [List.append_assoc], rfl, ?_⟩
  rw [size_append, Nat.add_assoc]

theorem slice?_of_slice? {t u m : Text} {offset i j : Nat}
    (hu : slice? t offset (offset + size u) = some u) (h : slice? u i j = some m) :
    slice? t (offset + i) (offset + j) = some m := by
  rw [slice?_eq_some_iff] at hu h ⊢
  obtain ⟨p, s, rfl, rfl, -⟩ := hu
  obtain ⟨q, r, rfl, rfl, rfl⟩ := h
  refine ⟨p ++ q, r ++ s, ?_, size_append p q, Nat.add_assoc _ _ _⟩
  simp only [List.append_assoc]

theorem isBoundary_of_slice? {t m : Text} {i j : Nat} (h : slice? t i j = some m) :
    isBoundary t i = true ∧ isBoundary t j = true ∧ i ≤ j := by
  rw [slice?_eq_some_iff] at h
  obtain ⟨a, b, rfl, rfl, rfl⟩ := h
  rw [isBoundary_iff, isBoundary_iff]
  exact ⟨⟨a, m ++ b, rfl, rfl⟩, ⟨a ++ m, b, List.append_assoc a m b, size_append a m⟩,
    Nat.le_add_right _ _⟩

theorem exists_slice? {t : Text} {i j : Nat} (hi : isBoundary t i = true)
    (hj : isBoundary t j = true) (h : i ≤ j) : ∃ m, slice? t i j = some m := by
  rw [isBoundary_iff] at hi hj
  obtain ⟨a, b, rfl, rfl⟩ := hi
  obtain ⟨c, d, hcd, rfl⟩ := hj
  have ha : a <+: a ++ b := List.prefix_append a b
  have hc : c <+: a ++ b := hcd ▸ List.prefix_append c d
  rcases List.prefix_or_prefix_of_prefix ha hc with ⟨m, rfl⟩ | ⟨m, rfl⟩
  · refine ⟨m, ?_⟩
    rw [slice?_eq_some_iff]
    exact ⟨a, d, by rw [← hcd, List.append_assoc], rfl, (size_append a m).symm⟩
  · -- The second cut lies no earlier, so the two are one.
    have hm : m = [] := size_eq_zero (by rw [size_append] at h; omega)
    subst hm
    refine ⟨[], ?_⟩
    rw [List.append_nil, slice?_eq_some_iff]
    exact ⟨c, b, rfl, rfl, rfl⟩

theorem infix_of_slice? {t m m' : Text} {i j p q : Nat} (hm : slice? t i j = some m)
    (hm' : slice? t p q = some m') (hp : p ≤ i) (hq : j ≤ q) : m <:+: m' := by
  obtain ⟨hi, hj, -⟩ := isBoundary_of_slice? hm
  obtain ⟨hpt, hqt, -⟩ := isBoundary_of_slice? hm'
  obtain ⟨x, hx⟩ := exists_slice? hpt hi hp
  obtain ⟨y, hy⟩ := exists_slice? hj hqt hq
  have hwhole := slice?_trans (slice?_trans hx hm) hy
  exact ⟨x, y, Option.some.inj (hwhole.symm.trans hm')⟩

theorem prefix_before (t : Text) (n : Nat) : before t n <+: t := by
  rw [before]
  cases h : cut? t n with
  | none => exact List.nil_prefix
  | some p => exact ⟨_, (append_of_cut? h).1⟩

theorem suffix_after (t : Text) (n : Nat) : after t n <:+ t := by
  rw [after]
  cases h : cut? t n with
  | none => exact List.nil_suffix
  | some p => exact ⟨_, (append_of_cut? h).1⟩

theorem infix_slice (t : Text) (i j : Nat) : slice t i j <:+: t := by
  rw [slice]
  cases h : slice? t i j with
  | none => exact List.nil_infix
  | some m =>
    rw [slice?_eq_some_iff] at h
    obtain ⟨a, b, rfl, -⟩ := h
    exact ⟨a, b, List.append_assoc a m b⟩

theorem startsWith_iff {t p : Text} : startsWith t p = true ↔ ∃ r, p ++ r = t := by
  rw [startsWith, Option.isSome_iff_exists]
  exact exists_congr fun r => afterPrefix?_eq_some_iff.trans eq_comm

theorem beforeSuffix?_eq_some_iff {s t r : Text} : beforeSuffix? s t = some r ↔ t = r ++ s := by
  rw [beforeSuffix?, Option.map_eq_some_iff]
  simp only [afterPrefix?_eq_some_iff]
  constructor
  · rintro ⟨u, hu, rfl⟩
    rw [← List.reverse_reverse t, hu, List.reverse_append, List.reverse_reverse]
  · rintro rfl
    exact ⟨r.reverse, List.reverse_append, List.reverse_reverse r⟩

theorem exists_append_of_find? {needle t : Text} {n : Nat} (h : find? needle t = some n) :
    ∃ a b, a ++ (needle ++ b) = t ∧ size a = n := by
  induction t generalizing n with
  | nil =>
    unfold find? at h
    split at h
    · rename_i hn
      subst hn
      exact ⟨[], [], rfl, by simpa [size] using h⟩
    · simp at h
  | cons c t ih =>
    unfold find? at h
    split at h
    · rename_i hs
      rw [startsWith_iff] at hs
      obtain ⟨r, hr⟩ := hs
      exact ⟨[], r, hr, by simpa [size] using h⟩
    · obtain ⟨k, hk, rfl⟩ := Option.map_eq_some_iff.mp h
      obtain ⟨a, b, rfl, rfl⟩ := ih hk
      exact ⟨c :: a, b, rfl, by rw [size, Nat.add_comm]⟩

theorem exists_find?_eq {needle x y t : Text} (h : x ++ (needle ++ y) = t) :
    ∃ n, find? needle t = some n ∧ n ≤ size x := by
  induction t generalizing x with
  | nil =>
    obtain ⟨-, hrest⟩ := List.append_eq_nil_iff.mp h
    obtain ⟨rfl, -⟩ := List.append_eq_nil_iff.mp hrest
    exact ⟨0, rfl, Nat.zero_le _⟩
  | cons c t ih =>
    rw [find?]
    split
    · exact ⟨0, rfl, Nat.zero_le _⟩
    · rename_i hs
      rw [startsWith_iff] at hs
      cases x with
      | nil => exact absurd ⟨y, h⟩ hs
      | cons d x =>
        obtain ⟨rfl, hrest⟩ := List.cons.inj h
        obtain ⟨n, hn, hle⟩ := ih hrest
        refine ⟨n + d.utf8Size, by rw [hn]; rfl, ?_⟩
        rw [size]
        omega

theorem find?_append_of_not_mem {c : Char} {a : Text} (h : c ∉ a) (b : Text) :
    find? [c] (a ++ c :: b) = some (size a) := by
  induction a with
  | nil =>
    have hstart : startsWith (c :: b) [c] = true := by
      rw [startsWith_iff]
      exact ⟨b, rfl⟩
    rw [List.nil_append, find?, if_pos hstart]
    rfl
  | cons d a ih =>
    obtain ⟨hd, ha⟩ := List.ne_and_not_mem_of_not_mem_cons h
    have hstart : ¬startsWith (d :: (a ++ c :: b)) [c] = true := by
      rw [startsWith_iff]
      rintro ⟨r, hr⟩
      exact hd (List.cons.inj hr).1
    rw [List.cons_append, find?, if_neg hstart, ih ha, Option.map_some, size, Nat.add_comm]

theorem contains_iff {t needle : Text} : contains t needle = true ↔ needle <:+: t := by
  rw [contains, Option.isSome_iff_exists]
  constructor
  · rintro ⟨n, hn⟩
    obtain ⟨a, b, hab, -⟩ := exists_append_of_find? hn
    exact ⟨a, b, (List.append_assoc a needle b).trans hab⟩
  · rintro ⟨a, b, hab⟩
    obtain ⟨n, hn, -⟩ := exists_find?_eq ((List.append_assoc a needle b).symm.trans hab)
    exact ⟨n, hn⟩

theorem exists_append_of_mem_occurrencesFrom {needle t : Text} {start skip n : Nat}
    (h : n ∈ occurrencesFrom needle start skip t) :
    ∃ a b, a ++ (needle ++ b) = t ∧ start + size a = n := by
  induction t generalizing start skip with
  | nil => simp [occurrencesFrom] at h
  | cons c t ih =>
    -- Past the first character, which the scan skips or which begins no occurrence.
    have later {k : Nat} (hk : n ∈ occurrencesFrom needle (start + c.utf8Size) k t) :
        ∃ a b, a ++ (needle ++ b) = c :: t ∧ start + size a = n := by
      obtain ⟨a, b, rfl, rfl⟩ := ih hk
      exact ⟨c :: a, b, rfl, by rw [size, Nat.add_assoc]⟩
    cases skip with
    | succ skip => exact later h
    | zero =>
      unfold occurrencesFrom at h
      split at h
      · rename_i hs
        rcases List.mem_cons.mp h with rfl | h
        · rw [startsWith_iff] at hs
          obtain ⟨r, hr⟩ := hs
          exact ⟨[], r, hr, rfl⟩
        · exact later h
      · exact later h

theorem exists_append_of_mem_occurrences {needle t : Text} {n : Nat}
    (h : n ∈ occurrences needle t) : ∃ a b, a ++ (needle ++ b) = t ∧ size a = n := by
  simpa only [Nat.zero_add] using exists_append_of_mem_occurrencesFrom h

theorem size_sub_dropWhile (p : Char → Bool) (t : Text) :
    size t - size (t.dropWhile p) = size (t.takeWhile p) := by
  have h := size_append (t.takeWhile p) (t.dropWhile p)
  rw [List.takeWhile_append_dropWhile] at h
  omega

theorem dropEndWhile_append (p : Char → Bool) (t : Text) :
    dropEndWhile p t ++ (t.reverse.takeWhile p).reverse = t := by
  rw [dropEndWhile, ← List.reverse_append, List.takeWhile_append_dropWhile, List.reverse_reverse]

theorem dropEndWhile_prefix (p : Char → Bool) (t : Text) : dropEndWhile p t <+: t :=
  ⟨_, dropEndWhile_append p t⟩

section Occurrences

variable {needle a b t : Text} {start skip n : Nat}

theorem le_of_mem_occurrencesFrom (h : n ∈ occurrencesFrom needle start skip t) : start ≤ n := by
  obtain ⟨a, -, -, rfl⟩ := exists_append_of_mem_occurrencesFrom h
  exact Nat.le_add_right start _

theorem occurrencesFrom_pairwise (needle t : Text) (start skip : Nat) :
    (occurrencesFrom needle start skip t).Pairwise (· < ·) := by
  induction t generalizing start skip with
  | nil => cases skip <;> exact .nil
  | cons c t ih =>
    cases skip with
    | succ skip => exact ih _ skip
    | zero =>
      rw [occurrencesFrom]
      split
      · refine .cons (fun n hn => ?_) (ih _ _)
        have hle := le_of_mem_occurrencesFrom hn
        have hc := Char.utf8Size_pos c
        omega
      · exact ih _ 0

theorem occurrences_pairwise (needle t : Text) : (occurrences needle t).Pairwise (· < ·) :=
  occurrencesFrom_pairwise needle t 0 0

/-- No occurrence of the needle begins within another one. -/
def IsDisjointIn (needle t : Text) : Prop :=
  ∀ a b c d, a ++ (needle ++ b) = t → c ++ (needle ++ d) = t → a.length < c.length →
    a.length + needle.length ≤ c.length

theorem IsDisjointIn.of_append (h : IsDisjointIn needle (a ++ t)) : IsDisjointIn needle t := by
  intro c d e f hcd hef hlt
  have hcd' : a ++ c ++ (needle ++ d) = a ++ t := by rw [List.append_assoc, hcd]
  have hef' : a ++ e ++ (needle ++ f) = a ++ t := by rw [List.append_assoc, hef]
  have hle := h _ _ _ _ hcd' hef' (by simp only [List.length_append]; omega)
  simp only [List.length_append] at hle
  omega

/-- An occurrence is counted if those before it end where it begins or earlier. -/
theorem mem_occurrencesFrom_of_append (hn : needle ≠ []) (h : a ++ (needle ++ b) = t)
    (hskip : skip ≤ a.length)
    (hd : ∀ c d, c ++ (needle ++ d) = t → c.length < a.length →
      c.length + needle.length ≤ a.length) :
    start + size a ∈ occurrencesFrom needle start skip t := by
  induction t generalizing a start skip with
  | nil => exact absurd (List.append_eq_nil_iff.mp (List.append_eq_nil_iff.mp h).2).1 hn
  | cons x t ih =>
    cases a with
    | nil =>
      obtain rfl := Nat.le_zero.mp hskip
      rw [occurrencesFrom, if_pos (startsWith_iff.mpr ⟨b, h⟩)]
      exact List.mem_cons_self
    | cons y a =>
      obtain ⟨rfl, ht⟩ := List.cons.inj h
      -- past the first character, which is skipped or begins another occurrence
      have later {k : Nat} (hk : k ≤ a.length) :
          start + size (y :: a) ∈ occurrencesFrom needle (start + y.utf8Size) k t := by
        rw [size, ← Nat.add_assoc]
        refine ih ht hk fun c d hcd hlt => ?_
        have hle := hd (y :: c) d (congrArg (List.cons y) hcd) (Nat.succ_lt_succ hlt)
        simp only [List.length_cons] at hle
        omega
      cases skip with
      | succ skip => exact later (Nat.le_of_succ_le_succ hskip)
      | zero =>
        rw [occurrencesFrom]
        split
        · rename_i hs
          obtain ⟨r, hr⟩ := startsWith_iff.mp hs
          have hle := hd [] r hr (Nat.succ_pos _)
          refine List.mem_cons_of_mem _ (later ?_)
          simp only [List.length_nil, List.length_cons] at hle
          omega
        · exact later (Nat.zero_le _)

theorem IsDisjointIn.mem_occurrences (hd : IsDisjointIn needle t) (hn : needle ≠ [])
    (h : a ++ (needle ++ b) = t) : size a ∈ occurrences needle t := by
  rw [← Nat.zero_add (size a)]
  exact mem_occurrencesFrom_of_append hn h (Nat.zero_le _) fun c d hcd hlt => hd c d a b hcd h hlt

end Occurrences

end Copydesk.Text
