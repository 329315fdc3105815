import Copydesk.Proofs.Markup.Bytes
import Copydesk.Proofs.Markup.CodeSpans
import Mathlib.Order.Bounds.Basic

/-! Code spans byte by byte. A scan of the bytes from left to right pairs the runs of backticks of a
line, and exactly the bytes between two paired runs are hidden. -/

namespace Copydesk.Markup

open Text

/-- A run of `n` backticks begins at byte `i`, and no more of them stand beside it. -/
structure IsRunAt (bs : List UInt8) (n i : Nat) : Prop where
  pos : 0 < n
  within : ∀ k, i ≤ k → k < i + n → bs[k]? = some 96
  before : ∀ k, k + 1 = i → bs[k]? ≠ some 96
  after : bs[i + n]? ≠ some 96

/-- Where the two runs of a code span begin, and how long both are. -/
structure CodeSpan where
  start : Nat
  stop : Nat
  width : Nat

namespace CodeSpan

def Covers (s : CodeSpan) (i : Nat) : Prop := s.start + s.width ≤ i ∧ i < s.stop

instance (s : CodeSpan) (i : Nat) : Decidable (s.Covers i) :=
  inferInstanceAs (Decidable (s.start + s.width ≤ i ∧ i < s.stop))

theorem not_covers_of_lt {s : CodeSpan} {i : Nat} (h : i < s.start) : ¬s.Covers i := by
  rintro ⟨hlo, -⟩
  omega

def Delimits (s : CodeSpan) (i : Nat) : Prop :=
  (s.start ≤ i ∧ i < s.start + s.width) ∨ (s.stop ≤ i ∧ i < s.stop + s.width)

end CodeSpan

/-- The code spans that a scan of the bytes finds from byte `i` on. The first run that it meets
opens a span if a run of the same length comes later; the first of these closes it, and the scan
goes on after that. A run that no such one follows is passed over. -/
inductive Finds (bs : List UInt8) : Nat → List CodeSpan → Prop
  | stop {i : Nat} (hnone : ∀ n j, i ≤ j → ¬IsRunAt bs n j) : Finds bs i []
  | span {i j k n : Nat} {spans : List CodeSpan}
      (hnext : IsLeast {j | i ≤ j ∧ ∃ n, IsRunAt bs n j} j) (hrun : IsRunAt bs n j)
      (hclose : IsLeast {k | j + n ≤ k ∧ IsRunAt bs n k} k) (h : Finds bs (k + n) spans) :
      Finds bs i (⟨j, k, n⟩ :: spans)
  | lone {i j n : Nat} {spans : List CodeSpan}
      (hnext : IsLeast {j | i ≤ j ∧ ∃ n, IsRunAt bs n j} j) (hrun : IsRunAt bs n j)
      (hclose : ∀ k, j + n ≤ k → ¬IsRunAt bs n k) (h : Finds bs (j + n) spans) : Finds bs i spans

section Scan

variable {bs : List UInt8} {spans spans' : List CodeSpan} {s s' : CodeSpan} {i j m n : Nat}

theorem IsRunAt.width_eq (h : IsRunAt bs n i) (h' : IsRunAt bs m i) : n = m := by
  rcases Nat.lt_trichotomy n m with hlt | heq | hlt
  · exact absurd (h'.within (i + n) (by omega) (by omega)) h.after
  · exact heq
  · exact absurd (h.within (i + m) (by omega) (by omega)) h'.after

/-- The bytes alone decide which spans are found. -/
theorem Finds.eq (h : Finds bs i spans) (h' : Finds bs i spans') : spans = spans' := by
  -- the next run and the next one of its width are nearest, so both have the same
  induction h generalizing spans' with
  | stop hnone =>
    cases h' with
    | stop => rfl
    | span hnext hrun => exact absurd hrun (hnone _ _ hnext.1.1)
    | lone hnext hrun => exact absurd hrun (hnone _ _ hnext.1.1)
  | span hnext hrun hclose _ ih =>
    cases h' with
    | stop hnone => exact absurd hrun (hnone _ _ hnext.1.1)
    | span hnext' hrun' hclose' h' =>
      obtain rfl := hnext.unique hnext'
      obtain rfl := hrun.width_eq hrun'
      obtain rfl := hclose.unique hclose'
      rw [ih h']
    | lone hnext' hrun' hclose' =>
      obtain rfl := hnext.unique hnext'
      obtain rfl := hrun.width_eq hrun'
      exact absurd hclose.1.2 (hclose' _ hclose.1.1)
  | lone hnext hrun hclose _ ih =>
    cases h' with
    | stop hnone => exact absurd hrun (hnone _ _ hnext.1.1)
    | span hnext' hrun' hclose' h' =>
      obtain rfl := hnext.unique hnext'
      obtain rfl := hrun.width_eq hrun'
      exact absurd hclose'.1.2 (hclose _ hclose'.1.1)
    | lone hnext' hrun' hclose' h' =>
      obtain rfl := hnext.unique hnext'
      obtain rfl := hrun.width_eq hrun'
      exact ih h'

theorem Finds.of_le (h : Finds bs j spans) (hle : i ≤ j)
    (hnone : ∀ n k, i ≤ k → k < j → ¬IsRunAt bs n k) : Finds bs i spans := by
  have hleast {k : Nat} (hk : IsLeast {k | j ≤ k ∧ ∃ n, IsRunAt bs n k} k) :
      IsLeast {k | i ≤ k ∧ ∃ n, IsRunAt bs n k} k := by
    refine ⟨⟨hle.trans hk.1.1, hk.1.2⟩, ?_⟩
    rintro l ⟨hil, n, hl⟩
    exact hk.2 ⟨Nat.le_of_not_lt fun hlj => hnone n l hil hlj hl, n, hl⟩
  cases h with
  | stop hstop =>
    refine .stop fun n k hik hrun => ?_
    exact hstop n k (Nat.le_of_not_lt fun hkj => hnone n k hik hkj hrun) hrun
  | span hnext hrun hclose h => exact .span (hleast hnext) hrun hclose h
  | lone hnext hrun hclose h => exact .lone (hleast hnext) hrun hclose h

theorem Finds.le (h : Finds bs i spans) :
    ∀ s ∈ spans, i ≤ s.start ∧ s.start + s.width ≤ s.stop := by
  induction h with
  | stop => simp
  | span hnext _ hclose _ ih =>
    have hij := hnext.1.1
    have hjk := hclose.1.1
    refine List.forall_mem_cons.mpr ⟨⟨hij, hjk⟩, fun s hs => ?_⟩
    obtain ⟨hstart, hstop⟩ := ih s hs
    exact ⟨by omega, hstop⟩
  | lone hnext _ _ _ ih =>
    have hij := hnext.1.1
    intro s hs
    obtain ⟨hstart, hstop⟩ := ih s hs
    exact ⟨by omega, hstop⟩

theorem Finds.getElem?_eq (h : Finds bs i spans) (hs : s ∈ spans) (hj : s.Delimits j) :
    bs[j]? = some 96 := by
  induction h with
  | stop => cases hs
  | span hnext hrun hclose _ ih =>
    rcases List.mem_cons.mp hs with rfl | hs
    · rcases hj with hj | hj
      · exact hrun.within j hj.1 hj.2
      · exact hclose.1.2.within j hj.1 hj.2
    · exact ih hs
  | lone _ _ _ _ ih => exact ih hs

/-- No run of a span lies between the runs of a span. -/
theorem Finds.not_covers (h : Finds bs i spans) (hs : s ∈ spans) (hs' : s' ∈ spans)
    (hj : s.Delimits j) : ¬s'.Covers j := by
  rintro ⟨hlo, hhi⟩
  induction h with
  | stop => cases hs
  | span hnext hrun hclose hrest ih =>
    have hjk := hclose.1.1
    -- the later spans begin behind the runs of this one
    rcases List.mem_cons.mp hs with rfl | hs
    · rcases List.mem_cons.mp hs' with rfl | hs'
      · rcases hj with hj | hj <;> simp only at * <;> omega
      · obtain ⟨hstart, -⟩ := hrest.le s' hs'
        rcases hj with hj | hj <;> simp only at * <;> omega
    · rcases List.mem_cons.mp hs' with rfl | hs'
      · obtain ⟨hstart, hstop⟩ := hrest.le s hs
        rcases hj with hj | hj <;> simp only at * <;> omega
      · exact ih hs hs'
  | lone _ _ _ _ ih => exact ih hs hs'

end Scan

section Runs

variable {a b s t x : Text} {c : Char} {i k n : Nat}

theorem getElem?_bytes_append (a b : Text) (k : Nat) :
    (bytes (a ++ b))[size a + k]? = (bytes b)[k]? := by
  rw [bytes_append, ← length_bytes, List.getElem?_append_right (Nat.le_add_right _ _),
    Nat.add_sub_cancel_left]

theorem getElem?_bytes_append_left (b : Text) (hk : k < size a) :
    (bytes (a ++ b))[k]? = (bytes a)[k]? := by
  rw [bytes_append, List.getElem?_append_left (by rwa [length_bytes])]

theorem eq_of_backtick_mem (h : 96 ∈ String.utf8EncodeChar c) : c = '\x60' :=
  Char.toNat_inj.mp (toNat_eq_of_mem_encode (by decide) h)

theorem bytes_backticks (n : Nat) : bytes (List.replicate n '\x60') = List.replicate n 96 := by
  induction n with
  | zero => rfl
  | succ n ih =>
    rw [List.replicate_succ, List.replicate_succ, bytes_cons, ih]
    rfl

theorem size_backticks (n : Nat) : size (List.replicate n '\x60') = n :=
  (size_replicate n '\x60').trans (Nat.mul_one n)

theorem length_bytes_backticks (n : Nat) : (bytes (List.replicate n '\x60')).length = n := by
  rw [length_bytes, size_backticks]

theorem exists_append_of_getElem? (h : (bytes t)[i]? = some 96) :
    ∃ a b, a ++ '\x60' :: b = t ∧ size a = i := by
  induction t generalizing i with
  | nil => cases h
  | cons c t ih =>
    rw [bytes_cons] at h
    by_cases hi : i < (String.utf8EncodeChar c).length
    · rw [List.getElem?_append_left hi] at h
      obtain rfl := eq_of_backtick_mem (List.mem_of_getElem? h)
      exact ⟨[], t, rfl, (Nat.lt_one_iff.mp hi).symm⟩
    · rw [List.getElem?_append_right (Nat.le_of_not_lt hi)] at h
      obtain ⟨a, b, rfl, ha⟩ := ih h
      rw [String.length_utf8EncodeChar] at hi ha
      exact ⟨c :: a, b, rfl, by rw [size]; omega⟩

theorem head?_eq_of_getElem? (h : (bytes t)[0]? = some 96) : t.head? = some '\x60' := by
  obtain ⟨a, b, rfl, ha⟩ := exists_append_of_getElem? h
  rw [size_eq_zero ha]
  rfl

theorem getLast?_eq_of_getElem? (hk : k + 1 = size a) (h : (bytes a)[k]? = some 96) :
    a.getLast? = some '\x60' := by
  obtain ⟨x, y, rfl, hx⟩ := exists_append_of_getElem? h
  have hsize : '\x60'.utf8Size = 1 := rfl
  rw [size_append, size, hsize] at hk
  have hy : y = [] := size_eq_zero (by omega)
  rw [hy, List.getLast?_append]
  rfl

theorem isRunAt_of_runBetween (hn : 0 < n) (h : RunBetween n a b t) :
    IsRunAt (bytes t) n (size a) := by
  obtain ⟨rfl, hbefore, hafter⟩ := h
  refine ⟨hn, fun k hak hkn => ?_, fun k hk htick => hbefore ?_, fun htick => hafter ?_⟩
  · obtain ⟨j, rfl⟩ := Nat.exists_eq_add_of_le hak
    have hj : j < n := by omega
    rw [getElem?_bytes_append, getElem?_bytes_append_left _ (by rwa [size_backticks]),
      bytes_backticks, List.getElem?_replicate, if_pos hj]
  · rw [getElem?_bytes_append_left _ (by omega)] at htick
    exact getLast?_eq_of_getElem? hk htick
  · have hrest := getElem?_bytes_append (List.replicate n '\x60') b 0
    rw [size_backticks] at hrest
    rw [getElem?_bytes_append] at htick
    exact head?_eq_of_getElem? (hrest.symm.trans htick)

theorem exists_runBetween (h : IsRunAt (bytes t) n i) : ∃ a b, RunBetween n a b t ∧ size a = i := by
  have hfirst := h.within i le_rfl (Nat.lt_add_of_pos_right h.pos)
  obtain ⟨a, y, rfl, rfl⟩ := exists_append_of_getElem? hfirst
  obtain ⟨m, s, hm, hrun, hs, -⟩ := exists_run_append y
  have hbefore : a.getLast? ≠ some '\x60' := by
    intro hlast
    obtain ⟨x, rfl⟩ := List.getLast?_eq_some_iff.mp hlast
    refine h.before (size x) (by rw [size_append]; rfl) ?_
    rw [List.append_assoc]
    exact getElem?_bytes_append x _ 0
  have hbetween : RunBetween m a s (a ++ '\x60' :: y) := ⟨by rw [hrun], hbefore, hs⟩
  obtain rfl := h.width_eq (isRunAt_of_runBetween hm hbetween)
  exact ⟨a, s, hbetween, rfl⟩

theorem exists_of_runBetween_append (h : RunBetween n a b (x ++ s)) (hle : size x ≤ size a) :
    ∃ a', x ++ a' = a ∧ RunBetween n a' b s := by
  rcases List.append_eq_append_iff.mp h.append with ⟨z, rfl, -⟩ | ⟨a', rfl, -⟩
  · rw [size_append] at hle
    obtain rfl : z = [] := size_eq_zero (by omega)
    rw [List.append_nil] at h ⊢
    refine ⟨[], List.append_nil a, ?_⟩
    exact RunBetween.of_append (by rwa [List.append_nil])
  · exact ⟨a', rfl, h.of_append⟩

theorem not_isRunAt_of_not_hasRun (h : ¬HasRun n s) (x : Text) :
    ∀ k, size x ≤ k → ¬IsRunAt (bytes (x ++ s)) n k := by
  intro k hk hrun
  obtain ⟨a, b, hbetween, rfl⟩ := exists_runBetween hrun
  obtain ⟨a', -, hs⟩ := exists_of_runBetween_append hbetween hk
  exact h ⟨a', b, hs⟩

theorem hasRun_of_size_lt {a' b' : Text} (h : RunBetween n a b s) (h' : RunBetween n a' b' s)
    (hlt : size a' < size a) : HasRun n a := by
  rcases List.append_eq_append_iff.mp (h.append.trans h'.append.symm) with
    ⟨z, rfl, -⟩ | ⟨z, rfl, hz⟩
  · rw [size_append] at hlt
    omega
  · rcases List.append_eq_append_iff.mp hz with ⟨y, rfl, hy⟩ | ⟨y, hy, -⟩
    · refine ⟨a', y, rfl, h'.before, ?_⟩
      cases y with
      | nil => simp
      | cons d y =>
        rw [List.cons_append] at hy
        rw [List.head?_cons, ← List.head?_cons (l := y ++ (List.replicate n '\x60' ++ b)), ← hy]
        exact h'.after
    · -- the run would go on in the other one, before which no backtick stands
      rcases List.eq_nil_or_concat z with rfl | ⟨z, d, rfl⟩
      · rw [List.append_nil] at hlt
        exact absurd hlt (lt_irrefl _)
      · have hd : d ∈ List.replicate n '\x60' := by simp [hy]
        exact absurd (by simp [List.eq_of_mem_replicate hd]) h.before

theorem isLeast_of_firstRun (hn : 0 < n) (hs : s.head? ≠ some '\x60') (h : FirstRun n a b s)
    (x : Text) :
    IsLeast {k | size x ≤ k ∧ IsRunAt (bytes (x ++ s)) n k} (size (x ++ a)) := by
  refine ⟨⟨?_, isRunAt_of_runBetween hn (h.toRunBetween.append_left hn hs x)⟩, ?_⟩
  · rw [size_append]
    exact Nat.le_add_right _ _
  · rintro k ⟨hk, hrun⟩
    by_contra hlt
    obtain ⟨a', b', hbetween, rfl⟩ := exists_runBetween hrun
    obtain ⟨a', rfl, hs⟩ := exists_of_runBetween_append hbetween hk
    rw [size_append, size_append] at hlt
    exact h.first (hasRun_of_size_lt h.toRunBetween hs (by omega))

end Runs

section Shades

variable {spans : List CodeSpan} {s : CodeSpan} {i : Nat} {bs : List UInt8}

def hiddenByte (b : UInt8) : UInt8 := if b = 10 then 10 else 42

def shade (spans : List CodeSpan) (i : Nat) (b : UInt8) : UInt8 :=
  if ∃ s ∈ spans, s.Covers i then hiddenByte b else b

theorem shade_of_covers (hs : s ∈ spans) (h : s.Covers i) (b : UInt8) :
    shade spans i b = hiddenByte b := if_pos ⟨s, hs, h⟩

theorem shade_of_not_covers (h : ∀ s ∈ spans, ¬s.Covers i) (b : UInt8) : shade spans i b = b :=
  if_neg fun ⟨s, hs, hcovers⟩ => h s hs hcovers

/-- The bytes from byte `i` on, with those hidden that a span covers. -/
def shaded (spans : List CodeSpan) (i : Nat) (bs : List UInt8) : List UInt8 :=
  bs.mapIdx fun k => shade spans (i + k)

theorem getElem?_shaded (spans : List CodeSpan) (i : Nat) (bs : List UInt8) (k : Nat) :
    (shaded spans i bs)[k]? = bs[k]?.map (shade spans (i + k)) := List.getElem?_mapIdx

theorem shaded_append (spans : List CodeSpan) (i : Nat) (bs cs : List UInt8) :
    shaded spans i (bs ++ cs) = shaded spans i bs ++ shaded spans (i + bs.length) cs := by
  rw [shaded, List.mapIdx_append]
  simp only [shaded, Nat.add_assoc, Nat.add_comm bs.length]

theorem shaded_of_not_covers
    (h : ∀ k, i ≤ k → k < i + bs.length → ∀ s ∈ spans, ¬s.Covers k) : shaded spans i bs = bs := by
  refine List.ext_getElem List.length_mapIdx fun k _ hk => ?_
  simp only [shaded, List.getElem_mapIdx]
  exact shade_of_not_covers (h _ (by omega) (by omega)) _

theorem shaded_of_covers (hs : s ∈ spans) (h : ∀ k, i ≤ k → k < i + bs.length → s.Covers k) :
    shaded spans i bs = bs.map hiddenByte := by
  refine List.ext_getElem (by simp [shaded]) fun k hk _ => ?_
  have hlt : k < bs.length := by simpa [shaded] using hk
  rw [List.getElem_map]
  simp only [shaded, List.getElem_mapIdx]
  exact shade_of_covers hs (h _ (by omega) (by omega)) _

theorem shaded_cons (h : s.stop ≤ i) : shaded (s :: spans) i bs = shaded spans i bs := by
  have hshade : (fun k => shade (s :: spans) (i + k)) = fun k => shade spans (i + k) := by
    funext k b
    have hno : ¬s.Covers (i + k) := by
      rintro ⟨-, hlt⟩
      omega
    simp [shade, hno]
  exact congrArg (List.mapIdx · bs) hshade

theorem shaded_append_of_le {cs : List UInt8} (h : ∀ s ∈ spans, i + bs.length ≤ s.start) :
    shaded spans i (bs ++ cs) = bs ++ shaded spans (i + bs.length) cs := by
  have hkept : shaded spans i bs = bs :=
    shaded_of_not_covers fun k _ hk s hs => s.not_covers_of_lt (hk.trans_le (h s hs))
  rw [shaded_append, hkept]

theorem shaded_span {ticks content rest : List UInt8}
    (h : ∀ s ∈ spans, i + ticks.length + content.length + ticks.length ≤ s.start) :
    shaded (⟨i, i + ticks.length + content.length, ticks.length⟩ :: spans) i
        (ticks ++ (content ++ (ticks ++ rest))) =
      ticks ++ (content.map hiddenByte ++ (ticks ++
        shaded spans (i + ticks.length + content.length + ticks.length) rest)) := by
  have hopen : shaded (⟨i, i + ticks.length + content.length, ticks.length⟩ :: spans) i ticks =
      ticks := by
    refine shaded_of_not_covers fun k _ hk => List.forall_mem_cons.mpr ⟨fun hcovers => ?_, ?_⟩
    · exact absurd hcovers.1 (Nat.not_le.mpr hk)
    · intro s hs
      have hstart := h s hs
      exact s.not_covers_of_lt (by omega)
  have hbetween : shaded (⟨i, i + ticks.length + content.length, ticks.length⟩ :: spans)
      (i + ticks.length) content = content.map hiddenByte :=
    shaded_of_covers List.mem_cons_self fun k hlo hhi => ⟨hlo, hhi⟩
  rw [shaded_append, shaded_append, hopen, hbetween, shaded_cons le_rfl, shaded_append_of_le h]

theorem bytes_blank (t : Text) : bytes (blank t) = (bytes t).map hiddenByte := by
  induction t with
  | nil => rfl
  | cons c t ih =>
    rw [blank, List.flatMap_cons, ← blank, bytes_append, ih, bytes_cons, List.map_append, blankChar]
    congr 1
    split
    · rename_i hc
      subst hc
      rfl
    · rename_i hc
      rw [bytes_replicate, ← String.length_utf8EncodeChar]
      refine (List.eq_replicate_iff.mpr ⟨List.length_map _, fun b hb => ?_⟩).symm
      obtain ⟨x, hx, rfl⟩ := List.mem_map.mp hb
      exact if_neg (encode_ne_newline hc x hx)

end Shades

section Hiding

variable {a t u : Text}

theorem Finds.append_char {c : Char} {spans : List CodeSpan} (hc : c ≠ '\x60')
    (h : Finds (bytes (a ++ c :: t)) (size (a ++ [c])) spans) :
    Finds (bytes (a ++ c :: t)) (size a) spans := by
  refine h.of_le (by rw [size_append]; exact Nat.le_add_right _ _) ?_
  intro n k hak hlt hrun
  obtain ⟨j, rfl⟩ := Nat.exists_eq_add_of_le hak
  have hj : j < (String.utf8EncodeChar c).length := by
    rw [size_append, size, size] at hlt
    rw [String.length_utf8EncodeChar]
    omega
  have htick := hrun.within (size a + j) le_rfl (Nat.lt_add_of_pos_right hrun.pos)
  rw [getElem?_bytes_append, bytes_cons, List.getElem?_append_left hj] at htick
  exact hc (eq_of_backtick_mem (List.mem_of_getElem? htick))

theorem isLeast_of_isRunAt {bs : List UInt8} {n i : Nat} (h : IsRunAt bs n i) :
    IsLeast {j | i ≤ j ∧ ∃ n, IsRunAt bs n j} i :=
  ⟨⟨le_rfl, n, h⟩, fun _ hj => hj.1⟩

/-- From the end of the first text on, the spans that are found are those that are hidden. -/
theorem exists_finds (h : HidesSpans t u) (a : Text)
    (hedge : a.getLast? ≠ some '\x60' ∨ t.head? ≠ some '\x60') :
    ∃ spans, Finds (bytes (a ++ t)) (size a) spans ∧
      bytes u = shaded spans (size a) (bytes t) := by
  -- `a` is what the scan has passed, and no run goes on across its end
  induction h generalizing a with
  | nil =>
    refine ⟨[], .stop fun n j hj hrun => ?_, rfl⟩
    have htick := hrun.within j le_rfl (Nat.lt_add_of_pos_right hrun.pos)
    rw [List.append_nil, List.getElem?_eq_none (by rwa [length_bytes])] at htick
    cases htick
  | @char c t u hc h ih =>
    obtain ⟨spans, hfinds, hshaded⟩ := ih (a ++ [c]) (.inl (by simpa using hc))
    have hsize : size (a ++ [c]) = size a + (String.utf8EncodeChar c).length := by
      rw [size_append, size, size, String.length_utf8EncodeChar, Nat.add_zero]
    have hlater : ∀ s ∈ spans, size a + (String.utf8EncodeChar c).length ≤ s.start :=
      fun s hs => hsize ▸ (hfinds.le s hs).1
    rw [List.append_assoc, List.singleton_append] at hfinds
    refine ⟨spans, hfinds.append_char hc, ?_⟩
    rw [bytes_cons, bytes_cons, shaded_append_of_le hlater, hshaded, hsize]
  | @span n content rest s u hn hs hclose h ih =>
    have hbefore := hedge.resolve_right fun hne => hne (head?_replicate_append hn _ s)
    have hrun := isRunAt_of_runBetween hn ⟨rfl, hbefore, hs⟩
    have hclosing := isLeast_of_firstRun hn hs hclose (a ++ List.replicate n '\x60')
    obtain rfl := hclose.append
    obtain ⟨spans, hfinds, hshaded⟩ :=
      ih (a ++ List.replicate n '\x60' ++ content ++ List.replicate n '\x60') (.inr hclose.after)
    have hopen : size (a ++ List.replicate n '\x60') = size a + n := by
      rw [size_append, size_backticks]
    have hstop : size (a ++ List.replicate n '\x60' ++ content) = size a + n + size content := by
      rw [size_append, hopen]
    rw [size_append, hstop, size_backticks] at hfinds hshaded
    rw [hopen, hstop] at hclosing
    simp only [List.append_assoc] at hfinds hclosing
    have hspan := @shaded_span spans (size a) (bytes (List.replicate n '\x60')) (bytes content)
      (bytes rest)
    rw [length_bytes_backticks, length_bytes] at hspan
    refine ⟨_, .span (isLeast_of_isRunAt hrun) hrun hclosing hfinds, ?_⟩
    simp only [bytes_append, bytes_blank, List.append_assoc]
    rw [hspan fun s hs => (hfinds.le s hs).1, hshaded]
  | @lone n s u hn hs hclose h ih =>
    have hbefore := hedge.resolve_right fun hne => hne (head?_replicate_append hn _ s)
    have hrun := isRunAt_of_runBetween hn ⟨rfl, hbefore, hs⟩
    have hnone := not_isRunAt_of_not_hasRun hclose (a ++ List.replicate n '\x60')
    obtain ⟨spans, hfinds, hshaded⟩ := ih (a ++ List.replicate n '\x60') (.inr hs)
    rw [size_append, size_backticks] at hfinds hshaded hnone
    rw [List.append_assoc] at hfinds hnone
    have hkept := @shaded_append_of_le spans (size a) (bytes (List.replicate n '\x60')) (bytes s)
    rw [length_bytes_backticks] at hkept
    refine ⟨spans, .lone (isLeast_of_isRunAt hrun) hrun hnone hfinds, ?_⟩
    rw [bytes_append, bytes_append, hkept fun s hs => (hfinds.le s hs).1, hshaded]

/-- Of the bytes of a line those between the runs of a span are hidden, and all others are kept. -/
structure HidesBetween (spans : List CodeSpan) (bs ms : List UInt8) : Prop where
  length : ms.length = bs.length
  covered : ∀ s ∈ spans, ∀ i b, s.Covers i → bs[i]? = some b → ms[i]? = some (hiddenByte b)
  delimiters : ∀ s ∈ spans, ∀ i, s.Delimits i → bs[i]? = some 96 ∧ ms[i]? = some 96
  others : ∀ i, (∀ s ∈ spans, ¬s.Covers i) → ms[i]? = bs[i]?

theorem Finds.hidesBetween {bs : List UInt8} {i : Nat} {spans : List CodeSpan}
    (h : Finds bs i spans) : HidesBetween spans bs (shaded spans 0 bs) := by
  have hothers : ∀ i, (∀ s ∈ spans, ¬s.Covers i) → (shaded spans 0 bs)[i]? = bs[i]? := by
    intro i hi
    rw [getElem?_shaded, Nat.zero_add, funext (shade_of_not_covers hi), Option.map_id']
  refine ⟨List.length_mapIdx, fun s hs i b hcovers hb => ?_, fun s hs i hi => ?_, hothers⟩
  · rw [getElem?_shaded, hb, Option.map_some, Nat.zero_add, shade_of_covers hs hcovers]
  · have htick := h.getElem?_eq hs hi
    exact ⟨htick, (hothers i fun s' hs' => h.not_covers hs hs' hi).trans htick⟩

/-- The scan of a line finds one list of spans, and these are what masking hides. -/
theorem exists_hidesBetween (line : Text) :
    ∃ spans, (∀ found, Finds (bytes line) 0 found ↔ found = spans) ∧
      HidesBetween spans (bytes line) (bytes (maskInlineCode line)) := by
  obtain ⟨spans, hfinds, hshaded⟩ :=
    exists_finds (maskInlineCode_eq_iff.mp rfl) [] (.inl (by simp))
  refine ⟨spans, fun found => ⟨fun h => h.eq hfinds, ?_⟩, ?_⟩
  · rintro rfl
    exact hfinds
  · rw [hshaded]
    exact hfinds.hidesBetween

/-- A run of another length closes no span, and one that no other closes stands for itself. -/
example : maskInlineCode "``a`b`` c ``` d".toList = "``***`` c ``` d".toList := by
  decide +kernel

end Hiding

end Copydesk.Markup
