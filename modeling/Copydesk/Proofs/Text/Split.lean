import Copydesk.Proofs.Text.Offset
import Copydesk.Text.Sentence

/-! Splitting loses nothing: pieces joined by their separator, and sentences put one after another,
make up the text again. Pieces joined by a character that none of them holds are read back. -/

namespace Copydesk.Text

theorem not_of_mem_splitWhere {p : Char → Bool} {t piece : Text} (h : piece ∈ splitWhere p t)
    {c : Char} (hc : c ∈ piece) : p c = false := by
  induction t generalizing piece with
  | nil =>
    rw [List.mem_singleton.mp h] at hc
    cases hc
  | cons x t ih =>
    unfold splitWhere at h
    split at h
    · rcases List.mem_cons.mp h with rfl | h
      · cases hc
      · exact ih h hc
    · rename_i hx
      split at h
      · rw [List.mem_singleton.mp h, List.mem_singleton] at hc
        rw [hc]
        exact Bool.eq_false_iff.mpr hx
      · rename_i first more hs
        rcases List.mem_cons.mp h with rfl | h
        · rcases List.mem_cons.mp hc with rfl | hc
          · exact Bool.eq_false_iff.mpr hx
          · exact ih (hs ▸ List.mem_cons_self) hc
        · exact ih (hs ▸ List.mem_cons_of_mem first h) hc

theorem splitWhere_ne_nil (p : Char → Bool) (t : Text) : splitWhere p t ≠ [] := by
  cases t with
  | nil => simp [splitWhere]
  | cons c t =>
    rw [splitWhere]
    split
    · simp
    · split <;> simp

theorem splitOn_of_not_mem {sep : Char} {t : Text} (h : sep ∉ t) : splitOn sep t = [t] := by
  induction t with
  | nil => rfl
  | cons c t ih =>
    rw [List.mem_cons, not_or] at h
    have hrest := ih h.2
    rw [splitOn] at hrest
    rw [splitOn, splitWhere, if_neg (by simpa using Ne.symm h.1), hrest]

theorem not_mem_of_mem_splitOn {sep : Char} {t piece : Text} (h : piece ∈ splitOn sep t) :
    sep ∉ piece := by
  intro hc
  simpa using not_of_mem_splitWhere h hc

theorem newline_not_mem_of_mem_lines {t l : Text} (h : l ∈ lines t) : '\n' ∉ l := by
  have hclosed {l : Text} (hl : l ∈ (splitOn '\n' t).dropLast.map fun p =>
      (beforeSuffix? ['\r'] p).getD p) : '\n' ∉ l := by
    obtain ⟨p, hp, rfl⟩ := List.mem_map.mp hl
    have hnot := not_mem_of_mem_splitOn (List.dropLast_subset _ hp)
    cases hs : beforeSuffix? ['\r'] p with
    | none => exact hnot
    | some q =>
      rw [beforeSuffix?_eq_some_iff.mp hs] at hnot
      exact fun hc => hnot (List.mem_append_left _ hc)
  simp only [lines] at h
  split at h
  · exact hclosed h
  · exact hclosed h
  · rename_i last hlast
    rcases List.mem_append.mp h with h | h
    · exact hclosed h
    · rw [List.mem_singleton.mp h]
      exact not_mem_of_mem_splitOn (List.mem_of_getLast? hlast)

theorem splitOn_append_cons (sep : Char) (s t : Text) :
    splitOn sep (s ++ sep :: t) = splitOn sep s ++ splitOn sep t := by
  induction s with
  | nil => simp [splitOn, splitWhere]
  | cons c s ih =>
    rw [splitOn, splitOn, splitOn] at ih
    rw [List.cons_append, splitOn, splitOn, splitOn, splitWhere, splitWhere, ih]
    split
    · rfl
    · cases hs : splitWhere (· == sep) s with
      | nil => exact absurd hs (splitWhere_ne_nil _ s)
      | cons piece more => rfl

theorem splitOnce?_eq_some_iff {sep : Char} {t a b : Text} :
    splitOnce? sep t = some (a, b) ↔ t = a ++ sep :: b ∧ sep ∉ a := by
  induction t generalizing a with
  | nil => simp [splitOnce?]
  | cons c t ih =>
    rw [splitOnce?]
    constructor
    · intro h
      split at h
      · rename_i hc
        obtain ⟨rfl, rfl⟩ := Prod.mk.inj (Option.some.inj h)
        exact ⟨hc ▸ rfl, List.not_mem_nil⟩
      · rename_i hc
        obtain ⟨⟨a', b'⟩, hrest, hpair⟩ := Option.map_eq_some_iff.mp h
        obtain ⟨rfl, rfl⟩ := Prod.mk.inj hpair
        obtain ⟨rfl, ha⟩ := ih.mp hrest
        exact ⟨rfl, List.not_mem_cons_of_ne_of_not_mem (Ne.symm hc) ha⟩
    · rintro ⟨h, ha⟩
      cases a with
      | nil =>
        obtain ⟨rfl, rfl⟩ := List.cons.inj h
        exact if_pos rfl
      | cons x a =>
        obtain ⟨rfl, rfl⟩ := List.cons.inj h
        obtain ⟨hc, ha⟩ := List.ne_and_not_mem_of_not_mem_cons ha
        rw [if_neg (Ne.symm hc), ih.mpr ⟨rfl, ha⟩]
        rfl

theorem join_cons (sep p : Text) {ps : List Text} (h : ps ≠ []) :
    join sep (p :: ps) = p ++ (sep ++ join sep ps) := by
  cases ps with
  | nil => exact absurd rfl h
  | cons q qs => rw [join, List.intercalate_cons_cons, List.append_assoc, join]

theorem splitTextFrom_ne_nil (sep : Text) (skip : Nat) (t : Text) :
    splitTextFrom sep skip t ≠ [] := by
  induction t generalizing skip with
  | nil => cases skip <;> simp [splitTextFrom]
  | cons c t ih =>
    cases skip with
    | succ skip => exact ih skip
    | zero =>
      unfold splitTextFrom
      split
      · simp
      · split <;> simp

theorem join_splitTextFrom {sep : Text} (hsep : sep ≠ []) (skip : Nat) (t : Text) :
    join sep (splitTextFrom sep skip t) = t.drop skip := by
  induction t generalizing skip with
  | nil => cases skip <;> simp [splitTextFrom, join, List.intercalate]
  | cons c t ih =>
    cases skip with
    | succ skip => exact ih skip
    | zero =>
      unfold splitTextFrom
      split
      · rename_i hs
        obtain ⟨r, hr⟩ := startsWith_iff.mp hs
        obtain ⟨x, xs, rfl⟩ := List.exists_cons_of_ne_nil hsep
        obtain ⟨-, rfl⟩ := List.cons.inj hr
        rw [join_cons _ _ (splitTextFrom_ne_nil _ _ _), ih]
        simpa using hr
      · have hrest := ih 0
        split
        · rename_i hnil
          exact absurd hnil (splitTextFrom_ne_nil _ _ _)
        · rename_i p ps hps
          rw [hps] at hrest
          cases ps with
          | nil => simpa [join, List.intercalate] using hrest
          | cons q qs =>
            rw [join_cons _ _ (by simp)] at hrest ⊢
            rw [List.cons_append, hrest]
            rfl

theorem join_splitOnText {sep : Text} (hsep : sep ≠ []) (t : Text) :
    join sep (splitOnText sep t) = t := join_splitTextFrom hsep 0 t

theorem prefix_of_splitTextFrom {sep t p : Text} {ps : List Text} (hsep : sep ≠ [])
    (h : splitTextFrom sep 0 t = p :: ps) : p <+: t := by
  have hjoin := join_splitTextFrom hsep 0 t
  rw [h, List.drop_zero] at hjoin
  cases ps with
  | nil => exact ⟨[], by simpa [join, List.intercalate] using hjoin⟩
  | cons q qs =>
    rw [join_cons _ _ (by simp)] at hjoin
    exact ⟨_, hjoin⟩

theorem not_infix_of_mem_splitTextFrom {sep t piece : Text} {skip : Nat} (hsep : sep ≠ [])
    (h : piece ∈ splitTextFrom sep skip t) : ¬sep <:+: piece := by
  have hempty : ¬sep <:+: [] := fun h => hsep (List.infix_nil.mp h)
  induction t generalizing skip piece with
  | nil =>
    have hnil : piece = [] := by cases skip <;> exact List.mem_singleton.mp h
    rwa [hnil]
  | cons c t ih =>
    cases skip with
    | succ skip => exact ih h
    | zero =>
      unfold splitTextFrom at h
      split at h
      · rcases List.mem_cons.mp h with rfl | h
        · exact hempty
        · exact ih h
      · rename_i hs
        split at h
        · rename_i hnil
          exact absurd hnil (splitTextFrom_ne_nil _ _ _)
        · rename_i p ps hps
          rcases List.mem_cons.mp h with rfl | h
          · intro hinfix
            rcases List.infix_cons_iff.mp hinfix with hpre | hinfix
            -- a separator at the beginning would have ended the piece
            · have hp := (List.prefix_cons_inj c).mpr (prefix_of_splitTextFrom hsep hps)
              exact hs (startsWith_iff.mpr (hpre.trans hp))
            · exact ih (hps ▸ List.mem_cons_self) hinfix
          · exact ih (hps ▸ List.mem_cons_of_mem p h)

theorem join_nil (ps : List Text) : join [] ps = ps.flatten := by
  induction ps with
  | nil => rfl
  | cons p ps ih =>
    cases ps with
    | nil => simp [join, List.intercalate]
    | cons q qs =>
      rw [join_cons _ _ (by simp), ih, List.nil_append]
      rfl

theorem Sentence.flatten_split (c : Context) (t : Text) (ks : List Unicode.SentenceClass)
    (h : t.length = ks.length) : (split c t ks).flatten = t := by
  induction t generalizing c ks with
  | nil => cases ks <;> simp [split]
  | cons x t ih =>
    cases ks with
    | nil => simp at h
    | cons k ks =>
      have hrest (c : Context) := ih c ks (Nat.succ.inj h)
      unfold split
      simp only
      split
      · rename_i hnil
        have ht := hrest _ |>.symm.trans (congrArg List.flatten hnil)
        rw [ht]
        rfl
      · rename_i s more hs
        have ht := hrest _ |>.symm.trans (congrArg List.flatten hs)
        split <;> rw [ht] <;> rfl

theorem flatten_sentences (t : Text) : (sentences t).flatten = t := by
  rw [sentences, List.flatten_filter_not_isEmpty,
    Sentence.flatten_split _ _ _ (List.length_map _).symm]

section Join

variable {sep : Char} {ps qs : List Text}

theorem join_singleton (sep p : Text) : join sep [p] = p := by
  rw [join, List.intercalate_singleton]

theorem join_cons_cons (sep : Char) (p q : Text) (ps : List Text) :
    join [sep] (p :: q :: ps) = p ++ sep :: join [sep] (q :: ps) :=
  join_cons [sep] p (List.cons_ne_nil q ps)

theorem join_append (sep : Char) (ps : List Text) (hqs : qs ≠ []) :
    join [sep] (ps ++ qs) = ps.flatMap (· ++ [sep]) ++ join [sep] qs := by
  induction ps with
  | nil => rfl
  | cons p ps ih =>
    have hne : ps ++ qs ≠ [] := fun h => hqs (List.append_eq_nil_iff.mp h).2
    rw [List.cons_append, join_cons _ _ hne, ih, List.flatMap_cons]
    simp only [List.append_assoc]

theorem splitOn_join (hne : ps ≠ []) (hps : ∀ p ∈ ps, sep ∉ p) :
    splitOn sep (join [sep] ps) = ps := by
  induction ps with
  | nil => exact absurd rfl hne
  | cons p ps ih =>
    obtain ⟨hp, hps⟩ := List.forall_mem_cons.mp hps
    cases ps with
    | nil => rw [join_singleton, splitOn_of_not_mem hp]
    | cons q qs =>
      rw [join_cons_cons, splitOn_append_cons, splitOn_of_not_mem hp,
        ih (List.cons_ne_nil q qs) hps, List.singleton_append]

theorem length_splitOn (sep : Char) (t : Text) : (splitOn sep t).length = t.count sep + 1 := by
  induction t with
  | nil => rfl
  | cons c t ih =>
    rw [splitOn] at ih
    rw [splitOn, splitWhere, List.count_cons]
    split
    · rw [List.length_cons, ih]
    · obtain ⟨p, ps, hps⟩ := List.exists_cons_of_ne_nil (splitWhere_ne_nil (· == sep) t)
      rw [hps] at ih ⊢
      rw [List.length_cons, ← ih, List.length_cons]

theorem count_join_of_not_mem (hne : ps ≠ []) (hps : ∀ p ∈ ps, sep ∉ p) :
    (join [sep] ps).count sep + 1 = ps.length := by
  rw [← length_splitOn, splitOn_join hne hps]

end Join

end Copydesk.Text
