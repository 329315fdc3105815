import Copydesk.Path
import Copydesk.Proofs.Text.Order
import Copydesk.Proofs.Text.Split

/-! Paths joined to plain names, and the order of paths. The name is the last component of the path,
and what it is joined to is the folder that holds it. The order is total, and only spellings of one
path stand at the same place in it. -/

namespace Copydesk.Path

open Text

/-- The name of a file or folder in the one that holds it. -/
structure IsPlain (n : Text) : Prop where
  ne_nil : n ≠ []
  no_slash : '/' ∉ n
  ne_dot : n ≠ ['.']
  ne_dots : n ≠ ['.', '.']

instance (n : Text) : Decidable (IsPlain n) :=
  decidable_of_iff (n ≠ [] ∧ '/' ∉ n ∧ n ≠ ['.'] ∧ n ≠ ['.', '.'])
    ⟨fun ⟨hnil, hslash, hdot, hdots⟩ => ⟨hnil, hslash, hdot, hdots⟩,
      fun h => ⟨h.ne_nil, h.no_slash, h.ne_dot, h.ne_dots⟩⟩

variable {p n : Text}

theorem IsPlain.not_isAbsolute (hn : IsPlain n) : isAbsolute n = false := by
  cases n with
  | nil => rfl
  | cons c n =>
    refine Bool.eq_false_iff.mpr fun h => hn.no_slash ?_
    obtain rfl : c = '/' := by simpa [isAbsolute] using h
    exact List.mem_cons_self

/-- The parts of a path between slashes, of which empty ones count for nothing. -/
def parts (p : Text) : List Text := (splitOn '/' p).filter (!·.isEmpty)

theorem parts_of_isPlain (hn : IsPlain n) : parts n = [n] := by
  rw [parts, splitOn_of_not_mem hn.no_slash]
  exact List.filter_cons_of_pos (by simpa using hn.ne_nil)

theorem parts_append_slash (p n : Text) : parts (p ++ '/' :: n) = parts p ++ parts n := by
  rw [parts, splitOn_append_cons, List.filter_append]
  rfl

theorem parts_join (hn : IsPlain n) : parts (join p n) = parts p ++ [n] := by
  have hslash (q : Text) : parts (q ++ '/' :: n) = parts q ++ [n] := by
    rw [parts_append_slash, parts_of_isPlain hn]
  rw [join, hn.not_isAbsolute, Bool.false_or]
  split
  · rename_i hp
    rw [List.isEmpty_iff.mp hp]
    exact parts_of_isPlain hn
  · split
    · -- a slash that ends the path is the one between it and the name
      rename_i hlast
      obtain ⟨q, rfl⟩ := List.getLast?_eq_some_iff.mp (beq_iff_eq.mp hlast)
      have hend := parts_append_slash q []
      rw [show parts [] = [] from rfl, List.append_nil] at hend
      rw [hend, List.append_assoc]
      exact hslash q
    · exact hslash p

theorem head?_join (hp : p ≠ []) (hn : IsPlain n) : (join p n).head? = p.head? := by
  obtain ⟨c, q, rfl⟩ := List.exists_cons_of_ne_nil hp
  rw [join, hn.not_isAbsolute, Bool.false_or, if_neg (by simp)]
  split <;> rfl

theorem exists_join_eq (p : Text) (hn : IsPlain n) : ∃ q, join p n = q ++ n := by
  rw [join, hn.not_isAbsolute, Bool.false_or]
  split
  · exact ⟨[], rfl⟩
  · split
    · exact ⟨p, rfl⟩
    · exact ⟨p ++ ['/'], by simp⟩

theorem join_ne_nil (hn : IsPlain n) : join p n ≠ [] := by
  obtain ⟨q, hq⟩ := exists_join_eq p hn
  rw [hq]
  exact List.append_ne_nil_of_right_ne_nil q hn.ne_nil

theorem getLast?_join_ne (hn : IsPlain n) : (join p n).getLast? ≠ some '/' := by
  obtain ⟨q, hq⟩ := exists_join_eq p hn
  have hlast := List.getLast?_eq_some_getLast hn.ne_nil
  rw [hq, List.getLast?_append, hlast, Option.some_or, ne_eq, Option.some_inj]
  exact fun hslash => hn.no_slash (hslash ▸ List.getLast_mem hn.ne_nil)

theorem components_eq (p : Text) : components p = match parts p with
    | [] => []
    | c :: cs =>
      if c = ['.'] && p.head? == some '/' then cs.filter (· != ['.'])
      else c :: cs.filter (· != ['.']) := rfl

theorem components_join (hn : IsPlain n) : components (join p n) = components p ++ [n] := by
  have hdot : (n != ['.']) = true := bne_iff_ne.mpr hn.ne_dot
  rw [components_eq, components_eq, parts_join hn]
  cases hparts : parts p with
  | nil =>
    rw [List.nil_append]
    simp [hn.ne_dot]
  | cons c cs =>
    have hp : p ≠ [] := by
      rintro rfl
      cases hparts
    have hlast : [n].filter (· != ['.']) = [n] := List.filter_cons_of_pos hdot
    simp only [List.cons_append, head?_join hp hn, List.filter_append, hlast]
    split <;> rfl

theorem fileName?_join (hn : IsPlain n) : fileName? (join p n) = some n := by
  rw [fileName?, components_join hn, List.getLast?_concat]
  simp [hn.ne_dot, hn.ne_dots]

theorem fileName?_of_isPlain (hn : IsPlain n) : fileName? n = some n := by
  have hjoin : join [] n = n := by rw [join, List.isEmpty_nil, Bool.or_true, if_pos rfl]
  rw [← hjoin]
  exact (fileName?_join hn).trans (congrArg some hjoin.symm)

theorem components_subset_parts (p : Text) : components p ⊆ parts p := by
  intro m hm
  rw [components_eq] at hm
  split at hm
  · cases hm
  · rename_i c cs hparts
    rw [hparts]
    split at hm
    · exact List.mem_cons_of_mem c (List.mem_filter.mp hm).1
    · exact (List.mem_cons.mp hm).elim (fun h => h ▸ List.mem_cons_self)
        fun h => List.mem_cons_of_mem c (List.mem_filter.mp h).1

theorem eq_of_fileName? (hn : '/' ∉ n) {name : Text} (h : fileName? n = some name) : name = n := by
  have hmem : name ∈ components n := by
    rw [fileName?] at h
    split at h
    · rename_i hlast
      split at h
      · cases h
      · exact Option.some.inj h ▸ List.mem_of_getLast? hlast
    · cases h
  have hparts := components_subset_parts n hmem
  rw [parts, splitOn_of_not_mem hn] at hparts
  exact List.mem_singleton.mp (List.mem_filter.mp hparts).1

theorem parentName?_join (hn : IsPlain n) {name : Text} (hname : IsPlain name) :
    parentName? (join (join p n) name) = some n := by
  rw [parentName?, components_join hname, List.dropLast_concat, components_join hn,
    List.getLast?_concat]
  simp [hn.ne_dot, hn.ne_dots]

theorem splitName_append {stem ext : Text} (hstem : stem ≠ []) (hext : '.' ∉ ext) :
    splitName (stem ++ '.' :: ext) = (stem, some ext) := by
  have hreverse : (stem ++ '.' :: ext).reverse = ext.reverse ++ '.' :: stem.reverse := by
    simp
  have hafter : (ext.reverse ++ '.' :: stem.reverse).takeWhile (· != '.') = ext.reverse := by
    rw [List.takeWhile_append_of_pos, List.takeWhile_cons_of_neg (by decide), List.append_nil]
    intro c hc
    exact bne_iff_ne.mpr fun h => hext (h ▸ List.mem_reverse.mp hc)
  obtain ⟨c, more, hmore⟩ := List.exists_cons_of_ne_nil (List.reverse_ne_nil_iff.mpr hstem)
  rw [splitName, hreverse, hafter, List.drop_left, hmore]
  simp only
  rw [← hmore, List.reverse_reverse, List.reverse_reverse]

theorem eq_of_splitName {n stem ext : Text} (h : splitName n = (stem, some ext)) :
    stem ≠ [] ∧ stem ++ '.' :: ext = n := by
  have hcut := List.takeWhile_append_dropWhile (p := (· != '.')) (l := n.reverse)
  have hdrop : (n.reverse.takeWhile (· != '.') ++ n.reverse.dropWhile (· != '.')).drop
      (n.reverse.takeWhile (· != '.')).length = n.reverse.dropWhile (· != '.') := List.drop_left
  rw [hcut] at hdrop
  have hhead := List.head?_dropWhile_not (· != '.') n.reverse
  rw [splitName, hdrop] at h
  cases hrest : n.reverse.dropWhile (· != '.') with
  | nil =>
    rw [hrest] at h
    cases h
  | cons c rest =>
    rw [hrest] at h hcut hhead
    obtain rfl : c = '.' := by simpa using hhead
    cases rest with
    | nil => cases h
    | cons d rest =>
      obtain ⟨rfl, hext⟩ := Prod.mk.inj h
      obtain rfl := Option.some.inj hext
      refine ⟨by simp, ?_⟩
      have hn := congrArg List.reverse hcut
      rw [List.reverse_reverse, List.reverse_append, List.reverse_cons, List.append_assoc] at hn
      exact hn

section Order

section Components

variable {a b c : Text} {as bs cs : List Text}

theorem componentLe_iff :
    componentLe a b = true ↔ rank a < rank b ∨ rank a = rank b ∧ Text.le a b = true := by
  rw [componentLe, Bool.or_eq_true, Bool.and_eq_true, decide_eq_true_eq, beq_iff_eq]

theorem componentLe_trans (hab : componentLe a b = true) (hbc : componentLe b c = true) :
    componentLe a c = true := by
  rw [componentLe_iff] at hab hbc ⊢
  rcases hab with hab | ⟨hrank, hab⟩
  · rcases hbc with hbc | ⟨hrank, -⟩
    · exact .inl (Nat.lt_trans hab hbc)
    · exact .inl (hrank ▸ hab)
  · rw [hrank]
    exact hbc.imp_right fun h => ⟨h.1, Text.le_trans hab h.2⟩

theorem componentLe_total (a b : Text) : componentLe a b = true ∨ componentLe b a = true := by
  rw [componentLe_iff, componentLe_iff]
  rcases Nat.lt_trichotomy (rank a) (rank b) with hab | hab | hba
  · exact .inl (.inl hab)
  · exact (Text.le_total a b).imp (fun h => .inr ⟨hab, h⟩) fun h => .inr ⟨hab.symm, h⟩
  · exact .inr (.inl hba)

theorem componentLe_antisymm (hab : componentLe a b = true) (hba : componentLe b a = true) :
    a = b := by
  rw [componentLe_iff] at hab hba
  rcases hab with hab | ⟨hrank, hab⟩
  · rcases hba with hba | ⟨hrank, -⟩
    · exact absurd hab (Nat.lt_asymm hba)
    · exact absurd hrank (Nat.ne_of_gt hab)
  · rcases hba with hba | ⟨-, hba⟩
    · exact absurd hrank (Nat.ne_of_gt hba)
    · exact Text.le_antisymm hab hba

theorem componentsLe_cons : componentsLe (a :: as) (b :: bs) = true ↔
    a = b ∧ componentsLe as bs = true ∨ a ≠ b ∧ componentLe a b = true := by
  rw [componentsLe]
  by_cases h : a = b <;> simp [h]

theorem componentsLe_trans (hab : componentsLe as bs = true) (hbc : componentsLe bs cs = true) :
    componentsLe as cs = true := by
  induction as generalizing bs cs with
  | nil => rfl
  | cons a as ih =>
    cases bs with
    | nil => cases hab
    | cons b bs =>
      cases cs with
      | nil => cases hbc
      | cons c cs =>
        rw [componentsLe_cons] at hab hbc ⊢
        rcases hab with ⟨rfl, hab⟩ | ⟨hne, hab⟩
        · exact hbc.imp_left fun h => ⟨h.1, ih hab h.2⟩
        · rcases hbc with ⟨rfl, -⟩ | ⟨-, hbc⟩
          · exact .inr ⟨hne, hab⟩
          · refine .inr ⟨?_, componentLe_trans hab hbc⟩
            rintro rfl
            exact hne (componentLe_antisymm hab hbc)

theorem componentsLe_total (as bs : List Text) :
    componentsLe as bs = true ∨ componentsLe bs as = true := by
  induction as generalizing bs with
  | nil => exact .inl rfl
  | cons a as ih =>
    cases bs with
    | nil => exact .inr rfl
    | cons b bs =>
      rw [componentsLe_cons, componentsLe_cons]
      by_cases h : a = b
      · exact (ih bs).imp (fun hle => .inl ⟨h, hle⟩) fun hle => .inl ⟨h.symm, hle⟩
      · exact (componentLe_total a b).imp (fun hle => .inr ⟨h, hle⟩) fun hle => .inr ⟨Ne.symm h, hle⟩

theorem componentsLe_antisymm (hab : componentsLe as bs = true) (hba : componentsLe bs as = true) :
    as = bs := by
  induction as generalizing bs with
  | nil =>
    cases bs with
    | nil => rfl
    | cons b bs => cases hba
  | cons a as ih =>
    cases bs with
    | nil => cases hab
    | cons b bs =>
      rw [componentsLe_cons] at hab hba
      rcases hab with ⟨rfl, hab⟩ | ⟨hne, hab⟩
      · rcases hba with ⟨-, hba⟩ | ⟨hne, -⟩
        · rw [ih hab hba]
        · exact absurd rfl hne
      · rcases hba with ⟨rfl, -⟩ | ⟨-, hba⟩
        · exact absurd rfl hne
        · exact absurd (componentLe_antisymm hab hba) hne

end Components

variable {q r : Text}

/-- Two spellings of one path, which slashes in a row or at the end and dots may tell apart. -/
def Same (p q : Text) : Prop := rooted p = rooted q

instance (p q : Text) : Decidable (Same p q) := inferInstanceAs (Decidable (rooted p = rooted q))

theorem Same.symm (h : Same p q) : Same q p := Eq.symm h

theorem le_trans (hpq : le p q = true) (hqr : le q r = true) : le p r = true :=
  componentsLe_trans hpq hqr

theorem le_total (p q : Text) : le p q = true ∨ le q p = true :=
  componentsLe_total (rooted p) (rooted q)

theorem same_of_le (hpq : le p q = true) (hqp : le q p = true) : Same p q :=
  componentsLe_antisymm hpq hqp

/-- The paths differ in more than their spelling. -/
def Distinct (paths : List Text) : Prop := paths.Pairwise fun p q => ¬Same p q

instance (paths : List Text) : Decidable (Distinct paths) :=
  inferInstanceAs (Decidable (List.Pairwise _ _))

end Order

end Copydesk.Path
