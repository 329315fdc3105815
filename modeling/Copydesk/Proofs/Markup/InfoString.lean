import Copydesk.Proofs.Markup.Fences
import Copydesk.Proofs.Markup.Neutralize
import Copydesk.Proofs.Text.Line

/-! Info strings line by line. The pass that hides them works on each line of its own: it finds a run
of three marks or more and hides what follows in the line. -/

namespace Copydesk.Markup

open Regex Text

variable {α : Type} {pre p s t u w y e l : Text} {g : Groups}
  {k : Point → Groups → Option α} {r : α} {m : Char} {n : Nat}

section Pattern

def marginSet : CharSet :=
  .union (.union (.union .empty (.range ' ' ' ')) (.range '\t' '\t')) (.range '>' '>')

def infoStart : CharSet := .compl (.union (.union .empty (.range '\x60' '\x60')) (.range '\n' '\n'))

def infoMore : CharSet := .compl (.union .empty (.range '\n' '\n'))

def runNode (m : Char) : Node := .rep 3 none true (.one (.range m m))

def infoNode : Node :=
  .cat (.group 2 (.cat (.one infoStart) (.rep 0 none true (.one infoMore)))) (.look (.lineEnd false))

theorem fenceInfo_root : fenceInfo.root = .cat (.look (.lineStart false)) (.cat
    (.group 1 (.cat (.rep 0 none true (.one marginSet)) (.alt (runNode '\x60') (runNode '~'))))
      infoNode) := by decide +kernel

theorem mem_marginSet (c : Char) : marginSet.mem c = isMargin c := by
  rw [marginSet, CharSet.mem_union, CharSet.mem_union, CharSet.mem_union, CharSet.mem_range_self,
    CharSet.mem_range_self, CharSet.mem_range_self, CharSet.mem_empty, Bool.false_or, isMargin]

theorem mem_infoStart (c : Char) : infoStart.mem c = true ↔ c ≠ '\x60' ∧ c ≠ '\n' := by
  simp [infoStart, CharSet.mem_compl, CharSet.mem_union, CharSet.mem_empty, CharSet.mem_range_self]

theorem mem_infoMore (c : Char) : infoMore.mem c = true ↔ c ≠ '\n' := by
  simp [infoMore, CharSet.mem_compl, CharSet.mem_union, CharSet.mem_empty, CharSet.mem_range_self]

def hasInfo (s : Text) : Bool := s.head?.any infoStart.mem

theorem infoNode_append (hinfo : hasInfo w = true) (hw : '\n' ∉ w) (hu : firstLine u = [])
    (hk : k (.between (pre ++ w) u) ((2, size pre, size (pre ++ w)) :: g) = some r) :
    infoNode.matcher (.between pre (w ++ u)) g k = some r := by
  cases w with
  | nil => cases hinfo
  | cons c w =>
    have hc : infoStart.mem c = true := hinfo
    rw [List.mem_cons, not_or] at hw
    rw [infoNode, matcher_cat, matcher_group, matcher_cat, List.cons_append, matcher_one_cons,
      if_pos hc, matcher_rep]
    refine repeated_eq_some (Nat.zero_le _) (fun d hd => ?_) ?_ fun v u' hv hu' hvs => ?_
    · exact (mem_infoMore d).mpr fun h => hw.2 (h ▸ hd)
    · rw [matcher_lineEnd, if_pos hu, List.append_assoc]
      exact hk
    · cases v with
      | nil => exact absurd rfl hv
      | cons d v =>
        rw [hu', List.cons_append] at hu
        exact absurd (eq_newline_of_firstLine hu) ((mem_infoMore d).mp (hvs d List.mem_cons_self))

theorem infoNode_of_not (hinfo : hasInfo s = false) :
    infoNode.matcher (.between pre s) g k = none := by
  cases h : infoNode.matcher (.between pre s) g k with
  | none => rfl
  | some r =>
    rw [infoNode, matcher_cat, matcher_group, matcher_cat] at h
    obtain ⟨c, u, rfl, hc, -⟩ := exists_of_one h
    exact absurd (show hasInfo (c :: u) = true from hc) (by simp [hinfo])

theorem eq_of_mem_range {c : Char} (h : ∀ d ∈ w, (CharSet.range m m).mem d = true) (hc : c ∈ w) :
    c = m := by
  have hmem := h c hc
  rwa [CharSet.mem_range_self, beq_iff_eq] at hmem

theorem runs_of_runNode (hm : IsMark m) (ht : t.head? = some m)
    (hrun : (runNode m).matcher (.between pre t) g k = some r) :
    (Node.alt (runNode '\x60') (runNode '~')).matcher (.between pre t) g k = some r := by
  rw [matcher_alt]
  rcases hm with rfl | rfl
  · rw [hrun, Option.some_or]
  · cases h : (runNode '\x60').matcher (.between pre t) g k with
    | none => rw [Option.none_or, hrun]
    | some r' =>
      rw [runNode, matcher_rep] at h
      obtain ⟨w, u, hlength, rfl, hw, -⟩ := exists_of_repeated h
      cases w with
      | nil => cases hlength
      | cons c w =>
        cases ht
        exact absurd (eq_of_mem_range hw List.mem_cons_self) (by decide)

theorem exists_of_runs
    (h : (Node.alt (runNode '\x60') (runNode '~')).matcher (.between pre t) g k = some r) :
    ∃ m n s, IsMark m ∧ 3 ≤ n ∧ t = List.replicate n m ++ s ∧
      k (.between (pre ++ List.replicate n m) s) g = some r := by
  have hone {m : Char} (hm : IsMark m)
      (h : (runNode m).matcher (.between pre t) g k = some r) : ∃ m n s, IsMark m ∧ 3 ≤ n ∧
        t = List.replicate n m ++ s ∧ k (.between (pre ++ List.replicate n m) s) g = some r := by
    obtain ⟨w, s, hlength, rfl, hw, hk⟩ := exists_of_repeated h
    obtain ⟨n, rfl⟩ : ∃ n, w = List.replicate n m :=
      ⟨w.length, List.eq_replicate_iff.mpr ⟨rfl, fun c hc => eq_of_mem_range hw hc⟩⟩
    exact ⟨m, n, s, hm, by simpa using hlength, rfl, hk⟩
  rw [matcher_alt, Option.or_eq_some_iff] at h
  rcases h with h | ⟨-, h⟩
  · exact hone (.inl rfl) h
  · exact hone (.inr rfl) h

theorem hasInfo_of_longer {v u' : Text} (hinfo : hasInfo w = true)
    (hlonger : w.head? = some m → hasInfo (w.tail ++ u) = false) (hv : v ≠ [])
    (hu' : w ++ u = v ++ u') (hvs : ∀ c ∈ v, (CharSet.range m m).mem c = true) :
    hasInfo u' = false := by
  cases w with
  | nil => cases hinfo
  | cons c w =>
    cases v with
    | nil => exact absurd rfl hv
    | cons d v =>
      obtain ⟨rfl, hrest⟩ := List.cons.inj hu'
      obtain rfl := eq_of_mem_range hvs List.mem_cons_self
      have hnot : hasInfo (v ++ u') = false := by
        rw [show v ++ u' = w ++ u from hrest.symm]
        exact hlonger rfl
      cases v with
      | nil => exact hnot
      | cons e v =>
        obtain rfl := eq_of_mem_range hvs (List.mem_cons_of_mem _ List.mem_cons_self)
        have hmark : hasInfo (e :: v ++ u') = true := hinfo
        rw [hmark] at hnot
        cases hnot

/-- The whole run is matched, unless an info string begins only before its last mark. -/
theorem matchAt?_fenceInfo (hpre : lastLine pre = []) (hp : ∀ c ∈ p, isMargin c = true)
    (hm : IsMark m) (hn : 3 ≤ n) (hinfo : hasInfo w = true) (hw : '\n' ∉ w) (hu : firstLine u = [])
    (hlonger : w.head? = some m → hasInfo (w.tail ++ u) = false) :
    fenceInfo.root.matchAt? (.between pre (p ++ (List.replicate n m ++ (w ++ u)))) =
      some (⟨size pre, size (pre ++ p ++ List.replicate n m ++ w),
        [(2, size (pre ++ p ++ List.replicate n m), size (pre ++ p ++ List.replicate n m ++ w)),
          (1, size pre, size (pre ++ p ++ List.replicate n m))]⟩,
        .between (pre ++ p ++ List.replicate n m ++ w) u) := by
  obtain ⟨i, rfl⟩ : ∃ i, n = i + 1 := Nat.exists_eq_add_one.mpr (by omega)
  have hhead (s : Text) : (List.replicate (i + 1) m ++ s).head? = some m := rfl
  rw [Node.matchAt?, fenceInfo_root, matcher_cat, matcher_lineStart, if_pos hpre, matcher_cat,
    matcher_group, matcher_cat, matcher_rep]
  refine repeated_eq_some (Nat.zero_le _) (fun c hc => (mem_marginSet c).trans (hp c hc)) ?_ ?_
  · refine runs_of_runNode hm (hhead _) ?_
    rw [runNode, matcher_rep]
    refine repeated_eq_some (by simpa using hn) (fun c hc => ?_) ?_ ?_
    · rw [List.mem_replicate.mp hc |>.2, CharSet.mem_range_self, beq_self_eq_true]
    · exact infoNode_append hinfo hw hu rfl
    · exact fun v u' hv hu' hvs => infoNode_of_not (hasInfo_of_longer hinfo hlonger hv hu' hvs)
  · intro v u' hv hu' hvs
    cases v with
    | nil => exact absurd rfl hv
    | cons c v =>
      have hc := hvs c List.mem_cons_self
      obtain rfl : m = c := (List.cons.inj hu').1
      rw [mem_marginSet, hm.not_isMargin] at hc
      cases hc

theorem exists_of_matchAt?_fenceInfo {o : Match × Point}
    (h : fenceInfo.root.matchAt? (.between pre t) = some o) : lastLine pre = [] ∧
      ∃ p m n s, t = p ++ (List.replicate n m ++ s) ∧ (∀ c ∈ p, isMargin c = true) ∧ IsMark m ∧
        3 ≤ n ∧ hasInfo s = true := by
  rw [Node.matchAt?, fenceInfo_root, matcher_cat, matcher_lineStart] at h
  split at h
  · rename_i hpre
    rw [matcher_cat, matcher_group, matcher_cat, matcher_rep] at h
    obtain ⟨p, t, -, rfl, hp, h⟩ := exists_of_repeated h
    obtain ⟨m, n, s, hm, hn, rfl, h⟩ := exists_of_runs h
    refine ⟨hpre, p, m, n, s, rfl, fun c hc => (mem_marginSet c).symm.trans (hp c hc), hm, hn, ?_⟩
    by_contra hinfo
    rw [infoNode_of_not (by simpa using hinfo)] at h
    cases h
  · cases h

end Pattern

section Line

/-- What the pass takes for the info string of a line. After four tildes or more that nothing
follows, this is the last of them. -/
def infoOf? (l : Text) : Option Text :=
  (leadingRun? l).bind fun (run, s) =>
    if run.length < 3 then none
    else if hasInfo s then some s
    else if run.mark = '~' ∧ 3 < run.length then some ('~' :: s)
    else none

def hideInfo (l : Text) : Text :=
  match infoOf? l with
  | none => l
  | some info => l.take (l.length - info.length) ++ blank info

theorem hasInfo_append (hu : firstLine u = []) (s : Text) : hasInfo (s ++ u) = hasInfo s := by
  cases s with
  | nil =>
    cases u with
    | nil => rfl
    | cons c u =>
      rw [eq_newline_of_firstLine hu]
      rfl
  | cons c s => rfl

theorem infoOf?_append (hu : firstLine u = []) (l : Text) :
    infoOf? (l ++ u) = (infoOf? l).map (· ++ u) := by
  rw [infoOf?, infoOf?, leadingRun?_append_end hu]
  cases leadingRun? l with
  | none => rfl
  | some o =>
    simp only [Option.map_some, Option.bind_some, hasInfo_append hu]
    split_ifs <;> rfl

theorem exists_append_of_infoOf? (h : infoOf? l = some w) : ∃ p m n,
    p ++ (List.replicate n m ++ w) = l ∧ (∀ c ∈ p, isMargin c = true) ∧ IsMark m ∧ 3 ≤ n ∧
      hasInfo w = true ∧ (w.head? = some m → hasInfo w.tail = false) := by
  obtain ⟨⟨⟨m, n⟩, s⟩, hrun, hinfo⟩ := Option.bind_eq_some_iff.mp h
  obtain ⟨p, rfl, hp, hm, -, hs⟩ := exists_append_of_leadingRun? hrun
  simp only at hinfo
  split_ifs at hinfo with hshort hsome hlast
  · obtain rfl := Option.some.inj hinfo
    exact ⟨p, m, n, rfl, hp, hm, by omega, hsome, fun hhead => absurd hhead hs⟩
  · obtain rfl := Option.some.inj hinfo
    obtain ⟨rfl, hn⟩ := hlast
    obtain ⟨i, rfl⟩ := Nat.exists_eq_add_one.mpr (Nat.zero_lt_of_lt hn)
    refine ⟨p, '~', i, ?_, hp, hm, Nat.le_of_lt_succ hn, rfl, fun _ => by simpa using hsome⟩
    rw [List.replicate_succ', List.append_assoc]
    rfl

theorem suffix_of_infoOf? (h : infoOf? l = some w) : w <:+ l := by
  obtain ⟨p, m, n, rfl, -⟩ := exists_append_of_infoOf? h
  exact ⟨p ++ List.replicate n m, List.append_assoc _ _ _⟩

theorem exists_infoOf?_eq (hp : ∀ c ∈ p, isMargin c = true) (hm : IsMark m) (hn : 3 ≤ n)
    (hinfo : hasInfo s = true) : ∃ w, infoOf? (p ++ (List.replicate n m ++ s)) = some w := by
  by_cases hs : s.head? = some m
  · obtain ⟨c, s, rfl⟩ := List.exists_cons_of_ne_nil (l := s) (by rintro rfl; cases hs)
    obtain rfl := Option.some.inj hs
    obtain ⟨j, r, hj, hrun, hr⟩ := exists_replicate_append c s
    have hread := leadingRun?_append (n := n + j) hp hm (by omega) hr
    rw [← List.replicate_append_replicate, List.append_assoc, hrun] at hread
    -- a run goes on into the info string only where that is made of tildes
    have htilde : c = '~' := hm.resolve_left fun hc => ((mem_infoStart c).mp hinfo).1 hc
    rw [infoOf?, hread]
    simp only [Option.bind_some, if_neg (show ¬n + j < 3 by omega)]
    split_ifs with hsome hlast
    · exact ⟨_, rfl⟩
    · exact ⟨_, rfl⟩
    · exact absurd ⟨htilde, by omega⟩ hlast
  · rw [infoOf?, leadingRun?_append hp hm (by omega) hs]
    simp only [Option.bind_some, if_neg (show ¬n < 3 by omega), if_pos hinfo]
    exact ⟨_, rfl⟩

/-- A match begins at the lines with an info string, and nowhere else. -/
theorem matchAt?_eq_none (hu : firstLine u = []) (h : infoOf? y = none) :
    fenceInfo.root.matchAt? (.between pre (y ++ u)) = none := by
  cases hmatch : fenceInfo.root.matchAt? (.between pre (y ++ u)) with
  | none => rfl
  | some o =>
    obtain ⟨-, p, m, n, s, hsplit, hp, hm, hn, hinfo⟩ := exists_of_matchAt?_fenceInfo hmatch
    obtain ⟨w, hw⟩ := exists_infoOf?_eq hp hm hn hinfo
    rw [← hsplit, infoOf?_append hu, h] at hw
    cases hw

theorem ne_nil_of_infoOf? (h : infoOf? l = some w) : w ≠ [] := by
  rintro rfl
  obtain ⟨-, -, -, -, -, -, -, hinfo, -⟩ := exists_append_of_infoOf? h
  cases hinfo

theorem matchAt?_of_infoOf? {x : Text} (hpre : lastLine pre = []) (hy : '\n' ∉ x ++ w)
    (hu : firstLine u = []) (h : infoOf? (x ++ w) = some w) : ∃ o,
      fenceInfo.root.matchAt? (.between pre (x ++ w ++ u)) = some (o, .between (pre ++ x ++ w) u) ∧
      o.group? 2 = some (size (pre ++ x), size (pre ++ x ++ w)) ∧ o.isEmpty = false := by
  obtain ⟨p, m, n, hsplit, hp, hm, hn, hinfo, hlonger⟩ := exists_append_of_infoOf? h
  rw [← List.append_assoc] at hsplit
  obtain rfl := List.append_cancel_right hsplit
  have hw : '\n' ∉ w := fun hmem => hy (List.mem_append_right _ hmem)
  have hmatch := matchAt?_fenceInfo hpre hp hm hn hinfo hw hu fun hhead => by
    rw [hasInfo_append hu, hlonger hhead]
  simp only [← List.append_assoc] at hmatch ⊢
  refine ⟨_, hmatch, rfl, ?_⟩
  rw [Match.isEmpty, beq_eq_false_iff_ne]
  simp only [size_append]
  have hpos := Nat.pos_of_ne_zero fun hzero => ne_nil_of_infoOf? h (size_eq_zero hzero)
  omega

theorem hideInfo_of_none (h : infoOf? l = none) : hideInfo l = l := by
  rw [hideInfo, h]

theorem hideInfo_append {x : Text} (h : infoOf? (x ++ w) = some w) :
    hideInfo (x ++ w) = x ++ blank w := by
  rw [hideInfo, h]
  simp

theorem hideInfo_append_end (he : IsLineEnd u t) (l : Text) :
    hideInfo (l ++ u) = hideInfo l ++ u := by
  have hu := he.firstLine_eq_nil
  have hblank : blank u = u := by rcases he with rfl | ⟨rfl, -⟩ <;> rfl
  cases h : infoOf? l with
  | none => rw [hideInfo_of_none h, hideInfo_of_none (by rw [infoOf?_append hu, h, Option.map_none])]
  | some w =>
    obtain ⟨x, rfl⟩ := suffix_of_infoOf? h
    have hmore : infoOf? (x ++ (w ++ u)) = some (w ++ u) := by
      rw [← List.append_assoc, infoOf?_append hu, h, Option.map_some]
    rw [List.append_assoc, hideInfo_append h, hideInfo_append hmore, blank_append, hblank,
      List.append_assoc]

theorem matchAt?_of_lastLine (h : lastLine pre ≠ []) :
    fenceInfo.root.matchAt? (.between pre t) = none := by
  cases hmatch : fenceInfo.root.matchAt? (.between pre t) with
  | none => rfl
  | some o => exact absurd (exists_of_matchAt?_fenceInfo hmatch).1 h

/-- Within a line nothing matches. -/
theorem noneBegins_of_lastLine {a : Text} (ha : lastLine a ≠ []) (he : IsLineEnd e t) :
    NoneBegins fenceInfo.root a e t := by
  intro x c v hsplit
  have hx : x = [] := by
    have hlength := congrArg List.length hsplit
    have hshort := he.length_le_one
    rw [List.length_append, List.length_cons] at hlength
    exact List.length_eq_zero_iff.mp (by omega)
  rw [hx, List.append_nil]
  exact matchAt?_of_lastLine ha

theorem noneBegins_of_infoOf? {a : Text} (ha : lastLine a = []) (hy : '\n' ∉ y)
    (he : IsLineEnd e t) (h : infoOf? y = none) :
    NoneBegins fenceInfo.root a (y ++ e) t := by
  intro x c v hsplit
  by_cases hx : x = []
  · have hrest : c :: (v ++ t) = y ++ (e ++ t) := by
      rw [← List.append_assoc, hsplit, hx]
      rfl
    rw [hx, List.append_nil, hrest]
    exact matchAt?_eq_none he.firstLine_append h
  · have hlength := congrArg List.length hsplit
    have hshort := he.length_le_one
    rw [List.length_append, List.length_append, List.length_cons] at hlength
    have hstart : x <+: y := List.prefix_of_prefix_length_le ⟨c :: v, hsplit.symm⟩
      (List.prefix_append y e) (by omega)
    refine matchAt?_of_lastLine ?_
    rw [lastLine_append, if_neg fun hm => hy (hstart.subset hm), ha, List.nil_append]
    exact hx

end Line

section Pass

variable {a z : Text}

/-- What the pass makes of a text that begins with a line, once what stands before it is searched. -/
def HidesInfo (t : Text) : Prop := ∀ fuel last a z, t.length < fuel →
  (t ≠ [] → lastLine (a ++ z) = []) → NoneBegins fenceInfo.root a z t →
    spliceFrom (size a) (z ++ t) (groupEdits 2 (a ++ (z ++ t))
      (fenceInfo.root.searchAll fuel last (.between a (z ++ t)))) =
        z ++ ((linesInclusive t).map hideInfo).flatten

theorem hidesInfo_nil : HidesInfo [] := by
  intro fuel last a z _ _ hz
  have hend : fenceInfo.root.matchAt? (.between (a ++ z) []) = none :=
    matchAt?_eq_none (y := []) (u := []) rfl rfl
  rw [List.append_nil, searchAll_eq_nil hz hend]
  simp [groupEdits, spliceFrom, linesInclusive]

theorem HidesInfo.line_of_none (ht : HidesInfo t) (hy : '\n' ∉ y) (hne : y ++ e ≠ [])
    (he : IsLineEnd e t) (hinfo : infoOf? y = none) : HidesInfo (y ++ e ++ t) := by
  intro fuel last a z hfuel hstart hz
  have hpre := hstart fun h => hne (List.append_eq_nil_iff.mp h).1
  have hnone := hz.append (noneBegins_of_infoOf? hpre hy he hinfo)
  have hlength : t.length < fuel := by
    rw [List.length_append] at hfuel
    omega
  have hnextStart (htne : t ≠ []) : lastLine (a ++ (z ++ (y ++ e))) = [] := by
    rw [← List.append_assoc, ← List.append_assoc]
    exact he.lastLine_append htne _
  have hnext := ht fuel last a (z ++ (y ++ e)) hlength hnextStart hnone
  rw [List.append_assoc z] at hnext
  rw [hnext, he.linesInclusive_append hy hne, List.map_cons, List.flatten_cons,
    hideInfo_append_end he, hideInfo_of_none hinfo, List.append_assoc]

theorem HidesInfo.line_of_some (ht : HidesInfo t) (hy : '\n' ∉ y) (he : IsLineEnd e t)
    (hinfo : infoOf? y = some w) : HidesInfo (y ++ e ++ t) := by
  intro fuel last a z hfuel hstart hz
  obtain ⟨x, rfl⟩ := suffix_of_infoOf? hinfo
  have hw : w ≠ [] := ne_nil_of_infoOf? hinfo
  have hne : x ++ w ++ e ≠ [] := by simp [hw]
  have hpre := hstart fun h => hne (List.append_eq_nil_iff.mp h).1
  obtain ⟨o, hmatch, hgroup, hempty⟩ := matchAt?_of_infoOf? hpre hy he.firstLine_append hinfo
  rw [← List.append_assoc (x ++ w)] at hmatch
  obtain ⟨fuel, rfl⟩ := Nat.exists_eq_add_one.mpr (Nat.zero_lt_of_lt hfuel)
  have hlength : t.length < fuel := by
    have hpos := List.length_pos_iff.mpr hw
    simp only [List.length_append] at hfuel
    omega
  have hlast : lastLine (a ++ z ++ x ++ w) ≠ [] := by
    rw [lastLine_append, if_neg fun hm => hy (List.mem_append_right x hm)]
    simp [hw]
  have hsearch := searchAll_of_matchAt? hz hmatch hempty fuel last
  have hnext := ht fuel (some o.stop) (a ++ z ++ x ++ w) e hlength
    (fun htne => he.lastLine_append htne _) (noneBegins_of_lastLine hlast he)
  have hedit := spliceFrom_edit a (z ++ x) w (e ++ t)
  rw [hsearch, groupEdits, List.filterMap_cons, hgroup, he.linesInclusive_append hy hne,
    List.map_cons, List.flatten_cons, hideInfo_append_end he, hideInfo_append hinfo]
  simp only [Option.map_some, List.append_assoc] at hnext hedit ⊢
  rw [hedit, ← groupEdits, hnext]

theorem HidesInfo.line (ht : HidesInfo t) (hy : '\n' ∉ y) (hne : y ++ e ≠ [])
    (he : IsLineEnd e t) : HidesInfo (y ++ e ++ t) := by
  cases hinfo : infoOf? y with
  | none => exact ht.line_of_none hy hne he hinfo
  | some w => exact ht.line_of_some hy he hinfo

/-- The pass works on each line of its own. -/
theorem blankGroup_fenceInfo (t : Text) :
    blankGroup fenceInfo 2 t = ((linesInclusive t).map hideInfo).flatten := by
  have h : HidesInfo t := by
    induction t using line_induction with
    | nil => exact hidesInfo_nil
    | last w hw hne =>
      have hlast := hidesInfo_nil.line (e := []) hw (by simpa using hne) (.inr ⟨rfl, rfl⟩)
      rwa [List.append_nil, List.append_nil] at hlast
    | line l t hl ih =>
      obtain ⟨w, hw, rfl⟩ := hl
      exact ih.line hw (by simp) (.inl rfl)
  exact h (2 * t.length + 2) none [] [] (by omega) (fun _ => rfl) fun x c y hnil => by
    cases x <;> cases hnil

theorem newline_not_mem_hideInfo (h : '\n' ∉ l) : '\n' ∉ hideInfo l := by
  cases hinfo : infoOf? l with
  | none => rwa [hideInfo_of_none hinfo]
  | some w =>
    obtain ⟨x, rfl⟩ := suffix_of_infoOf? hinfo
    rw [List.mem_append, not_or] at h
    rw [hideInfo_append hinfo, List.mem_append]
    exact not_or.mpr ⟨h.1, newline_not_mem_blank h.2⟩

theorem size_hideInfo (l : Text) : size (hideInfo l) = size l := by
  cases hinfo : infoOf? l with
  | none => rw [hideInfo_of_none hinfo]
  | some w =>
    obtain ⟨x, rfl⟩ := suffix_of_infoOf? hinfo
    rw [hideInfo_append hinfo, size_append, size_append, size_blank]

theorem linesInclusive_blankGroup_fenceInfo (t : Text) :
    linesInclusive (blankGroup fenceInfo 2 t) = (linesInclusive t).map hideInfo := by
  rw [blankGroup_fenceInfo]
  induction t using line_induction with
  | nil => rfl
  | last w hw hne =>
    have hne' : hideInfo w ≠ [] := fun h => hne (size_eq_zero (by rw [← size_hideInfo, h]; rfl))
    rw [linesInclusive_of_not_mem hw hne, List.map_singleton, List.flatten_singleton,
      linesInclusive_of_not_mem (newline_not_mem_hideInfo hw) hne']
  | line l t hl ih =>
    have hfull : IsFullLine (hideInfo l) := by
      obtain ⟨w, hw, rfl⟩ := hl
      exact ⟨hideInfo w, newline_not_mem_hideInfo hw, (hideInfo_append_end (t := []) (.inl rfl) w).symm⟩
    rw [hl.linesInclusive_append, List.map_cons, List.flatten_cons, hfull.linesInclusive_append, ih]

end Pass

end Copydesk.Markup
