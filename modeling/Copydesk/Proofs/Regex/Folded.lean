import Copydesk.Proofs.Regex.Alternatives

/-! Texts in expressions that ignore case. A text none of whose characters means anything else is read
as its characters, and matches what equals it character by character up to case. -/

namespace Copydesk.Regex

open Text

def folded (k : Text) : List Node := k.map fun c => .one (.folded (.single c))

def Alike : Text → Text → Prop := List.Forall₂ fun c d => c ∈ Unicode.foldClass d

theorem mem_folded_single {c d : Char} :
    (CharSet.folded (.single c)).mem d = true ↔ c ∈ Unicode.foldClass d := by
  have hsingle (e : Char) : (CharSet.single c).mem e = true ↔ e = c := by
    rw [CharSet.single, CharSet.mem, Bool.and_eq_true, decide_eq_true_eq, decide_eq_true_eq]
    exact ⟨fun h => le_antisymm h.2 h.1, fun h => ⟨h.ge, h.le⟩⟩
  rw [CharSet.mem, List.any_eq_true]
  constructor
  · rintro ⟨e, he, hmem⟩
    exact (hsingle e).mp hmem ▸ he
  · exact fun h => ⟨c, h, (hsingle c).mpr rfl⟩

section Classes

open Unicode

theorem mem_of_lastBelow {α : Type} {steps : Array (Nat × α)} {x lo hi : Nat} {e : Nat × α}
    (h : StepTable.lastBelow steps x lo hi = some e) : e ∈ steps := by
  fun_induction StepTable.lastBelow steps x lo hi with
  | case1 lo hi _ mid n a hmid hle ih => exact ih h
  | case2 lo hi _ mid n a hmid hle ih => exact ih h
  | case3 => cases h
  | case4 lo hi _ => exact Array.mem_of_getElem? (Option.filter_eq_some_iff.mp h).1

theorem mem_foldClass (c : Char) : c ∈ foldClass c := by
  rw [foldClass]
  cases hfind : foldTable.findPoint? c with
  | none => exact List.mem_singleton_self c
  | some cs =>
    obtain ⟨⟨n, cs'⟩, he, rfl⟩ := Option.map_eq_some_iff.mp hfind
    obtain ⟨hlast, hn⟩ := Option.filter_eq_some_iff.mp he
    have hmem := mem_of_lastBelow hlast
    rw [foldTable, StepTable.ofPoints, List.mem_toArray, List.mem_mergeSort] at hmem
    obtain ⟨⟨c', ds⟩, hc', heq⟩ := List.mem_map.mp hmem
    obtain ⟨ds, -, hds⟩ := List.mem_flatMap.mp hc'
    obtain ⟨d, hd, hpair⟩ := List.mem_map.mp hds
    obtain ⟨rfl, rfl⟩ := Prod.mk.inj hpair
    obtain ⟨rfl, rfl⟩ := Prod.mk.inj heq
    have hsame : d = c := Char.toNat_inj.mp (beq_iff_eq.mp hn)
    exact hsame ▸ hd

theorem Alike.refl (k : Text) : Alike k k := by
  induction k with
  | nil => exact .nil
  | cons c k ih => exact .cons (mem_foldClass c) ih

end Classes

namespace Reader

variable {c : Char} {k rest : Text} {f : Flags} {fuel n : Nat} {names : List Text} {b : Node}
  {s t : ReadState} {items : List (Option Node)}

theorem leadOf_of_not_mem (hc : c ∉ metaChars) : leadOf c = .other := by
  simp only [mem_metaChars_iff, not_or] at hc
  unfold leadOf
  split <;> simp_all

theorem literal_folded (hi : s.flags.ignoreCase = true) (hu : s.flags.unicode = true) :
    literal c s = .ok (.one (.folded (.single c)), s) := by
  rw [literal, fold, bind_assoc, bind_of_ok (flags_apply s), hi, hu]
  rfl

theorem concatenation_folded (hf : f.extended = false) (hi : f.ignoreCase = true)
    (hu : f.unicode = true) (hk : ∀ c ∈ k, c ∉ metaChars) (hrest : rest.head? = some ')')
    (h : concatenation fuel items ⟨k ++ rest, f, n, names⟩ = .ok (b, t)) :
    b = Node.ofList (items.reverse.filterMap id ++ folded k) ∧ t = ⟨rest, f, n, names⟩ := by
  induction k generalizing fuel items with
  | nil =>
    obtain ⟨rfl, rfl⟩ := concatenation_stop hf (.inr (.inr hrest)) h
    exact ⟨by rw [folded, List.map_nil, List.append_nil], rfl⟩
  | cons c k ih =>
    obtain ⟨hc, hk⟩ := List.forall_mem_cons.mp hk
    cases fuel with
    | zero => exact absurd h fail_ne_ok
    | succ fuel =>
      have hbar : c ≠ '|' := fun hbar => hc (hbar ▸ by decide)
      have hclose : c ≠ ')' := fun hclose => hc (hclose ▸ by decide)
      rw [concatenation_cons hf rfl hbar hclose, item, bind_of_ok (flags_apply _),
        leadOf_of_not_mem hc] at h
      dsimp only at h
      rw [bind_of_ok (literal_folded hi hu)] at h
      obtain ⟨rfl, rfl⟩ := ih hk h
      refine ⟨?_, rfl⟩
      rw [List.reverse_cons, List.filterMap_append, List.append_assoc]
      rfl

theorem readsAs_folded (hf : f.extended = false) (hi : f.ignoreCase = true) (hu : f.unicode = true)
    (hk : ∀ c ∈ k, c ∉ metaChars) : ReadsAs f k (Node.ofList (folded k)) 0 := by
  intro fuel m names more b t h _
  obtain ⟨fuel', a, s, ha, h⟩ := exists_of_alternation h
  obtain ⟨rfl, rfl⟩ := concatenation_folded hf hi hu hk rfl ha
  obtain ⟨-, rfl, rfl⟩ | ⟨c, r, hr, -⟩ := h
  · refine ⟨?_, rfl, rfl⟩
    rw [Node.shift_ofList, folded, List.map_map]
    rfl
  · cases hr

end Reader

namespace Node

variable {α : Type} {k pre t u v : Text} {q : Point} {g : Groups} {r : α}
  {next : Point → Groups → Option α}

theorem matcher_ofList_cons (a : Node) (as : List Node) (p : Point) (g : Groups)
    (next : Point → Groups → Option α) : (ofList (a :: as)).matcher p g next =
      a.matcher p g fun p g => (ofList as).matcher p g next := by
  cases as with
  | nil => rfl
  | cons b bs => rfl

theorem matcher_folded_cons (c : Char) (k : Text) (p : Point) (g : Groups)
    (next : Point → Groups → Option α) : (ofList (folded (c :: k))).matcher p g next =
      (Node.one (.folded (.single c))).matcher p g fun p g => (ofList (folded k)).matcher p g next :=
  matcher_ofList_cons _ _ p g next

theorem exists_of_matcher_folded
    (h : (ofList (folded k)).matcher (.between pre t) g next = some r) :
    ∃ u v, t = u ++ v ∧ Alike k u ∧ next (.between (pre ++ u) v) g = some r := by
  induction k generalizing pre t with
  | nil => exact ⟨[], t, rfl, .nil, by rwa [List.append_nil]⟩
  | cons c k ih =>
    rw [matcher_folded_cons] at h
    obtain ⟨d, w, rfl, hd, hw⟩ := exists_of_one h
    obtain ⟨u, v, rfl, hu, hr⟩ := ih hw
    rw [List.append_assoc] at hr
    exact ⟨d :: u, v, rfl, .cons (mem_folded_single.mp hd) hu, hr⟩

theorem matcher_folded_of_alike (h : Alike k u) (pre v : Text) (g : Groups)
    (next : Point → Groups → Option α) :
    (ofList (folded k)).matcher (.between pre (u ++ v)) g next = next (.between (pre ++ u) v) g := by
  induction h generalizing pre with
  | nil =>
    rw [List.append_nil]
    rfl
  | @cons c d k u hd _ ih =>
    have hpre : pre ++ d :: u = pre ++ [d] ++ u := by rw [List.append_assoc, List.singleton_append]
    rw [matcher_folded_cons, List.cons_append, matcher_one_cons, if_pos (mem_folded_single.mpr hd), ih,
      hpre]

/-- In its frame, too, the text of a match is the characters up to case. -/
theorem exists_of_framed_folded {nonword : Bool} {i : Nat} {m : Match}
    (h : (framed nonword (.group i (ofList (folded k)))).matchAt? (.between pre t) = some (m, q)) :
    ∃ u v, t = u ++ v ∧ Alike k u ∧ m.start = size pre ∧ m.stop = size (pre ++ u) := by
  have hgroup (next : Point → Groups → Option (Match × Point))
      (hnext : ∀ x g, next x g = some (m, q) → m.start = size pre ∧ m.stop = x.offset)
      (hk : (Node.group i (ofList (folded k))).matcher (.between pre t) [] next = some (m, q)) :
      ∃ u v, t = u ++ v ∧ Alike k u ∧ m.start = size pre ∧ m.stop = size (pre ++ u) := by
    obtain ⟨u, v, ht, hu, hx⟩ := exists_of_matcher_folded hk
    obtain ⟨hstart, hstop⟩ := hnext _ _ hx
    exact ⟨u, v, ht, hu, hstart, hstop⟩
  cases nonword with
  | true =>
    refine hgroup _ (fun x g hx => ?_) h
    cases hx
    exact ⟨rfl, rfl⟩
  | false =>
    simp only [framed, matchAt?, matcher_cat, matcher_look, Bool.false_eq_true, if_false] at h
    split at h
    · refine hgroup _ (fun x g hx => ?_) h
      split at hx
      · cases hx
        exact ⟨rfl, rfl⟩
      · cases hx
    · cases h

/-- What begins and ends with a character of a word is found where it stands alone. -/
theorem matchAt?_framed_alone {i : Nat} {c d : Char} (h : Alike k u) (hhead : u.head? = some c)
    (hc : isWordChar c = true) (hlast : u.getLast? = some d) (hd : isWordChar d = true) :
    (framed false (.group i (ofList (folded k)))).matchAt? (.between [] u) =
      some (⟨0, size u, [(i, 0, size u)]⟩, .between u []) := by
  have hstart : (Look.wordBoundary .unicode).holds (Point.between [] u).back
      (Point.between [] u).ahead.head? = true := by
    change (Look.wordBoundary .unicode).holds none u.head? = true
    rw [hhead]
    simpa [Look.holds, WordKind.mem] using hc
  have hstop : (Look.wordBoundary .unicode).holds (Point.between u []).back
      (Point.between u []).ahead.head? = true := by
    change (Look.wordBoundary .unicode).holds u.getLast? none = true
    rw [hlast]
    simpa [Look.holds, WordKind.mem] using hd
  have hchars (g : Groups) (next : Point → Groups → Option (Match × Point)) :
      (ofList (folded k)).matcher (.between [] u) g next = next (.between u []) g := by
    have hall := matcher_folded_of_alike h [] [] g next
    rwa [List.append_nil, List.nil_append] at hall
  simp only [framed, matchAt?, matcher_cat, matcher_look, Bool.false_eq_true, if_false]
  rw [if_pos hstart, matcher_group, hchars, if_pos hstop]
  rfl

end Node

theorem exists_of_mem_alone {r : Regex} {k : Text} {c d : Char}
    (hroot : r.root = Node.framed false (Reader.groupsFrom 0 [(.ofList (folded k), 0)]))
    (hhead : k.head? = some c) (hc : isWordChar c = true) (hlast : k.getLast? = some d)
    (hd : isWordChar d = true) : ∃ m ∈ r.findAll k, m.isEmpty = false ∧ m.text k = k := by
  have hsize : size k ≠ 0 := fun hzero => by
    rw [size_eq_zero hzero] at hhead
    cases hhead
  have hne : (⟨0, size k, [(1, 0, size k)]⟩ : Match).isEmpty = false :=
    beq_false_of_ne (Ne.symm hsize)
  have hone : Reader.groupsFrom 0 [(.ofList (folded k), 0)] = .group 1 (.ofList (folded k)) := by
    change (Node.group 0 (.ofList (folded k))).shift 1 = _
    rw [Node.shift, Node.shift_ofList, folded, List.map_map]
    rfl
  have hmatch := Node.matchAt?_framed_alone (i := 1) (.refl k) hhead hc hlast hd
  rw [← hone, ← hroot] at hmatch
  have hnone : NoneBegins r.root [] [] k := noneBegins_nil
  have hfind : r.findAll k = ⟨0, size k, [(1, 0, size k)]⟩ ::
      r.root.searchAll (2 * k.length + 1) (some (size k)) (.between k []) :=
    searchAll_of_matchAt? hnone hmatch hne _ none
  refine ⟨⟨0, size k, [(1, 0, size k)]⟩, ?_, hne, ?_⟩
  · rw [hfind]
    exact List.mem_cons_self
  · have hslice := slice_append [] k []
    rwa [List.append_nil, List.nil_append, size, Nat.zero_add] at hslice

end Copydesk.Regex
