import Copydesk.Blueprint.Document
import Copydesk.Proofs.Data.Alike
import Copydesk.Proofs.Data.Object
import Copydesk.Proofs.Regex.Repeat
import Copydesk.Proofs.Text.Offset
import Mathlib

/-! What is done to a document before it is read: the mark of a folded scalar becomes that of a
literal one wherever it follows a key, whatever the format of the document. -/

namespace Copydesk.Document

open Data Regex Text

/-- The text begins with the last character of a key and the mark of a folded scalar. -/
def BeginsMark (t : Text) : Prop :=
  ∃ c r, t = c :: ':' :: ' ' :: '>' :: r ∧ isWordChar c = true

def HasMark (t : Text) : Prop := ∃ x u, t = x ++ u ∧ BeginsMark u

/-- Marks are replaced from the first on; the search goes on after the dash and the blanks that follow
a mark. -/
inductive Unfolds : Text → Text → Prop
  | done {t : Text} (h : ¬HasMark t) : Unfolds t t
  | mark {x w t u : Text} {c : Char} (hx : ∀ y d z, x = y ++ d :: z →
      ¬BeginsMark (d :: (z ++ c :: ':' :: ' ' :: '>' :: (w ++ t))))
    (hc : isWordChar c = true) (hw : ∀ d ∈ w, d = '-' ∨ isSpace d = true) (h : Unfolds t u) :
    Unfolds (x ++ c :: ':' :: ' ' :: '>' :: (w ++ t)) (x ++ c :: ':' :: ' ' :: '|' :: (w ++ u))

variable {a t u w : Text} {c : Char}

section Marks

theorem Unfolds.eq_of_not_hasMark (h : Unfolds t u) (ht : ¬HasMark t) : u = t := by
  cases h with
  | done => rfl
  | mark _ hc => exact absurd ⟨_, _, rfl, _, _, rfl, hc⟩ ht

theorem Unfolds.alike (h : Unfolds t u) : TextAlike t u := by
  induction h with
  | done => exact TextAlike.refl _
  | @mark x w t u c _ _ _ _ ih =>
    have hkept (y : Text) {r r' : Text} (h : TextAlike r r') : TextAlike (y ++ r) (y ++ r') :=
      List.rel_append (TextAlike.refl y) h
    exact hkept x (hkept [c, ':', ' '] (.cons .mark (hkept w ih)))

theorem Unfolds.ne_of_hasMark (h : Unfolds t u) (ht : HasMark t) : u ≠ t := by
  cases h with
  | done hnone => exact absurd ht hnone
  | mark =>
    intro heq
    have hmark := List.append_cancel_left heq
    simp at hmark

end Marks

section Pattern

variable {m : Match} {q : Point} {pre : Text}

def trailing : Node :=
  .cat (.rep 0 (some 1) true (.one (.range '-' '-'))) (.rep 0 none true (.one (.named .space)))

theorem foldedScalar_root : foldedScalar.root =
    .cat (.group 1 (.cat (.one (.named .word)) (.cat (.one (.range ':' ':'))
      (.one (.range ' ' ' '))))) (.cat (.one (.range '>' '>')) (.group 2 trailing)) := by
  decide +kernel

theorem isSome_matchAt? (h : BeginsMark t) (pre : Text) :
    (foldedScalar.root.matchAt? (.between pre t)).isSome := by
  obtain ⟨c, r, rfl, hc⟩ := h
  have hword : (CharSet.named .word).mem c = true := hc
  have hself (d : Char) : (CharSet.range d d).mem d = true := by
    rw [CharSet.mem_range_self, beq_self_eq_true]
  rw [Node.matchAt?, foldedScalar_root, matcher_cat, matcher_group, matcher_cat, matcher_one_cons,
    if_pos hword, matcher_cat, matcher_one_cons, if_pos (hself _), matcher_one_cons,
    if_pos (hself _), matcher_cat, matcher_one_cons, if_pos (hself _), matcher_group, trailing,
    matcher_cat]
  exact isTotal_rep _ _ _ _ _ fun p g => isTotal_rep _ _ _ _ _ fun _ _ => rfl

theorem exists_of_matchAt? (h : foldedScalar.root.matchAt? (.between pre t) = some (m, q)) :
    ∃ c w u, t = c :: ':' :: ' ' :: '>' :: (w ++ u) ∧ isWordChar c = true ∧
      (∀ d ∈ w, d = '-' ∨ isSpace d = true) ∧ m.start = size pre ∧
      m.stop = size (pre ++ c :: ':' :: ' ' :: '>' :: w) ∧
      m.group? 1 = some (size pre, size (pre ++ [c, ':', ' '])) ∧
      m.group? 2 = some (size (pre ++ [c, ':', ' ', '>']), size (pre ++ c :: ':' :: ' ' :: '>' :: w)) ∧
      q = .between (pre ++ c :: ':' :: ' ' :: '>' :: w) u := by
  -- the parts of the expression one by one, each with the text that it reads
  rw [Node.matchAt?, foldedScalar_root, matcher_cat, matcher_group, matcher_cat] at h
  obtain ⟨c, t, rfl, hc, h⟩ := exists_of_one h
  rw [matcher_cat] at h
  obtain ⟨d, t, rfl, hd, h⟩ := exists_of_one h
  obtain ⟨e, t, rfl, he, h⟩ := exists_of_one h
  rw [matcher_cat] at h
  obtain ⟨f, t, rfl, hf, h⟩ := exists_of_one h
  rw [matcher_group, trailing, matcher_cat] at h
  obtain ⟨x, t, rfl, hx, h⟩ := exists_of_optional h
  rw [matcher_rep] at h
  obtain ⟨y, u, -, rfl, hy, h⟩ := exists_of_repeated h
  obtain ⟨rfl, rfl⟩ := Prod.mk.inj (Option.some.inj h)
  rw [CharSet.mem_range_self, beq_iff_eq] at hd he hf
  subst hd he hf
  have hblank : ∀ d ∈ x ++ y, d = '-' ∨ isSpace d = true := by
    intro d hd
    rcases List.mem_append.mp hd with hd | hd
    · have hdash := hx d hd
      rw [CharSet.mem_range_self, beq_iff_eq] at hdash
      exact .inl hdash
    · exact .inr (hy d hd)
  simp only [List.append_assoc, List.cons_append, List.nil_append]
  exact ⟨c, x ++ y, u, by simp, hc, hblank, rfl, rfl, rfl, rfl, rfl⟩

end Pattern

section Pass

def marked (t : Text) (m : Match) : Text :=
  (m.groupText? 1 t).getD [] ++ '|' :: (m.groupText? 2 t).getD []

theorem marked_eq {m : Match} (hkey : m.group? 1 = some (size a, size (a ++ [c, ':', ' '])))
    (hrest : m.group? 2 = some (size (a ++ [c, ':', ' ', '>']),
      size (a ++ c :: ':' :: ' ' :: '>' :: w))) (t : Text) :
    marked (a ++ c :: ':' :: ' ' :: '>' :: (w ++ t)) m = c :: ':' :: ' ' :: '|' :: w := by
  have hfirst := slice_between a [c, ':', ' '] ('>' :: (w ++ t))
  have hsecond := slice_between (a ++ [c, ':', ' ', '>']) w t
  simp only [List.append_assoc, List.cons_append, List.nil_append] at hfirst hsecond
  rw [marked, Match.groupText?, Match.groupText?, hkey, hrest]
  simp only [Option.map_some, Option.getD_some, hfirst, hsecond, List.cons_append,
    List.nil_append]

theorem not_beginsMark_of_noneBegins {x : Text} (h : NoneBegins foldedScalar.root a x t)
    {y z : Text} {d : Char} (hx : x = y ++ d :: z) : ¬BeginsMark (d :: (z ++ t)) := by
  intro hbegins
  have hmatch := isSome_matchAt? hbegins (a ++ y)
  rw [h y d z hx] at hmatch
  cases hmatch

theorem unfolds_spliceFrom (fuel : Nat) (hfuel : t.length < fuel) (last : Option Nat) (a : Text) :
    Unfolds t (spliceFrom (size a) t ((foldedScalar.root.searchAll fuel last (.between a t)).map
      fun m => (m.start, m.stop, marked (a ++ t) m))) := by
  induction fuel generalizing last a t with
  | zero => exact absurd hfuel (Nat.not_lt_zero _)
  | succ fuel ih =>
    cases hsearch : foldedScalar.root.search t.length (.between a t) with
    | none =>
      have hnone : foldedScalar.root.searchAll (fuel + 1) last (.between a t) = [] := by
        have hleft : foldedScalar.root.search (Point.between a t).left (.between a t) = none :=
          hsearch
        rw [Node.searchAll, hleft]
      rw [hnone]
      refine .done ?_
      rintro ⟨x, u, ht, c, r, hu, hc⟩
      have hbegins := not_beginsMark_of_noneBegins (noneBegins_of_search hsearch)
        (ht.trans (congrArg (x ++ ·) hu))
      rw [List.append_nil] at hbegins
      exact hbegins ⟨c, r, rfl, hc⟩
    | some r =>
      obtain ⟨m, q⟩ := r
      -- the match is the leftmost, so no mark begins in what is passed over
      obtain ⟨x, u, rfl, hx, hmatch⟩ := exists_noneBegins_of_search hsearch
      obtain ⟨c, w, v, rfl, hc, hw, hstart, hstop, hkey, hrest, rfl⟩ := exists_of_matchAt? hmatch
      have hempty : m.isEmpty = false := by
        have hlonger : size (c :: ':' :: ' ' :: '>' :: w) ≠ 0 :=
          fun h => List.cons_ne_nil _ _ (size_eq_zero h)
        rw [Match.isEmpty, hstart, hstop, size_append (a ++ x), beq_eq_false_iff_ne]
        omega
      have hlength : v.length < fuel := by
        simp only [List.length_append, List.length_cons] at hfuel
        omega
      have hpiece := spliceFrom_piece a x (c :: ':' :: ' ' :: '>' :: w)
        (c :: ':' :: ' ' :: '|' :: w) v
      have hmark := marked_eq hkey hrest v
      have hnext := ih hlength (some m.stop) (a ++ x ++ c :: ':' :: ' ' :: '>' :: w)
      rw [hstop] at hnext
      rw [searchAll_of_matchAt? hx hmatch hempty, List.map_cons, hstart, hstop]
      simp only [List.append_assoc, List.cons_append] at hpiece hmark hnext ⊢
      rw [hmark, hpiece]
      exact .mark (fun y d z => not_beginsMark_of_noneBegins hx) hc hw hnext

/-- The rewriting takes the marks of folded scalars, as they come. -/
theorem unfolds_unfold (t : Text) : Unfolds t (unfold t) :=
  unfolds_spliceFrom (2 * t.length + 2) (by omega) none []

theorem unfold_eq_self_iff : unfold t = t ↔ ¬HasMark t :=
  ⟨fun h hmark => (unfolds_unfold t).ne_of_hasMark hmark h, (unfolds_unfold t).eq_of_not_hasMark⟩

end Pass

section Formats

variable {content ext : Text} {own : Text → Except Text Value}

/-- How a text of the format is read as it is written. -/
def ownReader? (ext : Text) : Option (Text → Except Text Value) :=
  match String.ofList (ext.dropWhile (· == '.')) with
  | "json" => some fun t => (Json.read t).mapError (·.message)
  | "toml" => some fun t => ((Toml.read t).map .table).mapError (·.message)
  | _ => none

theorem read_eq (h : ownReader? ext = some own) (content path : Text) :
    read content ext path = (own (unfold content)).mapError (.malformed path 1) := by
  unfold ownReader? at h
  unfold read
  split at h
  · cases h
    rename_i hjson
    simp only [hjson]
    cases Json.read (unfold content) <;> rfl
  · cases h
    rename_i htoml
    simp only [htoml]
    cases Toml.read (unfold content) <;> rfl
  · cases h

/-- How a document is read whose format is not YAML. -/
structure ReadsUnfolded (content ext path : Text) (own : Text → Except Text Value) : Prop where
  reads : read content ext path = (own (unfold content)).mapError (.malformed path 1)
  unfolds : Unfolds content (unfold content)
  asWritten : ¬HasMark content →
    read content ext path = (own content).mapError (.malformed path 1)
  json : ext.dropWhile (· == '.') = "json".toList →
    OutcomesAlike Alike ((own content).mapError (.malformed path 1)) (read content ext path)

theorem outcomesAlike_mapError {ε ε' : Type} {α β : Type} {R : α → β → Prop} {x : Except ε α}
    {y : Except ε β} (f : ε → ε') (h : OutcomesAlike R x y) :
    OutcomesAlike R (x.mapError f) (y.mapError f) := by
  cases x <;> cases y <;> exact h

/-- Where no mark stands the format's own reader reads the document as it is written. A document of
JSON is read if and only if it is JSON as it is written, and then to the same tree but for the marks. -/
theorem readsUnfolded (h : ownReader? ext = some own) (content path : Text) :
    ReadsUnfolded content ext path own where
  reads := read_eq h content path
  unfolds := unfolds_unfold content
  asWritten hnone := by rw [read_eq h, unfold_eq_self_iff.mpr hnone]
  json hext := by
    rw [read_eq h]
    have hown : own = fun t => (Json.read t).mapError (·.message) := by
      unfold ownReader? at h
      rw [hext] at h
      exact (Option.some.inj h).symm
    rw [hown]
    exact outcomesAlike_mapError _ (outcomesAlike_mapError _
      (Json.read_alike (unfolds_unfold content).alike))

/-- A document of JSON that holds one string. -/
def stringDocument (value : Text) : Text := Json.objectText [] [] [("k", value)]

theorem read_stringDocument {value : Text} (h : Json.IsBare value) :
    Json.read (stringDocument value) = .ok (.table [("k", .str value)]) := by
  have hkey : Json.IsBare "k" := by decide
  have hmember : ∀ m ∈ [("k".toList, value)], Json.IsBare m.1 ∧ Json.IsBare m.2 :=
    List.forall_mem_singleton.mpr ⟨hkey, h⟩
  have hblank : ∀ x ∈ ([] : Text), Json.Reader.isBlank x = true := nofun
  have hread := Json.read_objectText (List.cons_ne_nil _ _) hblank hblank hblank hmember
    (List.nodup_singleton _)
  rwa [List.append_nil] at hread

theorem readsUnfolded_stringDocument :
    ownReader? "json" = some (fun t => (Json.read t).mapError (·.message)) ∧
      HasMark (stringDocument "a: > b") ∧ ReadsUnfolded (stringDocument "a: > b") "json" "data/file"
        fun t => (Json.read t).mapError (·.message) :=
  ⟨rfl, ⟨"\x7b\"k\": \"", _, rfl, 'a', _, rfl, by decide⟩,
    readsUnfolded rfl (stringDocument "a: > b") "data/file"⟩

/-- A string of the document is changed. -/
theorem read_stringDocument_mark :
    Json.read (stringDocument "a: > b") = .ok (.table [("k", .str "a: > b")]) ∧
      read (stringDocument "a: > b") "json" "data/file" = .ok (.table [("k", .str "a: | b")]) := by
  have hunfold : unfold (stringDocument "a: > b") = stringDocument "a: | b" := by decide +kernel
  have hread := read_eq (show ownReader? "json" = some _ from rfl) (stringDocument "a: > b")
    "data/file"
  refine ⟨read_stringDocument (by decide), ?_⟩
  rw [hread, hunfold, read_stringDocument (by decide)]
  rfl

end Formats

end Copydesk.Document
