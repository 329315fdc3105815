import Copydesk.Blueprint.Selector
import Copydesk.Proofs.Outcome
import Copydesk.Proofs.Text.Decimal
import Copydesk.Proofs.Text.Split

/-! Selectors as they are written, and that their steps are read back. -/

namespace Copydesk.Selector

open Outcome Text

variable {k rest : Text} {ks : List Text} {s : Step} {steps : List Step} {at' total fuel n : Nat}

def escaped : Char → Text
  | '"' => ['\\', '"']
  | '\\' => ['\\', '\\']
  | c => [c]

def closed (k : Text) : Text := k.flatMap escaped ++ ['"']

namespace Step

/-- What is written after the dot of a step. -/
def body : Step → Text
  | key k => '"' :: closed k
  | recursive k => '.' :: '"' :: closed k
  | index n => '[' :: (ofNat n ++ [']'])
  | all => "[*]"
  | properties ks => "property(".toList ++ (join [','] ks ++ [')'])

theorem body_index (n : Nat) : body (.index n) = '[' :: (ofNat n ++ [']']) := rfl

theorem body_properties (ks : List Text) :
    body (.properties ks) = "property(".toList ++ (join [','] ks ++ [')']) := rfl

def write (s : Step) : Text := '.' :: s.body

/-- A name that can stand without quotes among the arguments of a function. -/
structure IsArgument (k : Text) : Prop where
  ne_nil : k ≠ []
  head : ∀ c ∈ k.head?, isSpace c = false ∧ c ≠ '"'
  last : ∀ c ∈ k.getLast?, isSpace c = false ∧ c ≠ '"'
  comma : ',' ∉ k
  paren : ')' ∉ k

/-- The steps that can be written. -/
def IsWritable : Step → Prop
  | recursive k => k ≠ []
  | index n => n < indexLimit
  | properties ks => ks ≠ [] ∧ ∀ k ∈ ks, IsArgument k
  | _ => True

end Step

open Step

section Parts

theorem readQuoted_closed (k rest : Text) : readQuoted '"' (closed k ++ rest) = .ok (k, rest) := by
  induction k with
  | nil => rfl
  | cons c k ih =>
    have hcons : closed (c :: k) ++ rest = escaped c ++ (closed k ++ rest) := by
      simp [closed]
    rw [hcons]
    by_cases hquote : c = '"'
    · subst hquote
      exact bind_eq_ok_iff.mpr ⟨(k, rest), ih, rfl⟩
    by_cases hbackslash : c = '\\'
    · subst hbackslash
      exact bind_eq_ok_iff.mpr ⟨(k, rest), ih, rfl⟩
    have hself : escaped c = [c] := by
      unfold escaped
      split <;> first | contradiction | rfl
    rw [hself, List.singleton_append, readQuoted.eq_4 _ _ _ (by simp [hbackslash])
      (by simp [hbackslash]), if_neg hquote]
    exact bind_eq_ok_iff.mpr ⟨(k, rest), ih, rfl⟩

theorem readUntil_append {close : Char} {t : Text} (h : close ∉ t) (rest : Text) :
    readUntil close (t ++ close :: rest) = .ok (t, rest) := by
  rw [readUntil, splitOnce?_eq_some_iff.mpr ⟨rfl, h⟩]

theorem readIndex_ofNat (h : n < indexLimit) : readIndex (ofNat n) = .ok (.index n) := by
  have hplus : afterPrefix? ['+'] (ofNat n) = none := by
    refine Option.eq_none_iff_forall_ne_some.mpr fun t ht => ?_
    refine not_mem_ofNat (n := n) (c := '+') (by decide) ?_
    rw [afterPrefix?_eq_some_iff.mp ht]
    exact List.mem_cons_self
  rw [readIndex, hplus, Option.getD_none, toNat?_ofNat]
  exact if_pos h

theorem readBracket_ofNat (h : n < indexLimit) (rest : Text) :
    readBracket (ofNat n ++ ']' :: rest) = .ok (.index n, rest) := by
  have hstar : ofNat n ≠ ['*'] := fun hstar =>
    not_mem_ofNat (n := n) (c := '*') (by decide) (hstar ▸ List.mem_cons_self)
  have hquote : afterPrefix? ['"'] (ofNat n) = none := by
    refine Option.eq_none_iff_forall_ne_some.mpr fun t ht => ?_
    refine not_mem_ofNat (n := n) (c := '"') (by decide) ?_
    rw [afterPrefix?_eq_some_iff.mp ht]
    exact List.mem_cons_self
  refine bind_eq_ok_iff.mpr ⟨_, readUntil_append (not_mem_ofNat (by decide)) rest, ?_⟩
  dsimp only
  rw [trim_ofNat, if_neg hstar, hquote]
  exact bind_eq_ok_iff.mpr ⟨_, readIndex_ofNat h, rfl⟩

theorem trimQuotes_trim (h : IsArgument k) : trimQuotes (trim k) = k := by
  have htrim : trim k = k := dropEndWhile_dropWhile_eq_self (fun c hc => (h.head c hc).1)
    fun c hc => (h.last c hc).1
  rw [htrim]
  exact dropEndWhile_dropWhile_eq_self (fun c hc => by simpa using (h.head c hc).2)
    fun c hc => by simpa using (h.last c hc).2

theorem callStep_join (hne : ks ≠ []) (h : ∀ k ∈ ks, IsArgument k) :
    callStep "property" (join [','] ks) = .ok (.properties ks) := by
  have hmap : ks.map (fun k => trimQuotes (trim k)) = ks :=
    List.map_congr_left (g := id) (fun k hk => trimQuotes_trim (h k hk)) |>.trans (List.map_id ks)
  have hfilter : ks.filter (!·.isEmpty) = ks :=
    List.filter_eq_self.mpr fun k hk => by simpa using (h k hk).ne_nil
  rw [callStep, splitOn_join hne fun k hk => (h k hk).comma, hmap, hfilter]
  obtain ⟨k, ks, rfl⟩ := List.exists_cons_of_ne_nil hne
  rfl

theorem paren_not_mem_join (h : ∀ k ∈ ks, IsArgument k) : ')' ∉ join [','] ks := by
  induction ks with
  | nil => exact List.not_mem_nil
  | cons k ks ih =>
    obtain ⟨hk, hks⟩ := List.forall_mem_cons.mp h
    cases ks with
    | nil =>
      rw [join_singleton]
      exact hk.paren
    | cons q qs =>
      rw [join_cons_cons, List.mem_append, List.mem_cons]
      rintro (hmem | hmem | hmem)
      · exact hk.paren hmem
      · cases hmem
      · exact ih hks hmem

end Parts

/-- Each step is read up to its end, whatever comes after it. -/
theorem readDotted_body (h : s.IsWritable) (at' : Nat) (rest : Text) :
    readDotted at' (s.body ++ rest) = .ok (some s, rest) := by
  cases s with
  | key k => exact bind_eq_ok_iff.mpr ⟨_, readQuoted_closed k rest, rfl⟩
  | recursive k =>
    rw [IsWritable] at h
    refine bind_eq_ok_iff.mpr ⟨_, readQuoted_closed k rest, ?_⟩
    exact unless_bind_eq_ok_iff.mpr ⟨by simpa using h, rfl⟩
  | index n =>
    rw [IsWritable] at h
    have hbody : body (.index n) ++ rest = '[' :: (ofNat n ++ ']' :: rest) := by
      rw [body_index, List.cons_append, List.append_assoc, List.singleton_append]
    rw [hbody]
    exact bind_eq_ok_iff.mpr ⟨_, readBracket_ofNat h rest, rfl⟩
  | all => exact bind_eq_ok_iff.mpr ⟨_, rfl, rfl⟩
  | properties ks =>
    have hbody : body (.properties ks) ++ rest =
        "property(".toList ++ (join [','] ks ++ ')' :: rest) := by
      rw [body_properties, List.append_assoc, List.append_assoc, List.singleton_append]
    rw [hbody]
    refine bind_eq_ok_iff.mpr ⟨_, readUntil_append (paren_not_mem_join h.2) rest, ?_⟩
    exact bind_eq_ok_iff.mpr ⟨_, callStep_join h.1 h.2, rfl⟩

/-- Any fuel that covers the text will do: a step takes one and is one character long at least. -/
theorem readSteps_write (h : ∀ s ∈ steps, s.IsWritable)
    (hfuel : (steps.flatMap write).length ≤ fuel) :
    readSteps total fuel (steps.flatMap write) = .ok steps := by
  induction steps generalizing fuel with
  | nil => cases fuel <;> rfl
  | cons s steps ih =>
    obtain ⟨hs, hsteps⟩ := List.forall_mem_cons.mp h
    rw [List.flatMap_cons, write, List.cons_append] at hfuel ⊢
    cases fuel with
    | zero => cases hfuel
    | succ fuel =>
      have hrest : (steps.flatMap write).length ≤ fuel := by
        rw [List.length_cons, List.length_append] at hfuel
        omega
      rw [readSteps, if_neg (by decide), if_pos rfl]
      refine bind_eq_ok_iff.mpr ⟨_, readDotted_body hs _ _, ?_⟩
      exact bind_eq_ok_iff.mpr ⟨_, ih hsteps hrest, rfl⟩

section Ends

theorem exists_write_eq (s : Step) : ∃ t c, s.write = t ++ [c] ∧ isSpace c = false := by
  cases s with
  | key k => exact ⟨'.' :: '"' :: k.flatMap escaped, '"', rfl, by decide⟩
  | recursive k => exact ⟨'.' :: '.' :: '"' :: k.flatMap escaped, '"', rfl, by decide⟩
  | index n =>
    exact ⟨'.' :: '[' :: ofNat n, ']', congrArg ('.' :: ·) (body_index n), by decide⟩
  | all => exact ⟨".[*", ']', rfl, by decide⟩
  | properties ks =>
    refine ⟨".property(".toList ++ join [','] ks, ')', ?_, by decide⟩
    rw [List.append_assoc, write, body_properties]
    rfl

/-- A step begins with a dot and ends with a mark, so that no white space is at the ends. -/
theorem trim_write (steps : List Step) : trim (steps.flatMap write) = steps.flatMap write := by
  refine dropEndWhile_dropWhile_eq_self (fun c hc => ?_) fun c hc => ?_
  · cases steps with
    | nil => cases hc
    | cons s steps =>
      obtain rfl := Option.some.inj hc
      decide
  · rcases List.eq_nil_or_concat steps with rfl | ⟨steps, s, rfl⟩
    · cases hc
    · obtain ⟨t, d, ht, hd⟩ := exists_write_eq s
      have hwrite : (steps ++ [s]).flatMap write = steps.flatMap write ++ t ++ [d] := by
        rw [List.flatMap_append, List.flatMap_singleton, ht, List.append_assoc]
      rw [List.concat_eq_append, hwrite, List.getLast?_concat] at hc
      rwa [← Option.some.inj hc]

end Ends

/-- Steps are read back from what is written for them. -/
theorem ofText_write (h : ∀ s ∈ steps, s.IsWritable) :
    ofText (steps.flatMap write) = .ok ⟨steps.flatMap write, steps⟩ := by
  have hleading : leadingKey (steps.flatMap write) = ([], steps.flatMap write) := by
    cases steps <;> rfl
  simp only [ofText, trim_write, hleading]
  exact bind_eq_ok_iff.mpr ⟨steps, readSteps_write h (Nat.le_refl _), rfl⟩

/-- Names with marks of their own, blanks at their ends or nothing in them. -/
theorem ofText_write_marks :
    (∀ s ∈ [key " a.\"b[", recursive "\\]", key [], index 7, all, properties ["d\"e", "f (g"]],
      s.IsWritable) ∧
    ofText ".\" a.\\\"b[\"..\"\\\\]\".\"\".[7].[*].property(d\"e,f (g)".toList =
      .ok ⟨".\" a.\\\"b[\"..\"\\\\]\".\"\".[7].[*].property(d\"e,f (g)".toList,
        [key " a.\"b[", recursive "\\]", key [], index 7, all, properties ["d\"e", "f (g"]]⟩ := by
  have hwritable : ∀ s ∈ [key " a.\"b[", recursive "\\]", key [], index 7, all,
      properties ["d\"e", "f (g"]], s.IsWritable := by
    simp only [List.forall_mem_cons, IsWritable]
    refine ⟨trivial, by decide, trivial, by decide, trivial, ⟨by decide, ?_, ?_, nofun⟩, nofun⟩ <;>
    · refine ⟨by decide, ?_, ?_, by decide, by decide⟩ <;>
      · rintro _ ⟨⟩
        decide
  exact ⟨hwritable, ofText_write hwritable⟩

end Copydesk.Selector
