import Copydesk.Proofs.Filter.Spelling
import Copydesk.Proofs.Outcome

/-! A text that has been split into tokens is made of blanks and of the tokens' spellings. A field is
spelled by its mark and its name, a string between two equal quotes, and whatever is read up to where
it ends, a name or a number, is followed by nothing that could belong to it. -/

namespace Copydesk.Filter

open Text Outcome

namespace Token

variable {c : Char} {n r rest t w : Text} {tok : Token} {at' : Nat}

/-- Name characters up to something else. -/
structure IsRun (n rest : Text) : Prop where
  nonempty : n ≠ []
  chars : ∀ c ∈ n, isNameChar c = true
  stop : ∀ c ∈ rest.head?, isNameChar c = false

def quotes : List Char := ['"', '\'', '\x60']

/-- What tokens of one or two other characters are spelled with. -/
def marks : List Char := ['(', ')', '[', ']', ',', '=', '!', '<', '>', '&', '|']

/-- How a token is spelled where `rest` follows. -/
def IsSpelled (rest : Text) : Token → Text → Prop
  | field n, w => (∃ mark : FieldMark, w = mark.text ++ n) ∧ IsRun n rest
  | ident n, w => w = n ∧ IsRun n rest
  | str _, w => ∃ quote ∈ quotes, ∃ body, w = quote :: (body ++ [quote])
  | num _, w => w ≠ [] ∧ ∀ c ∈ w, (c.isDigit || c == '.') = true
  | _, w => w ≠ [] ∧ ∀ c ∈ w, c ∈ marks

theorem takeWhile_append_drop (p : Char → Bool) (t : Text) :
    t.takeWhile p ++ t.drop (t.takeWhile p).length = t ∧
      ∀ c ∈ (t.drop (t.takeWhile p).length).head?, p c = false := by
  have hparts : t.takeWhile p ++ t.dropWhile p = t := List.takeWhile_append_dropWhile
  have htake : t.takeWhile p ++ t.drop (t.takeWhile p).length = t :=
    List.prefix_iff_eq_append.mp (List.takeWhile_prefix p)
  have hdrop := List.append_cancel_left (htake.trans hparts.symm)
  rw [hdrop]
  refine ⟨hparts, fun c hc => ?_⟩
  have hstop := List.head?_dropWhile_not p t
  rwa [Option.mem_def.mp hc] at hstop

theorem isRun_takeWhile (h : t.takeWhile isNameChar ≠ []) :
    IsRun (t.takeWhile isNameChar) (t.drop (t.takeWhile isNameChar).length) :=
  ⟨h, fun _ hc => List.mem_takeWhile_imp hc, (takeWhile_append_drop isNameChar t).2⟩

theorem exists_of_stringBody {quote : Char} {s : Text}
    (h : stringBody at' quote t = .ok (s, rest)) : ∃ body, t = body ++ quote :: rest := by
  -- the body as the reader takes it: a backslash with what it escapes, or one character
  fun_induction stringBody at' quote t generalizing s with
  | case1 => cases h
  | case2 t hquote ih =>
    obtain ⟨⟨s', rest'⟩, hbody, hpure⟩ := bind_eq_ok_iff.mp h
    obtain ⟨-, rfl⟩ := Prod.mk.inj (pure_eq_ok_iff.mp hpure)
    obtain ⟨body, rfl⟩ := ih hbody
    exact ⟨'\\' :: body, rfl⟩
  | case3 => cases h
  | case4 hquote c t ih =>
    obtain ⟨⟨s', rest'⟩, hbody, hpure⟩ := bind_eq_ok_iff.mp h
    obtain ⟨-, rfl⟩ := Prod.mk.inj (pure_eq_ok_iff.mp hpure)
    obtain ⟨body, rfl⟩ := ih hbody
    exact ⟨'\\' :: c :: body, rfl⟩
  | case5 t hslash =>
    obtain ⟨-, rfl⟩ := Prod.mk.inj (Except.ok.inj h)
    exact ⟨[], rfl⟩
  | case6 c t hslash hquote ih =>
    obtain ⟨⟨s', rest'⟩, hbody, hpure⟩ := bind_eq_ok_iff.mp h
    obtain ⟨-, rfl⟩ := Prod.mk.inj (pure_eq_ok_iff.mp hpure)
    obtain ⟨body, rfl⟩ := ih hbody
    exact ⟨c :: body, rfl⟩

theorem exists_of_operator? {o : Op} {width : Nat} (h : operator? c t.head? = some (o, width)) :
    ∃ w, c :: t = w ++ t.drop (width - 1) ∧ w ≠ [] ∧ ∀ c ∈ w, c ∈ marks := by
  have two {d : Char} (hd : t.head? = some d) (hmarks : ∀ e ∈ [c, d], e ∈ marks) :
      ∃ w, c :: t = w ++ t.drop 1 ∧ w ≠ [] ∧ ∀ c ∈ w, c ∈ marks := by
    refine ⟨[c, d], ?_, List.cons_ne_nil c [d], hmarks⟩
    rw [List.head?_eq_some_iff] at hd
    obtain ⟨r, rfl⟩ := hd
    rfl
  have one (hmark : c ∈ marks) : ∃ w, c :: t = w ++ t.drop 0 ∧ w ≠ [] ∧ ∀ c ∈ w, c ∈ marks :=
    ⟨[c], rfl, List.cons_ne_nil c [], fun d hd => List.mem_singleton.mp hd ▸ hmark⟩
  generalize hhead : t.head? = head at h two
  unfold operator? at h
  split at h
  case h_10 => cases h
  all_goals
    obtain ⟨-, rfl⟩ := Prod.mk.inj (Option.some.inj h)
    first
      | exact two rfl (by simp [marks])
      | exact one (by simp [marks])

theorem isSpelled_of_fieldName (mark : FieldMark)
    (h : (if (t.takeWhile isNameChar).isEmpty = true then .error (.noFieldName at')
      else .ok (.field (t.takeWhile isNameChar), t.drop (t.takeWhile isNameChar).length) :
        Except Fault (Token × Text)) = .ok (tok, rest)) :
    ∃ w, mark.text ++ t = w ++ rest ∧ IsSpelled rest tok w := by
  by_cases hempty : t.takeWhile isNameChar = []
  · rw [hempty] at h
    cases h
  · rw [if_neg (by rwa [List.isEmpty_iff])] at h
    obtain ⟨rfl, rfl⟩ := Prod.mk.inj (Except.ok.inj h)
    refine ⟨mark.text ++ t.takeWhile isNameChar, ?_, ⟨mark, rfl⟩, isRun_takeWhile hempty⟩
    rw [List.append_assoc, (takeWhile_append_drop isNameChar t).1]

theorem isSpelled_ident (h : (isAlphabetic c || c == '_') = true) (t : Text) :
    ∃ w, c :: t = w ++ t.drop (t.takeWhile isNameChar).length ∧
      IsSpelled (t.drop (t.takeWhile isNameChar).length)
        (.ident (c :: t.takeWhile isNameChar)) w := by
  obtain ⟨hparts, hstop⟩ := takeWhile_append_drop isNameChar t
  refine ⟨c :: t.takeWhile isNameChar, ?_, rfl, List.cons_ne_nil _ _, ?_, hstop⟩
  · rw [List.cons_append, hparts]
  · refine List.forall_mem_cons.mpr ⟨?_, fun d hd => List.mem_takeWhile_imp hd⟩
    simp only [isNameChar, isAlphanumeric, Bool.or_eq_true] at h ⊢
    exact h.imp_left .inl

theorem isSpelled_num (h : c.isDigit = true) (x : Float) (t : Text) :
    ∃ w, c :: t = w ++ t.drop (t.takeWhile fun d => d.isDigit || d == '.').length ∧
      IsSpelled (t.drop (t.takeWhile fun d => d.isDigit || d == '.').length) (.num x) w := by
  obtain ⟨hparts, -⟩ := takeWhile_append_drop (fun d => d.isDigit || d == '.') t
  refine ⟨c :: t.takeWhile fun d => d.isDigit || d == '.', ?_, List.cons_ne_nil _ _, ?_⟩
  · rw [List.cons_append, hparts]
  · refine List.forall_mem_cons.mpr ⟨?_, fun d hd => ?_⟩
    · rw [h, Bool.true_or]
    · exact List.mem_takeWhile_imp (p := fun d => d.isDigit || d == '.') hd

theorem isSpelled_str {s : Text} (hquote : c ∈ quotes)
    (h : stringBody at' c t = .ok (s, rest)) :
    ∃ w, c :: t = w ++ rest ∧ IsSpelled rest (.str s) w := by
  obtain ⟨body, rfl⟩ := exists_of_stringBody h
  refine ⟨c :: (body ++ [c]), ?_, c, hquote, body, rfl⟩
  rw [List.cons_append, List.append_assoc, List.singleton_append]

/-- What is read as a token spells it. -/
theorem isSpelled_of_next (h : next at' c t = .ok (tok, rest)) :
    ∃ w, c :: t = w ++ rest ∧ IsSpelled rest tok w := by
  unfold next at h
  dsimp only at h
  split at h
  -- fields by either mark, then whatever needs a longer lexeme; the other cases are single marks
  case h_6 => exact isSpelled_of_fieldName .dot h
  case h_7 =>
    cases hdot : afterPrefix? ['.'] t with
    | none =>
      rw [hdot] at h
      exact isSpelled_of_fieldName .hash h
    | some r =>
      rw [hdot] at h
      rw [afterPrefix?_eq_some_iff.mp hdot]
      exact isSpelled_of_fieldName .hashDot h
  case h_8 =>
    split at h
    · rename_i hquote
      cases hbody : stringBody at' c t with
      | error e =>
        rw [hbody] at h
        cases h
      | ok p =>
        rw [hbody] at h
        obtain ⟨rfl, rfl⟩ := Prod.mk.inj (Except.ok.inj h)
        exact isSpelled_str (by simpa [quotes] using hquote) hbody
    · split at h
      · rename_i hdigit
        split at h
        · obtain ⟨rfl, rfl⟩ := Prod.mk.inj (Except.ok.inj h)
          rw [List.length_cons, Nat.add_sub_cancel]
          exact isSpelled_num hdigit _ t
        · cases h
      · split at h
        · rename_i hoperator
          obtain ⟨rfl, rfl⟩ := Prod.mk.inj (Except.ok.inj h)
          exact exists_of_operator? hoperator
        · split at h
          · rename_i halpha
            obtain ⟨rfl, rfl⟩ := Prod.mk.inj (Except.ok.inj h)
            exact isSpelled_ident halpha t
          · cases h
  all_goals
    obtain ⟨rfl, rfl⟩ := Prod.mk.inj (Except.ok.inj h)
    exact ⟨[_], rfl, List.cons_ne_nil _ _, by simp [marks]⟩

theorem IsSpelled.ne_nil (h : IsSpelled rest tok w) : w ≠ [] := by
  cases tok with
  | field n =>
    obtain ⟨⟨mark, rfl⟩, hrun⟩ := h
    exact List.append_ne_nil_of_right_ne_nil _ hrun.nonempty
  | ident n =>
    obtain ⟨rfl, hrun⟩ := h
    exact hrun.nonempty
  | str s =>
    obtain ⟨quote, -, body, rfl⟩ := h
    exact List.cons_ne_nil _ _
  | _ => exact h.1

end Token

/-- A text made of blanks and of spellings, each read as its token where it stands. -/
inductive Lexed : Text → List (Text × Token) → Prop
  | nil : Lexed [] []
  | blank {c : Char} {t : Text} {ls : List (Text × Token)} (hc : isSpace c = true)
      (h : Lexed t ls) : Lexed (c :: t) ls
  | token {at' : Nat} {c : Char} {t w rest : Text} {tok : Token} {ls : List (Text × Token)}
      (hc : isSpace c = false) (hnext : Token.next at' c t = .ok (tok, rest))
      (hw : c :: t = w ++ rest) (hspelled : tok.IsSpelled rest w) (h : Lexed rest ls) :
      Lexed (c :: t) ((w, tok) :: ls)

theorem exists_lexed_of_readFrom {total fuel : Nat} {t : Text} {toks : List Token}
    (hfuel : t.length ≤ fuel) (h : Token.readFrom total fuel t = .ok toks) :
    ∃ ls, Lexed t ls ∧ ls.map Prod.snd = toks := by
  induction fuel generalizing t toks with
  | zero =>
    obtain rfl := List.length_eq_zero_iff.mp (Nat.le_zero.mp hfuel)
    obtain rfl := Except.ok.inj h
    exact ⟨[], .nil, rfl⟩
  | succ fuel ih =>
    cases t with
    | nil =>
      obtain rfl := Except.ok.inj h
      exact ⟨[], .nil, rfl⟩
    | cons c t =>
      have htail : t.length ≤ fuel := Nat.le_of_succ_le_succ hfuel
      rw [Token.readFrom] at h
      split at h
      · rename_i hblank
        obtain ⟨ls, hls, htoks⟩ := ih htail h
        exact ⟨ls, .blank hblank hls, htoks⟩
      · rename_i hblank
        obtain ⟨⟨tok, rest⟩, hnext, h⟩ := bind_eq_ok_iff.mp h
        obtain ⟨more, hmore, hpure⟩ := bind_eq_ok_iff.mp h
        obtain ⟨w, hw, hspelled⟩ := Token.isSpelled_of_next hnext
        -- a lexeme is not empty, so the fuel lasts for what follows it
        have hrest : rest.length ≤ fuel := by
          have hlength := congrArg List.length hw
          have hpos := List.length_pos_iff.mpr hspelled.ne_nil
          simp only [List.length_cons, List.length_append] at hlength
          omega
        obtain ⟨ls, hls, rfl⟩ := ih hrest hmore
        refine ⟨(w, tok) :: ls, .token (Bool.eq_false_iff.mpr hblank) hnext hw hspelled hls, ?_⟩
        exact pure_eq_ok_iff.mp hpure

theorem exists_lexed_of_tokenize {t : Text} {toks : List Token} (h : tokenize t = .ok toks) :
    ∃ ls, Lexed t ls ∧ ls.map Prod.snd = toks :=
  exists_lexed_of_readFrom (Nat.le_refl t.length) h

end Copydesk.Filter
