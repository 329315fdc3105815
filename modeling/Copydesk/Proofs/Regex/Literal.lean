import Copydesk.Regex.Basic

/-! Patterns that are made of escaped texts. They are read as the characters of the texts, so that
only their size can keep them from being compiled. -/

namespace Copydesk.Regex

open Text (size)

def characters (t : Text) : List Node := t.map fun c => .one (.single c)

namespace Node

def inLine : Node := .one (.compl (.single '\n'))

def between (t u : Text) : Node :=
  ofList (characters t ++ rep 1 none true inLine :: characters u)

end Node

theorem characters_cons (c : Char) (t : Text) :
    characters (c :: t) = .one (.single c) :: characters t := rfl

theorem escape_cons (c : Char) (t : Text) :
    escape (c :: t) = (if c ∈ Reader.metaChars then ['\\', c] else [c]) ++ escape t := rfl

theorem length_le_length_escape (t : Text) : t.length ≤ (escape t).length := by
  induction t with
  | nil => exact Nat.le_refl 0
  | cons c t ih =>
    rw [escape_cons, List.length_append, List.length_cons]
    split <;> simp only [List.length_cons, List.length_nil] <;> omega

namespace Reader

variable {α β : Type} {c : Char} {t rest rest' : Text} {n m fuel : Nat} {names names' : List Text}
  {items : List (Option Node)} {a b : Node} {s s' : ReadState}

theorem bind_apply (x : Reader α) (f : α → Reader β) (s : ReadState) :
    (x >>= f) s = (x s).bind fun r => f r.1 r.2 := rfl

theorem bind_of_ok {x : Reader α} {v : α} (h : x s = .ok (v, s')) (f : α → Reader β) :
    (x >>= f) s = f v s' := by
  rw [bind_apply, h]
  rfl

theorem modify_apply (f : ReadState → ReadState) (s : ReadState) :
    (modify f : Reader Unit) s = .ok ((), f s) := rfl

theorem peek_apply (s : ReadState) : peek s = .ok (s.rest.head?, s) := rfl

theorem advance_apply (k : Nat) (s : ReadState) :
    advance k s = .ok ((), { s with rest := s.rest.drop k }) := rfl

theorem next?_apply (s : ReadState) :
    next? s = .ok (s.rest.head?, { s with rest := s.rest.drop 1 }) := rfl

theorem upcoming_apply (p : Text) (s : ReadState) :
    upcoming p s = .ok (Text.startsWith s.rest p, s) := rfl

theorem flags_apply (s : ReadState) : flags s = .ok (s.flags, s) := rfl

theorem skipBlank_plain :
    skipBlank ⟨rest, {}, n, names⟩ = .ok ((), ⟨rest, {}, n, names⟩) := rfl

theorem literal_plain :
    literal c ⟨rest, {}, n, names⟩ = .ok (.one (.single c), ⟨rest, {}, n, names⟩) := rfl

theorem dot_plain :
    dot ⟨rest, {}, n, names⟩ = .ok (.compl (.single '\n'), ⟨rest, {}, n, names⟩) := rfl

theorem repetition_plain {lo : Nat} {hi : Option Nat} (h : rest.head? ≠ some '?') :
    repetition lo hi a ⟨rest, {}, n, names⟩ = .ok (.rep lo hi true a, ⟨rest, {}, n, names⟩) := by
  have hmark : (rest.head? == some '?') = false := beq_false_of_ne h
  rw [repetition, bind_of_ok (peek_apply _), hmark]
  rfl

theorem mem_metaChars_iff : c ∈ metaChars ↔
    c = '\\' ∨ c = '.' ∨ c = '+' ∨ c = '*' ∨ c = '?' ∨ c = '(' ∨ c = ')' ∨ c = '|' ∨ c = '[' ∨
      c = ']' ∨ c = '{' ∨ c = '}' ∨ c = '^' ∨ c = '$' ∨ c = '#' ∨ c = '&' ∨ c = '-' ∨ c = '~' := by
  change c ∈ ['\\', '.', '+', '*', '?', '(', ')', '|', '[', ']', '{', '}', '^', '$', '#', '&', '-',
    '~'] ↔ _
  simp only [List.mem_cons, List.not_mem_nil, or_false]

theorem escape_metaChar (hc : c ∈ metaChars) :
    escape ⟨c :: rest, {}, n, names⟩ = .ok (.char c, ⟨rest, {}, n, names⟩) := by
  rcases mem_metaChars_iff.mp hc with rfl | rfl | rfl | rfl | rfl | rfl | rfl | rfl | rfl | rfl |
    rfl | rfl | rfl | rfl | rfl | rfl | rfl | rfl <;> rfl

theorem startsWith_eq_false {p : Text} {d : Char} (hp : p.head? = some d) (ht : t.head? ≠ some d) :
    Text.startsWith t p = false := by
  obtain ⟨p', rfl⟩ := List.head?_eq_some_iff.mp hp
  cases t with
  | nil => rfl
  | cons c t =>
    have hne : d ≠ c := fun heq => ht (congrArg some heq.symm)
    rw [Text.startsWith, Text.afterPrefix?, if_neg hne]
    rfl

theorem opening_numbered (h : rest.head? ≠ some '?') :
    opening ⟨rest, {}, n, names⟩ = .ok (.inner {} (some (n + 1)), ⟨rest, {}, n + 1, names⟩) := by
  have hmark (p : Text) (hp : p.head? = some '?') :
      upcoming p ⟨rest, {}, n, names⟩ = .ok (false, ⟨rest, {}, n, names⟩) := by
    rw [upcoming_apply, startsWith_eq_false hp h]
  rw [opening, bind_of_ok (hmark "?=" rfl), bind_of_ok (hmark "?!" rfl),
    bind_of_ok (hmark "?<=" rfl), bind_of_ok (hmark "?<!" rfl), if_neg (by decide)]
  dsimp only
  rw [bind_of_ok (hmark "?P<" rfl), if_neg (by decide), bind_of_ok (hmark "?<" rfl),
    if_neg (by decide), bind_of_ok (hmark "?" rfl)]
  rfl

theorem concatenation_char (hc : c ∉ metaChars) :
    concatenation (fuel + 1) items ⟨c :: rest, {}, n, names⟩ =
      concatenation fuel (some (.one (.single c)) :: items) ⟨rest, {}, n, names⟩ := by
  simp only [mem_metaChars_iff, not_or] at hc
  rw [concatenation, bind_of_ok skipBlank_plain, bind_of_ok (peek_apply _)]
  simp [bind_apply, advance_apply, flags_apply, literal_plain, hc, Except.bind]

theorem concatenation_metaChar (hc : c ∈ metaChars) :
    concatenation (fuel + 1) items ⟨'\\' :: c :: rest, {}, n, names⟩ =
      concatenation fuel (some (.one (.single c)) :: items) ⟨rest, {}, n, names⟩ := by
  rw [concatenation, bind_of_ok skipBlank_plain, bind_of_ok (peek_apply _)]
  simp [bind_apply, advance_apply, flags_apply, escape_metaChar hc, literal_plain, Except.bind]

theorem concatenation_dot :
    concatenation (fuel + 1) items ⟨'.' :: rest, {}, n, names⟩ =
      concatenation fuel (some .inLine :: items) ⟨rest, {}, n, names⟩ := by
  rw [concatenation, bind_of_ok skipBlank_plain, bind_of_ok (peek_apply _)]
  simp [bind_apply, advance_apply, flags_apply, dot_plain, Except.bind, Node.inLine]

theorem concatenation_plus (h : rest.head? ≠ some '?') :
    concatenation (fuel + 1) (some a :: items) ⟨'+' :: rest, {}, n, names⟩ =
      concatenation fuel (some (.rep 1 none true a) :: items) ⟨rest, {}, n, names⟩ := by
  rw [concatenation, bind_of_ok skipBlank_plain, bind_of_ok (peek_apply _)]
  simp [bind_apply, advance_apply, flags_apply, repetition_plain h, Except.bind]

theorem concatenation_group (h : rest.head? ≠ some '?')
    (ha : alternation fuel ⟨rest, {}, n + 1, names⟩ = .ok (a, ⟨')' :: rest', {}, m, names'⟩)) :
    concatenation (fuel + 1) items ⟨'(' :: rest, {}, n, names⟩ =
      concatenation fuel (some (.group (n + 1) a) :: items) ⟨rest', {}, m, names'⟩ := by
  rw [concatenation, bind_of_ok skipBlank_plain, bind_of_ok (peek_apply _)]
  simp [bind_apply, advance_apply, flags_apply, opening_numbered h, modify_apply, ha, next?_apply,
    Except.bind]

theorem concatenation_end
    (h : rest.head? = none ∨ rest.head? = some '|' ∨ rest.head? = some ')') :
    concatenation (fuel + 1) items ⟨rest, {}, n, names⟩ =
      .ok (.ofList (items.reverse.filterMap id), ⟨rest, {}, n, names⟩) := by
  rw [concatenation, bind_of_ok skipBlank_plain, bind_of_ok (peek_apply _)]
  dsimp only
  rcases h with h | h | h <;> rw [h] <;> rfl

theorem concatenation_escape (t : Text) (items : List (Option Node)) :
    concatenation (fuel + t.length) items ⟨Regex.escape t ++ rest, {}, n, names⟩ =
      concatenation fuel (((characters t).map some).reverse ++ items) ⟨rest, {}, n, names⟩ := by
  induction t generalizing items with
  | nil => rfl
  | cons c t ih =>
    -- a character takes one step, with or without a backslash
    have hstep : concatenation (fuel + t.length + 1) items
          ⟨(if c ∈ metaChars then ['\\', c] else [c]) ++ (Regex.escape t ++ rest), {}, n, names⟩ =
        concatenation (fuel + t.length) (some (.one (.single c)) :: items)
          ⟨Regex.escape t ++ rest, {}, n, names⟩ := by
      by_cases hc : c ∈ metaChars
      · rw [if_pos hc]
        exact concatenation_metaChar hc
      · rw [if_neg hc]
        exact concatenation_char hc
    rw [escape_cons, List.append_assoc, List.length_cons, ← Nat.add_assoc, hstep, ih,
      characters_cons, List.map_cons, List.reverse_cons, List.append_assoc, List.singleton_append]

theorem concatenation_escape_end (before : List Node) (hfuel : t.length < fuel)
    (h : rest.head? = none ∨ rest.head? = some '|' ∨ rest.head? = some ')') :
    concatenation fuel (before.map some).reverse ⟨Regex.escape t ++ rest, {}, n, names⟩ =
      .ok (.ofList (before ++ characters t), ⟨rest, {}, n, names⟩) := by
  obtain ⟨k, rfl⟩ := Nat.exists_eq_add_of_lt hfuel
  rw [show t.length + k + 1 = k + 1 + t.length by omega, concatenation_escape, concatenation_end h,
    ← List.reverse_append, ← List.map_append, List.reverse_reverse, List.filterMap_map,
    Function.id_comp, List.filterMap_some]

theorem alternation_one (ha : concatenation fuel [] s = .ok (a, s')) (h : s'.rest.head? ≠ some '|') :
    alternation (fuel + 1) s = .ok (a, s') := by
  have hbar : (s'.rest.head? == some '|') = false := beq_false_of_ne h
  rw [alternation, bind_of_ok ha, bind_of_ok (peek_apply _), hbar]
  rfl

theorem alternation_two {r : ReadState}
    (ha : concatenation fuel [] s = .ok (a, ⟨'|' :: rest, {}, n, names⟩))
    (hb : alternation fuel ⟨rest, {}, n, names⟩ = .ok (b, r)) :
    alternation (fuel + 1) s = .ok (.alt a b, r) := by
  rw [alternation, bind_of_ok ha, bind_of_ok (peek_apply _)]
  exact (bind_of_ok (advance_apply 1 _) _).trans (bind_of_ok hb _)

theorem alternation_escape (hfuel : t.length + 1 < fuel) :
    alternation fuel ⟨Regex.escape t, {}, n, names⟩ =
      .ok (.literal t, ⟨[], {}, n, names⟩) := by
  obtain ⟨fuel, rfl⟩ := Nat.exists_eq_add_one_of_ne_zero (Nat.ne_zero_of_lt hfuel)
  have hread : concatenation fuel [] ⟨Regex.escape t ++ [], {}, n, names⟩ = _ :=
    concatenation_escape_end [] (Nat.lt_of_succ_lt_succ hfuel) (.inl rfl)
  rw [List.append_nil] at hread
  exact alternation_one hread (Option.some_ne_none '|').symm

theorem head?_escape_append_ne (h : rest.head? ≠ some '?') :
    (Regex.escape t ++ rest).head? ≠ some '?' := by
  cases t with
  | nil => exact h
  | cons c t =>
    rw [escape_cons]
    split
    · simp
    · rename_i hc
      rintro heq
      cases heq
      exact hc (by decide)

/-- What stands between two escaped texts in a line, with the texts. -/
theorem alternation_between {t u : Text} (hfuel : t.length + u.length + 4 ≤ fuel) :
    alternation fuel
        ⟨Regex.escape t ++ '.' :: '+' :: (Regex.escape u ++ ')' :: rest), {}, n, names⟩ =
      .ok (.between t u, ⟨')' :: rest, {}, n, names⟩) := by
  -- one step for each character, for the dot, for the plus and for the end
  obtain ⟨k, rfl⟩ := Nat.exists_eq_add_of_le hfuel
  have hplus : (Regex.escape u ++ ')' :: rest).head? ≠ some '?' :=
    head?_escape_append_ne (by simp)
  have hread : concatenation (u.length + k + 1 + 1 + 1 + t.length) []
        ⟨Regex.escape t ++ '.' :: '+' :: (Regex.escape u ++ ')' :: rest), {}, n, names⟩ =
      .ok (.between t u, ⟨')' :: rest, {}, n, names⟩) := by
    rw [concatenation_escape, concatenation_dot, concatenation_plus hplus]
    have hend : concatenation (u.length + k + 1) _
          ⟨Regex.escape u ++ ')' :: rest, {}, n, names⟩ = _ :=
      concatenation_escape_end (characters t ++ [.rep 1 none true .inLine]) (by omega)
        (.inr (.inr rfl))
    simpa [Node.between] using hend
  have halt := alternation_one hread (by simp)
  rwa [show u.length + k + 1 + 1 + 1 + t.length + 1 = t.length + u.length + 4 + k by omega] at halt

end Reader

namespace Node

theorem one_le_weight (a : Node) : 1 ≤ a.weight := by
  induction a with
  | rep lo hi greedy a ih => exact Nat.mul_pos (Nat.le_max_left 1 _) ih
  | one s =>
    cases s with
    | range lo hi => exact Char.utf8Size_pos hi
    | _ => exact Nat.le_refl 1
  | _ => simp only [weight]; omega

def weights : List Node → Nat
  | [] => 0
  | a :: as => a.weight + weights as

theorem weights_append (as bs : List Node) : weights (as ++ bs) = weights as + weights bs := by
  induction as with
  | nil => exact (Nat.zero_add _).symm
  | cons a as ih => rw [List.cons_append, weights, ih, weights, Nat.add_assoc]

theorem weights_characters (t : Text) : weights (characters t) = size t := by
  induction t with
  | nil => rfl
  | cons c t ih =>
    rw [characters_cons, weights, ih]
    rfl

theorem weight_ofList (as : List Node) : (ofList as).weight = max 1 (weights as) := by
  induction as with
  | nil => rfl
  | cons a as ih =>
    have ha := one_le_weight a
    cases as with
    | nil =>
      rw [ofList, weights, weights]
      omega
    | cons b bs =>
      have hb := one_le_weight b
      have hcat : (ofList (a :: b :: bs)).weight = a.weight + (ofList (b :: bs)).weight := rfl
      have hweights : weights (a :: b :: bs) = a.weight + weights (b :: bs) := rfl
      have hrest : weights (b :: bs) = b.weight + weights bs := rfl
      rw [hcat, ih, hweights, hrest]
      omega

theorem weight_literal (t : Text) : (literal t).weight = max 1 (size t) := by
  rw [literal, ← characters, weight_ofList, weights_characters]

theorem weight_between (t u : Text) : (between t u).weight = size t + size u + 2 := by
  have hrep : (rep 1 none true inLine).weight = 2 := rfl
  rw [between, weight_ofList, weights_append, weights, weights_characters, weights_characters, hrep]
  omega

end Node

theorem compile_of_alternation {p : Text} {a : Node} {n : Nat} {names : List Text}
    (h : Reader.alternation (4 * p.length + 8) ⟨p, {}, 0, []⟩ = .ok (a, ⟨[], {}, n, names⟩)) :
    compile p = if weightLimit < a.weight then .error .tooLarge else .ok ⟨p, a, n⟩ := by
  by_cases hw : weightLimit < a.weight
  · simp only [compile, Node.ofText, StateT.run, h, bind, Except.bind, List.isEmpty_nil, hw]
    rfl
  · simp only [compile, Node.ofText, StateT.run, h, bind, Except.bind, List.isEmpty_nil, hw]
    rfl

theorem compile_escape (t : Text) : compile (escape t) =
    if weightLimit < max 1 (size t) then .error .tooLarge else .ok ⟨escape t, .literal t, 0⟩ := by
  have ht := length_le_length_escape t
  rw [compile_of_alternation (Reader.alternation_escape (by omega)), Node.weight_literal]

theorem compile_either (t u : Text) : compile (escape t ++ '|' :: escape u) =
    if weightLimit < max 1 (size t) + max 1 (size u) + 1 then .error .tooLarge
    else .ok ⟨escape t ++ '|' :: escape u, .alt (.literal t) (.literal u), 0⟩ := by
  have ht := length_le_length_escape t
  have hu := length_le_length_escape u
  have hread : Reader.alternation (4 * (escape t ++ '|' :: escape u).length + 8)
      ⟨escape t ++ '|' :: escape u, {}, 0, []⟩ =
        .ok (.alt (.literal t) (.literal u), ⟨[], {}, 0, []⟩) := by
    rw [List.length_append, List.length_cons]
    have hfirst : Reader.concatenation (4 * ((escape t).length + ((escape u).length + 1)) + 7) []
          ⟨escape t ++ '|' :: escape u, {}, 0, []⟩ = _ :=
      Reader.concatenation_escape_end [] (by omega) (.inr (.inl rfl))
    exact Reader.alternation_two hfirst (Reader.alternation_escape (by omega))
  rw [compile_of_alternation hread, Node.weight, Node.weight_literal, Node.weight_literal]

theorem compile_enclosed (t u : Text) :
    compile ('(' :: escape t ++ ['.', '+'] ++ escape u ++ [')']) =
      if weightLimit < size t + size u + 4 then .error .tooLarge
      else .ok ⟨'(' :: escape t ++ ['.', '+'] ++ escape u ++ [')'], .group 1 (.between t u), 1⟩ := by
  have ht := length_le_length_escape t
  have hu := length_le_length_escape u
  have hpattern : '(' :: escape t ++ ['.', '+'] ++ escape u ++ [')'] =
      '(' :: (escape t ++ '.' :: '+' :: (escape u ++ [')'])) := by
    simp only [List.cons_append, List.append_assoc, List.nil_append]
  have hopen : (escape t ++ '.' :: '+' :: (escape u ++ [')'])).head? ≠ some '?' :=
    Reader.head?_escape_append_ne (by simp)
  have hlength : ('(' :: (escape t ++ '.' :: '+' :: (escape u ++ [')']))).length =
      (escape t).length + (escape u).length + 4 := by
    simp only [List.length_cons, List.length_append, List.length_nil]
    omega
  have hread : Reader.alternation (4 * ((escape t).length + (escape u).length + 4) + 8)
      ⟨'(' :: (escape t ++ '.' :: '+' :: (escape u ++ [')'])), {}, 0, []⟩ =
        .ok (.group 1 (.between t u), ⟨[], {}, 1, []⟩) := by
    have hbetween : Reader.alternation
          (4 * ((escape t).length + (escape u).length + 4) + 6)
          ⟨escape t ++ '.' :: '+' :: (escape u ++ [')']), {}, 1, []⟩ = _ :=
      Reader.alternation_between (by omega)
    exact Reader.alternation_one
      ((Reader.concatenation_group hopen hbetween).trans (Reader.concatenation_end (.inl rfl)))
      (Option.some_ne_none '|').symm
  rw [hpattern, compile_of_alternation (hlength ▸ hread), Node.weight, Node.weight_between]

end Copydesk.Regex
