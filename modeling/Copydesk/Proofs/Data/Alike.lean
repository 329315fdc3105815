import Copydesk.Data.Json
import Mathlib.Data.List.Forall2

/-! Texts and trees of data that are alike: the mark of a folded scalar may have become that of a
literal one. Neither means anything to a reader of JSON, so alike texts are read alike. -/

namespace Copydesk.Data

inductive CharAlike : Char → Char → Prop
  | same (c : Char) : CharAlike c c
  | mark : CharAlike '>' '|'

abbrev TextAlike : Text → Text → Prop := List.Forall₂ CharAlike

/-- The table of members that are read one after another. -/
def collect (ms : List (Text × Value)) : List (Text × Value) :=
  ms.foldl (fun fields m => put m.1 m.2 fields) []

mutual

inductive Alike : Value → Value → Prop
  | same (v : Value) : Alike v v
  | str {s t : Text} (h : TextAlike s t) : Alike (.str s) (.str t)
  | list {vs ws : List Value} (h : ItemsAlike vs ws) : Alike (.list vs) (.list ws)
  /-- Two keys may have become one. -/
  | table {ms ns : List (Text × Value)} (h : MembersAlike ms ns) :
    Alike (.table (collect ms)) (.table (collect ns))

inductive ItemsAlike : List Value → List Value → Prop
  | nil : ItemsAlike [] []
  | cons {v w : Value} {vs ws : List Value} (h : Alike v w) (hs : ItemsAlike vs ws) :
    ItemsAlike (v :: vs) (w :: ws)

inductive MembersAlike : List (Text × Value) → List (Text × Value) → Prop
  | nil : MembersAlike [] []
  | cons {k l : Text} {v w : Value} {ms ns : List (Text × Value)} (hk : TextAlike k l)
    (h : Alike v w) (hs : MembersAlike ms ns) : MembersAlike ((k, v) :: ms) ((l, w) :: ns)

end

section Texts

variable {t t' : Text} {p : Char → Bool}

theorem TextAlike.refl (t : Text) : TextAlike t t := List.forall₂_same.mpr fun c _ => .same c

theorem CharAlike.eq_of (hp : p '>' = p '|') {c d : Char} (h : CharAlike c d) : p c = p d := by
  cases h with
  | same => rfl
  | mark => exact hp

theorem TextAlike.head? (h : TextAlike t t') :
    t.head? = t'.head? ∨ (t.head? = some '>' ∧ t'.head? = some '|') := by
  cases h with
  | nil => exact .inl rfl
  | cons hc _ => cases hc with
    | same c => exact .inl rfl
    | mark => exact .inr ⟨rfl, rfl⟩

theorem TextAlike.beginsWith_eq (h : TextAlike t t') {c : Char} (hgt : '>' ≠ c) (hbar : '|' ≠ c) :
    (t.head? == some c) = (t'.head? == some c) := by
  rcases h.head? with heq | ⟨hmark, hmark'⟩
  · rw [heq]
  · rw [hmark, hmark', beq_eq_false_iff_ne.mpr (mt Option.some.inj hgt),
      beq_eq_false_iff_ne.mpr (mt Option.some.inj hbar)]

theorem TextAlike.dropWhile (hp : p '>' = p '|') (h : TextAlike t t') :
    TextAlike (t.dropWhile p) (t'.dropWhile p) := by
  induction h with
  | nil => exact .nil
  | @cons c d t t' hc ht ih =>
    rw [List.dropWhile_cons, List.dropWhile_cons, ← hc.eq_of hp]
    split
    · exact ih
    · exact .cons hc ht

theorem TextAlike.takeWhile_eq (hgt : p '>' = false) (hbar : p '|' = false)
    (h : TextAlike t t') : t.takeWhile p = t'.takeWhile p := by
  induction h with
  | nil => rfl
  | @cons c d t t' hc ht ih =>
    cases hc with
    | same => rw [List.takeWhile_cons, List.takeWhile_cons, ih]
    | mark => rw [List.takeWhile_cons, List.takeWhile_cons, hgt, hbar]; rfl

theorem TextAlike.drop (h : TextAlike t t') (n : Nat) : TextAlike (t.drop n) (t'.drop n) :=
  List.forall₂_drop n h

theorem TextAlike.afterPrefix? {x : Text} (hx : '>' ∉ x ∧ '|' ∉ x)
    (h : TextAlike t t') :
    Option.Rel TextAlike (Text.afterPrefix? x t) (Text.afterPrefix? x t') := by
  induction x generalizing t t' with
  | nil => exact .some h
  | cons c x ih =>
    rw [List.mem_cons, List.mem_cons, not_or, not_or] at hx
    obtain ⟨⟨hgt, hgts⟩, hbar, hbars⟩ := hx
    cases h with
    | nil => exact .none
    | cons hd ht => cases hd with
      | same d =>
        rw [Text.afterPrefix?, Text.afterPrefix?]
        split
        · exact ih ⟨hgts, hbars⟩ ht
        · exact .none
      | mark =>
        rw [Text.afterPrefix?, Text.afterPrefix?, if_neg (Ne.symm hgt), if_neg (Ne.symm hbar)]
        exact .none

end Texts

section Readers

/-- Both succeed, with results in the relation, or both fail. -/
def OutcomesAlike {ε α β : Type} (R : α → β → Prop) : Except ε α → Except ε β → Prop
  | .ok a, .ok b => R a b
  | .error _, .error _ => True
  | _, _ => False

variable {ε α α' β β' : Type} {R : α → α' → Prop} {S : β → β' → Prop}

theorem OutcomesAlike.imp {S : α → α' → Prop} {x : Except ε α} {x' : Except ε α'}
    (hx : OutcomesAlike R x x') (h : ∀ a a', R a a' → S a a') : OutcomesAlike S x x' := by
  cases x <;> cases x'
  · trivial
  · exact hx.elim
  · exact hx.elim
  · exact h _ _ hx

theorem OutcomesAlike.bind {x : Except ε α} {x' : Except ε α'} {f : α → Except ε β}
    {f' : α' → Except ε β'} (hx : OutcomesAlike R x x')
    (hf : ∀ a a', R a a' → OutcomesAlike S (f a) (f' a')) :
    OutcomesAlike S (x >>= f) (x' >>= f') := by
  cases x <;> cases x'
  · trivial
  · exact hx.elim
  · exact hx.elim
  · exact hf _ _ hx

theorem eq_of_rel {o : Option α} {o' : Option α'} (h : Option.Rel R o o') :
    (o = none ∧ o' = none) ∨ ∃ a a', o = some a ∧ o' = some a' ∧ R a a' := by
  cases h with
  | none => exact .inl ⟨rfl, rfl⟩
  | some h => exact .inr ⟨_, _, rfl, rfl, h⟩

/-- Alike texts are read alike, up to alike rests. -/
def Simulates (R : α → α' → Prop) (r : StateT Text (Except ε) α)
    (r' : StateT Text (Except ε) α') : Prop :=
  ∀ t t', TextAlike t t' → OutcomesAlike (fun p q => R p.1 q.1 ∧ TextAlike p.2 q.2) (r t) (r' t')

namespace Simulates

section

variable {r : StateT Text (Except ε) α} {r' : StateT Text (Except ε) α'}
  {f : α → StateT Text (Except ε) β} {f' : α' → StateT Text (Except ε) β'}

theorem bind (hr : Simulates R r r') (hf : ∀ a a', R a a' → Simulates S (f a) (f' a')) :
    Simulates S (r >>= f) (r' >>= f') :=
  fun t t' ht => (hr t t' ht).bind fun p q hpq => hf p.1 q.1 hpq.1 p.2 q.2 hpq.2

theorem pure {a : α} {a' : α'} (h : R a a') :
    Simulates R (Pure.pure a : StateT Text (Except ε) α) (Pure.pure a') :=
  fun _ _ ht => ⟨h, ht⟩

theorem throw (e e' : ε) : Simulates R (MonadExcept.throw e : StateT Text (Except ε) α)
    (MonadExcept.throw e' : StateT Text (Except ε) α') :=
  fun _ _ _ => trivial

theorem get : Simulates TextAlike (MonadState.get : StateT Text (Except ε) Text)
    (MonadState.get : StateT Text (Except ε) Text) :=
  fun _ _ ht => ⟨ht, ht⟩

theorem set {t t' : Text} (h : TextAlike t t') : Simulates (fun _ _ => True)
    (MonadState.set t : StateT Text (Except ε) PUnit) (MonadState.set t') :=
  fun _ _ _ => ⟨trivial, h⟩

theorem lift {x : Except ε α} {x' : Except ε α'} (h : OutcomesAlike R x x') :
    Simulates R (liftM x : StateT Text (Except ε) α) (liftM x' : StateT Text (Except ε) α') :=
  fun _ _ ht => h.bind fun _ _ ha => ⟨ha, ht⟩

end

end Simulates

end Readers

namespace Json.Reader

variable {α α' : Type} {R : α → α' → Prop} {t t' : Text} {c d : Char}

theorem simulates_unexpected :
    Simulates R (unexpected : Reader α) (unexpected : Reader α') := by
  intro t t' ht
  cases ht <;> trivial

theorem simulates_skipBlank : Simulates (fun _ _ => True) skipBlank skipBlank :=
  fun _ _ ht => ⟨trivial, ht.dropWhile rfl⟩

theorem simulates_expect {x : Text} (hx : '>' ∉ x ∧ '|' ∉ x) :
    Simulates (fun _ _ => True) (expect x) (expect x) := by
  refine .bind .get fun t t' ht => ?_
  rcases eq_of_rel (ht.afterPrefix? hx) with ⟨h, h'⟩ | ⟨r, r', h, h', hr⟩
  · rw [h, h']
    exact simulates_unexpected
  · rw [h, h']
    exact .set hr

theorem hexDigit?_eq (h : CharAlike c d) : hexDigit? c = hexDigit? d := by
  cases h <;> rfl

def PieceAlike {α : Type} (R : α → α → Prop) (p q : α × Text) : Prop :=
  R p.1 q.1 ∧ TextAlike p.2 q.2

theorem hex4?_alike (h : TextAlike t t') :
    Option.Rel (PieceAlike Eq) (hex4? t) (hex4? t') := by
  rcases h with _ | @⟨a, a', _, _, ha, _ | @⟨b, b', _, _, hb, _ | @⟨c, c', _, _, hc, h⟩⟩⟩
  · exact .none
  · exact .none
  · exact .none
  · rcases h with _ | @⟨d, d', r, r', hd, hr⟩
    · exact .none
    · simp only [hex4?, hexDigit?_eq ha, hexDigit?_eq hb, hexDigit?_eq hc, hexDigit?_eq hd]
      cases hexDigit? a' <;> cases hexDigit? b' <;> cases hexDigit? c' <;> cases hexDigit? d'
      all_goals first | exact .none | exact .some ⟨rfl, hr⟩

theorem scalar_alike (n : Nat) {r r' : Text} (hr : TextAlike r r') :
    OutcomesAlike (PieceAlike Eq) (do return (← scalar n, r)) (do return (← scalar n, r')) := by
  cases scalar n with
  | ok c => exact ⟨rfl, hr⟩
  | error e => trivial

theorem unicodeEscape_alike (h : TextAlike t t') :
    OutcomesAlike (PieceAlike Eq) (unicodeEscape t) (unicodeEscape t') := by
  have hslash : '>' ∉ "\\u".toList ∧ '|' ∉ "\\u".toList := by decide
  rw [unicodeEscape, unicodeEscape]
  rcases eq_of_rel (hex4?_alike h) with ⟨hx, hx'⟩ | ⟨⟨hi, r⟩, ⟨_, r'⟩, hx, hx', rfl, hr⟩
  · rw [hx, hx']
    trivial
  · rw [hx, hx']
    by_cases hpair : 0xd800 ≤ hi ∧ hi < 0xdc00
    · simp only [hpair, and_self, if_true]
      rcases eq_of_rel (hr.afterPrefix? hslash) with ⟨hu, hu'⟩ | ⟨u, u', hu, hu', hur⟩
      · rw [hu, hu']
        trivial
      · rw [hu, hu']
        rcases eq_of_rel (hex4?_alike hur) with ⟨hy, hy'⟩ | ⟨⟨lo, v⟩, ⟨_, v'⟩, hy, hy', rfl, hv⟩
        · simp only [hy, hy']
          trivial
        · simp only [hy, hy']
          split
          · generalize 0x10000 + (hi - 0xd800) * 0x400 + (lo - 0xdc00) = n
            exact scalar_alike n hv
          · trivial
    · simp only [if_neg hpair]
      exact scalar_alike hi hr

theorem cons_alike {x x' : Except Error (Text × Text)}
    (hx : OutcomesAlike (PieceAlike TextAlike) x x') (hc : CharAlike c d) :
    OutcomesAlike (PieceAlike TextAlike) (do let (s, t) ← x; return (c :: s, t))
      (do let (s, t) ← x'; return (d :: s, t)) :=
  hx.bind fun _ _ hp => ⟨.cons hc hp.1, hp.2⟩

theorem stringBody_alike (fuel : Nat) (h : TextAlike t t') :
    OutcomesAlike (PieceAlike TextAlike) (stringBody fuel t) (stringBody fuel t') := by
  induction fuel generalizing t t' with
  | zero => trivial
  | succ fuel ih =>
    rcases h with _ | @⟨c, d, r, r', hc, hr⟩
    · trivial
    · cases hc with
      | mark => exact cons_alike (ih hr) .mark
      | same =>
        -- only a quote, a backslash and what follows one are read in a way of their own
        by_cases hquote : c = '"'
        · subst hquote
          exact ⟨.nil, hr⟩
        · by_cases hslash : c = '\\'
          · subst hslash
            rcases hr with _ | @⟨e, f, v, v', he, hv⟩
            · trivial
            · cases he with
              | mark => trivial
              | same =>
                by_cases hu : e = 'u'
                · subst hu
                  refine (unicodeEscape_alike hv).bind ?_
                  rintro ⟨x, w⟩ ⟨_, w'⟩ ⟨rfl, hw⟩
                  exact cons_alike (ih hw) (.same x)
                · rw [stringBody, stringBody]
                  · cases simpleEscape? e with
                    | none => trivial
                    | some x => exact cons_alike (ih hv) (.same x)
                  · exact fun h => hu h
                  · exact fun h => hu h
          · rw [stringBody, stringBody]
            · simp only [if_neg hslash]
              split
              · trivial
              · exact cons_alike (ih hr) (.same c)
            all_goals first
              | exact hquote
              | exact fun _ h => absurd h hslash
              | exact fun _ _ h => absurd h hslash

theorem simulates_string : Simulates TextAlike string string := by
  refine .bind (simulates_expect (by decide)) fun _ _ _ => .bind .get fun t t' ht => ?_
  have hlength : t.length = t'.length := List.Forall₂.length_eq ht
  rw [hlength]
  refine .bind (.lift (stringBody_alike _ ht)) fun p q hp => ?_
  exact .bind (.set hp.2) fun _ _ _ => .pure hp.1

section Numbers

def minus (t : Text) : Bool × Text :=
  match t with
  | '-' :: r => (true, r)
  | r => (false, r)

def sign (t : Text) : Bool × Text :=
  match t with
  | '-' :: r => (true, r)
  | '+' :: r => (false, r)
  | r => (false, r)

theorem minus_alike (h : TextAlike t t') : PieceAlike Eq (minus t) (minus t') := by
  rcases h with _ | @⟨c, d, r, r', hc, hr⟩
  · exact ⟨rfl, .nil⟩
  · cases hc with
    | mark => exact ⟨rfl, .cons .mark hr⟩
    | same =>
      by_cases hminus : c = '-'
      · subst hminus
        exact ⟨rfl, hr⟩
      · rw [minus, minus]
        · exact ⟨rfl, .cons (.same c) hr⟩
        · exact fun _ h => hminus (List.cons.inj h).1
        · exact fun _ h => hminus (List.cons.inj h).1

theorem sign_alike (h : TextAlike t t') : PieceAlike Eq (sign t) (sign t') := by
  rcases h with _ | @⟨c, d, r, r', hc, hr⟩
  · exact ⟨rfl, .nil⟩
  · cases hc with
    | mark => exact ⟨rfl, .cons .mark hr⟩
    | same =>
      by_cases hsign : c = '-' ∨ c = '+'
      · rcases hsign with rfl | rfl <;> exact ⟨rfl, hr⟩
      · rw [not_or] at hsign
        rw [sign, sign]
        · exact ⟨rfl, .cons (.same c) hr⟩
        all_goals first
          | exact fun _ h => hsign.1 (List.cons.inj h).1
          | exact fun _ h => hsign.2 (List.cons.inj h).1

def scaled (negative : Bool) (s : Significand) (e : Int) : Except Error Value := do
  let x ← scaleFloat 40 (Float.ofNat s.value) e
  return .float (if negative then -x else x)

def unscaled (negative : Bool) (s : Significand) (pointed : Bool) : Reader Value := do
  if pointed || s.full then return ← scaled negative s s.exponent
  if !negative then return .int s.value
  if s.value = 0 ∨ Nat.pow 2 63 < s.value then return .float (-(Float.ofNat s.value))
  return .int (-(s.value : Int))

def withExponent (negative : Bool) (s : Significand) (down : Bool) (n : Nat) : Reader Value := do
  if 2147483647 < n then
    if s.value != 0 && !down then throw .badNumber
    return .float (if negative then -0.0 else 0.0)
  return ← scaled negative s (if down then s.exponent - n else s.exponent + n)

def numberEnd (negative : Bool) (s : Significand) (t : Text) (pointed : Bool) : Reader Value := do
  match t with
  | c :: r =>
    if c = 'e' ∨ c = 'E' then
      let (down, r) := sign r
      let ds := r.takeWhile Char.isDigit
      let some n := Text.toNat? ds | throw .badNumber
      set (r.drop ds.length)
      withExponent negative s down n
    else
      set t
      unscaled negative s pointed
  | [] =>
    set t
    unscaled negative s pointed

def fractionEnd (negative : Bool) (s : Significand) (t : Text) : Reader Value := do
  let (s, t, pointed) ← match t with
    | '.' :: r => do
      let part := r.takeWhile Char.isDigit
      if part.isEmpty then throw .badNumber
      pure (part.foldl (Significand.digit true) s, r.drop part.length, true)
    | r => pure (s, r, false)
  numberEnd negative s t pointed

theorem number_eq : number = (do
    let t ← get
    let (negative, t) := minus t
    let whole := t.takeWhile Char.isDigit
    let t := t.drop whole.length
    if whole.isEmpty || (whole.head? == some '0' && whole.length != 1) then throw .badNumber
    let s := whole.foldl (Significand.digit false) {}
    fractionEnd negative s t) := rfl

theorem outcomesAlike_refl {ε α : Type} (x : Except ε α) : OutcomesAlike Eq x x := by
  cases x <;> trivial

theorem simulates_scaled (negative : Bool) (s : Significand) (e : Int) :
    Simulates Eq (do return ← scaled negative s e : Reader Value)
      (do return ← scaled negative s e) :=
  .lift (outcomesAlike_refl _)

theorem simulates_unscaled (negative : Bool) (s : Significand) (pointed : Bool) :
    Simulates Eq (unscaled negative s pointed) (unscaled negative s pointed) := by
  rw [unscaled]
  split
  · exact simulates_scaled negative s s.exponent
  · split
    · exact .pure rfl
    · split <;> exact .pure rfl

theorem simulates_withExponent (negative : Bool) (s : Significand) (down : Bool) (n : Nat) :
    Simulates Eq (withExponent negative s down n) (withExponent negative s down n) := by
  rw [withExponent]
  by_cases hn : 2147483647 < n
  · rw [if_pos hn]
    by_cases hover : (s.value != 0 && !down) = true
    · simp only [hover, if_true]
      exact fun _ _ _ => trivial
    · simp only [hover]
      exact .pure rfl
  · rw [if_neg hn]
    exact simulates_scaled negative s _

theorem simulates_numberEnd (negative : Bool) (s : Significand) (pointed : Bool)
    (h : TextAlike t t') :
    Simulates Eq (numberEnd negative s t pointed) (numberEnd negative s t' pointed) := by
  have hplain : Simulates Eq (do set t; unscaled negative s pointed : Reader Value)
      (do set t'; unscaled negative s pointed) :=
    .bind (.set h) fun _ _ _ => simulates_unscaled negative s pointed
  rcases h with _ | @⟨c, d, r, r', hc, hr⟩
  · exact hplain
  · cases hc with
    | mark => exact hplain
    | same =>
      rw [numberEnd, numberEnd]
      split
      · obtain ⟨hdown, hrest⟩ := sign_alike hr
        have hdigits : (sign r).2.takeWhile Char.isDigit = (sign r').2.takeWhile Char.isDigit :=
          hrest.takeWhile_eq rfl rfl
        simp only [hdown, hdigits]
        split
        · refine .bind (.set (hrest.drop _)) fun _ _ _ => ?_
          exact simulates_withExponent negative s _ _
        · exact .throw _ _
      · exact hplain

theorem simulates_fractionEnd (negative : Bool) (s : Significand) (h : TextAlike t t') :
    Simulates Eq (fractionEnd negative s t) (fractionEnd negative s t') := by
  have hwhole : Simulates Eq (numberEnd negative s t false) (numberEnd negative s t' false) :=
    simulates_numberEnd negative s false h
  rcases h with _ | @⟨c, d, r, r', hc, hr⟩
  · exact hwhole
  · cases hc with
    | mark => exact hwhole
    | same =>
      by_cases hdot : c = '.'
      · subst hdot
        have hpart : r.takeWhile Char.isDigit = r'.takeWhile Char.isDigit :=
          TextAlike.takeWhile_eq rfl rfl hr
        simp only [fractionEnd, hpart]
        split
        · exact fun _ _ _ => trivial
        · exact simulates_numberEnd negative _ true (TextAlike.drop hr _)
      · rw [fractionEnd, fractionEnd]
        · exact hwhole
        · exact fun _ h => hdot (List.cons.inj h).1
        · exact fun _ h => hdot (List.cons.inj h).1

theorem simulates_number : Simulates Eq number number := by
  rw [number_eq]
  refine .bind .get fun t t' ht => ?_
  obtain ⟨hnegative, hrest⟩ := minus_alike ht
  have hwhole : (minus t).2.takeWhile Char.isDigit = (minus t').2.takeWhile Char.isDigit :=
    hrest.takeWhile_eq rfl rfl
  simp only [hnegative, hwhole]
  split
  · exact fun _ _ _ => trivial
  · exact simulates_fractionEnd _ _ (hrest.drop _)

end Numbers

section Values

def FieldsAlike (fs fs' : List (Text × Value)) : Prop :=
  ∃ ms ms', collect ms = fs ∧ collect ms' = fs' ∧ MembersAlike ms ms'

theorem FieldsAlike.put {fs fs' : List (Text × Value)} {k k' : Text} {v v' : Value}
    (h : FieldsAlike fs fs') (hk : TextAlike k k') (hv : Alike v v') :
    FieldsAlike (put k v fs) (put k' v' fs') := by
  obtain ⟨ms, ms', rfl, rfl, h⟩ := h
  refine ⟨ms ++ [(k, v)], ms' ++ [(k', v')], List.foldl_concat .., List.foldl_concat .., ?_⟩
  induction ms generalizing ms' with
  | nil =>
    cases h
    exact .cons hk hv .nil
  | cons m ms ih =>
    cases h with
    | cons hl hw hs => exact .cons hl hw (ih _ hs)

theorem FieldsAlike.table {fs fs' : List (Text × Value)} (h : FieldsAlike fs fs') :
    Alike (.table fs) (.table fs') := by
  obtain ⟨ms, ms', rfl, rfl, h⟩ := h
  exact .table h

theorem simulates_word {x : Text} (hx : '>' ∉ x ∧ '|' ∉ x) (v : Value) :
    Simulates Alike (do expect x; return v) (do expect x; return v) :=
  .bind (simulates_expect hx) fun _ _ _ => .pure (.same v)

/-- A list or a table, which is empty or goes on with what is not nested too deep. -/
theorem simulates_nested {x : Text} {c : Char} (hx : '>' ∉ x ∧ '|' ∉ x) (hgt : '>' ≠ c)
    (hbar : '|' ≠ c) (v : Value) {rest : Nat → Reader Value}
    (hrest : ∀ depth, Simulates Alike (rest depth) (rest depth)) (depth : Nat) :
    let nested : Reader Value := do
      expect x
      match depth with
      | 0 => throw .tooDeep
      | d + 1 =>
        skipBlank
        if (← get).head? == some c then
          expect [c]
          return v
        rest d
    Simulates Alike nested nested := by
  refine .bind (simulates_expect hx) fun _ _ _ => ?_
  cases depth with
  | zero => exact .throw _ _
  | succ depth =>
    refine .bind simulates_skipBlank fun _ _ _ => .bind .get fun t t' ht => ?_
    rw [ht.beginsWith_eq hgt hbar]
    split
    · refine simulates_word ⟨?_, ?_⟩ v
      · exact mt List.mem_singleton.mp hgt
      · exact mt List.mem_singleton.mp hbar
    · exact hrest depth

variable {fuel : Nat}
  (hvalue : ∀ depth, Simulates Alike (value fuel depth) (value fuel depth))
  (hitems : ∀ depth, Simulates ItemsAlike (items fuel depth) (items fuel depth))
  (hfields : ∀ depth acc acc', FieldsAlike acc acc' →
    Simulates FieldsAlike (fields fuel depth acc) (fields fuel depth acc'))

include hitems hfields in
theorem simulates_value_succ (depth : Nat) :
    Simulates Alike (value (fuel + 1) depth) (value (fuel + 1) depth) := by
  unfold value
  refine .bind simulates_skipBlank fun _ _ _ => .bind .get fun t t' ht => ?_
  -- a value begins with neither mark
  rcases ht.head? with h | ⟨h, h'⟩
  · rw [h]
    split
    · exact simulates_word (by decide) _
    · exact simulates_word (by decide) _
    · exact simulates_word (by decide) _
    · exact .bind simulates_string fun _ _ hs => .pure (.str hs)
    · refine simulates_nested (by decide) (by decide) (by decide) (.list []) (fun depth => ?_) depth
      exact .bind (hitems depth) fun _ _ hvs => .pure (.list hvs)
    · refine simulates_nested (by decide) (by decide) (by decide) (.table []) (fun depth => ?_) depth
      exact .bind (hfields depth [] [] ⟨[], [], rfl, rfl, .nil⟩) fun _ _ hfs => .pure hfs.table
    · split
      · refine fun t t' ht => (simulates_number t t' ht).imp ?_
        rintro ⟨v, r⟩ ⟨_, r'⟩ ⟨rfl, hr⟩
        exact ⟨.same v, hr⟩
      · exact simulates_unexpected
    · exact simulates_unexpected
  · rw [h, h']
    exact simulates_unexpected

include hvalue hitems in
theorem simulates_items_succ (depth : Nat) :
    Simulates ItemsAlike (items (fuel + 1) depth) (items (fuel + 1) depth) := by
  unfold items
  refine .bind (hvalue depth) fun v v' hv => ?_
  refine .bind simulates_skipBlank fun _ _ _ => .bind .get fun t t' ht => ?_
  rcases ht.head? with h | ⟨h, h'⟩
  · rw [h]
    split
    · refine .bind (simulates_expect (by decide)) fun _ _ _ => ?_
      exact .bind (hitems depth) fun _ _ hvs => .pure (.cons hv hvs)
    · exact .bind (simulates_expect (by decide)) fun _ _ _ => .pure (.cons hv .nil)
    · exact simulates_unexpected
  · rw [h, h']
    exact simulates_unexpected

include hvalue hfields in
theorem simulates_fields_succ (depth : Nat) {acc acc' : List (Text × Value)}
    (hacc : FieldsAlike acc acc') :
    Simulates FieldsAlike (fields (fuel + 1) depth acc) (fields (fuel + 1) depth acc') := by
  unfold fields
  refine .bind simulates_skipBlank fun _ _ _ => .bind simulates_string fun k k' hk => ?_
  refine .bind simulates_skipBlank fun _ _ _ => ?_
  refine .bind (simulates_expect (by decide)) fun _ _ _ => ?_
  refine .bind (hvalue depth) fun v v' hv => ?_
  have hput := hacc.put hk hv
  refine .bind simulates_skipBlank fun _ _ _ => .bind .get fun t t' ht => ?_
  rcases ht.head? with h | ⟨h, h'⟩
  · rw [h]
    split
    · exact .bind (simulates_expect (by decide)) fun _ _ _ => hfields depth _ _ hput
    · exact .bind (simulates_expect (by decide)) fun _ _ _ => .pure hput
    · exact simulates_unexpected
  · rw [h, h']
    exact simulates_unexpected

/-- The values, the items and the fields that are read, in the way that their readers call each
other. -/
theorem simulates_values (fuel : Nat) :
    (∀ depth, Simulates Alike (value fuel depth) (value fuel depth)) ∧
    (∀ depth, Simulates ItemsAlike (items fuel depth) (items fuel depth)) ∧
    ∀ depth acc acc', FieldsAlike acc acc' →
      Simulates FieldsAlike (fields fuel depth acc) (fields fuel depth acc') := by
  induction fuel with
  | zero => exact ⟨fun _ _ _ _ => trivial, fun _ _ _ _ => trivial, fun _ _ _ _ _ _ _ => trivial⟩
  | succ fuel ih =>
    obtain ⟨hvalue, hitems, hfields⟩ := ih
    exact ⟨simulates_value_succ hitems hfields, simulates_items_succ hvalue hitems,
      fun depth acc acc' hacc => simulates_fields_succ hvalue hfields depth hacc⟩

end Values

end Json.Reader

/-- Alike texts are both JSON or neither is, and hold alike values. -/
theorem Json.read_alike {t t' : Text} (h : TextAlike t t') :
    OutcomesAlike Alike (read t) (read t') := by
  have hlength : t.length = t'.length := List.Forall₂.length_eq h
  have hvalue := (Reader.simulates_values (2 * t'.length + 2)).1 nestingLimit t t' h
  rw [read, read, hlength]
  refine hvalue.bind ?_
  rintro ⟨v, r⟩ ⟨v', r'⟩ ⟨hv, hr⟩
  have hrest : TextAlike (r.dropWhile Reader.isBlank) (r'.dropWhile Reader.isBlank) :=
    hr.dropWhile rfl
  dsimp only
  generalize r.dropWhile Reader.isBlank = u at hrest ⊢
  generalize r'.dropWhile Reader.isBlank = u' at hrest ⊢
  cases hrest with
  | nil => exact hv
  | cons => trivial

end Copydesk.Data
