import Copydesk.Proofs.Filter.Reading
import Copydesk.Proofs.Outcome

/-! What an expression is read from: the tokens of its parts in their order, with operators, brackets
and commas between them. The reader takes nothing else and skips nothing. -/

namespace Copydesk.Filter.Expr

open Outcome

/-- The tokens that an expression may be read from, however its operators bind. -/
inductive Derives : List Token → Expr → Prop
  | field (n : Text) : Derives [.field n] (.field n)
  | str (t : Text) : Derives [.str t] (.str t)
  | num (x : Float) : Derives [.num x] (.num x)
  | bool (b : Bool) : Derives [.ident (if b then "true" else "false")] (.bool b)
  | array {items : List (List Token × Expr)} (h : ∀ p ∈ items, Derives p.1 p.2) :
    Derives (.openBracket :: ([Token.comma].intercalate (items.map Prod.fst) ++ [.closeBracket]))
      (.array (items.map Prod.snd))
  | not (s : Spelling) {ts : List Token} {e : Expr} (h : Derives ts e) :
    Derives (s.negation :: ts) (.not e)
  | call (name : Text) {args : List (List Token × Expr)} (h : ∀ p ∈ args, Derives p.1 p.2) :
    Derives (.ident name :: .openParen ::
      ([Token.comma].intercalate (args.map Prod.fst) ++ [.closeParen])) (.call name (args.map Prod.snd))
  | enclosed {ts : List Token} {e : Expr} (h : Derives ts e) :
    Derives (.openParen :: (ts ++ [.closeParen])) e
  | binary (s : Spelling) (op : BinOp) {us vs : List Token} {l r : Expr} (hl : Derives us l)
    (hr : Derives vs r) : Derives (us ++ (op.tokens s ++ vs)) (.binary op l r)

section Steps

variable {level fuel : Nat} {e left : Expr} {es : List Expr} {ts rest : List Token} {close : Token}

/-- A spelling that makes `or`, `and` and `not` symbols or words. -/
def spelling (symbols : Bool) : Spelling := ⟨fun _ => [], .dot, symbols⟩

theorem eq_toList {w : Text} {v : String} (h : String.ofList w = v) : w = v.toList := by
  rw [← h, String.toList_ofList]

theorem exists_of_binaryOp? {op : BinOp} (h : binaryOp? ts = some (op, rest)) :
    ∃ s, ts = op.tokens s ++ rest := by
  unfold binaryOp? at h
  split at h
  case h_9 w ts =>
    split at h
    case h_8 hnot =>
      obtain rfl := eq_toList hnot
      split at h
      · split at h
        · rename_i hin
          obtain ⟨rfl, rfl⟩ := Prod.mk.inj (Option.some.inj h)
          exact ⟨spelling false, by rw [hin]; rfl⟩
        · cases h
      · cases h
    case h_9 => cases h
    all_goals
      rename_i hw
      obtain rfl := eq_toList hw
      obtain ⟨rfl, rfl⟩ := Prod.mk.inj (Option.some.inj h)
      exact ⟨spelling false, rfl⟩
  case h_10 => cases h
  all_goals
    obtain ⟨rfl, rfl⟩ := Prod.mk.inj (Option.some.inj h)
    exact ⟨spelling true, rfl⟩

def IsBracket (t : Token) : Prop := t = .openParen ∨ t = .closeParen ∨ t = .closeBracket

theorem IsBracket.eq_of_beq {t : Token} (hclose : IsBracket close) (h : (t == close) = true) :
    t = close := by
  rcases hclose with rfl | rfl | rfl
  all_goals cases t <;> first | rfl | cases h

theorem eq_of_expect (hclose : IsBracket close) (h : expect close ts = .ok rest) :
    ts = close :: rest := by
  cases ts with
  | nil => cases h
  | cons t ts =>
    rw [expect] at h
    split at h
    · rename_i ht
      rw [hclose.eq_of_beq ht, Except.ok.inj h]
    · cases h

/-- What the reader's functions take with some fuel derives what they give. -/
structure IsSound (fuel : Nat) : Prop where
  read {level : Nat} {ts rest : List Token} {e : Expr} (h : read fuel level ts = .ok (e, rest)) :
    ∃ used, ts = used ++ rest ∧ Derives used e
  climb {level : Nat} {left : Expr} {us ts rest : List Token} {e : Expr} (hleft : Derives us left)
    (h : climb fuel level left ts = .ok (e, rest)) :
    ∃ used, us ++ ts = used ++ rest ∧ Derives used e
  operand {ts rest : List Token} {e : Expr} (h : operand fuel ts = .ok (e, rest)) :
    ∃ used, ts = used ++ rest ∧ Derives used e
  listed {close : Token} {ts rest : List Token} {es : List Expr} (hclose : IsBracket close)
    (h : listed fuel close ts = .ok (es, rest)) :
    ∃ items : List (List Token × Expr), items.map Prod.snd = es ∧
      ts = [Token.comma].intercalate (items.map Prod.fst) ++ close :: rest ∧
      ∀ p ∈ items, Derives p.1 p.2
  listItems {close : Token} {ts rest : List Token} {es : List Expr} (hclose : IsBracket close)
    (h : listItems fuel close ts = .ok (es, rest)) :
    ∃ items : List (List Token × Expr), items ≠ [] ∧ items.map Prod.snd = es ∧
      ts = [Token.comma].intercalate (items.map Prod.fst) ++ close :: rest ∧
      ∀ p ∈ items, Derives p.1 p.2

theorem IsSound.zero : IsSound 0 where
  read h := by cases h
  climb {level left us ts rest e} hleft h := by
    obtain ⟨rfl, rfl⟩ := Prod.mk.inj (Except.ok.inj h)
    exact ⟨us, rfl, hleft⟩
  operand h := by cases h
  listed _ h := by cases h
  listItems _ h := by cases h

theorem IsSound.read_succ (hs : IsSound fuel) (h : Expr.read (fuel + 1) level ts = .ok (e, rest)) :
    ∃ used, ts = used ++ rest ∧ Derives used e := by
  rw [Expr.read] at h
  obtain ⟨⟨left, after⟩, hoperand, hclimb⟩ := bind_eq_ok_iff.mp h
  obtain ⟨us, rfl, hleft⟩ := hs.operand hoperand
  exact hs.climb hleft hclimb

theorem IsSound.climb_succ {us : List Token} (hs : IsSound fuel) (hleft : Derives us left)
    (h : Expr.climb (fuel + 1) level left ts = .ok (e, rest)) :
    ∃ used, us ++ ts = used ++ rest ∧ Derives used e := by
  rw [Expr.climb] at h
  split at h
  · obtain ⟨rfl, rfl⟩ := Prod.mk.inj (Except.ok.inj h)
    exact ⟨us, rfl, hleft⟩
  · rename_i op after hop
    split at h
    · obtain ⟨rfl, rfl⟩ := Prod.mk.inj (Except.ok.inj h)
      exact ⟨us, rfl, hleft⟩
    · obtain ⟨⟨right, after'⟩, hread, hclimb⟩ := bind_eq_ok_iff.mp h
      obtain ⟨s, rfl⟩ := exists_of_binaryOp? hop
      obtain ⟨vs, rfl, hright⟩ := hs.read hread
      obtain ⟨used, hused, hderives⟩ := hs.climb (.binary s op hleft hright) hclimb
      refine ⟨used, ?_, hderives⟩
      rw [← hused]
      simp only [List.append_assoc]

theorem IsSound.negated (hs : IsSound fuel) (symbols : Bool)
    (h : (Expr.read fuel notLevel ts >>= fun p => pure (Expr.not p.1, p.2)) = .ok (e, rest)) :
    ∃ used, (spelling symbols).negation :: ts = used ++ rest ∧ Derives used e := by
  obtain ⟨⟨arg, after⟩, hread, hpure⟩ := bind_eq_ok_iff.mp h
  obtain ⟨rfl, rfl⟩ := Prod.mk.inj (pure_eq_ok_iff.mp hpure)
  obtain ⟨us, rfl, harg⟩ := hs.read hread
  exact ⟨(spelling symbols).negation :: us, rfl, .not _ harg⟩

theorem IsSound.operand_succ (hs : IsSound fuel) (h : Expr.operand (fuel + 1) ts = .ok (e, rest)) :
    ∃ used, ts = used ++ rest ∧ Derives used e := by
  cases ts with
  | nil => cases h
  | cons t ts =>
    -- one case for each token that may begin an operand
    unfold Expr.operand at h
    split at h
    · exact hs.negated true h
    · rename_i w
      split at h
      · rename_i hw
        obtain rfl := eq_toList hw
        exact hs.negated false h
      · rename_i hw
        obtain rfl := eq_toList hw
        obtain ⟨rfl, rfl⟩ := Prod.mk.inj (Except.ok.inj h)
        exact ⟨_, rfl, .bool true⟩
      · rename_i hw
        obtain rfl := eq_toList hw
        obtain ⟨rfl, rfl⟩ := Prod.mk.inj (Except.ok.inj h)
        exact ⟨_, rfl, .bool false⟩
      · obtain ⟨after, hexpect, h⟩ := bind_eq_ok_iff.mp h
        obtain ⟨⟨args, after'⟩, hlisted, hpure⟩ := bind_eq_ok_iff.mp h
        obtain ⟨rfl, rfl⟩ := Prod.mk.inj (pure_eq_ok_iff.mp hpure)
        obtain rfl := eq_of_expect (.inl rfl) hexpect
        obtain ⟨items, rfl, rfl, hitems⟩ := hs.listed (.inr (.inl rfl)) hlisted
        refine ⟨_, ?_, .call w hitems⟩
        simp only [List.cons_append, List.append_assoc, List.nil_append]
    · obtain ⟨rfl, rfl⟩ := Prod.mk.inj (Except.ok.inj h)
      exact ⟨_, rfl, .field _⟩
    · obtain ⟨rfl, rfl⟩ := Prod.mk.inj (Except.ok.inj h)
      exact ⟨_, rfl, .str _⟩
    · obtain ⟨rfl, rfl⟩ := Prod.mk.inj (Except.ok.inj h)
      exact ⟨_, rfl, .num _⟩
    · obtain ⟨⟨es, after⟩, hlisted, hpure⟩ := bind_eq_ok_iff.mp h
      obtain ⟨rfl, rfl⟩ := Prod.mk.inj (pure_eq_ok_iff.mp hpure)
      obtain ⟨items, rfl, rfl, hitems⟩ := hs.listed (.inr (.inr rfl)) hlisted
      refine ⟨_, ?_, .array hitems⟩
      simp only [List.cons_append, List.append_assoc, List.nil_append]
    · obtain ⟨⟨inner, after⟩, hread, h⟩ := bind_eq_ok_iff.mp h
      obtain ⟨after', hexpect, hpure⟩ := bind_eq_ok_iff.mp h
      obtain ⟨rfl, rfl⟩ := Prod.mk.inj (pure_eq_ok_iff.mp hpure)
      obtain rfl := eq_of_expect (.inr (.inl rfl)) hexpect
      obtain ⟨us, rfl, hinner⟩ := hs.read hread
      refine ⟨_, ?_, .enclosed hinner⟩
      simp only [List.cons_append, List.append_assoc, List.nil_append]
    · cases h

theorem IsSound.listed_succ (hs : IsSound fuel) (hclose : IsBracket close)
    (h : Expr.listed (fuel + 1) close ts = .ok (es, rest)) :
    ∃ items : List (List Token × Expr), items.map Prod.snd = es ∧
      ts = [Token.comma].intercalate (items.map Prod.fst) ++ close :: rest ∧
      ∀ p ∈ items, Derives p.1 p.2 := by
  rw [Expr.listed] at h
  split at h
  · rename_i hhead
    obtain ⟨rfl, rfl⟩ := Prod.mk.inj (Except.ok.inj h)
    cases ts with
    | nil => cases hhead
    | cons t ts =>
      obtain rfl := hclose.eq_of_beq hhead
      exact ⟨[], rfl, rfl, List.forall_mem_nil _⟩
  · obtain ⟨items, -, hes, hts, hitems⟩ := hs.listItems hclose h
    exact ⟨items, hes, hts, hitems⟩

theorem IsSound.listItems_succ (hs : IsSound fuel) (hclose : IsBracket close)
    (h : Expr.listItems (fuel + 1) close ts = .ok (es, rest)) :
    ∃ items : List (List Token × Expr), items ≠ [] ∧ items.map Prod.snd = es ∧
      ts = [Token.comma].intercalate (items.map Prod.fst) ++ close :: rest ∧
      ∀ p ∈ items, Derives p.1 p.2 := by
  rw [Expr.listItems] at h
  obtain ⟨⟨first, after⟩, hread, hafter⟩ := bind_eq_ok_iff.mp h
  obtain ⟨us, rfl, hfirst⟩ := hs.read hread
  dsimp only at hafter
  split at hafter
  · cases hafter
  · obtain ⟨⟨more, after'⟩, hmore, hpure⟩ := bind_eq_ok_iff.mp hafter
    obtain ⟨rfl, rfl⟩ := Prod.mk.inj (pure_eq_ok_iff.mp hpure)
    obtain ⟨items, hne, rfl, rfl, hitems⟩ := hs.listItems hclose hmore
    refine ⟨(us, first) :: items, List.cons_ne_nil _ _, rfl, ?_,
      List.forall_mem_cons.mpr ⟨hfirst, hitems⟩⟩
    rw [List.map_cons, List.intercalate_cons_of_ne_nil (by simpa using hne)]
    simp only [List.cons_append, List.append_assoc, List.nil_append]
  · split at hafter
    · rename_i hbeq
      obtain ⟨rfl, rfl⟩ := Prod.mk.inj (pure_eq_ok_iff.mp hafter)
      obtain rfl := hclose.eq_of_beq hbeq
      refine ⟨[(us, first)], List.cons_ne_nil _ _, rfl, ?_, ?_⟩
      · simp
      · simpa using hfirst
    · cases hafter

theorem isSound (fuel : Nat) : IsSound fuel := by
  induction fuel with
  | zero => exact .zero
  | succ fuel hs =>
    exact ⟨hs.read_succ, hs.climb_succ, hs.operand_succ, hs.listed_succ, hs.listItems_succ⟩

theorem derives_of_ofTokens (h : ofTokens ts = .ok e) : Derives ts e := by
  obtain ⟨⟨first, after⟩, hread, hafter⟩ := bind_eq_ok_iff.mp h
  obtain ⟨us, rfl, hfirst⟩ := (isSound _).read hread
  cases after with
  | nil =>
    obtain rfl := pure_eq_ok_iff.mp hafter
    rwa [List.append_nil]
  | cons t after => cases hafter

end Steps

section Fields

mutual

/-- The fields that an expression looks at, from left to right. -/
def fields : Expr → List Text
  | .field n => [n]
  | .str _ | .num _ | .bool _ => []
  | .array items => fieldsOf items
  | .not e => fields e
  | .call _ args => fieldsOf args
  | .binary _ l r => fields l ++ fields r

def fieldsOf : List Expr → List Text
  | [] => []
  | e :: es => fields e ++ fieldsOf es

end

def fieldName? : Token → Option Text
  | .field n => some n
  | _ => none

variable {ts : List Token} {e : Expr}

theorem filterMap_tokens (s : Spelling) (op : BinOp) : (op.tokens s).filterMap fieldName? = [] := by
  cases op with
  | or | and => cases h : s.symbols <;> simp [BinOp.tokens, h, fieldName?]
  | _ => rfl

theorem fieldsOf_map_snd {items : List (List Token × Expr)}
    (h : ∀ p ∈ items, p.2.fields = p.1.filterMap fieldName?) :
    fieldsOf (items.map Prod.snd) =
      ([Token.comma].intercalate (items.map Prod.fst)).filterMap fieldName? := by
  induction items with
  | nil => rfl
  | cons p items ih =>
    obtain ⟨hp, hitems⟩ := List.forall_mem_cons.mp h
    rw [List.map_cons, List.map_cons, fieldsOf, hp, ih hitems]
    cases items with
    | nil => simp
    | cons q items =>
      rw [List.map_cons, List.intercalate_cons_cons, List.filterMap_append, List.filterMap_append,
        List.append_assoc]
      rfl

/-- An expression looks at the fields among its tokens, in their order. -/
theorem Derives.fields_eq (h : Derives ts e) : e.fields = ts.filterMap fieldName? := by
  induction h with
  | field | str | num | bool => rfl
  | array _ ih =>
    rw [fields, fieldsOf_map_snd ih, List.filterMap_cons_none rfl, List.filterMap_append]
    exact (List.append_nil _).symm
  | not s _ ih =>
    have hmark : fieldName? s.negation = none := by
      unfold Spelling.negation
      split <;> rfl
    rw [fields, ih, List.filterMap_cons_none hmark]
  | call name _ ih =>
    rw [fields, fieldsOf_map_snd ih, List.filterMap_cons_none rfl, List.filterMap_cons_none rfl,
      List.filterMap_append]
    exact (List.append_nil _).symm
  | enclosed _ ih =>
    rw [ih, List.filterMap_cons_none rfl, List.filterMap_append]
    exact (List.append_nil _).symm
  | binary s op _ _ ihl ihr =>
    rw [fields, ihl, ihr, List.filterMap_append, List.filterMap_append, filterMap_tokens,
      List.nil_append]

end Fields

section Neighbours

def operatorWords : List Text :=
  ["or", "and", "in", "not", "contains", "startsWith", "endsWith", "matches"]

/-- After a number comes no word but that of an operator. -/
def MayFollow : Token → Token → Prop
  | .num _, .ident w => w ∈ operatorWords
  | _, _ => True

variable {us vs ts : List Token} {t : Token} {e : Expr}

/-- A token that separates: it may follow any and any may follow it. -/
def Separates (t : Token) : Prop := ∀ a, MayFollow a t ∧ MayFollow t a

theorem separates_word {w : Text} (h : w ∈ operatorWords) : Separates (.ident w) := by
  intro a
  refine ⟨?_, trivial⟩
  cases a with
  | num x => exact h
  | _ => trivial

theorem separates_op (o : Op) : Separates (.op o) := by
  intro a
  cases a <;> exact ⟨trivial, trivial⟩

theorem separates_tokens (s : Spelling) (op : BinOp) : ∀ t ∈ op.tokens s, Separates t := by
  intro t ht
  cases op with
  | or | and =>
    obtain rfl := List.mem_singleton.mp ht
    split
    · exact separates_op _
    · exact separates_word (by decide)
  | notIn =>
    rcases List.mem_cons.mp ht with rfl | ht
    · exact separates_word (by decide)
    · obtain rfl := List.mem_singleton.mp ht
      exact separates_word (by decide)
  | eq | ne | lt | le | gt | ge =>
    obtain rfl := List.mem_singleton.mp ht
    exact separates_op _
  | within | contains | startsWith | endsWith | matching =>
    obtain rfl := List.mem_singleton.mp ht
    exact separates_word (by decide)

theorem isChain_append_cons (ht : Separates t) (hus : us.IsChain MayFollow)
    (hvs : vs.IsChain MayFollow) : (us ++ t :: vs).IsChain MayFollow := by
  have hcons : (t :: vs).IsChain MayFollow := by
    cases vs with
    | nil => exact .singleton t
    | cons v vs => exact .cons_cons (ht v).2 hvs
  refine List.isChain_append.mpr ⟨hus, hcons, fun a _ b hb => ?_⟩
  obtain rfl := Option.some.inj hb
  exact (ht a).1

theorem isChain_append_separators {ms : List Token} (hne : ms ≠ []) (hms : ∀ t ∈ ms, Separates t)
    (hus : us.IsChain MayFollow) (hvs : vs.IsChain MayFollow) :
    (us ++ (ms ++ vs)).IsChain MayFollow := by
  induction ms generalizing us with
  | nil => exact absurd rfl hne
  | cons m ms ih =>
    obtain ⟨hm, hmore⟩ := List.forall_mem_cons.mp hms
    by_cases hlast : ms = []
    · subst hlast
      exact isChain_append_cons hm hus hvs
    · exact isChain_append_cons hm hus (ih hlast hmore .nil)

theorem isChain_intercalate {items : List (List Token × Expr)}
    (h : ∀ p ∈ items, p.1.IsChain MayFollow) :
    ([Token.comma].intercalate (items.map Prod.fst)).IsChain MayFollow := by
  have hcomma : Separates .comma := fun a => by cases a <;> exact ⟨trivial, trivial⟩
  induction items with
  | nil => exact .nil
  | cons p items ih =>
    obtain ⟨hp, hitems⟩ := List.forall_mem_cons.mp h
    cases items with
    | nil => simpa using hp
    | cons q items =>
      rw [List.map_cons, List.map_cons, List.intercalate_cons_cons, List.append_assoc]
      exact isChain_append_cons hcomma hp (ih hitems)

theorem isChain_bracketed {start stop : Token} (hstart : Separates start) (hstop : Separates stop)
    (h : ts.IsChain MayFollow) : (start :: (ts ++ [stop])).IsChain MayFollow :=
  isChain_append_cons hstart .nil (isChain_append_cons hstop h .nil)

theorem Derives.isChain (h : Derives ts e) : ts.IsChain MayFollow := by
  have hopenParen : Separates .openParen := fun a => by cases a <;> exact ⟨trivial, trivial⟩
  have hcloseParen : Separates .closeParen := fun a => by cases a <;> exact ⟨trivial, trivial⟩
  have hopenBracket : Separates .openBracket := fun a => by cases a <;> exact ⟨trivial, trivial⟩
  have hcloseBracket : Separates .closeBracket := fun a => by cases a <;> exact ⟨trivial, trivial⟩
  induction h with
  | field | str | num | bool => exact .singleton _
  | array _ ih =>
    exact isChain_bracketed hopenBracket hcloseBracket (isChain_intercalate ih)
  | not s _ ih =>
    have hmark : Separates s.negation := by
      unfold Spelling.negation
      split
      · exact separates_op _
      · exact separates_word (by decide)
    exact isChain_append_cons hmark .nil ih
  | call name _ ih =>
    have hargs := isChain_bracketed hopenParen hcloseParen (isChain_intercalate ih)
    exact .cons_cons trivial hargs
  | enclosed _ ih => exact isChain_bracketed hopenParen hcloseParen ih
  | binary s op _ _ ihl ihr =>
    have hne : op.tokens s ≠ [] := by cases op <;> exact List.cons_ne_nil _ _
    exact isChain_append_separators hne (separates_tokens s op) ihl ihr

end Neighbours

end Copydesk.Filter.Expr
