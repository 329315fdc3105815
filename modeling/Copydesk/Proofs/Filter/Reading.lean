import Copydesk.Filter.Basic
import Copydesk.Proofs.Filter.Spelling

/-! Filters are read as they are written. An operand is put in parentheses where it binds more loosely
than its place asks; the reader is at the end of a written expression as if it had just read a single
operand. -/

namespace Copydesk.Filter

open Text

namespace BinOp

def tokens (s : Spelling) : BinOp → List Token
  | or => [if s.symbols then .op .or else .ident "or"]
  | and => [if s.symbols then .op .and else .ident "and"]
  | eq => [.op .eq]
  | ne => [.op .ne]
  | lt => [.op .lt]
  | le => [.op .le]
  | gt => [.op .gt]
  | ge => [.op .ge]
  | within => [.ident "in"]
  | notIn => [.ident "not", .ident "in"]
  | contains => [.ident "contains"]
  | startsWith => [.ident "startsWith"]
  | endsWith => [.ident "endsWith"]
  | matching => [.ident "matches"]

end BinOp

def Spelling.negation (s : Spelling) : Token := if s.symbols then .op .not else .ident "not"

def reserved : List Text := ["not", "true", "false"]

namespace Expr

def enclose (inside : Bool) (ts : List Token) : List Token :=
  if inside then .openParen :: (ts ++ [.closeParen]) else ts

mutual

/-- The tokens of an expression at a place that asks for a level. -/
def tokensAt (s : Spelling) : Nat → Expr → List Token
  | _, .field n => [.field n]
  | _, .str t => [.str t]
  | _, .num x => [.num x]
  | _, .bool b => [.ident (if b then "true" else "false")]
  | _, .array items => .openBracket :: (itemTokens s items ++ [.closeBracket])
  | level, .not e => enclose (notLevel < level) (s.negation :: tokensAt s notLevel e)
  | _, .call name args => .ident name :: .openParen :: (itemTokens s args ++ [.closeParen])
  | level, .binary op l r => enclose (op.level < level)
    (tokensAt s op.level l ++ (op.tokens s ++ tokensAt s (op.level + 1) r))

def itemTokens (s : Spelling) : List Expr → List Token
  | [] => []
  | [e] => tokensAt s 0 e
  | e :: es => tokensAt s 0 e ++ .comma :: itemTokens s es

end

def write (s : Spelling) (e : Expr) : Text := join [' '] ((tokensAt s 0 e).map (Token.write s))

/-- Names are ASCII identifiers and numbers have literals. -/
inductive IsWritable (s : Spelling) : Expr → Prop
  | field {n : Text} (h : IsName n) : IsWritable s (.field n)
  | str (t : Text) : IsWritable s (.str t)
  | num {x : Float} (h : IsLiteral x (s.literal x)) : IsWritable s (.num x)
  | bool (b : Bool) : IsWritable s (.bool b)
  | array {items : List Expr} (h : ∀ e ∈ items, IsWritable s e) : IsWritable s (.array items)
  | not {e : Expr} (h : IsWritable s e) : IsWritable s (.not e)
  | call {name : Text} {args : List Expr} (hname : IsName name) (hfree : name ∉ reserved)
    (h : ∀ e ∈ args, IsWritable s e) : IsWritable s (.call name args)
  | binary (op : BinOp) {l r : Expr} (hl : IsWritable s l) (hr : IsWritable s r) :
    IsWritable s (.binary op l r)

/-- No operator that binds as tightly as the level follows. -/
def Stops (level : Nat) (rest : List Token) : Prop :=
  ∀ op rest', binaryOp? rest = some (op, rest') → op.level < level

section Operators

variable {s : Spelling} {rest : List Token} {level fuel : Nat} {e : Expr}

theorem binaryOp?_tokens (op : BinOp) (rest : List Token) :
    binaryOp? (op.tokens s ++ rest) = some (op, rest) := by
  cases op with
  | or | and => cases h : s.symbols <;> simp only [BinOp.tokens, h] <;> rfl
  | _ => rfl

theorem Stops.mono {level' : Nat} (h : Stops level rest) (hle : level ≤ level') :
    Stops level' rest :=
  fun op rest' hop => Nat.lt_of_lt_of_le (h op rest' hop) hle

theorem level_cases (op : BinOp) : op.level = 1 ∨ op.level = 2 ∨ op.level = 4 := by
  cases op <;> simp [BinOp.level]

theorem Stops.of_notLevel (h : Stops (notLevel + 1) rest) : Stops notLevel rest := by
  intro op rest' hop
  have := h op rest' hop
  have := level_cases op
  simp only [notLevel] at *
  omega

theorem stops_tokens {op : BinOp} : Stops (op.level + 1) (op.tokens s ++ rest) := by
  intro op' rest' h
  rw [binaryOp?_tokens] at h
  obtain ⟨rfl, -⟩ := Prod.mk.inj (Option.some.inj h)
  exact Nat.lt_succ_self _

theorem climb_of_stops (h : Stops level rest) : climb fuel level e rest = .ok (e, rest) := by
  cases fuel with
  | zero => rfl
  | succ fuel =>
    rw [climb]
    split
    · rfl
    · rename_i op rest' hop
      rw [if_pos (h op rest' hop)]

theorem climb_tokens (op : BinOp) (hle : level ≤ op.level) :
    climb (fuel + 1) level e (op.tokens s ++ rest) = (do
      let (right, rest) ← read fuel (op.level + 1) rest
      climb fuel level (.binary op e right) rest) := by
  rw [climb, binaryOp?_tokens]
  exact if_neg (Nat.not_lt.mpr hle)

end Operators

/-- Where the level or a looser one is asked for, the reader is at the end of the tokens as if the
expression were a single operand. Every token takes at most four steps. -/
def LeadsTo (level : Nat) (ts : List Token) (e : Expr) : Prop :=
  ∀ asked rest fuel, asked ≤ level → Stops (level + 1) rest → 4 * ts.length ≤ fuel →
    ∃ left, fuel ≤ left + 4 * ts.length ∧
      read fuel asked (ts ++ rest) = climb left asked e rest

section Forms

variable {s : Spelling} {ts us : List Token} {level : Nat} {e l r : Expr} {t : Token}

/-- Where the reader has an operand, it goes on to the operators after it. -/
theorem LeadsTo.of_operand (hts : ts ≠ [])
    (h : ∀ rest fuel, Stops (level + 1) rest → 4 * ts.length ≤ fuel + 1 →
      operand fuel (ts ++ rest) = .ok (e, rest)) : LeadsTo level ts e := by
  intro asked rest fuel _ hrest hfuel
  have hpos := List.length_pos_iff.mpr hts
  obtain ⟨left, rfl⟩ : ∃ left, fuel = left + 1 := Nat.exists_eq_add_one.mpr (by omega)
  refine ⟨left, by omega, ?_⟩
  rw [read, h rest left hrest hfuel]
  rfl

theorem LeadsTo.single (h : ∀ rest fuel, operand (fuel + 1) (t :: rest) = .ok (e, rest)) :
    LeadsTo level [t] e := by
  refine .of_operand (List.cons_ne_nil t []) fun rest fuel _ hfuel => ?_
  obtain ⟨left, rfl⟩ : ∃ left, fuel = left + 1 := Nat.exists_eq_add_one.mpr (by
    simp only [List.length_singleton] at hfuel
    omega)
  exact h rest left

/-- Up to where no operator follows, the expression is read as a whole. -/
theorem LeadsTo.read_eq (h : LeadsTo level ts e) {rest : List Token} {fuel : Nat}
    (hrest : Stops level rest) (hfuel : 4 * ts.length ≤ fuel) :
    read fuel level (ts ++ rest) = .ok (e, rest) := by
  obtain ⟨left, -, hread⟩ := h level rest fuel (Nat.le_refl _)
    (hrest.mono (Nat.le_succ level)) hfuel
  rw [hread, climb_of_stops hrest]

def IsClosing (t : Token) : Prop := t = .closeParen ∨ t = .closeBracket ∨ t = .comma

theorem IsClosing.stops {close : Token} (h : IsClosing close) (level : Nat)
    (rest : List Token) : Stops level (close :: rest) := by
  intro op rest' hop
  rcases h with rfl | rfl | rfl <;> cases hop

theorem LeadsTo.parenthesized (h : LeadsTo 0 ts e) (level : Nat) :
    LeadsTo level (.openParen :: (ts ++ [.closeParen])) e := by
  refine .of_operand (List.cons_ne_nil _ _) fun rest fuel _ hfuel => ?_
  simp only [List.length_cons, List.length_append, List.length_nil] at hfuel
  obtain ⟨left, rfl⟩ : ∃ left, fuel = left + 1 := Nat.exists_eq_add_one.mpr (by omega)
  have hclosing : IsClosing .closeParen := .inl rfl
  have hread : read left 0 (ts ++ .closeParen :: rest) = .ok (e, .closeParen :: rest) :=
    h.read_eq (hclosing.stops 0 rest) (by omega)
  have hoperand : operand (left + 1) (.openParen :: (ts ++ .closeParen :: rest)) = (do
      let (e, rest) ← read left 0 (ts ++ .closeParen :: rest)
      return (e, ← expect .closeParen rest)) := by rw [operand]
  rw [List.cons_append, List.append_assoc, List.singleton_append, hoperand, hread]
  rfl

/-- What leads to an expression up to a level does so everywhere once it is enclosed beyond. -/
theorem LeadsTo.enclose {bound : Nat} (h : ∀ level ≤ bound, LeadsTo level ts e) (level : Nat) :
    LeadsTo level (enclose (bound < level) ts) e := by
  by_cases hlevel : bound < level
  · rw [Expr.enclose, if_pos (by simpa using hlevel)]
    exact (h 0 (Nat.zero_le _)).parenthesized level
  · rw [Expr.enclose, if_neg (by simpa using hlevel)]
    exact h level (Nat.le_of_not_lt hlevel)

theorem LeadsTo.not (h : LeadsTo notLevel ts e) (hlevel : level ≤ notLevel) :
    LeadsTo level (s.negation :: ts) (.not e) := by
  refine .of_operand (List.cons_ne_nil _ _) fun rest fuel hrest hfuel => ?_
  simp only [List.length_cons] at hfuel
  obtain ⟨left, rfl⟩ : ∃ left, fuel = left + 1 := Nat.exists_eq_add_one.mpr (by omega)
  have hread : read left notLevel (ts ++ rest) = .ok (e, rest) :=
    h.read_eq (hrest.mono (Nat.succ_le_succ hlevel)).of_notLevel (by omega)
  have hoperand : operand (left + 1) (s.negation :: (ts ++ rest)) = (do
      let (e, rest) ← read left notLevel (ts ++ rest)
      return (.not e, rest)) := by
    have hneg : s.negation = .op .not ∨ s.negation = .ident "not" := by
      cases hs : s.symbols <;> simp [Spelling.negation, hs]
    rcases hneg with hneg | hneg
    · rw [hneg, operand]
    · rw [hneg, operand]
      rfl
  rw [List.cons_append, hoperand, hread]
  rfl

theorem LeadsTo.binary {op : BinOp} (hl : LeadsTo op.level ts l)
    (hr : LeadsTo (op.level + 1) us r) (hlevel : level ≤ op.level) :
    LeadsTo level (ts ++ (op.tokens s ++ us)) (.binary op l r) := by
  intro asked rest fuel hasked hrest hfuel
  simp only [List.length_append] at hfuel ⊢
  have hop : 0 < (op.tokens s).length := by cases op <;> simp [BinOp.tokens]
  have hasked := Nat.le_trans hasked hlevel
  obtain ⟨left, hleft, hread⟩ := hl asked (op.tokens s ++ (us ++ rest)) fuel hasked
    stops_tokens (by omega)
  obtain ⟨left, rfl⟩ : ∃ n, left = n + 1 := Nat.exists_eq_add_one.mpr (by omega)
  -- the right operand ends before an operator of the same level, which is left to the climb
  have hright : read left (op.level + 1) (us ++ rest) = .ok (r, rest) :=
    hr.read_eq (hrest.mono (Nat.succ_le_succ hlevel)) (by omega)
  refine ⟨left, by omega, ?_⟩
  rw [List.append_assoc, List.append_assoc, hread, climb_tokens op hasked, hright]
  rfl

/-- The items of a list are read up to the closing token. -/
def LeadsToItems (ts : List Token) (es : List Expr) : Prop :=
  ∀ close rest fuel, close = .closeParen ∨ close = .closeBracket → 4 * ts.length < fuel →
    listItems fuel close (ts ++ close :: rest) = .ok (es, rest)

theorem LeadsTo.items_single (h : LeadsTo 0 ts e) : LeadsToItems ts [e] := by
  intro close rest fuel hclose hfuel
  obtain ⟨left, rfl⟩ : ∃ left, fuel = left + 1 := Nat.exists_eq_add_one.mpr (by omega)
  have hclosing : IsClosing close := hclose.imp_right .inl
  have hread : read left 0 (ts ++ close :: rest) = .ok (e, close :: rest) :=
    h.read_eq (hclosing.stops 0 rest) (by omega)
  rw [listItems, hread]
  rcases hclose with rfl | rfl <;> rfl

theorem LeadsTo.items_cons {es : List Expr} (h : LeadsTo 0 ts e) (hes : LeadsToItems us es) :
    LeadsToItems (ts ++ .comma :: us) (e :: es) := by
  intro close rest fuel hclose hfuel
  simp only [List.length_append, List.length_cons] at hfuel
  obtain ⟨left, rfl⟩ : ∃ left, fuel = left + 1 := Nat.exists_eq_add_one.mpr (by omega)
  have hcomma : IsClosing .comma := .inr (.inr rfl)
  have hread : read left 0 (ts ++ .comma :: (us ++ close :: rest)) =
      .ok (e, .comma :: (us ++ close :: rest)) :=
    h.read_eq (hcomma.stops 0 _) (by omega)
  have hmore : listItems left close (us ++ close :: rest) = .ok (es, rest) :=
    hes close rest left hclose (by omega)
  rw [List.append_assoc, List.cons_append, listItems, hread]
  change (listItems left close (us ++ close :: rest) >>= fun p => pure (e :: p.1, p.2)) = _
  rw [hmore]
  rfl

theorem LeadsTo.items {es : List Expr} (hne : es ≠ [])
    (h : ∀ e ∈ es, LeadsTo 0 (tokensAt s 0 e) e) : LeadsToItems (itemTokens s es) es := by
  induction es with
  | nil => exact absurd rfl hne
  | cons e es ih =>
    obtain ⟨he, hes⟩ := List.forall_mem_cons.mp h
    cases es with
    | nil =>
      rw [itemTokens]
      exact he.items_single
    | cons d ds =>
      rw [itemTokens]
      · exact he.items_cons (ih (List.cons_ne_nil d ds) hes)
      · exact List.cons_ne_nil d ds

def BeginsItem (ts : List Token) : Prop :=
  ∃ t us, ts = t :: us ∧ (t == .closeParen) = false ∧ (t == .closeBracket) = false

theorem BeginsItem.enclose (h : BeginsItem ts) (inside : Bool) :
    BeginsItem (enclose inside ts) := by
  cases inside with
  | true => exact ⟨.openParen, _, rfl, rfl, rfl⟩
  | false => exact h

end Forms

section Tokens

variable {s : Spelling} {e : Expr} {ts : List Token} {tok : Token}

end Tokens

end Expr

end Copydesk.Filter
