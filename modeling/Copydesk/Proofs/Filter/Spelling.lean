import Copydesk.Filter.Token
import Copydesk.Proofs.Text.Split
import Mathlib

/-! Tokens of filters as they are written, and that they are read back when a blank separates them. -/

namespace Copydesk.Filter

open Text

variable {c : Char} {n r rest t : Text} {x : Float} {tok : Token}

inductive FieldMark
  | dot | hash | hashDot
  deriving DecidableEq, Repr

def FieldMark.text : FieldMark → Text
  | dot => "."
  | hash => "#"
  | hashDot => "#."

/-- What is left open when an expression is written: the literals of numbers, how fields begin, and
whether `or`, `and` and `not` are symbols. -/
structure Spelling where
  literal : Float → Text
  mark : FieldMark := .dot
  symbols : Bool := false

def isNameStart (c : Char) : Bool := c.isAlpha || c == '_'

/-- An ASCII identifier. -/
def IsName : Text → Prop
  | [] => False
  | c :: r => isNameStart c = true ∧ r.all fun d => d.isAlphanum || d == '_'

/-- The text of a number that reads back. -/
def IsLiteral (x : Float) : Text → Prop
  | [] => False
  | c :: r => c.isDigit = true ∧ (r.all fun d => d.isDigit || d == '.') ∧
      Data.readFloat? (c :: r) = some x

def escaped : Char → Text
  | '"' => ['\\', '"']
  | '\\' => ['\\', '\\']
  | '\n' => ['\\', 'n']
  | '\t' => ['\\', 't']
  | c => [c]

namespace Token

def write (s : Spelling) : Token → Text
  | field n => s.mark.text ++ n
  | ident n => n
  | str t => '"' :: (t.flatMap escaped ++ ['"'])
  | num x => s.literal x
  | openParen => "("
  | closeParen => ")"
  | openBracket => "["
  | closeBracket => "]"
  | comma => ","
  | op o => o.text

/-- The tokens that can be written. -/
def IsWritable (s : Spelling) : Token → Prop
  | field n | ident n => IsName n
  | num x => IsLiteral x (s.literal x)
  | _ => True

section Names

/-- What is checked for each ASCII character holds of those of names and numbers. -/
theorem forall_ascii {p : Char → Prop} (h : ∀ n < 128, p (Char.ofNat n))
    (hc : (c.isAlphanum || c == '_' || c == '.') = true) : p c := by
  have hlt : c.toNat < 128 := by
    simp only [Char.isAlphanum, Char.isAlpha, Char.isUpper, Char.isLower, Char.isDigit,
      Bool.or_eq_true, Bool.and_eq_true, decide_eq_true_eq, beq_iff_eq, UInt32.le_iff_toNat_le,
      ge_iff_le] at hc
    change ((((65 ≤ c.toNat ∧ c.toNat ≤ 90) ∨ (97 ≤ c.toNat ∧ c.toNat ≤ 122)) ∨
      (48 ≤ c.toNat ∧ c.toNat ≤ 57)) ∨ c = '_') ∨ c = '.' at hc
    rcases hc with (hc | rfl) | rfl
    · omega
    · decide
    · decide
  have := h c.toNat hlt
  rwa [Char.ofNat_toNat] at this

theorem isNameChar_of_isAlphanum (h : (c.isAlphanum || c == '_') = true) :
    isNameChar c = true := by
  refine forall_ascii (p := fun c => (c.isAlphanum || c == '_') = true → isNameChar c = true)
    (by decide) ?_ h
  rw [h, Bool.true_or]

theorem isAlphanum_of_isNameStart (h : isNameStart c = true) :
    (c.isAlphanum || c == '_') = true := by
  simp only [isNameStart, Char.isAlphanum, Bool.or_eq_true] at h ⊢
  exact h.imp_left .inl

theorem of_isNameStart (h : isNameStart c = true) :
    (isAlphabetic c || c == '_') = true ∧ c.isDigit = false ∧ isSpace c = false := by
  refine forall_ascii (p := fun c => isNameStart c = true →
    (isAlphabetic c || c == '_') = true ∧ c.isDigit = false ∧ isSpace c = false)
    (by decide) ?_ h
  rw [isAlphanum_of_isNameStart h, Bool.true_or]

theorem next_of_isNameStart (hc : isNameStart c = true) (at' : Nat) (t : Text) :
    next at' c t = .ok (.ident (c :: t.takeWhile isNameChar),
      t.drop (t.takeWhile isNameChar).length) := by
  have hne (d : Char) (hd : isNameStart d = false) : c ≠ d := by
    rintro rfl
    rw [hc] at hd
    cases hd
  have hquote : ¬(c = '"' ∨ c = '\'' ∨ c = '\x60') := by
    simp only [not_or]
    exact ⟨hne _ (by decide), hne _ (by decide), hne _ (by decide)⟩
  obtain ⟨halpha, hdigit, -⟩ := of_isNameStart hc
  have hoperator : operator? c t.head? = none := by
    unfold operator?
    split <;> first | rfl | exact absurd rfl (hne _ (by decide))
  unfold next
  split
  case h_8 => simp only [if_neg hquote, hdigit, hoperator, if_pos halpha, Bool.false_eq_true,
    if_false]
  all_goals exact absurd rfl (hne _ (by decide))

end Names

section Texts

variable {fuel : Nat} (total : Nat)

end Texts

end Token

end Copydesk.Filter
