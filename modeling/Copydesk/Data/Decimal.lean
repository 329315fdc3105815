import Copydesk.Text.Basic

/-! Floating-point numbers as decimal text: the fewest digits that read back. -/

namespace Copydesk.Data

/-- A positive finite double: the number `mantissa * 2 ^ exponent`. -/
structure Binary where
  mantissa : Nat
  exponent : Int
  /-- Whether the next smaller double is half as far away as the next larger one. -/
  narrowBelow : Bool

def Binary.ofBits (bits : UInt64) : Binary :=
  let fraction := bits.toNat % Nat.pow 2 52
  let e : Nat := bits.toNat / Nat.pow 2 52 % Nat.pow 2 11
  if e = 0 then ⟨fraction, -1074, false⟩
  else ⟨fraction + Nat.pow 2 52, (e : Int) - 1075, fraction == 0 && e != 1⟩

structure Decimal where
  digits : Nat
  exponent : Int
  deriving DecidableEq, Repr

namespace Binary

def scaled (n : Nat) (e : Int) : Nat × Nat :=
  if 0 ≤ e then (n * Nat.pow 2 e.toNat, 1) else (n, Nat.pow 2 (-e).toNat)

/-- Twice the number and the ends of the interval that rounds to it, over four in mantissa units. -/
def interval (b : Binary) : Nat × Nat × Nat :=
  (4 * b.mantissa - (if b.narrowBelow then 1 else 2), 4 * b.mantissa, 4 * b.mantissa + 2)

/-- Whether `d * 10 ^ k` rounds to the number; the interval's ends belong to even mantissas. -/
def readsBack (b : Binary) (d : Nat) (k : Int) : Bool :=
  let (lo, _, hi) := b.interval
  let (loNum, den) := scaled lo (b.exponent - 2)
  let (hiNum, _) := scaled hi (b.exponent - 2)
  let num := if 0 ≤ k then d * Nat.pow 10 k.toNat else d
  let den' := if 0 ≤ k then 1 else Nat.pow 10 (-k).toNat
  if b.mantissa % 2 = 0 then loNum * den' ≤ num * den && num * den ≤ hiNum * den'
  else loNum * den' < num * den && num * den < hiNum * den'

def countDigits : Nat → Nat → Nat
  | 0, _ => 0
  | fuel + 1, n => if n < 10 then 1 else 1 + countDigits fuel (n / 10)

def digitCount (n : Nat) : Nat := countDigits (n.log2 + 1) n

def magnitude (b : Binary) : Int :=
  let (num, den) := scaled b.mantissa b.exponent
  let e : Int := (digitCount num : Int) - digitCount den
  let holds := if 0 ≤ e then den * Nat.pow 10 e.toNat ≤ num else den ≤ num * Nat.pow 10 (-e).toNat
  if holds then e else e - 1

/-- The two neighbours of the number on the grid of `10 ^ k`: below, and how far it lies above. -/
def neighbour (b : Binary) (k : Int) : Nat × Nat × Nat :=
  let (num, den) := scaled b.mantissa b.exponent
  let num := if 0 ≤ k then num else num * Nat.pow 10 (-k).toNat
  let den := if 0 ≤ k then den * Nat.pow 10 k.toNat else den
  (num / den, num % den, den)

/-- The neighbour on a grid that reads back, the nearer of two, of two as near the even one. -/
def onGrid? (b : Binary) (k : Int) : Option Decimal :=
  let (d, r, den) := b.neighbour k
  match b.readsBack d k && d != 0, b.readsBack (d + 1) k with
  | true, true =>
    if 2 * r < den || (2 * r == den && d % 2 == 0) then some ⟨d, k⟩ else some ⟨d + 1, k⟩
  | true, false => some ⟨d, k⟩
  | false, true => some ⟨d + 1, k⟩
  | false, false => none

def shortestFrom (b : Binary) (top : Int) : Nat → Nat → Decimal
  | 0, n => let (d, _, _) := b.neighbour (top - n); ⟨d, top - n⟩
  | fuel + 1, n => match b.onGrid? (top - n) with
    | some d => d
    | none => shortestFrom b top fuel (n + 1)

/-- The decimal with the fewest digits that rounds to the number, the nearest of those. -/
def shortest (b : Binary) : Decimal := shortestFrom b b.magnitude 17 0

end Binary

def Decimal.stripFrom : Nat → Decimal → Decimal
  | 0, d => d
  | fuel + 1, d =>
    if d.digits % 10 = 0 ∧ d.digits ≠ 0 then stripFrom fuel ⟨d.digits / 10, d.exponent + 1⟩
    else d

structure FloatFormat where
  /-- The least exponent of the leading digit that is written positionally. -/
  least : Int

/-- Positional from `10 ^ least` up to below `10 ^ 16`, else one digit, a point and an exponent. -/
def FloatFormat.write (f : FloatFormat) (x : Float) : Text :=
  let sign : Text := if x.toBits.toNat / Nat.pow 2 63 = 1 then "-" else []
  if x == 0.0 then sign ++ "0.0"
  else
    let d := Decimal.stripFrom 20 (Binary.ofBits x.toBits).shortest
    let ds := Text.ofNat d.digits
    let lead := d.exponent + ds.length - 1
    sign ++
      if lead < f.least || 16 ≤ lead then
        let rest := ds.drop 1
        ds.take 1 ++ (if rest.isEmpty then [] else '.' :: rest) ++ ['e']
          ++ (toString lead).toList
      else if 0 ≤ d.exponent then ds ++ List.replicate d.exponent.toNat '0' ++ ['.', '0']
      else if 0 ≤ lead then
        ds.take (lead.toNat + 1) ++ ['.'] ++ ds.drop (lead.toNat + 1)
      else ['0', '.'] ++ List.replicate ((-lead).toNat - 1) '0' ++ ds

/-- Reads digits, an optional point and an optional exponent, correctly rounded. -/
def readFloat? (t : Text) : Option Float := do
  let (negative, t) := match t with
    | '-' :: r => (true, r)
    | '+' :: r => (false, r)
    | r => (false, r)
  let whole := t.takeWhile Char.isDigit
  let t := t.drop whole.length
  let (part, t) := match t with
    | '.' :: r => let p := r.takeWhile Char.isDigit; (p, r.drop p.length)
    | r => ([], r)
  if whole.isEmpty && part.isEmpty then none
  let e : Int ← match t with
    | [] => some 0
    | c :: r =>
      if c = 'e' ∨ c = 'E' then
        match r with
        | '-' :: r => (Text.toNat? r).map fun n => -(n : Int)
        | '+' :: r => (Text.toNat? r).map Int.ofNat
        | r => (Text.toNat? r).map Int.ofNat
      else none
  let m ← Text.toNat? ('0' :: whole ++ part)
  let scale := e - part.length
  let x :=
    if m = 0 then 0.0
    -- far beyond every double, where the exact power need not be computed
    else if 400 < scale + (Text.ofNat m).length then 1.0 / 0.0
    else if scale + (Text.ofNat m).length < -400 then 0.0
    else if 0 ≤ scale then Float.ofScientific m false scale.toNat
    else Float.ofScientific m true (-scale).toNat
  return if negative then -x else x

end Copydesk.Data
