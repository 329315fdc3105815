/-! Text as a list of characters, measured and cut by offsets into its UTF-8 encoding. -/

namespace Copydesk

abbrev Text := List Char

instance : Coe String Text := ⟨String.toList⟩

instance : LawfulBEq Text := inferInstance

namespace Text

/-- Number of bytes of the UTF-8 encoding. -/
def size : Text → Nat
  | [] => 0
  | c :: t => c.utf8Size + size t

theorem size_append (s t : Text) : size (s ++ t) = size s + size t := by
  induction s with
  | nil => simp [size]
  | cons c s ih => simp [size, ih, Nat.add_assoc]

/-- Splits at byte offset `n`; `none` when `n` lies inside a character or past the end. -/
def cut? : Text → Nat → Option (Text × Text)
  | t, 0 => some ([], t)
  | [], _ + 1 => none
  | c :: t, n + 1 =>
    if c.utf8Size ≤ n + 1 then
      (cut? t (n + 1 - c.utf8Size)).map fun (a, b) => (c :: a, b)
    else none

theorem append_of_cut? {t a b : Text} {n : Nat} (h : cut? t n = some (a, b)) :
    a ++ b = t ∧ size a = n := by
  induction t generalizing a b n with
  | nil =>
    cases n with
    | zero => simp only [cut?, Option.some.injEq, Prod.mk.injEq] at h; simp [← h.1, ← h.2, size]
    | succ n => simp [cut?] at h
  | cons c t ih =>
    cases n with
    | zero => simp only [cut?, Option.some.injEq, Prod.mk.injEq] at h; simp [← h.1, ← h.2, size]
    | succ n =>
      simp only [cut?] at h
      split at h
      · rename_i hc
        obtain ⟨⟨u, v⟩, huv, he⟩ := Option.map_eq_some_iff.mp h
        simp only [Prod.mk.injEq] at he
        obtain ⟨ha, hb⟩ := ih huv
        rw [← he.1, ← he.2]
        simp only [List.cons_append, ha, size, hb, true_and]
        omega
      · simp at h

def isBoundary (t : Text) (n : Nat) : Bool := (cut? t n).isSome

/-- The text between two byte offsets, if both are character boundaries in order. -/
def slice? (t : Text) (start stop : Nat) : Option Text := do
  if stop < start then none
  let (_, rest) ← cut? t start
  let (piece, _) ← cut? rest (stop - start)
  return piece

def slice (t : Text) (start stop : Nat) : Text := (slice? t start stop).getD []

def after (t : Text) (n : Nat) : Text := ((cut? t n).map (·.2)).getD []

def before (t : Text) (n : Nat) : Text := ((cut? t n).map (·.1)).getD []

/-- What follows `p` in a text that begins with it. -/
def afterPrefix? : Text → Text → Option Text
  | [], t => some t
  | _ :: _, [] => none
  | p :: ps, c :: t => if p = c then afterPrefix? ps t else none

theorem afterPrefix?_eq_some_iff {p t r : Text} : afterPrefix? p t = some r ↔ t = p ++ r := by
  induction p generalizing t with
  | nil => simp [afterPrefix?, eq_comm]
  | cons p ps ih =>
    cases t with
    | nil => simp [afterPrefix?]
    | cons c t =>
      simp only [afterPrefix?]
      split
      · rename_i h; simp [ih, h]
      · rename_i h; simp [Ne.symm h]

def startsWith (t p : Text) : Bool := (afterPrefix? p t).isSome

def beforeSuffix? (s t : Text) : Option Text :=
  (afterPrefix? s.reverse t.reverse).map List.reverse

def endsWith (t s : Text) : Bool := (beforeSuffix? s t).isSome

def find? (needle : Text) : Text → Option Nat
  | [] => if needle = [] then some 0 else none
  | c :: t => if startsWith (c :: t) needle then some 0 else (find? needle t).map (· + c.utf8Size)

def contains (t needle : Text) : Bool := (find? needle t).isSome

def occurrencesFrom (needle : Text) : Nat → Nat → Text → List Nat
  | _, _, [] => []
  | at', skip + 1, c :: t => occurrencesFrom needle (at' + c.utf8Size) skip t
  | at', 0, c :: t =>
    if startsWith (c :: t) needle then
      at' :: occurrencesFrom needle (at' + c.utf8Size) (needle.length - 1) t
    else occurrencesFrom needle (at' + c.utf8Size) 0 t

/-- Byte offsets of the occurrences of a non-empty `needle`, left to right without overlap. -/
def occurrences (needle t : Text) : List Nat := occurrencesFrom needle 0 0 t

def splitWhere (p : Char → Bool) : Text → List Text
  | [] => [[]]
  | c :: t =>
    if p c then [] :: splitWhere p t
    else match splitWhere p t with
      | [] => [[c]]
      | piece :: more => (c :: piece) :: more

def splitOn (sep : Char) (t : Text) : List Text := splitWhere (· == sep) t

def splitTextFrom (sep : Text) : Nat → Text → List Text
  | _, [] => [[]]
  | skip + 1, _ :: t => splitTextFrom sep skip t
  | 0, c :: t =>
    if startsWith (c :: t) sep then [] :: splitTextFrom sep (sep.length - 1) t
    else match splitTextFrom sep 0 t with
      | [] => [[c]]
      | piece :: more => (c :: piece) :: more

/-- Pieces between the occurrences of a non-empty separator. -/
def splitOnText (sep t : Text) : List Text := splitTextFrom sep 0 t

def replace (old new t : Text) : Text := List.intercalate new (splitOnText old t)

def join (sep : Text) (ts : List Text) : Text := List.intercalate sep ts

/-- Splits after the first `sep`, which is dropped. -/
def splitOnce? (sep : Char) : Text → Option (Text × Text)
  | [] => none
  | c :: t => if c = sep then some ([], t) else (splitOnce? sep t).map fun (a, b) => (c :: a, b)

def dropEndWhile (p : Char → Bool) (t : Text) : Text := (t.reverse.dropWhile p).reverse

/-- The characters of Unicode's `White_Space` property. -/
def isSpace (c : Char) : Bool :=
  c == ' ' || ('\t' ≤ c && c ≤ '\r') || c == '\u0085' || c == '\u00a0' || c == '\u1680'
    || ('\u2000' ≤ c && c ≤ '\u200a') || c == '\u2028' || c == '\u2029' || c == '\u202f'
    || c == '\u205f' || c == '\u3000'

def trimStart (t : Text) : Text := t.dropWhile isSpace

def trimEnd (t : Text) : Text := dropEndWhile isSpace t

def trim (t : Text) : Text := trimEnd (trimStart t)

def isBlank (t : Text) : Bool := t.all isSpace

/-- Lines without their terminators; a carriage return belongs to the newline after it. -/
def lines (t : Text) : List Text :=
  let pieces := splitOn '\n' t
  let closed := pieces.dropLast.map fun l => (beforeSuffix? ['\r'] l).getD l
  match pieces.getLast? with
  | none | some [] => closed
  | some last => closed ++ [last]

/-- Lines with their newline characters. -/
def linesInclusive : Text → List Text
  | [] => []
  | c :: t =>
    if c = '\n' then [c] :: linesInclusive t
    else match linesInclusive t with
      | [] => [[c]]
      | l :: ls => (c :: l) :: ls

def asciiLower (t : Text) : Text := t.map Char.toLower

def eqIgnoreAsciiCase (s t : Text) : Bool := asciiLower s == asciiLower t

def ofNat (n : Nat) : Text := (toString n).toList

def toNat? (t : Text) : Option Nat :=
  if t.isEmpty || !t.all Char.isDigit then none
  else some (t.foldl (fun n c => 10 * n + (c.toNat - '0'.toNat)) 0)

/-- Lexicographic by code point, which is also the order of the encodings. -/
def le : Text → Text → Bool
  | [], _ => true
  | _ :: _, [] => false
  | a :: s, b :: t => a < b || (a == b && le s t)

def lt (s t : Text) : Bool := !le t s

def sort (ts : List Text) : List Text := ts.mergeSort le

end Text

end Copydesk
