import Copydesk.Text.Classes

/-! Texts between double quotes with everything that cannot be seen written as an escape. -/

namespace Copydesk.Text

def hexDigits (n : Nat) : Text := (Nat.toDigits 16 n)

/-- Characters that leave no mark of their own: controls, unassigned ones, blanks but the space,
and those that extend the character before them. -/
def isInvisible (c : Char) : Bool :=
  if c.toNat < 128 then c.toNat < 32 || c.toNat == 127
  else
    let k := Unicode.category c
    k.head? == some 'C' || k.head? == some 'Z' || k == "Mn" || k == "Me"

def escapeVisibly (c : Char) : Text :=
  match c with
  | '"' => ['\\', '"']
  | '\\' => ['\\', '\\']
  | '\n' => ['\\', 'n']
  | '\r' => ['\\', 'r']
  | '\t' => ['\\', 't']
  | '\x00' => ['\\', '0']
  | c => if isInvisible c then "\\u\x7b".toList ++ hexDigits c.toNat ++ "\x7d".toList else [c]

def quoteVisibly (t : Text) : Text := '"' :: (t.flatMap escapeVisibly ++ ['"'])

end Copydesk.Text
