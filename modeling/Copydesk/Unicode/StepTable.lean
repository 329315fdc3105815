import Copydesk.Text.Basic

/-! Maps on characters that are constant between listed code points. -/

namespace Copydesk.Unicode

/-- Each entry gives the value from its code point up to the next entry's. -/
structure StepTable (α : Type) where
  steps : Array (Nat × α)

namespace StepTable

variable {α β : Type}

def readHex (t : Text) : Nat :=
  t.foldl (fun n c =>
    16 * n + if c.isDigit then c.toNat - '0'.toNat else c.toNat - 'A'.toNat + 10) 0

def readWords (s : String) : List Text :=
  (Text.splitWhere Text.isSpace s).filter (!·.isEmpty)

def pairUp : List Text → List (Nat × Text)
  | start :: label :: rest => (readHex start, label) :: pairUp rest
  | _ => []

def ofSteps (s : String) : StepTable Text := ⟨(pairUp (readWords s)).toArray⟩

def toggles : Bool → List Text → List (Nat × Bool)
  | _, [] => []
  | on, w :: ws => (readHex w, on) :: toggles (!on) ws

/-- A set of characters from the code points where membership begins and ends, in turn. -/
def ofToggles (s : String) : StepTable Bool := ⟨(toggles true (readWords s)).toArray⟩

def ofPoints (entries : List (Char × α)) : StepTable α :=
  ⟨((entries.map fun (c, a) => (c.toNat, a)).mergeSort fun x y => x.1 ≤ y.1).toArray⟩

def map (f : α → β) (t : StepTable α) : StepTable β := ⟨t.steps.map fun (n, a) => (n, f a)⟩

/-- Bisects for the last index in `lo ≤ i < hi` whose entry begins at or below `x`. -/
def lastBelow (steps : Array (Nat × α)) (x lo hi : Nat) : Option (Nat × α) :=
  if lo + 1 < hi then
    let mid := (lo + hi) / 2
    match steps[mid]? with
    | some (n, _) => if n ≤ x then lastBelow steps x mid hi else lastBelow steps x lo mid
    | none => none
  else steps[lo]?.filter fun e => e.1 ≤ x
termination_by hi - lo

def find? (t : StepTable α) (c : Char) : Option α :=
  (lastBelow t.steps c.toNat 0 t.steps.size).map (·.2)

def findPoint? (t : StepTable α) (c : Char) : Option α :=
  ((lastBelow t.steps c.toNat 0 t.steps.size).filter fun e => e.1 == c.toNat).map (·.2)

def contains (t : StepTable Bool) (c : Char) : Bool := (t.find? c).getD false

end StepTable

end Copydesk.Unicode
