import Copydesk.Text.Basic

/-! Structured data: scalars, lists and tables whose fields keep their order. -/

namespace Copydesk.Data

inductive Value
  | null
  | bool (b : Bool)
  | int (n : Int)
  | float (x : Float)
  | str (t : Text)
  | list (items : List Value)
  | table (fields : List (Text × Value))

def get? {α : Type} (fields : List (Text × α)) (key : Text) : Option α :=
  fields.lookup key

/-- Replaces the value of a key where it stands, or adds the key at the end. -/
def put {α : Type} (key : Text) (a : α) : List (Text × α) → List (Text × α)
  | [] => [(key, a)]
  | (k, b) :: rest => if k = key then (k, a) :: rest else (k, b) :: put key a rest

theorem get?_put {α : Type} (key : Text) (a : α) (fields : List (Text × α)) :
    get? (put key a fields) key = some a := by
  induction fields with
  | nil => simp [put, get?]
  | cons f rest ih =>
    obtain ⟨k, b⟩ := f
    by_cases h : k = key
    · simp [put, h, get?]
    · simp only [put, h, if_false, get?, List.lookup_cons]
      have : (key == k) = false := beq_eq_false_iff_ne.mpr (Ne.symm h)
      simpa [this, get?] using ih

namespace Value

def field? (v : Value) (key : Text) : Option Value :=
  match v with
  | table fields => get? fields key
  | _ => none

end Value

end Copydesk.Data
