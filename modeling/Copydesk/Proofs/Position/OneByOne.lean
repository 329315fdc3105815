import Copydesk.Linter
import Copydesk.Proofs.Position.Column
import Copydesk.Proofs.Position.Remap

/-! Alerts are moved one by one. What becomes of an alert is the same whether it is moved by itself
or among others, except that those after one that cannot be moved are not reached. -/

namespace Copydesk.Position

variable {one : Alert → Except LintError Alert} {as as' : List Alert} {a a' : Alert}
  {e : LintError}

/-- The alert reports the same finding, on as many columns. -/
structure SameFinding (a a' : Alert) : Prop where
  check : a'.check = a.check
  level : a'.level = a.level
  message : a'.message = a.message
  description : a'.description = a.description
  link : a'.link = a.link
  matched : a'.matched = a.matched
  width : a'.span.stop - a'.span.start = a.span.stop - a.span.start
  ordered : a.span.start ≤ a.span.stop → a'.span.start ≤ a'.span.stop

namespace SameFinding

theorem refl (a : Alert) : SameFinding a a := ⟨rfl, rfl, rfl, rfl, rfl, rfl, rfl, id⟩

theorem move (a : Alert) (line pad : Nat) : SameFinding a (a.moveTo ⟨line, a.span.move pad⟩) :=
  ⟨rfl, rfl, rfl, rfl, rfl, rfl, Nat.add_sub_add_right _ _ _, fun h => Nat.add_le_add_right h pad⟩

theorem beginAt (a : Alert) (line column : Nat) :
    SameFinding a (a.moveTo ⟨line, a.span.beginAt column⟩) :=
  ⟨rfl, rfl, rfl, rfl, rfl, rfl, Nat.add_sub_cancel_left _ _, fun _ => Nat.le_add_right _ _⟩

end SameFinding

abbrev MovesAlone (run : List Alert → List Alert × Option LintError) (a a' : Alert) : Prop :=
  run [a] = ([a'], none)

/-- What a function does with a list of alerts is what it does with each of them by itself, up to the
first that it fails on. -/
structure MovesOneByOne (run : List Alert → List Alert × Option LintError) : Prop where
  succeeds_iff : ∀ as, (run as).2 = none ↔ ∀ a ∈ as, (run [a]).2 = none
  moved_iff : ∀ as as', run as = (as', none) ↔ List.Forall₂ (MovesAlone run) as as'
  /-- The alerts before the first that fails have their places, that one and all later ones are as
  they were. -/
  stopped_iff : ∀ as as' e, run as = (as', some e) ↔ ∃ before before' a after,
    as = before ++ a :: after ∧ as' = before' ++ a :: after ∧
      List.Forall₂ (MovesAlone run) before before' ∧ run [a] = ([a], some e)
  keeps : ∀ as, List.Forall₂ SameFinding as (run as).1

theorem movesAlone_iff : MovesAlone (moveEach one) a a' ↔ one a = .ok a' := by
  refine moveEach_eq_none_iff.trans ⟨fun h => ?_, fun h => .cons h .nil⟩
  cases h with
  | cons h _ => exact h

theorem stopsAlone_iff : moveEach one [a] = ([a], some e) ↔ one a = .error e := by
  rw [moveEach]
  cases one a with
  | error e' => exact ⟨fun h => congrArg Except.error (Option.some.inj (Prod.mk.inj h).2),
      fun h => congrArg (([a], some ·)) (Except.error.inj h)⟩
  | ok b => exact ⟨fun h => (by cases (Prod.mk.inj h).2), fun h => (by cases h)⟩

theorem snd_moveEach_eq_none_iff :
    (moveEach one as).2 = none ↔ ∀ a ∈ as, ∃ a', one a = .ok a' := by
  rw [← exists_movesEach_iff]
  constructor
  · exact fun h => ⟨_, moveEach_eq_none_iff.mp (Prod.ext rfl h)⟩
  · rintro ⟨as', h⟩
    rw [moveEach_eq_none_iff.mpr h]

theorem sameFinding_moveEach (hone : ∀ a a', one a = .ok a' → SameFinding a a')
    (as : List Alert) : List.Forall₂ SameFinding as (moveEach one as).1 := by
  induction as with
  | nil => exact .nil
  | cons a as ih =>
    cases ha : one a with
    | error e =>
      rw [moveEach, ha]
      exact List.forall₂_same.mpr fun b _ => .refl b
    | ok b =>
      rw [moveEach_cons_of_ok ha]
      exact .cons (hone a b ha) ih

theorem movesOneByOne_moveEach (hone : ∀ a a', one a = .ok a' → SameFinding a a') :
    MovesOneByOne (moveEach one) := by
  have halone : MovesAlone (moveEach one) = fun a a' => one a = .ok a' :=
    funext fun a => funext fun a' => propext movesAlone_iff
  constructor
  case succeeds_iff =>
    intro as
    simp only [snd_moveEach_eq_none_iff, List.forall_mem_singleton]
  case moved_iff =>
    intro as as'
    rw [halone]
    exact moveEach_eq_none_iff
  case stopped_iff =>
    intro as as' e
    simp only [halone, stopsAlone_iff]
    exact moveEach_eq_some_iff
  case keeps => exact sameFinding_moveEach hone

section Remap

variable {blockText value parent file : Text} {anchor : Anchor} {columns : List Nat} {start : Cursor}

theorem sameFinding_of_remapAnchoredOne
    (h : remapAnchoredOne blockText anchor columns parent file a = .ok a') : SameFinding a a' := by
  obtain ⟨line, pad, rfl⟩ := exists_move_of_remapAnchoredOne h
  exact .move a line pad

theorem sameFinding_of_remapValueOne
    (h : remapValueOne value parent start file a = .ok a') : SameFinding a a' := by
  obtain ⟨-, n, column, rfl, -⟩ := remapValueOne_eq_ok_iff.mp h
  exact .beginAt a (n + 1) column

/-- The values of a file are passed one after another, each from where the one before ended. -/
theorem lintValues_cons {l : Linter} {t : Linter.Target} {name v : Text} {format : Format}
    {vs : List Text} (hblank : Text.isBlank v = false) :
    l.lintValues t name format parent start (v :: vs) = (do
      let found ← l.lintFormat t format name v
      let passed := passValue v parent start t.path found
      let next ← passed.2
      return passed.1 ++ (← l.lintValues t name format parent next vs)) := by
  rw [Linter.lintValues, hblank, if_neg Bool.false_ne_true]
  refine bind_congr fun found => ?_
  rw [passValue]
  cases remapValue v parent start t.path found with
  | mk moved e => cases e <;> rfl

/-- Alerts are moved one by one, and where a value ends does not depend on its alerts. -/
theorem movesOneByOne_remap (blockText : Text) (anchor : Anchor) (columns : List Nat)
    (value parent : Text) (start : Cursor) (file : Text) :
    MovesOneByOne (remapAnchored blockText anchor columns parent file) ∧
      MovesOneByOne (remapValue value parent start file) ∧
        ∃ next, ∀ as, passValue value parent start file as =
          ((remapValue value parent start file as).1,
            match (remapValue value parent start file as).2 with
            | none => .ok next
            | some e => .error e) := by
  refine ⟨movesOneByOne_moveEach fun _ _ => sameFinding_of_remapAnchoredOne,
    movesOneByOne_moveEach fun _ _ => sameFinding_of_remapValueOne,
    advance value parent start, fun as => ?_⟩
  rw [passValue]
  cases remapValue value parent start file as with
  | mk moved e => cases e <;> rfl

end Remap

end Copydesk.Position
