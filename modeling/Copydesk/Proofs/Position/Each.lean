import Copydesk.Position.Cursor
import Mathlib.Data.List.Forall2

/-! Alerts that are moved one after another. Those before the first that cannot be moved have their
new places, and that one and all later ones are left as they were. -/

namespace Copydesk.Position

variable {ε : Type} {move : Alert → Except ε Alert} {as as' before before' after : List Alert}
  {a a' : Alert} {e : ε} {i : Nat}

abbrev MovesEach (move : Alert → Except ε Alert) (as as' : List Alert) : Prop :=
  List.Forall₂ (fun a a' => move a = .ok a') as as'

theorem MovesEach.getElem? (h : MovesEach move as as') (hi : as[i]? = some a)
    (hi' : as'[i]? = some a') : move a = .ok a' := by
  obtain ⟨hlt, rfl⟩ := List.getElem?_eq_some_iff.mp hi
  obtain ⟨hlt', rfl⟩ := List.getElem?_eq_some_iff.mp hi'
  exact h.get hlt hlt'

theorem moveEach_cons_of_ok (ha : move a = .ok a') :
    moveEach move (a :: as) = (a' :: (moveEach move as).1, (moveEach move as).2) := by
  rw [moveEach, ha]

theorem moveEach_append (h : MovesEach move before before') (after : List Alert) :
    moveEach move (before ++ after) =
      (before' ++ (moveEach move after).1, (moveEach move after).2) := by
  induction h with
  | nil => rfl
  | cons ha _ ih => rw [List.cons_append, moveEach_cons_of_ok ha, ih, List.cons_append]

theorem moveEach_eq_none_iff : moveEach move as = (as', none) ↔ MovesEach move as as' := by
  constructor
  · intro h
    induction as generalizing as' with
    | nil =>
      obtain rfl := (Prod.mk.inj h).1
      exact .nil
    | cons a as ih =>
      cases ha : move a with
      | error e =>
        rw [moveEach, ha] at h
        cases h
      | ok b =>
        rw [moveEach_cons_of_ok ha] at h
        obtain ⟨rfl, hnone⟩ := Prod.mk.inj h
        exact .cons ha (ih (Prod.ext rfl hnone))
  · intro h
    have hall := moveEach_append h []
    rw [List.append_nil] at hall
    rw [hall, moveEach, List.append_nil]

/-- The first alert that cannot be moved stops the rest. -/
theorem moveEach_eq_some_iff : moveEach move as = (as', some e) ↔
    ∃ before before' a after, as = before ++ a :: after ∧ as' = before' ++ a :: after ∧
      MovesEach move before before' ∧ move a = .error e := by
  constructor
  · intro h
    induction as generalizing as' with
    | nil => cases h
    | cons a as ih =>
      -- the first alert is the one that stops the rest, or it stands before that
      cases ha : move a with
      | error e' =>
        rw [moveEach, ha] at h
        obtain ⟨rfl, he⟩ := Prod.mk.inj h
        exact ⟨[], [], a, as, rfl, rfl, .nil, Option.some.inj he ▸ ha⟩
      | ok b =>
        rw [moveEach_cons_of_ok ha] at h
        obtain ⟨rfl, hsome⟩ := Prod.mk.inj h
        obtain ⟨before, before', x, after, rfl, hrest, hbefore, hx⟩ := ih (Prod.ext rfl hsome)
        exact ⟨a :: before, b :: before', x, after, rfl, congrArg (b :: ·) hrest,
          .cons ha hbefore, hx⟩
  · rintro ⟨before, before', a, after, rfl, rfl, hbefore, ha⟩
    rw [moveEach_append hbefore, moveEach, ha]

theorem exists_movesEach_iff :
    (∃ as', MovesEach move as as') ↔ ∀ a ∈ as, ∃ a', move a = .ok a' := by
  constructor
  · rintro ⟨as', h⟩
    induction h with
    | nil => exact fun a ha => (by cases ha)
    | cons hmove _ ih => exact List.forall_mem_cons.mpr ⟨⟨_, hmove⟩, ih⟩
  · intro h
    induction as with
    | nil => exact ⟨[], .nil⟩
    | cons a as ih =>
      obtain ⟨⟨a', ha⟩, has⟩ := List.forall_mem_cons.mp h
      obtain ⟨as', hrest⟩ := ih has
      exact ⟨a' :: as', .cons ha hrest⟩

theorem snd_moveEach_eq_some_iff : (moveEach move as).2 = some e ↔
    ∃ before a after, as = before ++ a :: after ∧ (∀ b ∈ before, ∃ b', move b = .ok b') ∧
      move a = .error e := by
  constructor
  · intro h
    obtain ⟨before, before', a, after, has, -, hbefore, ha⟩ :=
      moveEach_eq_some_iff.mp (Prod.ext rfl h)
    exact ⟨before, a, after, has, exists_movesEach_iff.mp ⟨before', hbefore⟩, ha⟩
  · rintro ⟨before, a, after, has, hbefore, ha⟩
    obtain ⟨before', hbefore⟩ := exists_movesEach_iff.mpr hbefore
    rw [moveEach_eq_some_iff.mpr ⟨before, before', a, after, has, rfl, hbefore, ha⟩]

theorem getElem?_moveEach (hbefore : (moveEach move (as.take i)).2 = none)
    (hi : as[i]? = some a) (ha : move a = .ok a') :
    (moveEach move (as.take (i + 1))).2 = none ∧ (moveEach move as).1[i]? = some a' := by
  have hmoved : MovesEach move (as.take i) (moveEach move (as.take i)).1 :=
    moveEach_eq_none_iff.mp (Prod.ext rfl hbefore)
  obtain ⟨hlt, rfl⟩ := List.getElem?_eq_some_iff.mp hi
  have hlength : (moveEach move (as.take i)).1.length = i := by
    rw [← hmoved.length_eq, List.length_take, Nat.min_eq_left (Nat.le_of_lt hlt)]
  have hone : moveEach move [as[i]] = ([a'], none) := by rw [moveEach_cons_of_ok ha, moveEach]
  constructor
  · rw [List.take_succ_eq_append_getElem hlt, moveEach_append hmoved, hone]
  · rw [← List.take_append_drop i as, List.drop_eq_getElem_cons hlt, moveEach_append hmoved,
      moveEach_cons_of_ok ha, List.getElem?_append_right (Nat.le_of_eq hlength),
      hlength, Nat.sub_self, List.getElem?_cons_zero]

end Copydesk.Position
