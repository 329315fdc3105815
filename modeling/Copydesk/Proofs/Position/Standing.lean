import Copydesk.Position.Cursor
import Copydesk.Proofs.Text.Line
import Copydesk.Proofs.Text.Offset

/-! Alerts that stand where they say. An alert placed on a slice of a piece stands, once shifted, on
the same slice of the whole text, and its line and column lead to the first line of the match. -/

namespace Copydesk

open Text

theorem locate_append (a m b : Text) :
    locate (a ++ (m ++ b)) (size a) (size a + size m) =
      ⟨a.count '\n' + 1,
        ⟨(lastLine a).length + 1, (lastLine a).length + 1 + (m.length - 1)⟩⟩ := by
  rw [locate, before_append, slice_append, lastLine, List.length_reverse]

namespace Alert

def place (a : Alert) : Place := ⟨a.line, a.span⟩

/-- The alert is placed on a slice of the text, and that is the text it matched. -/
def StandsIn (a : Alert) (t : Text) : Prop :=
  ∃ start stop, slice? t start stop = some a.matched ∧ a.place = locate t start stop

/-- The first line of the match is read at the alert's line and column. -/
def ReadsIn (a : Alert) (t : Text) : Prop :=
  1 ≤ a.line ∧ 1 ≤ a.span.start ∧
    ∃ l, (splitOn '\n' t)[a.line - 1]? = some l ∧ a.head <+: l.drop (a.span.start - 1)

variable {a : Alert} {t u : Text}

/-- The pieces into which a standing alert cuts the text. -/
theorem standsIn_iff : a.StandsIn t ↔
    ∃ p s, p ++ (a.matched ++ s) = t ∧ a.line = p.count '\n' + 1 ∧
      a.span = ⟨(lastLine p).length + 1, (lastLine p).length + 1 + (a.matched.length - 1)⟩ := by
  constructor
  · rintro ⟨i, j, hs, hp⟩
    obtain ⟨p, s, rfl, rfl, rfl⟩ := slice?_eq_some_iff.mp hs
    rw [locate_append, place, Place.mk.injEq] at hp
    exact ⟨p, s, rfl, hp.1, hp.2⟩
  · rintro ⟨p, s, rfl, hl, hs⟩
    refine ⟨size p, size p + size a.matched, slice?_append p _ s, ?_⟩
    rw [locate_append, place, hl, hs]

theorem StandsIn.readsIn (h : a.StandsIn t) : a.ReadsIn t := by
  obtain ⟨p, s, rfl, hl, hs⟩ := standsIn_iff.mp h
  refine ⟨by omega, by rw [hs]; exact Nat.le_add_left 1 _, ?_⟩
  refine ⟨lastLine p ++ firstLine (a.matched ++ s), ?_, ?_⟩
  · rw [hl, Nat.add_sub_cancel, getElem?_splitOn_append]
  · rw [hs, Nat.add_sub_cancel, List.drop_left]
    exact firstLine_prefix_append a.matched s

/-- Shifting by the offset of a piece moves an alert from a range of the piece to the same range of
the text around it. -/
theorem shift_moveTo (a : Alert) {m : Text} {offset i j : Nat}
    (hu : slice? t offset (offset + size u) = some u) (h : slice? u i j = some m) :
    Position.shift t offset (a.moveTo (locate u i j)) =
      a.moveTo (locate t (offset + i) (offset + j)) := by
  obtain ⟨p, s, rfl, rfl, -⟩ := slice?_eq_some_iff.mp hu
  obtain ⟨q, r, rfl, rfl, rfl⟩ := slice?_eq_some_iff.mp h
  have hat : locate (p ++ ((q ++ (m ++ r)) ++ s)) (size p) (size p) =
      ⟨p.count '\n' + 1, ⟨(lastLine p).length + 1, (lastLine p).length + 1⟩⟩ :=
    locate_append p [] _
  have hwhole : locate (p ++ ((q ++ (m ++ r)) ++ s)) (size p + size q) (size p + (size q + size m)) =
      ⟨(p ++ q).count '\n' + 1,
        ⟨(lastLine (p ++ q)).length + 1, (lastLine (p ++ q)).length + 1 + (m.length - 1)⟩⟩ := by
    rw [← locate_append (p ++ q) m (r ++ s), size_append, Nat.add_assoc]
    simp only [List.append_assoc]
  rw [locate_append, hwhole, Position.shift, hat]
  simp only [moveTo, mk.injEq, true_and, and_true, Nat.add_eq_right, List.count_eq_zero,
    List.count_append, lastLine_append]
  refine ⟨by omega, ?_⟩
  -- columns move only on the line that the piece shares with the text before it
  by_cases hq : '\n' ∈ q
  · rw [if_neg (not_not_intro hq), if_pos hq]
  · rw [if_pos hq, if_neg hq, lastLine_of_not_mem hq, Span.move, Span.mk.injEq,
      List.length_append]
    constructor <;> simp only <;> omega

theorem StandsIn.shift (h : a.StandsIn u) {offset : Nat}
    (hu : slice? t offset (offset + size u) = some u) : (Position.shift t offset a).StandsIn t := by
  obtain ⟨i, j, hs, hp⟩ := h
  have ha : a = a.moveTo (locate u i j) := by rw [← hp]; rfl
  have hshift := shift_moveTo a hu hs
  rw [← ha] at hshift
  rw [hshift]
  exact ⟨offset + i, offset + j, slice?_of_slice? hu hs, rfl⟩

end Alert

end Copydesk
