import Copydesk.Position.Anchored
import Copydesk.Position.Value
import Copydesk.Proofs.Outcome
import Copydesk.Proofs.Position.Standing

/-! Alerts moved from a comment or a value to its source. Whichever way the place was found, the
first line of the match is read there. -/

namespace Copydesk.Position

open Text

theorem prefix_of_standsAt {line head : Text} {start : Nat} (hh : head ≠ [])
    (h : standsAt line head start = true) : head <+: line.drop (start - 1) := by
  rw [standsAt, Bool.or_eq_true, List.isEmpty_iff, beq_iff_eq] at h
  have hc := h.resolve_left hh
  rw [charsAt] at hc
  exact hc ▸ List.take_prefix _ _

theorem prefix_of_findChars? {t needle : Text} {start i : Nat}
    (h : findChars? t needle start = some i) : needle <+: t.drop i := by
  unfold findChars? at h
  split at h
  · simp at h
  · obtain ⟨b, hb, rfl⟩ := Option.map_eq_some_iff.mp h
    obtain ⟨p, s, hps, rfl⟩ := exists_append_of_find? hb
    rw [← hps, before_append, ← List.drop_drop, ← hps, List.drop_left]
    exact List.prefix_append needle s

section Anchored

variable {a a' : Alert} {blockLines : List Text} {columns : List Nat} {raw : Text}
  {start pad : Nat}

theorem prefix_of_anchoredPad? (hh : a.head ≠ []) (hs : 1 ≤ a.span.start)
    (h : anchoredPad? a blockLines columns raw start = some pad) :
    a.head <+: raw.drop (a.span.start + pad - 1) := by
  simp only [anchoredPad?, Option.or_eq_some_iff, Option.filter_eq_some_iff] at h
  rcases h with (⟨-, hfit⟩ | ⟨-, -, hfit⟩) | ⟨-, hfound⟩
  · exact prefix_of_standsAt hh hfit
  · exact prefix_of_standsAt hh hfit
  · -- The pad was computed from a place of the match itself.
    obtain ⟨found, hf, hpad⟩ := Option.bind_eq_some_iff.mp hfound
    have hprefix : a.head <+: raw.drop found := by
      rcases Option.or_eq_some_iff.mp hf with hf | ⟨-, hf⟩
      · exact prefix_of_findChars? hf
      · exact prefix_of_findChars? hf
    split at hpad
    · have he : a.span.start + pad - 1 = found := by
        rw [← Option.some.inj hpad]
        omega
      rwa [he]
    · simp at hpad

theorem readsIn_of_remapAnchoredOne {blockText parent file : Text} {anchor : Anchor}
    (hh : a.head ≠ []) (hs : 1 ≤ a.span.start)
    (h : remapAnchoredOne blockText anchor columns parent file a = .ok a') :
    a'.ReadsIn parent := by
  unfold remapAnchoredOne at h
  simp only at h
  split at h
  · rename_i b hb
    rw [← Except.ok.inj h]
    split at hb
    · simp at hb
    · obtain ⟨raw, hraw, hb⟩ := Option.bind_eq_some_iff.mp hb
      obtain ⟨pad, hpad, hb⟩ := Option.bind_eq_some_iff.mp hb
      rw [← Option.some.inj hb]
      refine ⟨?_, ?_, raw, ?_, prefix_of_anchoredPad? hh hs hpad⟩
      · simp only
        omega
      · exact Nat.le_add_right_of_le hs
      · simpa only [Nat.sub_sub] using hraw
  · simp at h

theorem exists_move_of_remapAnchoredOne {blockText parent file : Text} {anchor : Anchor}
    (h : remapAnchoredOne blockText anchor columns parent file a = .ok a') :
    ∃ line pad, a' = a.moveTo ⟨line, a.span.move pad⟩ := by
  unfold remapAnchoredOne at h
  simp only at h
  split at h
  · rename_i b hb
    rw [← Except.ok.inj h]
    split at hb
    · cases hb
    · obtain ⟨raw, -, hb⟩ := Option.bind_eq_some_iff.mp hb
      obtain ⟨pad, -, hb⟩ := Option.bind_eq_some_iff.mp hb
      rw [← Option.some.inj hb]
      exact ⟨_, pad, rfl⟩
  · cases h

theorem exists_moveTo_of_remapAnchoredOne {blockText parent file : Text} {anchor : Anchor}
    (h : remapAnchoredOne blockText anchor columns parent file a = .ok a') :
    ∃ p, a' = a.moveTo p := by
  obtain ⟨line, pad, ha'⟩ := exists_move_of_remapAnchoredOne h
  exact ⟨_, ha'⟩

end Anchored

theorem exists_append_of_findInLines {needle : Text} {start hit : Cursor} {i : Nat}
    {ls : List Text} (h : findInLines needle start i ls = some hit) :
    ∃ k raw, ls[k]? = some raw ∧ hit.line = i + k ∧
      ∃ p s, p ++ (needle ++ s) = raw ∧ size p = hit.column := by
  induction ls generalizing i with
  | nil => simp [findInLines] at h
  | cons l ls ih =>
    unfold findInLines at h
    simp only at h
    split at h
    · rename_i at' hat
      obtain ⟨⟨x, rest⟩, hcut, hfind⟩ := Option.bind_eq_some_iff.mp hat
      obtain ⟨hl, hx⟩ := cut?_eq_some_iff.mp hcut
      obtain ⟨p, s, hps, hp⟩ := exists_append_of_find? hfind
      rw [← Option.some.inj h]
      refine ⟨0, l, rfl, rfl, x ++ p, s, ?_, ?_⟩
      · rw [List.append_assoc, hps, hl]
      · rw [size_append, hx, hp]
    · obtain ⟨k, raw, hraw, hline, hps⟩ := ih h
      exact ⟨k + 1, raw, hraw, by omega, hps⟩

theorem exists_append_of_findLine? {content needle : Text} {start hit : Cursor}
    (h : findLine? content needle start = some hit) :
    ∃ raw, (splitOn '\n' content)[hit.line]? = some raw ∧
      ∃ p s, p ++ (needle ++ s) = raw ∧ size p = hit.column := by
  unfold findLine? at h
  split at h
  · simp at h
  · obtain ⟨k, raw, hraw, hline, hps⟩ := exists_append_of_findInLines h
    rw [List.getElem?_drop, ← hline] at hraw
    exact ⟨raw, hraw, hps⟩

theorem length_takeWhile_le {p : Char → Bool} {c : Char} {l r : Text} {n : Nat}
    (h : c :: r <+: l.drop n) (hc : p c = false) : (l.takeWhile p).length ≤ n := by
  induction l generalizing n with
  | nil => exact Nat.zero_le n
  | cons x l ih =>
    cases n with
    | zero =>
      rw [List.drop_zero, List.cons_prefix_cons] at h
      rw [← h.1, List.takeWhile_cons, hc]
      exact Nat.le_refl 0
    | succ n =>
      rw [List.takeWhile_cons]
      split
      · exact Nat.succ_le_succ (ih h)
      · exact Nat.zero_le _

section Value

variable {a a' : Alert} {value parent file : Text} {start : Cursor} {line column : Nat}

/-- The place on the line's own occurrence; leading blanks cannot push it off the line. -/
theorem prefix_of_onAssigned? {found : List (Option Cursor)} (ha : a.ReadsIn value) {c : Char}
    {r : Text} (hh : a.head = c :: r) (hc : isSpace c = false)
    (h : onAssigned? a (splitOn '\n' parent) (splitOn '\n' value) found = some (line, column)) :
    1 ≤ column ∧ ∃ raw, (splitOn '\n' parent)[line]? = some raw ∧
      a.head <+: raw.drop (column - 1) := by
  obtain ⟨-, hspan, l, hl, hread⟩ := ha
  simp only [onAssigned?, Option.bind_eq_bind, Option.bind_eq_some_iff] at h
  obtain ⟨hit, -, raw, hraw, l', hl', ⟨before, after⟩, -, h⟩ := h
  cases hl.symm.trans hl'
  have hlead : l.length - (trimStart l).length = (l.takeWhile isSpace).length := by
    have hlen := congrArg List.length (List.takeWhile_append_dropWhile (p := isSpace) (l := l))
    rw [List.length_append] at hlen
    rw [trimStart]
    omega
  -- the match begins after the blanks that were dropped before the line was searched for
  have hle := length_takeWhile_le (hh ▸ hread) hc
  rw [hlead] at h
  split at h
  · cases h
  · split at h
    · rename_i hfit
      obtain ⟨rfl, rfl⟩ := Prod.mk.inj (Option.some.inj h)
      exact ⟨by omega, raw, hraw, prefix_of_standsAt (by rw [hh]; simp) hfit⟩
    · cases h

theorem prefix_of_afterAssigned? {found : List (Option Cursor)}
    (h : afterAssigned? a parent (splitOn '\n' parent) found start = some (line, column)) :
    1 ≤ column ∧ ∃ raw, (splitOn '\n' parent)[line]? = some raw ∧
      a.head <+: raw.drop (column - 1) := by
  simp only [afterAssigned?, Option.bind_eq_bind, Option.bind_eq_some_iff, Option.pure_def] at h
  obtain ⟨hit, hhit, raw, hraw, ⟨before, after⟩, hcut, h⟩ := h
  obtain ⟨rfl, rfl⟩ := Prod.mk.inj (Option.some.inj h)
  obtain ⟨raw', hraw', p, s, hps, hp⟩ := exists_append_of_findLine? hhit
  cases hraw.symm.trans hraw'
  obtain ⟨hba, hb⟩ := cut?_eq_some_iff.mp hcut
  obtain ⟨rfl, rfl⟩ := append_inj_of_size (hba.trans hps.symm) (hb.trans hp.symm)
  refine ⟨Nat.le_add_left 1 _, raw, hraw, ?_⟩
  rw [Nat.add_sub_cancel, ← hps, List.drop_left]
  exact List.prefix_append _ _

theorem readsIn_of_remapValueOne (ha : a.ReadsIn value) {c : Char} {r : Text}
    (hh : a.head = c :: r) (hc : isSpace c = false)
    (h : remapValueOne value parent start file a = .ok a') : a'.ReadsIn parent := by
  unfold remapValueOne at h
  simp only at h
  split at h
  · rename_i line column hplace
    rw [← Except.ok.inj h]
    split at hplace
    · cases hplace
    · have hread : 1 ≤ column ∧ ∃ raw, (splitOn '\n' parent)[line]? = some raw ∧
          a.head <+: raw.drop (column - 1) := by
        rcases Option.or_eq_some_iff.mp hplace with hon | ⟨-, hafter⟩
        · exact prefix_of_onAssigned? ha hh hc hon
        · exact prefix_of_afterAssigned? hafter
      obtain ⟨hcol, raw, hraw, hpre⟩ := hread
      exact ⟨Nat.le_add_left 1 line, hcol, raw, hraw, hpre⟩
  · cases h

theorem exists_moveTo_of_remapValueOne (h : remapValueOne value parent start file a = .ok a') :
    ∃ p, a' = a.moveTo p := by
  unfold remapValueOne at h
  simp only at h
  split at h
  · rw [← Except.ok.inj h]
    exact ⟨⟨_, _⟩, rfl⟩
  · cases h

end Value

end Copydesk.Position
