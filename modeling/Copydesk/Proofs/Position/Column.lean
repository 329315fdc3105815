import Copydesk.Proofs.Position.Each
import Copydesk.Proofs.Position.Search

/-! Columns of alerts that are moved from a value to its source. The blanks in front of a value line
are taken off the column, which may bring it down to zero; the text there is compared with the
beginning of the source line, as it is at column one. -/

namespace Copydesk.Position

open Text

variable {a a' : Alert} {as as' : List Alert} {value parent file head line : Text}
  {parentLines valueLines : List Text} {found : List (Option Cursor)} {start : Cursor}
  {i n column : Nat}

/-- The occurrence of the alert's line comes after `before` in its source line, which goes on with
`rest`. -/
structure IsOn (parentLines valueLines : List Text) (found : List (Option Cursor)) (a : Alert)
    (hit : Cursor) (line before rest : Text) : Prop where
  assigned : found[a.line - 1]? = some (some hit)
  valueLine : valueLines[a.line - 1]? = some line
  parentLine : parentLines[hit.line]? = some (before ++ rest)
  column : size before = hit.column

theorem onAssigned?_eq_some_iff : onAssigned? a parentLines valueLines found = some (n, column) ↔
    ∃ hit line before rest, IsOn parentLines valueLines found a hit line before rest ∧
      hit.line = n ∧ column + (lead line).length = before.length + a.span.start ∧
        standsAt (before ++ rest) a.head column = true := by
  constructor
  · intro h
    simp only [onAssigned?, Option.bind_eq_bind, Option.bind_eq_some_iff,
      length_sub_trimStart] at h
    obtain ⟨hit, hhit, raw, hraw, line, hline, ⟨before, rest⟩, hcut, h⟩ := h
    obtain ⟨rfl, hbefore⟩ := cut?_eq_some_iff.mp hcut
    simp only at h
    split at h
    · cases h
    · split at h
      · rename_i hstands
        obtain ⟨rfl, rfl⟩ := Prod.mk.inj (Option.some.inj h)
        exact ⟨hit, line, before, rest, ⟨Option.join_eq_some_iff.mp hhit, hline, hraw, hbefore⟩,
          rfl, by omega, hstands⟩
      · cases h
  · rintro ⟨hit, line, before, rest, ⟨hhit, hline, hraw, hbefore⟩, rfl, hcolumn, hstands⟩
    have hcut : cut? (before ++ rest) hit.column = some (before, rest) :=
      cut?_eq_some_iff.mpr ⟨rfl, hbefore⟩
    have hstart : before.length + a.span.start - (lead line).length = column := by omega
    simp only [onAssigned?, hhit, hline, hraw, hcut, length_sub_trimStart, Option.bind_eq_bind,
      Option.join_some, Option.bind_some]
    rw [if_neg (by omega), hstart, if_pos hstands]

/-- An alert is moved to its place in the occurrence of its line, else behind that. -/
theorem remapValueOne_eq_ok_iff : remapValueOne value parent start file a = .ok a' ↔
    a.line ≠ 0 ∧ ∃ n column, a' = a.moveTo ⟨n + 1, a.span.beginAt column⟩ ∧
      (onAssigned? a (splitOn '\n' parent) (splitOn '\n' value)
          (assignLines parent start (splitOn '\n' value)).1).or
        (afterAssigned? a parent (splitOn '\n' parent)
          (assignLines parent start (splitOn '\n' value)).1 start) = some (n, column) := by
  unfold remapValueOne
  simp only
  constructor
  · intro h
    split at h
    · rename_i n column hplace
      obtain rfl := Except.ok.inj h
      split at hplace
      · cases hplace
      · rename_i hline
        exact ⟨hline, n, column, rfl, hplace⟩
    · cases h
  · rintro ⟨hline, n, column, rfl, hplace⟩
    rw [if_neg hline, hplace]
    rfl

theorem standsAt_zero (h : standsAt line head 0 = true) : head <+: line := by
  rcases List.eq_nil_or_concat head with rfl | ⟨x, c, rfl⟩
  · exact List.nil_prefix
  · have hdrop := prefix_of_standsAt (by simp) h
    exact hdrop

/-- The blanks taken off its column push the alert off its source line, which begins like it. -/
def IsPushedOff (value parent : Text) (start : Cursor) (a : Alert) : Prop :=
  ∃ hit line before rest, IsOn (splitOn '\n' parent) (splitOn '\n' value)
      (assignLines parent start (splitOn '\n' value)).1 a hit line before rest ∧
    before.length + a.span.start = (lead line).length ∧ a.head <+: before ++ rest

theorem IsPushedOff.onAssigned?_eq (h : IsPushedOff value parent start a) :
    ∃ n, onAssigned? a (splitOn '\n' parent) (splitOn '\n' value)
      (assignLines parent start (splitOn '\n' value)).1 = some (n, 0) := by
  obtain ⟨hit, line, before, rest, hon, hcolumn, r, hr⟩ := h
  have hstands : standsAt (before ++ rest) a.head 0 = true := by
    rw [standsAt, charsAt, ← hr, Nat.zero_sub, List.drop_zero, List.take_left, beq_self_eq_true,
      Bool.or_true]
  refine ⟨hit.line, onAssigned?_eq_some_iff.mpr ⟨hit, line, before, rest, hon, rfl, ?_, hstands⟩⟩
  rw [Nat.zero_add, hcolumn]

/-- A match that begins behind the blanks of its line cannot be pushed off. -/
theorem not_isPushedOff (hline : (splitOn '\n' value)[a.line - 1]? = some line)
    (hlead : (lead line).length < a.span.start) : ¬IsPushedOff value parent start a := by
  rintro ⟨hit, line', before, rest, hon, hcolumn, -⟩
  cases hline.symm.trans hon.valueLine
  omega

/-- An alert is read where it was moved, or it was pushed off the line that it begins. -/
theorem readsIn_of_not_isPushedOff (hh : a.head ≠ [])
    (h : remapValueOne value parent start file a = .ok a') :
    (¬IsPushedOff value parent start a → a'.ReadsIn parent) ∧
      (IsPushedOff value parent start a → a'.span.start = 0 ∧ 1 ≤ a'.line ∧
        ∃ raw, (splitOn '\n' parent)[a'.line - 1]? = some raw ∧ a'.head <+: raw) := by
  obtain ⟨-, n, column, rfl, hplace⟩ := remapValueOne_eq_ok_iff.mp h
  have hn : 1 ≤ n + 1 := Nat.le_add_left 1 n
  constructor
  · intro hpushed
    rcases Option.or_eq_some_iff.mp hplace with hplace | ⟨-, hafter⟩
    · obtain ⟨hit, line, before, rest, hon, rfl, hcolumn, hstands⟩ :=
        onAssigned?_eq_some_iff.mp hplace
      have hcol : 1 ≤ column := by
        -- at column zero the text was compared with the beginning of the line
        refine Nat.one_le_iff_ne_zero.mpr fun hzero => hpushed ?_
        subst hzero
        exact ⟨hit, line, before, rest, hon, by omega, standsAt_zero hstands⟩
      exact ⟨hn, hcol, before ++ rest, hon.parentLine, prefix_of_standsAt hh hstands⟩
    · obtain ⟨hcol, raw, hraw, hread⟩ := prefix_of_afterAssigned? hafter
      exact ⟨hn, hcol, raw, hraw, hread⟩
  · intro hpushed
    obtain ⟨n', hzero⟩ := hpushed.onAssigned?_eq
    rw [hzero, Option.some_or] at hplace
    obtain ⟨rfl, rfl⟩ := Prod.mk.inj (Option.some.inj hplace)
    obtain ⟨hit, line, before, rest, hon, rfl, -, hstands⟩ := onAssigned?_eq_some_iff.mp hzero
    exact ⟨rfl, hn, before ++ rest, hon.parentLine, standsAt_zero hstands⟩

/-- Where all alerts of a value are moved, each is read at its place in the source, but for those
that the blanks in front of their line push to column zero. -/
theorem readsIn_unless_isPushedOff (h : remapValue value parent start file as = (as', none))
    (hi : as[i]? = some a) (hi' : as'[i]? = some a') (hh : a.head ≠ []) :
    (¬IsPushedOff value parent start a → a'.ReadsIn parent) ∧
      (IsPushedOff value parent start a → a'.span.start = 0 ∧ 1 ≤ a'.line ∧
        ∃ raw, (splitOn '\n' parent)[a'.line - 1]? = some raw ∧ a'.head <+: raw) ∧
      ∀ line, (splitOn '\n' value)[a.line - 1]? = some line →
        (lead line).length < a.span.start → ¬IsPushedOff value parent start a := by
  have hmoved := (moveEach_eq_none_iff.mp h).getElem? hi hi'
  obtain ⟨hreads, hpushed⟩ := readsIn_of_not_isPushedOff hh hmoved
  exact ⟨hreads, hpushed, fun line => not_isPushedOff⟩

/-- A value with three blanks in front, on a source line that names it behind one blank. -/
def indentedValue : Text := "   bad"

def indentedSource : Text := "\x7b\n \"bad\": \"   bad\"\n\x7d"

def firstBlank : Alert := ⟨"House.Gap", .warning, "Avoid ' '.", [], [], 1, ⟨1, 1⟩, " "⟩

def indentedWord : Alert := ⟨"House.Bad", .warning, "Avoid 'bad'.", [], [], 1, ⟨4, 6⟩, "bad"⟩

theorem remapValue_indentedValue :
    remapValue indentedValue indentedSource {} "a.json" [firstBlank, indentedWord] =
      ([firstBlank.moveTo ⟨2, ⟨0, 0⟩⟩, indentedWord.moveTo ⟨2, ⟨3, 5⟩⟩], none) := by
  decide

/-- The word is behind the blanks of its line, so it is read where it was moved. -/
theorem indentedWord_readsIn :
    remapValue indentedValue indentedSource {} "a.json" [firstBlank, indentedWord] =
        ([firstBlank.moveTo ⟨2, ⟨0, 0⟩⟩, indentedWord.moveTo ⟨2, ⟨3, 5⟩⟩], none) ∧
      (indentedWord.moveTo ⟨2, ⟨3, 5⟩⟩).ReadsIn indentedSource := by
  obtain ⟨hreads, -, hbehind⟩ := readsIn_unless_isPushedOff (i := 1) (a := indentedWord)
    remapValue_indentedValue rfl rfl (by decide)
  exact ⟨remapValue_indentedValue, hreads (hbehind indentedValue (by decide) (by decide))⟩

/-- The first blank stands in the value, but it is moved to column zero. -/
theorem span_start_firstBlank : firstBlank.StandsIn indentedValue ∧ firstBlank.head ≠ [] ∧
    (remapValue indentedValue indentedSource {} "a.json" [firstBlank]).2 = none ∧
      (remapValue indentedValue indentedSource {} "a.json" [firstBlank]).1.map (·.span.start) =
        [0] := by
  refine ⟨⟨0, 1, by decide, by decide⟩, by decide, by decide, by decide⟩

end Copydesk.Position
