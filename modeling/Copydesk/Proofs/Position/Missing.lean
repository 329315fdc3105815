import Copydesk.Proofs.Position.Each
import Copydesk.Proofs.Position.Search
import Mathlib.Data.List.Infix
import Mathlib.Order.Bounds.Basic

/-! Alerts of a comment that cannot be moved to their source. Either the match is not on its source
line, or the first place where it is found there lies further left than in the comment: columns only
move to the right. -/

namespace Copydesk.Position

open Text

section Characters

variable {t needle p q : Text} {start i k : Nat}

theorem length_le_of_size_le (hp : p <+: t) (hq : q <+: t) (h : size p ≤ size q) :
    p.length ≤ q.length := by
  rcases List.prefix_or_prefix_of_prefix hp hq with hpq | ⟨r, rfl⟩
  · exact hpq.length_le
  · rw [size_append] at h
    have hr : r = [] := size_eq_zero (by omega)
    rw [hr, List.append_nil]

theorem exists_append_of_prefix_drop (hi : start ≤ i) (h : needle <+: t.drop i) :
    ∃ x y, x ++ (needle ++ y) = t.drop start ∧ start + x.length ≤ i := by
  obtain ⟨j, rfl⟩ := Nat.exists_eq_add_of_le hi
  obtain ⟨y, hy⟩ := h
  rw [← List.drop_drop] at hy
  refine ⟨(t.drop start).take j, y, by rw [hy, List.take_append_drop], ?_⟩
  exact Nat.add_le_add_left (List.length_take_le j _) start

theorem isLeast_of_findChars? (hn : needle ≠ []) (h : findChars? t needle start = some k) :
    IsLeast {i | start ≤ i ∧ needle <+: t.drop i} k := by
  rw [findChars?, if_neg (by simpa using hn)] at h
  obtain ⟨b, hb, rfl⟩ := Option.map_eq_some_iff.mp h
  obtain ⟨p, s, hps, rfl⟩ := exists_append_of_find? hb
  have hbefore : before (t.drop start) (size p) = p := by rw [← hps, before_append]
  rw [hbefore]
  refine ⟨⟨Nat.le_add_right _ _, ?_⟩, ?_⟩
  · rw [← List.drop_drop, ← hps, List.drop_left]
    exact List.prefix_append needle s
  · rintro i ⟨hi, hprefix⟩
    obtain ⟨x, y, hcut, hx⟩ := exists_append_of_prefix_drop hi hprefix
    obtain ⟨n, hfind, hle⟩ := exists_find?_eq hcut
    obtain rfl := Option.some.inj (hb.symm.trans hfind)
    have hlength := length_le_of_size_le (hps ▸ List.prefix_append p _)
      (hcut ▸ List.prefix_append x _) hle
    omega

theorem exists_findChars?_eq (hn : needle ≠ []) (hi : start ≤ i) (h : needle <+: t.drop i) :
    ∃ k, findChars? t needle start = some k := by
  obtain ⟨x, y, hcut, -⟩ := exists_append_of_prefix_drop hi h
  obtain ⟨n, hfind, -⟩ := exists_find?_eq hcut
  simp only [findChars?, if_neg (show ¬needle.isEmpty = true by simpa using hn), hfind]
  exact ⟨_, rfl⟩

theorem findChars?_eq_some_iff (hn : needle ≠ []) : findChars? t needle start = some k ↔
    IsLeast {i | start ≤ i ∧ needle <+: t.drop i} k := by
  refine ⟨isLeast_of_findChars? hn, fun h => ?_⟩
  obtain ⟨k', hk'⟩ := exists_findChars?_eq hn h.1.1 h.1.2
  rw [hk', IsLeast.unique (isLeast_of_findChars? hn hk') h]

theorem findChars?_eq_none_iff (hn : needle ≠ []) : findChars? t needle start = none ↔
    ∀ i, start ≤ i → ¬needle <+: t.drop i := by
  constructor
  · intro h i hi hprefix
    obtain ⟨k, hk⟩ := exists_findChars?_eq hn hi hprefix
    cases h.symm.trans hk
  · intro h
    refine Option.eq_none_iff_forall_ne_some.mpr fun k hk => ?_
    obtain ⟨hstart, hprefix⟩ := (isLeast_of_findChars? hn hk).1
    exact h k hstart hprefix

theorem infix_iff_exists_drop : needle <:+: t ↔ ∃ i, needle <+: t.drop i := by
  constructor
  · rintro ⟨a, b, rfl⟩
    exact ⟨a.length, b, by rw [List.append_assoc, List.drop_left]⟩
  · rintro ⟨i, h⟩
    exact h.isInfix.trans (List.drop_suffix i t).isInfix

theorem standsAt_iff (hn : needle ≠ []) : standsAt t needle k = true ↔ needle <+: t.drop (k - 1) := by
  refine ⟨prefix_of_standsAt hn, fun h => ?_⟩
  rw [standsAt, charsAt, ← List.prefix_iff_eq_take.mp h, beq_self_eq_true, Bool.or_true]

end Characters

variable {a a' : Alert} {as : List Alert} {blockText parent file raw head : Text} {anchor : Anchor}
  {columns : List Nat} {blockLines : List Text} {start k : Nat} {e : LintError}

/-- The line of the source that an alert belongs on. -/
def targetLine? (parent : Text) (anchor : Anchor) (a : Alert) : Option Text :=
  (splitOn '\n' parent)[anchor.line + a.line - 2]?

/-- The source has no such line, or the match is nowhere on it. -/
def IsAbsent (parent : Text) (anchor : Anchor) (a : Alert) : Prop :=
  ∀ raw, targetLine? parent anchor a = some raw → ¬a.head <:+: raw

/-- The source line reads like the match once the alert is moved by a column. -/
def FitsAt (raw : Text) (a : Alert) (pad : Nat) : Prop :=
  a.head <+: raw.drop (a.span.start + pad - 1)

/-- The first place from a character on, or the first at all where there is none. -/
def IsFirstPlace (raw head : Text) (start k : Nat) : Prop :=
  IsLeast {i | start ≤ i ∧ head <+: raw.drop i} k ∨
    (∀ i, start ≤ i → ¬head <+: raw.drop i) ∧ IsLeast {i | head <+: raw.drop i} k

/-- No column moves the alert to its match: not the known one, not the one where its block line is
found, and the match itself is first found to the left of the alert's column. -/
structure IsLeftOf (blockLines : List Text) (columns : List Nat) (a : Alert) (raw : Text)
    (start k : Nat) : Prop where
  column : ∀ pad, columns[a.line - 1]? = some pad → ¬FitsAt raw a pad
  blockLine : ∀ l pad, (blockLines[a.line - 1]?).map (dropEndWhile (· == '\r')) = some l →
    isBlank l = false → IsLeast {i | start ≤ i ∧ l <+: raw.drop i} pad → ¬FitsAt raw a pad
  first : IsFirstPlace raw a.head start k
  lt : k + 1 < a.span.start

/-- Why an alert cannot be moved. -/
inductive IsLost (blockText : Text) (anchor : Anchor) (columns : List Nat) (parent : Text)
    (a : Alert) : Prop
  | absent (h : IsAbsent parent anchor a)
  | leftOf (raw : Text) (k : Nat) (hraw : targetLine? parent anchor a = some raw)
      (h : IsLeftOf (splitOn '\n' blockText) columns a raw
        (if a.line = 1 then anchor.column else 0) k)

theorem or_findChars?_eq_some_iff (hn : head ≠ []) :
    (findChars? raw head start).or (findChars? raw head 0) = some k ↔
      IsFirstPlace raw head start k := by
  rw [Option.or_eq_some_iff, findChars?_eq_some_iff hn, findChars?_eq_some_iff hn,
    findChars?_eq_none_iff hn]
  simp only [IsFirstPlace, Nat.zero_le, true_and]

theorem or_findChars?_eq_none_iff (hn : head ≠ []) :
    (findChars? raw head start).or (findChars? raw head 0) = none ↔ ¬head <:+: raw := by
  rw [Option.or_eq_none_iff, findChars?_eq_none_iff hn, findChars?_eq_none_iff hn,
    infix_iff_exists_drop, not_exists]
  exact ⟨fun h i => h.2 i (Nat.zero_le i), fun h => ⟨fun i _ => h i, fun i _ => h i⟩⟩

theorem FitsAt.isInfix {pad : Nat} (h : FitsAt raw a pad) : a.head <:+: raw :=
  infix_iff_exists_drop.mpr ⟨_, h⟩

theorem ne_nil_of_isBlank {l : Text} (h : isBlank l = false) : l ≠ [] := by
  rintro rfl
  cases h

theorem anchoredPad?_eq_none_iff (hh : a.head ≠ []) :
    anchoredPad? a blockLines columns raw start = none ↔
      ¬a.head <:+: raw ∨ ∃ k, IsLeftOf blockLines columns a raw start k := by
  have hfits (pad : Nat) : standsAt raw a.head (a.span.start + pad) = true ↔ FitsAt raw a pad :=
    standsAt_iff hh
  simp only [anchoredPad?, Option.or_eq_none_iff, Option.filter_eq_none_iff, hfits,
    Option.bind_eq_some_iff, Option.filter_eq_some_iff, Bool.not_eq_true']
  constructor
  · rintro ⟨⟨hcolumn, hline⟩, hfound⟩
    -- no column fits that was not taken from the match, so its first place decides
    cases hk : (findChars? raw a.head start).or (findChars? raw a.head 0) with
    | none => exact .inl ((or_findChars?_eq_none_iff hh).mp hk)
    | some k =>
      rw [hk, Option.bind_eq_bind, Option.bind_some] at hfound
      refine .inr ⟨k, hcolumn, fun l pad hl hblank hpad => ?_, (or_findChars?_eq_some_iff hh).mp hk,
        Nat.lt_of_not_le fun hle => ?_⟩
      · have hfind := (findChars?_eq_some_iff (ne_nil_of_isBlank hblank)).mpr hpad
        exact hline pad ⟨l, ⟨hl, hblank⟩, hfind⟩
      · rw [if_pos hle] at hfound
        cases hfound
  · rintro (habsent | ⟨k, hleft⟩)
    · refine ⟨⟨fun pad _ hfit => habsent hfit.isInfix, fun pad _ hfit => habsent hfit.isInfix⟩, ?_⟩
      rw [(or_findChars?_eq_none_iff hh).mpr habsent]
      rfl
    · refine ⟨⟨hleft.column, ?_⟩, ?_⟩
      · rintro pad ⟨l, ⟨hl, hblank⟩, hfind⟩
        have hpad := (findChars?_eq_some_iff (ne_nil_of_isBlank hblank)).mp hfind
        exact hleft.blockLine l pad hl hblank hpad
      · rw [(or_findChars?_eq_some_iff hh).mpr hleft.first, Option.bind_eq_bind, Option.bind_some,
          if_neg (Nat.not_le_of_lt hleft.lt)]

theorem remapAnchoredOne_eq_error_iff (hanchor : 1 ≤ anchor.line) (hline : 1 ≤ a.line)
    (hh : a.head ≠ []) : remapAnchoredOne blockText anchor columns parent file a = .error e ↔
      e = .notFound file a.matched ∧ IsLost blockText anchor columns parent a := by
  have hlines : ¬anchor.line + a.line < 2 := by omega
  unfold remapAnchoredOne
  simp only [hlines, if_false]
  cases hraw : (splitOn '\n' parent)[anchor.line + a.line - 2]? with
  | none =>
    have hlost : IsLost blockText anchor columns parent a :=
      .absent fun raw h => by cases hraw.symm.trans h
    exact ⟨fun h => ⟨(Except.error.inj h).symm, hlost⟩, fun h => congrArg Except.error h.1.symm⟩
  | some raw =>
    cases hpad : anchoredPad? a (splitOn '\n' blockText) columns raw
        (if a.line = 1 then anchor.column else 0) with
    | none =>
      have hlost : IsLost blockText anchor columns parent a := by
        rcases (anchoredPad?_eq_none_iff hh).mp hpad with habsent | ⟨k, hleft⟩
        · refine .absent fun raw' h => ?_
          cases hraw.symm.trans h
          exact habsent
        · exact .leftOf raw k hraw hleft
      simp only [Option.bind_eq_bind, Option.bind_some, Option.bind_none, hpad]
      exact ⟨fun h => ⟨(Except.error.inj h).symm, hlost⟩, fun h => congrArg Except.error h.1.symm⟩
    | some pad =>
      simp only [Option.bind_eq_bind, Option.bind_some, hpad]
      constructor
      · intro h
        cases h
      · rintro ⟨-, hlost⟩
        refine absurd ((anchoredPad?_eq_none_iff hh).mpr ?_) (hpad ▸ Option.some_ne_none pad)
        cases hlost with
        | absent h => exact .inl (h raw hraw)
        | leftOf raw' k hraw' h =>
          cases hraw.symm.trans hraw'
          exact .inr ⟨k, h⟩

theorem exists_remapAnchoredOne_eq_ok_iff (hanchor : 1 ≤ anchor.line) (hline : 1 ≤ a.line)
    (hh : a.head ≠ []) :
    (∃ a', remapAnchoredOne blockText anchor columns parent file a = .ok a') ↔
      ¬IsLost blockText anchor columns parent a := by
  constructor
  · rintro ⟨a', ha'⟩ hlost
    have herror : remapAnchoredOne blockText anchor columns parent file a = .error _ :=
      (remapAnchoredOne_eq_error_iff hanchor hline hh).mpr ⟨rfl, hlost⟩
    cases ha'.symm.trans herror
  · intro hlost
    cases h : remapAnchoredOne blockText anchor columns parent file a with
    | ok a' => exact ⟨a', rfl⟩
    | error e => exact absurd ((remapAnchoredOne_eq_error_iff hanchor hline hh).mp h).2 hlost

/-- Alerts on a comment cannot all be moved exactly when one of them is lost, and then the first of
those is reported. Where no match stands on its source line to the left of the alert's column, that
one's match is not there at all. -/
theorem notFound_iff_isLost (hanchor : 1 ≤ anchor.line)
    (has : ∀ a ∈ as, a.StandsIn blockText ∧ a.head ≠ []) :
    ((remapAnchored blockText anchor columns parent file as).2 = some e ↔
      ∃ before a after, as = before ++ a :: after ∧ e = .notFound file a.matched ∧
        IsLost blockText anchor columns parent a ∧
          ∀ b ∈ before, ¬IsLost blockText anchor columns parent b) ∧
      ((∀ a ∈ as, ∀ raw i, targetLine? parent anchor a = some raw → a.head <+: raw.drop i →
          a.span.start ≤ i + 1) →
        (remapAnchored blockText anchor columns parent file as).2 = some e →
          ∃ a ∈ as, e = .notFound file a.matched ∧ IsAbsent parent anchor a) := by
  have hfails : (remapAnchored blockText anchor columns parent file as).2 = some e ↔
      ∃ before a after, as = before ++ a :: after ∧ e = .notFound file a.matched ∧
        IsLost blockText anchor columns parent a ∧
          ∀ b ∈ before, ¬IsLost blockText anchor columns parent b := by
    rw [remapAnchored, snd_moveEach_eq_some_iff]
    constructor
    · rintro ⟨before, a, after, rfl, hbefore, ha⟩
      obtain ⟨hstands, hh⟩ := has a (by simp)
      obtain ⟨he, hlost⟩ :=
        (remapAnchoredOne_eq_error_iff hanchor hstands.readsIn.1 hh).mp ha
      refine ⟨before, a, after, rfl, he, hlost, fun b hb => ?_⟩
      obtain ⟨hstands', hh'⟩ := has b (List.mem_append_left _ hb)
      exact (exists_remapAnchoredOne_eq_ok_iff hanchor hstands'.readsIn.1 hh').mp (hbefore b hb)
    · rintro ⟨before, a, after, rfl, he, hlost, hbefore⟩
      obtain ⟨hstands, hh⟩ := has a (by simp)
      refine ⟨before, a, after, rfl, fun b hb => ?_,
        (remapAnchoredOne_eq_error_iff hanchor hstands.readsIn.1 hh).mpr ⟨he, hlost⟩⟩
      obtain ⟨hstands', hh'⟩ := has b (List.mem_append_left _ hb)
      exact (exists_remapAnchoredOne_eq_ok_iff hanchor hstands'.readsIn.1 hh').mpr (hbefore b hb)
  refine ⟨hfails, fun hright herror => ?_⟩
  obtain ⟨before, a, after, rfl, he, hlost, -⟩ := hfails.mp herror
  refine ⟨a, by simp, he, ?_⟩
  cases hlost with
  | absent h => exact h
  | leftOf raw k hraw h =>
    have hk : a.head <+: raw.drop k := by
      rcases h.first with hfirst | ⟨-, hfirst⟩
      · exact hfirst.1.2
      · exact hfirst.1
    exact absurd (hright a (by simp) raw k hraw hk) (Nat.not_le_of_lt h.lt)

/-- A comment whose second line had a mark within it, which is stripped like the others. -/
def markedSource : Text := "/*\nbad // bad\n*/\n"

def strippedBlock : Text := "\nbad  bad\n"

def firstBad : Alert := ⟨"House.Bad", .warning, "Avoid 'bad'.", [], [], 2, ⟨1, 3⟩, "bad"⟩

def secondBad : Alert := ⟨"House.Bad", .warning, "Avoid 'bad'.", [], [], 2, ⟨6, 8⟩, "bad"⟩

theorem standsIn_strippedBlock :
    ∀ a ∈ [firstBad, secondBad], a.StandsIn strippedBlock ∧ a.head ≠ [] := by
  have hfirst : firstBad.StandsIn strippedBlock := ⟨1, 4, by decide, by decide⟩
  have hsecond : secondBad.StandsIn strippedBlock := ⟨6, 9, by decide, by decide⟩
  intro a ha
  rcases List.mem_pair.mp ha with rfl | rfl
  · exact ⟨hfirst, by decide⟩
  · exact ⟨hsecond, by decide⟩

theorem remapAnchored_strippedBlock :
    (remapAnchored strippedBlock ⟨1, 0⟩ [] markedSource "a.c" [firstBad, secondBad]).2 =
      some (.notFound "a.c" "bad") := by
  decide

/-- One of the two alerts is lost. -/
theorem isLost_strippedBlock :
    (∀ a ∈ [firstBad, secondBad], a.StandsIn strippedBlock ∧ a.head ≠ []) ∧
      ∃ a ∈ [firstBad, secondBad], IsLost strippedBlock ⟨1, 0⟩ [] markedSource a := by
  obtain ⟨before, a, after, has, -, hlost, -⟩ :=
    (notFound_iff_isLost (Nat.le_refl 1) standsIn_strippedBlock).1.mp remapAnchored_strippedBlock
  exact ⟨standsIn_strippedBlock, a, by simp [has], hlost⟩

/-- The second alert is to be moved to the right, but its match is first found at the beginning of
the line: the alerts fail although both matches are where they belong. -/
theorem remapAnchored_present :
    (∀ a ∈ [firstBad, secondBad], a.StandsIn strippedBlock ∧ a.head ≠ []) ∧
      (∀ a ∈ [firstBad, secondBad], ¬IsAbsent markedSource ⟨1, 0⟩ a) ∧
        (remapAnchored strippedBlock ⟨1, 0⟩ [] markedSource "a.c" [firstBad, secondBad]).2 =
          some (.notFound "a.c" "bad") := by
  have hline (a : Alert) (ha : a ∈ [firstBad, secondBad]) :
      targetLine? markedSource ⟨1, 0⟩ a = some "bad // bad" ∧ a.head = "bad" := by
    rcases List.mem_pair.mp ha with rfl | rfl <;> decide
  refine ⟨standsIn_strippedBlock, fun a ha habsent => ?_, remapAnchored_strippedBlock⟩
  obtain ⟨hraw, hhead⟩ := hline a ha
  exact habsent _ hraw (hhead ▸ contains_iff.mp (by decide))

end Copydesk.Position
