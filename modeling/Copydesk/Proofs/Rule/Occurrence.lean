import Copydesk.Proofs.Regex.Reach
import Copydesk.Proofs.Text.Trim
import Copydesk.Rule.Check
import Mathlib

/-! Limits on how often a token occurs. Too many are reported on the first that is too much, too few
on the opening of the text, unless a line ends before the text begins. -/

namespace Copydesk.Rule.Occurrence

open Regex Text

variable {o : Occurrence} {d : Definition} {r : Regex} {t lead core trail : Text} {i j : Nat}

/-- From the first character that is no blank to the end of its line. Blanks that end the text do not
belong to the line. -/
def IsOpening (t : Text) (i j : Nat) : Prop :=
  ∃ lead line rest, t = lead ++ (line ++ rest) ∧ isBlank lead = true ∧
    (∃ c, line.head? = some c ∧ isSpace c = false) ∧ '\n' ∉ line ∧
      (rest.head? = some '\n' ∨ isBlank rest = true) ∧ i = size lead ∧ j = size (lead ++ line)

theorem IsOpening.lt (h : IsOpening t i j) : i < j := by
  obtain ⟨lead, line, rest, -, -, ⟨c, hc, -⟩, -, -, rfl, rfl⟩ := h
  obtain ⟨more, rfl⟩ := List.head?_eq_some_iff.mp hc
  have hpos : 0 < c.utf8Size := Char.utf8Size_pos c
  rw [size_append, size]
  omega

theorem IsOpening.le_size (h : IsOpening t i j) : j ≤ size t := by
  obtain ⟨lead, line, rest, rfl, -, -, -, -, -, rfl⟩ := h
  rw [← List.append_assoc, size_append (lead ++ line)]
  exact Nat.le_add_right _ _

theorem opening_append (hlead : isBlank lead = true) (hcore : IsTrimmed core)
    (htrail : isBlank trail = true) : opening (lead ++ (core ++ trail)) = (size lead,
      Nat.max ((find? ['\n'] (lead ++ core)).getD (size (lead ++ core))) (size lead)) := by
  have hstart : size (lead ++ core) - size core = size lead := by
    rw [size_append]
    omega
  unfold opening
  rw [trimEnd_append htrail hcore]
  dsimp only
  rw [trimStart_append hlead hcore, hstart]

theorem opening_of_isBlank (h : isBlank t = true) : opening t = (0, 0) := by
  unfold opening
  rw [trimEnd_of_isBlank h]
  rfl

/-- What is left of the text begins after its first line, and nothing is left for the opening. -/
theorem opening_of_mem (h : '\n' ∈ lead) (hlead : isBlank lead = true) (hcore : IsTrimmed core)
    (htrail : isBlank trail = true) : opening (lead ++ (core ++ trail)) = (size lead, size lead) := by
  obtain ⟨x, y, rfl, hx⟩ := List.eq_append_cons_of_mem h
  have hfind : find? ['\n'] ((x ++ '\n' :: y) ++ core) = some (size x) := by
    rw [List.append_assoc]
    exact find?_append_of_not_mem hx (y ++ core)
  have hle : size x ≤ size (x ++ '\n' :: y) := by
    rw [size_append]
    exact Nat.le_add_right _ _
  rw [opening_append hlead hcore htrail, hfind]
  exact congrArg _ (Nat.max_eq_right hle)

theorem exists_isOpening (h : '\n' ∉ lead) (hlead : isBlank lead = true) (hcore : IsTrimmed core)
    (htrail : isBlank trail = true) : ∃ i j, opening (lead ++ (core ++ trail)) = (i, j) ∧
      IsOpening (lead ++ (core ++ trail)) i j := by
  rw [opening_append hlead hcore htrail]
  -- the opening ends at the first newline of the core or at its end
  by_cases hcut : '\n' ∈ core
  · obtain ⟨line, rest, rfl, hline⟩ := List.eq_append_cons_of_mem hcut
    have hnone : '\n' ∉ lead ++ line := fun hmem => (List.mem_append.mp hmem).elim h hline
    have hfind : find? ['\n'] (lead ++ (line ++ '\n' :: rest)) = some (size (lead ++ line)) := by
      rw [← List.append_assoc]
      exact find?_append_of_not_mem hnone rest
    have hle : size lead ≤ size (lead ++ line) := by
      rw [size_append]
      exact Nat.le_add_right _ _
    refine ⟨_, _, rfl, lead, line, '\n' :: rest ++ trail, ?_, hlead, ?_, hline, .inl rfl, rfl, ?_⟩
    · rw [List.append_assoc]
    · obtain ⟨c, hc, hspace⟩ := hcore.head
      cases line with
      | nil =>
        obtain rfl : '\n' = c := Option.some.inj hc
        exact absurd hspace (by decide)
      | cons e line => exact ⟨c, hc, hspace⟩
    · rw [hfind]
      exact Nat.max_eq_left hle
  · have hnone : find? ['\n'] (lead ++ core) = none := by
      rw [Option.eq_none_iff_forall_ne_some]
      intro n hn
      obtain ⟨x, y, hxy, -⟩ := exists_append_of_find? hn
      have hmem : '\n' ∈ lead ++ core := hxy ▸ by simp
      exact (List.mem_append.mp hmem).elim h hcut
    have hle : size lead ≤ size (lead ++ core) := by
      rw [size_append]
      exact Nat.le_add_right _ _
    refine ⟨_, _, rfl, lead, core, trail, rfl, hlead, hcore.head, hcut, .inr htrail, rfl, ?_⟩
    rw [hnone]
    exact Nat.max_eq_left hle

def counted (r : Regex) (t : Text) : List Match := (r.findAll t).filter (!·.isEmpty)

def Exceeds (o : Occurrence) (n : Nat) : Prop := ∃ max ∈ o.max, max < n

def FallsShort (o : Occurrence) (n : Nat) : Prop := ∃ min ∈ o.min, n < min

theorem run_of_exceeds {max : Nat} (hmax : max ∈ o.max) (h : max < (counted r t).length) :
    o.run d r t = [d.alert t ((counted r t)[max]).start ((counted r t)[max]).stop
      [Text.ofNat (counted r t).length]] := by
  have hexcess : (o.max.bind fun n => (counted r t)[n]?) = some (counted r t)[max] := by
    rw [Option.mem_def.mp hmax, Option.bind_some, List.getElem?_eq_getElem h]
  unfold run
  rw [← counted]
  dsimp only
  rw [hexcess]

theorem run_of_not_exceeds (h : ¬o.Exceeds (counted r t).length) : o.run d r t =
    if o.min.any ((counted r t).length < ·) && (opening t).1 < (opening t).2 then
      [d.alert t (opening t).1 (opening t).2 [Text.ofNat (counted r t).length]] else [] := by
  have hnone : (o.max.bind fun n => (counted r t)[n]?) = none := by
    rw [Option.bind_eq_none_iff]
    intro max hmax
    exact List.getElem?_eq_none (Nat.le_of_not_lt fun hlt => h ⟨max, hmax, hlt⟩)
  unfold run
  rw [← counted]
  dsimp only
  rw [hnone]

theorem any_min_iff {n : Nat} : o.min.any (n < ·) = true ↔ o.FallsShort n := by
  simp only [FallsShort, Option.any_eq_true, Option.mem_def, decide_eq_true_eq]

/-- What a rule reports of the number of matches in a text. -/
structure KeepsLimits (o : Occurrence) (d : Definition) (r : Regex) (t : Text) : Prop where
  excess : ∀ max ∈ o.max, max < (counted r t).length → ∃ m, (counted r t)[max]? = some m ∧
    m.start < m.stop ∧ o.run d r t = [d.alert t m.start m.stop [Text.ofNat (counted r t).length]]
  short : ¬o.Exceeds (counted r t).length → o.FallsShort (counted r t).length →
    isBlank t = false → '\n' ∉ t.takeWhile isSpace → ∃ i j, IsOpening t i j ∧ i < j ∧ j ≤ size t ∧
      o.run d r t = [d.alert t i j [Text.ofNat (counted r t).length]]
  /-- A text without an opening on its first line is passed over, however few there are. -/
  lost : ¬o.Exceeds (counted r t).length → isBlank t = true ∨ '\n' ∈ t.takeWhile isSpace →
    o.run d r t = []
  within : ¬o.Exceeds (counted r t).length → ¬o.FallsShort (counted r t).length → o.run d r t = []

theorem keepsLimits (o : Occurrence) (d : Definition) (r : Regex) (t : Text) :
    o.KeepsLimits d r t := by
  obtain ⟨trail, htrail, ht⟩ := exists_eq_trim t
  have hlead : isBlank (t.takeWhile isSpace) = true :=
    List.all_eq_true.mpr fun c hc => List.mem_takeWhile_imp hc
  constructor
  case excess =>
    intro max hmax h
    have hmem : (counted r t)[max] ∈ counted r t := List.getElem_mem h
    obtain ⟨hfound, hempty⟩ := List.mem_filter.mp hmem
    refine ⟨_, List.getElem?_eq_getElem h, ?_, run_of_exceeds hmax h⟩
    have hle := start_le_stop_of_mem_findAll hfound
    have hne : (counted r t)[max].start ≠ (counted r t)[max].stop := by
      simpa [Match.isEmpty] using hempty
    omega
  case short =>
    intro hexcess hshort hblank hline
    have hcore : IsTrimmed (trim t) := isTrimmed_trim (trim_ne_nil hblank)
    obtain ⟨i, j, hopening, hij⟩ := exists_isOpening hline hlead hcore htrail
    rw [← ht] at hopening hij
    refine ⟨i, j, hij, hij.lt, hij.le_size, ?_⟩
    rw [run_of_not_exceeds hexcess, any_min_iff.mpr hshort, hopening, decide_eq_true hij.lt]
    rfl
  case lost =>
    intro hexcess hlost
    -- there is no opening in a blank text nor behind a blank first line
    have hopening : ¬(opening t).1 < (opening t).2 := by
      cases hblank : isBlank t with
      | true =>
        rw [opening_of_isBlank hblank]
        exact Nat.lt_irrefl 0
      | false =>
        have hline : '\n' ∈ t.takeWhile isSpace :=
          hlost.resolve_left fun h => Bool.false_ne_true (hblank.symm.trans h)
        have hcore : IsTrimmed (trim t) := isTrimmed_trim (trim_ne_nil hblank)
        have hopen := opening_of_mem hline hlead hcore htrail
        rw [← ht] at hopen
        rw [hopen]
        exact Nat.lt_irrefl _
    rw [run_of_not_exceeds hexcess, decide_eq_false hopening, Bool.and_false]
    rfl
  case within =>
    intro hexcess hshort
    rw [run_of_not_exceeds hexcess, Bool.eq_false_iff.mpr (mt any_min_iff.mp hshort)]
    rfl

def oneExample : Occurrence where
  token := "example"
  min := some 1

def exampleRule : Definition where
  name := "Test.Rule"
  checkType := "occurrence"
  level := .warning
  scope := ⟨[.ofText "text"]⟩
  message := "Found %s."
  kind := .occurrence oneExample

/-- There is none, and nothing is said about it where the text begins on its second line. -/
theorem run_secondLine :
    let found (t : Text) : Option (List Alert) :=
      (exampleRule.regex oneExample.token oneExample.ignoreCase).toOption.map fun r =>
        oneExample.run exampleRule r t
    found "foo" = some [exampleRule.alert "foo" 0 3 ["0"]] ∧ isBlank "\nfoo" = false ∧
      found "\nfoo" = some [] := by
  decide +kernel

end Copydesk.Rule.Occurrence
