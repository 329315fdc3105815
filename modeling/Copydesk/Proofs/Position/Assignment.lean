import Copydesk.Proofs.Position.Each
import Copydesk.Proofs.Position.Search

/-! The lines of a value are followed through its source. Each line that is not blank is assigned its
first occurrence behind the one before it, and an alert within the trimmed line stays on the same
characters of that occurrence. -/

namespace Copydesk.Position

open Text

/-- Where a search goes on behind an occurrence. -/
def Cursor.past (hit : Cursor) (needle : Text) : Cursor := ⟨hit.line, hit.column + size needle⟩

/-- Where the search stands after a line and the place that it was assigned, if any. -/
def passed (start : Cursor) (line : Text) (hit : Option Cursor) : Cursor :=
  (hit.map fun h => h.past (trim line)).getD start

/-- Where it stands after several lines. -/
def reached (start : Cursor) (entries : List (Text × Option Cursor)) : Cursor :=
  entries.foldl (fun c e => passed c e.1 e.2) start

namespace Cursor

variable {c d e : Cursor} {needle : Text} {lines : List Text}

theorem le_trans (h : c ≤ d) (h' : d ≤ e) : c ≤ e := by
  rw [le_def] at *
  omega

theorem le_past (c : Cursor) (needle : Text) : c ≤ c.past needle :=
  .inr ⟨rfl, Nat.le_add_right _ _⟩

theorem isBoundaryIn_past (h : Occurs needle lines c) : (c.past needle).IsBoundaryIn lines := by
  obtain ⟨before, rest, hline, hsize⟩ := h
  intro raw hraw
  cases hline.symm.trans hraw
  refine isBoundary_iff.mpr ⟨before ++ needle, rest, List.append_assoc _ _ _, ?_⟩
  rw [size_append, hsize]
  rfl

end Cursor

section Lines

variable {parent line : Text} {lines : List Text} {start hit : Cursor}

theorem assignLines_cons (parent : Text) (start : Cursor) (line : Text) (lines : List Text) :
    assignLines parent start (line :: lines) =
      let hit := findLine? parent (trim line) start
      let rest := assignLines parent (passed start line hit) lines
      (hit :: rest.1, rest.2) := by
  rw [assignLines]
  cases findLine? parent (trim line) start <;> rfl

/-- What a single line is assigned: its first occurrence from the cursor on, or none if it is blank
or does not occur. -/
structure IsAssigned (parent : Text) (start : Cursor) (line : Text) (hit : Option Cursor) :
    Prop where
  first : ∀ h, hit = some h → isBlank line = false ∧
    IsLeast {c | start ≤ c ∧ Occurs (trim line) (splitOn '\n' parent) c} h
  none : hit = none → isBlank line = true ∨
    ∀ c, start ≤ c → ¬Occurs (trim line) (splitOn '\n' parent) c

theorem isAssigned_findLine? (hb : start.IsBoundaryIn (splitOn '\n' parent)) (line : Text) :
    IsAssigned parent start line (findLine? parent (trim line) start) where
  first hit hhit := by
    refine ⟨Bool.eq_false_iff.mpr fun hblank => ?_, isLeast_of_findLine? hb hhit⟩
    rw [trim_of_isBlank hblank] at hhit
    cases hhit
  none hnone := by
    refine (Bool.eq_false_or_eq_true (isBlank line)).imp_right fun hblank c hc hoccurs => ?_
    obtain ⟨hit, hhit, -⟩ := exists_findLine?_eq (trim_ne_nil hblank) hb hoccurs hc
    cases hnone.symm.trans hhit

namespace IsAssigned

variable {hit? : Option Cursor}

theorem le_passed (h : IsAssigned parent start line hit?) : start ≤ passed start line hit? := by
  cases hit? with
  | none => exact .inr ⟨rfl, Nat.le_refl _⟩
  | some hit => exact Cursor.le_trans (h.first hit rfl).2.1.1 (hit.le_past _)

theorem isBoundaryIn_passed (h : IsAssigned parent start line hit?)
    (hb : start.IsBoundaryIn (splitOn '\n' parent)) :
    (passed start line hit?).IsBoundaryIn (splitOn '\n' parent) := by
  cases hit? with
  | none => exact hb
  | some hit => exact Cursor.isBoundaryIn_past (h.first hit rfl).2.1.2

end IsAssigned

/-- Lines that are assigned their places in order, each from where the search stands after those
before it. -/
structure AreAssigned (parent : Text) (start : Cursor) (lines : List Text)
    (found : List (Option Cursor)) (last : Cursor) : Prop where
  length_eq : found.length = lines.length
  each : ∀ (i : Nat) (line : Text) (hit : Option Cursor), lines[i]? = some line →
    found[i]? = some hit → IsAssigned parent (reached start ((lines.zip found).take i)) line hit
  last_eq : last = reached start (lines.zip found)
  start_le : start ≤ last

theorem AreAssigned.cons {found : List (Option Cursor)} {last : Cursor} {hit? : Option Cursor}
    (hline : IsAssigned parent start line hit?)
    (hlines : AreAssigned parent (passed start line hit?) lines found last) :
    AreAssigned parent start (line :: lines) (hit? :: found) last where
  length_eq := congrArg Nat.succ hlines.length_eq
  each i l hit hl hhit := by
    cases i with
    | zero =>
      obtain rfl := Option.some.inj hl
      obtain rfl := Option.some.inj hhit
      exact hline
    | succ i => exact hlines.each i l hit hl hhit
  last_eq := hlines.last_eq
  start_le := Cursor.le_trans hline.le_passed hlines.start_le

theorem areAssigned_assignLines (hb : start.IsBoundaryIn (splitOn '\n' parent))
    (lines : List Text) :
    AreAssigned parent start lines (assignLines parent start lines).1
      (assignLines parent start lines).2 := by
  -- wherever the search stands, as long as that is between characters
  induction lines generalizing start with
  | nil =>
    exact ⟨rfl, fun i l hit hl => (by cases hl), rfl, .inr ⟨rfl, Nat.le_refl _⟩⟩
  | cons line lines ih =>
    have hline := isAssigned_findLine? hb line
    rw [assignLines_cons]
    exact .cons hline (ih (hline.isBoundaryIn_passed hb))

end Lines

section Alerts

variable {a a' : Alert} {value parent file line : Text} {start : Cursor}
  {found : List (Option Cursor)}

/-- The alert stands in the value, on a line of it and clear of the blanks around that line. -/
structure StandsWithin (a : Alert) (value line : Text) : Prop where
  standsIn : a.StandsIn value
  line_eq : (splitOn '\n' value)[a.line - 1]? = some line
  lead_lt : (lead line).length < a.span.start
  le_end : a.span.start + a.matched.length ≤ (lead line).length + (trim line).length + 1

theorem firstLine_append_of_le {m s : Text} (h : m.length ≤ (firstLine (m ++ s)).length) :
    firstLine (m ++ s) = m ++ firstLine s := by
  have hpre : m <+: firstLine (m ++ s) :=
    List.prefix_of_prefix_length_le (List.prefix_append m s) (List.takeWhile_prefix _) h
  have hm (c : Char) (hc : c ∈ m) : (c != '\n') = true :=
    List.mem_takeWhile_imp (p := (· != '\n')) (hpre.subset hc)
  exact List.takeWhile_append_of_pos hm

theorem StandsWithin.exists_append (h : StandsWithin a value line) :
    ∃ y z, y ++ (a.matched ++ z) = trim line ∧
      a.span.start = (lead line).length + y.length + 1 := by
  obtain ⟨p, s, rfl, hline, hspan⟩ := Alert.standsIn_iff.mp h.standsIn
  obtain ⟨hstands, hl, hlead, hend⟩ := h
  obtain ⟨trail, htrim⟩ := trim_append line
  rw [hline, Nat.add_sub_cancel, getElem?_splitOn_append, Option.some.injEq] at hl
  rw [hspan] at hlead hend ⊢
  simp only at hlead hend ⊢
  have hlength := congrArg List.length (hl.trans htrim.symm)
  simp only [List.length_append] at hlength
  rw [firstLine_append_of_le (by omega), ← htrim] at hl
  -- the blanks in front are part of what comes before the match
  obtain ⟨y, hy⟩ : lead line <+: lastLine p :=
    List.prefix_of_prefix_length_le (hl.symm ▸ List.prefix_append _ _) (List.prefix_append _ _)
      (by omega)
  rw [← hy, List.append_assoc, List.append_cancel_left_eq, ← List.append_assoc] at hl
  have hylength := congrArg List.length hy
  simp only [List.length_append] at hylength
  obtain ⟨z, hz⟩ : y ++ a.matched <+: trim line :=
    List.prefix_of_prefix_length_le (hl ▸ List.prefix_append _ _) (List.prefix_append _ _)
      (by rw [List.length_append]; omega)
  exact ⟨y, z, by rw [← List.append_assoc, hz], by omega⟩

/-- The alert goes along with its line: after `y` in the trimmed line, and after `y` in the
occurrence that the line was assigned. -/
structure GoesAlong (value parent : Text) (found : List (Option Cursor)) (a a' : Alert)
    (hit : Cursor) (line before y : Text) : Prop where
  assigned : found[a.line - 1]? = some (some hit)
  valueLine : (splitOn '\n' value)[a.line - 1]? = some line
  parentLine : ∃ rest, (splitOn '\n' parent)[hit.line]? = some (before ++ (trim line ++ rest))
  column : size before = hit.column
  matched : ∃ z, y ++ (a.matched ++ z) = trim line
  span : a.span.start = (lead line).length + y.length + 1
  moved : a' = a.moveTo ⟨hit.line + 1, a.span.beginAt ((before ++ y).length + 1)⟩

/-- What holds of a value that is looked for from a cursor on. -/
structure IsFollowed (value parent : Text) (start : Cursor) (file : Text)
    (found : List (Option Cursor)) : Prop where
  lines : AreAssigned parent start (splitOn '\n' value) found (advance value parent start)
  /-- An alert within a line that was assigned a place is moved with the line, unless one before it
  could not be moved. -/
  alerts : ∀ (as : List Alert) (i : Nat) (a : Alert) (line : Text) (hit : Cursor),
    as[i]? = some a → StandsWithin a value line → found[a.line - 1]? = some (some hit) →
      (remapValue value parent start file (as.take i)).2 = none →
        (remapValue value parent start file (as.take (i + 1))).2 = none ∧
          ∃ a' before y, (remapValue value parent start file as).1[i]? = some a' ∧
            GoesAlong value parent found a a' hit line before y

theorem head_of_not_mem (h : '\n' ∉ a.matched) : a.head = a.matched := takeWhile_ne_newline.mpr h

theorem exists_goesAlong (file : Text) (hb : start.IsBoundaryIn (splitOn '\n' parent))
    (ha : StandsWithin a value line) {hit : Cursor}
    (hhit : (assignLines parent start (splitOn '\n' value)).1[a.line - 1]? = some (some hit)) :
    ∃ a' before y, remapValueOne value parent start file a = .ok a' ∧
      GoesAlong value parent (assignLines parent start (splitOn '\n' value)).1 a a' hit line
        before y := by
  obtain ⟨y, z, hy, hspan⟩ := ha.exists_append
  have hassigned := (areAssigned_assignLines hb (splitOn '\n' value)).each _ _ _ ha.line_eq hhit
  obtain ⟨before, rest, hraw, hbefore⟩ := (hassigned.first hit rfl).2.1.2
  have hline := ha.standsIn.readsIn.1
  have hhead : a.head = a.matched := by
    refine head_of_not_mem fun hm => ?_
    have hmem : '\n' ∈ trim line := hy ▸ List.mem_append_right y (List.mem_append_left z hm)
    obtain ⟨trail, htrim⟩ := trim_append line
    have hmem : '\n' ∈ line := htrim ▸ List.mem_append_right _ (List.mem_append_left trail hmem)
    exact absurd (not_of_mem_splitWhere (List.mem_of_getElem? ha.line_eq) hmem) (by decide)
  have hplace : onAssigned? a (splitOn '\n' parent) (splitOn '\n' value)
      (assignLines parent start (splitOn '\n' value)).1 =
        some (hit.line, (before ++ y).length + 1) := by
    refine onAssigned?_eq_some (q := z ++ rest) (by rw [hhit]; rfl) ha.line_eq hraw hbefore ?_ ?_
    · rw [hhead, ← hy]
      simp only [List.append_assoc]
    · rw [hspan, List.length_append]
      omega
  refine ⟨_, before, y, ?_, hhit, ha.line_eq, ⟨rest, hraw⟩, hbefore, ⟨z, hy⟩, hspan, rfl⟩
  rw [remapValueOne, hplace, if_neg (by omega)]
  rfl

end Alerts

/-- Every value is followed through its source. -/
theorem exists_isFollowed (value parent file : Text) {start : Cursor}
    (hb : start.IsBoundaryIn (splitOn '\n' parent)) :
    ∃ found, IsFollowed value parent start file found := by
  refine ⟨_, areAssigned_assignLines hb (splitOn '\n' value), ?_⟩
  intro as i a line hit hi ha hhit hbefore
  obtain ⟨a', before, y, hmoved, hgoes⟩ := exists_goesAlong file hb ha hhit
  obtain ⟨hnone, ha'⟩ := getElem?_moveEach hbefore hi hmoved
  exact ⟨hnone, a', before, y, ha', hgoes⟩

/-- One of its lines is blank, and one is written in another way in the source. -/
def notedValue : Text := "  Grüße\n\nkurz\n\tgrüße zurück "

def notedSource : Text := "über: \"  Grüße\\n\\n\\u006burz\\n\\tgrüße zurück \"\n"

theorem notedValue_isFollowed :
    Cursor.IsBoundaryIn ⟨0, 2⟩ (splitOn '\n' notedSource) ∧
      ∃ found, IsFollowed notedValue notedSource ⟨0, 2⟩ "a.yml" found := by
  have hb : Cursor.IsBoundaryIn ⟨0, 2⟩ (splitOn '\n' notedSource) := by
    intro raw hraw
    have hline : (splitOn '\n' notedSource)[0]? =
        some "über: \"  Grüße\\n\\n\\u006burz\\n\\tgrüße zurück \"".toList := by decide
    cases hline.symm.trans hraw
    decide
  exact ⟨hb, exists_isFollowed notedValue notedSource "a.yml" hb⟩

end Copydesk.Position
