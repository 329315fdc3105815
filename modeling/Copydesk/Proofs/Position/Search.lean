import Copydesk.Proofs.Position.Remap
import Copydesk.Proofs.Text.Split
import Copydesk.Proofs.Text.Trim
import Mathlib.Order.Bounds.Defs

/-! Searches by lines find the first occurrence, and alerts on a value of one line stand on the one
that its line was assigned. -/

namespace Copydesk.Position

open Text

/-- The needle stands at the place in one of the lines. -/
def Occurs (needle : Text) (lines : List Text) (c : Cursor) : Prop :=
  ∃ before rest, lines[c.line]? = some (before ++ (needle ++ rest)) ∧ size before = c.column

namespace Cursor

/-- By lines, then by columns. -/
instance : LE Cursor where
  le c d := c.line < d.line ∨ (c.line = d.line ∧ c.column ≤ d.column)

theorem le_def {c d : Cursor} : c ≤ d ↔ c.line < d.line ∨ (c.line = d.line ∧ c.column ≤ d.column) :=
  Iff.rfl

theorem zero_le (c : Cursor) : ({} : Cursor) ≤ c := by
  rcases Nat.eq_zero_or_pos c.line with h | h
  · exact .inr ⟨h.symm, Nat.zero_le _⟩
  · exact .inl h

/-- The place lies between characters of its line. -/
def IsBoundaryIn (c : Cursor) (lines : List Text) : Prop :=
  ∀ raw, lines[c.line]? = some raw → isBoundary raw c.column = true

end Cursor

section Search

variable {needle content : Text} {start hit : Cursor}

theorem exists_find?_of_cut? {raw x y : Text} {column : Nat} (hb : isBoundary raw column = true)
    (hxy : x ++ (needle ++ y) = raw) (hx : column ≤ size x) :
    ∃ n, (cut? raw column).bind (fun r => find? needle r.2) = some n ∧ column + n ≤ size x := by
  obtain ⟨m, hm⟩ := exists_slice? hb (isBoundary_iff.mpr ⟨x, _, hxy, rfl⟩) hx
  obtain ⟨a, b, hab, rfl, hsize⟩ := slice?_eq_some_iff.mp hm
  rw [← List.append_assoc] at hab
  obtain ⟨rfl, rfl⟩ := append_inj_of_size (hab.trans hxy.symm) (by rw [size_append, hsize])
  obtain ⟨n, hn, hle⟩ := @exists_find?_eq needle m y _ rfl
  rw [List.append_assoc] at hab
  refine ⟨n, by rw [← hab, cut?_append]; exact hn, ?_⟩
  rw [size_append]
  omega

theorem exists_findInLines_eq {i k : Nat} {ls : List Text} {raw x y : Text} (hi : start.line ≤ i)
    (hb : ∀ l ∈ ls.head?, i = start.line → isBoundary l start.column = true)
    (hraw : ls[k]? = some raw) (hxy : x ++ (needle ++ y) = raw)
    (hstart : start ≤ ⟨i + k, size x⟩) :
    ∃ hit, findInLines needle start i ls = some hit ∧ hit ≤ ⟨i + k, size x⟩ := by
  induction ls generalizing i k with
  | nil => cases hraw
  | cons l ls ih =>
    rw [findInLines]
    simp only
    cases k with
    | zero =>
      obtain rfl := Option.some.inj hraw
      have hcolumn : (if i = start.line then start.column else 0) ≤ size x ∧
          isBoundary l (if i = start.line then start.column else 0) = true := by
        split
        · rename_i h
          refine ⟨?_, hb l rfl h⟩
          rcases Cursor.le_def.mp hstart with hlt | ⟨-, hle⟩
          · exact absurd hlt (by simp [h])
          · exact hle
        · exact ⟨Nat.zero_le _, isBoundary_iff.mpr ⟨[], l, rfl, rfl⟩⟩
      obtain ⟨n, hn, hle⟩ := exists_find?_of_cut? hcolumn.2 hxy hcolumn.1
      rw [hn]
      exact ⟨_, rfl, .inr ⟨rfl, hle⟩⟩
    | succ k =>
      split
      -- what is found on an earlier line comes first whatever its column
      · exact ⟨_, rfl, .inl (Nat.lt_add_of_pos_right (Nat.succ_pos k))⟩
      · have hk : i + (k + 1) = i + 1 + k := by omega
        rw [hk] at hstart ⊢
        refine ih (Nat.le_succ_of_le hi) (fun l _ h => absurd h (by omega)) hraw hstart

theorem start_le_of_findInLines {i : Nat} {ls : List Text} (hi : start.line ≤ i)
    (h : findInLines needle start i ls = some hit) : start ≤ hit := by
  induction ls generalizing i with
  | nil => cases h
  | cons l ls ih =>
    unfold findInLines at h
    simp only at h
    split at h
    · rw [← Option.some.inj h]
      rcases Nat.eq_or_lt_of_le hi with heq | hlt
      · rw [if_pos heq.symm]
        exact .inr ⟨heq, Nat.le_add_right _ _⟩
      · exact .inl hlt
    · exact ih (Nat.le_succ_of_le hi) h

theorem exists_findLine?_eq {c : Cursor} (hn : needle ≠ [])
    (hb : start.IsBoundaryIn (splitOn '\n' content))
    (hc : Occurs needle (splitOn '\n' content) c) (hstart : start ≤ c) :
    ∃ hit, findLine? content needle start = some hit ∧ hit ≤ c := by
  obtain ⟨before, rest, hraw, hsize⟩ := hc
  obtain ⟨k, hk⟩ : ∃ k, start.line + k = c.line := by
    rcases Cursor.le_def.mp hstart with h | ⟨h, -⟩
    · exact ⟨_, Nat.add_sub_of_le (Nat.le_of_lt h)⟩
    · exact ⟨0, h⟩
  have hplace : (⟨start.line + k, size before⟩ : Cursor) = c := by rw [hk, hsize]
  have hline : ((splitOn '\n' content).drop start.line)[k]? =
      some (before ++ (needle ++ rest)) := by
    rw [List.getElem?_drop, hk, hraw]
  rw [← hplace] at hstart ⊢
  rw [findLine?, if_neg (by simpa using hn)]
  refine exists_findInLines_eq (Nat.le_refl _) (fun l hl _ => ?_) hline rfl hstart
  rw [List.head?_drop] at hl
  exact hb l hl

/-- A search answers with the first occurrence from its start on. -/
theorem isLeast_of_findLine? (hb : start.IsBoundaryIn (splitOn '\n' content))
    (h : findLine? content needle start = some hit) :
    IsLeast {c | start ≤ c ∧ Occurs needle (splitOn '\n' content) c} hit := by
  have hn : needle ≠ [] := by
    rintro rfl
    cases h
  obtain ⟨raw, hraw, before, rest, rfl, hsize⟩ := exists_append_of_findLine? h
  have hstart : start ≤ hit := by
    rw [findLine?, if_neg (by simpa using hn)] at h
    exact start_le_of_findInLines (Nat.le_refl _) h
  refine ⟨⟨hstart, before, rest, hraw, hsize⟩, ?_⟩
  rintro c ⟨hc, hoccurs⟩
  obtain ⟨hit', hhit', hle⟩ := exists_findLine?_eq hn hb hoccurs hc
  cases h.symm.trans hhit'
  exact hle

theorem exists_isLeast_occurs {c : Cursor} (hn : needle ≠ [])
    (hc : Occurs needle (splitOn '\n' content) c) :
    ∃ n before rest, findLine? content needle {} = some ⟨n, size before⟩ ∧
      (splitOn '\n' content)[n]? = some (before ++ (needle ++ rest)) ∧
      IsLeast {c | Occurs needle (splitOn '\n' content) c} ⟨n, size before⟩ := by
  have hstart : Cursor.IsBoundaryIn {} (splitOn '\n' content) :=
    fun raw _ => isBoundary_iff.mpr ⟨[], raw, rfl, rfl⟩
  obtain ⟨hit, hhit, -⟩ := exists_findLine?_eq hn hstart hc (Cursor.zero_le c)
  obtain ⟨hmem, hleast⟩ := isLeast_of_findLine? hstart hhit
  obtain ⟨n, column⟩ := hit
  obtain ⟨before, rest, hline, rfl⟩ := hmem.2
  exact ⟨n, before, rest, hhit, hline, ⟨before, rest, hline, rfl⟩,
    fun c hc => hleast ⟨Cursor.zero_le c, hc⟩⟩

end Search

section Value

variable {a : Alert} {value parent file before after p q : Text} {start hit : Cursor}

/-- The blanks that are dropped before a value is searched for. -/
def lead (t : Text) : Text := t.takeWhile isSpace

theorem length_sub_trimStart (t : Text) : t.length - (trimStart t).length = (lead t).length := by
  have hlen := congrArg List.length (List.takeWhile_append_dropWhile (p := isSpace) (l := t))
  rw [List.length_append] at hlen
  rw [lead, trimStart]
  omega

theorem trim_append (t : Text) : ∃ trail, lead t ++ (trim t ++ trail) = t := by
  obtain ⟨trail, htrail⟩ := dropEndWhile_prefix isSpace (trimStart t)
  refine ⟨trail, ?_⟩
  rw [trim, trimEnd, htrail, lead, trimStart, List.takeWhile_append_dropWhile]

theorem onAssigned?_eq_some {parentLines valueLines : List Text} {found : List (Option Cursor)}
    {line : Text} (hhit : (found[a.line - 1]?).join = some hit)
    (hline : valueLines[a.line - 1]? = some line)
    (hraw : parentLines[hit.line]? = some (before ++ after)) (hbefore : size before = hit.column)
    (hread : p ++ (a.head ++ q) = before ++ after)
    (hp : before.length + a.span.start = p.length + 1 + (lead line).length) :
    onAssigned? a parentLines valueLines found = some (hit.line, p.length + 1) := by
  have hstands : standsAt (before ++ after) a.head (p.length + 1) = true := by
    rw [standsAt, charsAt, Nat.add_sub_cancel, ← hread, List.drop_left, List.take_left,
      beq_self_eq_true, Bool.or_true]
  have hcut : cut? (before ++ after) hit.column = some (before, after) :=
    cut?_eq_some_iff.mpr ⟨rfl, hbefore⟩
  have hstart : before.length + a.span.start - (lead line).length = p.length + 1 := by omega
  simp only [onAssigned?, hhit, hline, hraw, hcut, length_sub_trimStart, Option.bind_eq_bind,
    Option.bind_some]
  rw [if_neg (by omega), hstart, if_pos hstands]

/-- An alert on a value of one line moves along with the value to its first occurrence. -/
theorem remapValueOne_eq_ok {x : Text} (hv : '\n' ∉ value)
    (hhit : findLine? parent (trim value) start = some hit)
    (hraw : (splitOn '\n' parent)[hit.line]? = some (before ++ after))
    (hbefore : size before = hit.column) (hline : a.line = 1) (hspan : a.span.start = x.length + 1)
    (hread : p ++ (a.head ++ q) = before ++ after)
    (hp : before.length + x.length = p.length + (lead value).length) :
    remapValueOne value parent start file a =
      .ok (a.moveTo ⟨hit.line + 1, a.span.beginAt (p.length + 1)⟩) := by
  have hvalue : splitOn '\n' value = [value] := splitOn_of_not_mem hv
  have hassigned : (assignLines parent start [value]).1 = [some hit] := by
    simp only [assignLines, hhit]
  have hplace : onAssigned? a (splitOn '\n' parent) [value] [some hit] =
      some (hit.line, p.length + 1) := by
    have hlength : before.length + a.span.start = p.length + 1 + (lead value).length := by omega
    refine onAssigned?_eq_some ?_ ?_ hraw hbefore hread hlength
    · rw [hline]
      rfl
    · rw [hline]
      rfl
  rw [remapValueOne, hvalue, hassigned, hplace, if_neg (by omega)]
  rfl

/-- The alert is read in the value, clear of the blanks around it. -/
structure ReadsInside (a : Alert) (value : Text) : Prop where
  readsIn : a.ReadsIn value
  lead_lt : (lead value).length < a.span.start
  le_end : a.span.start + a.head.length ≤ (lead value).length + (trim value).length + 1

/-- Where an alert goes along with its value, whose occurrence is after `before` on a line. -/
def along (value before : Text) (line : Nat) (a : Alert) : Alert :=
  a.moveTo ⟨line + 1, a.span.beginAt (before.length + a.span.start - (lead value).length)⟩

theorem ReadsInside.exists_append (ha : ReadsInside a value) (hv : '\n' ∉ value) :
    a.line = 1 ∧ ∃ y z, y ++ (a.head ++ z) = trim value ∧
      a.span.start = (lead value).length + y.length + 1 := by
  obtain ⟨⟨hline, hspan, l, hl, hread⟩, hlead, hend⟩ := ha
  obtain ⟨trail, hvalue⟩ := trim_append value
  rw [splitOn_of_not_mem hv, List.getElem?_singleton] at hl
  split at hl
  · rename_i hfirst
    obtain rfl := Option.some.inj hl
    obtain ⟨k, hk⟩ : ∃ k, a.span.start - 1 = (lead value).length + k :=
      ⟨a.span.start - 1 - (lead value).length, by omega⟩
    have hdrop : value.drop (a.span.start - 1) = (trim value).drop k ++ trail := by
      refine (congrArg (List.drop (a.span.start - 1)) hvalue.symm).trans ?_
      rw [hk, ← List.drop_drop, List.drop_left, List.drop_append_of_le_length (by omega)]
    rw [hdrop] at hread
    have hlength : a.head.length ≤ ((trim value).drop k).length := by
      rw [List.length_drop]
      omega
    obtain ⟨z, hz⟩ := List.prefix_of_prefix_length_le hread (List.prefix_append _ trail) hlength
    refine ⟨by omega, (trim value).take k, z, by rw [hz, List.take_append_drop], ?_⟩
    rw [List.length_take]
    omega
  · cases hl

theorem remapValueOne_eq_along (hv : '\n' ∉ value)
    (hhit : findLine? parent (trim value) start = some hit)
    (hraw : (splitOn '\n' parent)[hit.line]? = some (before ++ (trim value ++ after)))
    (hbefore : size before = hit.column) (ha : ReadsInside a value) :
    remapValueOne value parent start file a = .ok (along value before hit.line a) := by
  obtain ⟨hline, y, z, hy, hspan⟩ := ha.exists_append hv
  have hread : before ++ y ++ (a.head ++ (z ++ after)) = before ++ (trim value ++ after) := by
    rw [← hy]
    simp only [List.append_assoc]
  have hcolumn : (before ++ y).length + 1 =
      before.length + a.span.start - (lead value).length := by
    rw [List.length_append]
    omega
  rw [along, ← hcolumn]
  refine remapValueOne_eq_ok (x := lead value ++ y) hv hhit hraw hbefore hline ?_ hread ?_
  · rw [hspan, List.length_append]
  · simp only [List.length_append]
    omega

theorem not_remapValueOne_eq_ok {a' : Alert} (ha : ∀ raw ∈ splitOn '\n' parent, ¬a.head <:+: raw) :
    remapValueOne value parent start file a ≠ .ok a' := by
  intro h
  unfold remapValueOne at h
  simp only at h
  split at h
  · rename_i line column hplace
    split at hplace
    · cases hplace
    -- on its own line or behind it, the alert is put where the file reads like its head
    · rcases Option.or_eq_some_iff.mp hplace with hon | ⟨-, hafter⟩
      · simp only [onAssigned?, Option.bind_eq_bind, Option.bind_eq_some_iff] at hon
        obtain ⟨hit, -, raw, hraw, l, -, ⟨before, after⟩, -, hon⟩ := hon
        have hraw := ha raw (List.mem_of_getElem? hraw)
        split at hon
        · cases hon
        · split at hon
          · rename_i hfit
            have hne : a.head ≠ [] := fun hnil => hraw (hnil ▸ List.nil_infix)
            exact hraw
              ((prefix_of_standsAt hne hfit).isInfix.trans (List.drop_suffix _ raw).isInfix)
          · cases hon
      · obtain ⟨-, raw, hraw, hread⟩ := prefix_of_afterAssigned? hafter
        exact ha raw (List.mem_of_getElem? hraw)
          (hread.isInfix.trans (List.drop_suffix _ raw).isInfix)
  · cases h

end Value

end Copydesk.Position
