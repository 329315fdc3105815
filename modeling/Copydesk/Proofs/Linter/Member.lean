import Copydesk.Proofs.Data.Object
import Copydesk.Proofs.Linter.Value

/-! Checks of one member of an object. Its value is searched for in the whole file, so its alerts
stand on the first occurrence of the value, be that the member itself, another member or a key. -/

namespace Copydesk

open Data.Json (Listing keyText)

/-- The alert is placed on its match after what comes before it on a line counted from zero. -/
def Alert.Marks (a : Alert) (line : Nat) (before : Text) : Prop :=
  a.place = ⟨line + 1, ⟨before.length + 1, before.length + 1 + (a.matched.length - 1)⟩⟩

namespace Linter

open Outcome Position Text

section Selection

variable {l : Linter} {t : Target} {o : Listing} {key v name : Text} {i : Nat}
  {step : Blueprint.Step Selector}

theorem selectTexts_key {s : Selector} (hs : s.steps = [.key key])
    (hi : o.members[i]? = some (key, v)) :
    s.selectTexts (.table (Data.Json.fieldsOf o.members)) = [v] := by
  simp [Selector.selectTexts, Selector.select, hs, Selector.selectBy, Selector.Step.apply,
    o.get?_fieldsOf hi, Selector.leaves]

theorem read_text (o : Listing) (hne : o.members ≠ []) (hunfold : Document.unfold o.text = o.text)
    (path : Text) :
    Document.read o.text "json" path = .ok (.table (Data.Json.fieldsOf o.members)) := by
  have hext : String.ofList ("json".toList.dropWhile (· == '.')) = "json" := by decide
  rw [Document.read, hunfold]
  simp only [hext]
  rw [o.read_text hne]
  rfl

theorem apply_text (hunfold : Document.unfold o.text = o.text) (hs : step.query.steps = [.key key])
    (hi : o.members[i]? = some (key, v)) (path : Text) :
    Blueprint.apply l.tools ⟨name, .selectors [step]⟩ o.text "json" path =
      .ok [⟨step.name, Format.ofStepType step.kind, [v]⟩] := by
  have hne : o.members ≠ [] := by
    intro h
    rw [h] at hi
    cases hi
  simp only [Blueprint.apply]
  rw [read_text o hne hunfold]
  exact congrArg (fun vs => Except.ok [Blueprint.Found.mk _ _ vs]) (selectTexts_key hs hi)

end Selection

/-- How an alert on the value of a member is placed in the file. The trimmed value occurs first
after `before` on line `n`, and the match comes after `x` in the value. -/
structure IsCarried (o : Listing) (i : Nat) (key v : Text) (a : Alert) (n : Nat)
    (before x : Text) : Prop where
  first : IsLeast {c | Occurs (trim v) (splitOn '\n' o.text) c} ⟨n, size before⟩
  line : ∃ rest, (splitOn '\n' o.text)[n]? = some (before ++ (trim v ++ rest))
  matched : ∃ s, x ++ (a.matched ++ s) = v
  /-- A match that takes in no blanks around the value has its place in the occurrence. -/
  inside : ∀ y z, lead v ++ y = x → y ++ (a.matched ++ z) = trim v → a.Marks n (before ++ y)
  /-- Where the occurrence is the value of the member, every match has its place in it. -/
  own : n = i + 1 → before = keyText o.indent key ++ lead v →
    a.Marks (i + 1) (keyText o.indent key ++ x)

section Carried

variable {o : Listing} {key v file : Text} {i : Nat} {a a' : Alert}

theorem newline_not_mem (hi : o.members[i]? = some (key, v)) : '\n' ∉ v :=
  (o.isBare _ (List.mem_of_getElem? hi)).2.newline_not_mem

/-- The value stands on the line of its member. -/
theorem occurs_own (hi : o.members[i]? = some (key, v)) :
    Occurs (trim v) (splitOn '\n' o.text) ⟨i + 1, size (keyText o.indent key ++ lead v)⟩ := by
  obtain ⟨rest, hline⟩ := o.exists_line hi
  obtain ⟨trail, hv⟩ := trim_append v
  refine ⟨keyText o.indent key ++ lead v, trail ++ rest, hline.trans (congrArg some ?_), rfl⟩
  rw [List.append_assoc, ← List.append_assoc (trim v), ← List.append_assoc (lead v), hv]

theorem exists_isCarried (hi : o.members[i]? = some (key, v)) (hv : trim v ≠ [])
    (ha : a.StandsIn v) (h : remapValueOne v o.text {} file a = .ok a') :
    ∃ n before x, IsCarried o i key v a' n before x := by
  obtain ⟨n, before, rest, hhit, hline, hleast⟩ := exists_isLeast_occurs hv (occurs_own hi)
  obtain ⟨x, s, hx, halert, hspan⟩ := Alert.standsIn_iff.mp ha
  have hnewline := newline_not_mem hi
  have hcount : x.count '\n' = 0 := List.count_eq_zero.mpr fun hn => hnewline (by simp [← hx, hn])
  have hlast : lastLine x = x := lastLine_of_not_mem fun hn => hnewline (by simp [← hx, hn])
  have hhead : a.head = a.matched :=
    takeWhile_ne_newline.mpr fun hn => hnewline (by simp [← hx, hn])
  rw [hcount] at halert
  rw [hlast] at hspan
  -- wherever the value is found, its alert is where the match goes along with it
  have hmarks (p q : Text) (hread : p ++ (a.matched ++ q) = before ++ (trim v ++ rest))
      (hp : before.length + x.length = p.length + (lead v).length) : a'.Marks n p := by
    have hplace : remapValueOne v o.text {} file a =
        .ok (a.moveTo ⟨n + 1, a.span.beginAt (p.length + 1)⟩) :=
      remapValueOne_eq_ok hnewline hhit hline rfl halert (by rw [hspan]) (hhead ▸ hread) hp
    obtain rfl := Except.ok.inj (h.symm.trans hplace)
    rw [Alert.Marks, hspan]
    simp [Alert.place, Alert.moveTo, Span.beginAt]
  obtain ⟨place, hmove⟩ := exists_moveTo_of_remapValueOne h
  have hmatched : a'.matched = a.matched := by rw [hmove]; rfl
  refine ⟨n, before, x, hleast, ⟨rest, hline⟩, ⟨s, by rw [hmatched, hx]⟩, ?_, ?_⟩
  · rintro y z rfl hy
    refine hmarks (before ++ y) (z ++ rest) ?_ (by simp only [List.length_append]; omega)
    rw [← hy, hmatched]
    simp only [List.append_assoc]
  · rintro rfl rfl
    obtain ⟨rest', hown⟩ := o.exists_line hi
    have hread := Option.some.inj (hown.symm.trans hline)
    refine hmarks (keyText o.indent key ++ x) (s ++ rest') ?_
      (by simp only [List.length_append]; omega)
    rw [← hread, ← hx]
    simp only [List.append_assoc]

end Carried

/-- Every alert on the value of a member is placed on the first occurrence of the value in the file,
if folded block scalars are nowhere to be seen in it. -/
theorem exists_isCarried_of_mem_lint {l : Linter} {o : Listing} {path name key v : Text} {i : Nat}
    {step : Blueprint.Step Selector} {as : List Alert} {a : Alert}
    (hp : ∀ p ∈ l.provider, Rule.PlacesFindings p) (hext : Extension.ofPath path = "json".toList)
    (hroute : l.route (l.target path) = .values ⟨name, .selectors [step]⟩)
    (hkind : Format.ofStepType step.kind = .plain) (hstep : step.query.steps = [.key key])
    (hi : o.members[i]? = some (key, v)) (hunfold : Document.unfold o.text = o.text)
    (h : l.lint path o.text = .ok as) (ha : a ∈ as) :
    ∃ n before x, IsCarried o i key v a n before x := by
  obtain ⟨found, hfound, ha⟩ := exists_mem_of_mem_lint h ha
  have hvalue := @apply_text l o key v name i step hunfold hstep hi path
  rw [hkind, ← hext] at hvalue
  cases hblank : isBlank v with
  | true =>
    rw [lintTarget_of_isBlank hroute hvalue hblank] at hfound
    obtain rfl := Except.ok.inj hfound
    cases ha
  | false =>
    rw [lintTarget_eq_bind hroute hvalue hblank] at hfound
    obtain ⟨onValue, hblock, hfound⟩ := bind_eq_ok_iff.mp hfound
    obtain ⟨a₀, ha₀, hmove⟩ := exists_of_mem_mapM hfound ha
    have hstands := (findsStanding_of_placesFindings hp).of_mem_lintBlock hblock ha₀
    exact exists_isCarried hi (trim_ne_nil hblank) hstands hmove

/-- The member `s` after another one, whose value does not occur in it. -/
def plainListing : Listing where
  members := [("r", "one"), ("s", " a bad one")]
  indent := [' ', ' ']
  tail := ['\n']
  isBare := by decide
  nodup := by decide
  indent_isBlank := by simp
  tail_isBlank := by simp [Data.Json.Reader.isBlank]

/-- The member `s` after another one, in whose value it occurs. -/
def shadowedListing : Listing where
  members := [("r", "bad day"), ("s", "bad")]
  indent := [' ', ' ']
  tail := []
  isBare := by decide
  nodup := by decide
  indent_isBlank := by simp
  tail_isBlank := by simp [Data.Json.Reader.isBlank]

/-- The member `s` after another one, with what would head a folded scalar in its value. -/
def foldedListing : Listing where
  members := [("r", "bad day"), ("s", "x: > bad")]
  indent := [' ', ' ']
  tail := []
  isBare := by decide
  nodup := by decide
  indent_isBlank := by simp
  tail_isBlank := by simp [Data.Json.Reader.isBlank]

theorem isCarried_plainListing :
    memberLinter.lint "a.json" plainListing.text = .ok [Alert.house.moveTo ⟨3, ⟨12, 14⟩⟩] ∧
      ∃ n before x, IsCarried plainListing 1 "s" " a bad one"
        (Alert.house.moveTo ⟨3, ⟨12, 14⟩⟩) n before x := by
  have hlint : memberLinter.lint "a.json" plainListing.text =
      .ok [Alert.house.moveTo ⟨3, ⟨12, 14⟩⟩] := by cbv
  have hroute : memberLinter.route (memberLinter.target "a.json") = .values memberBlueprint := by
    cbv
  have hunfold : Document.unfold plainListing.text = plainListing.text := by cbv
  have hprovider : ∀ p ∈ memberLinter.provider, Rule.PlacesFindings p := by rintro p ⟨⟩
  exact ⟨hlint, exists_isCarried_of_mem_lint hprovider (by decide) hroute (by decide) rfl rfl
    hunfold hlint List.mem_cons_self⟩

/-- The value of the second member is looked for in the whole file, and found in the first. What
looks like the head of a folded scalar is not read as it is written, so that only the match is
looked for. -/
theorem lint_shadowedListing :
    ((splitOn '\n' shadowedListing.text)[2]? = some (keyText "  " "s" ++ "bad\"".toList) ∧
      memberLinter.lint "a.json" shadowedListing.text =
        .ok [Alert.house.moveTo ⟨2, ⟨9, 11⟩⟩]) ∧
    (splitOn '\n' foldedListing.text)[2]? = some (keyText "  " "s" ++ "x: > bad\"".toList) ∧
      memberLinter.lint "a.json" foldedListing.text =
        .ok [Alert.house.moveTo ⟨2, ⟨9, 11⟩⟩] := by
  refine ⟨⟨by decide, by cbv⟩, by decide, by cbv⟩

end Linter

end Copydesk
