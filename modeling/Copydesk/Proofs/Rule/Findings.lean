import Copydesk.Proofs.Position.Standing
import Copydesk.Proofs.Regex.Reach
import Copydesk.Rule.Check

/-! Findings of the rules carry the name of their rule, and those of the rules that need no provider
stand in the text that was checked. -/

namespace Copydesk.Rule

open Regex Text

/-- A finding of the rule on a slice of the text. -/
def Definition.Finds (d : Definition) (t : Text) (a : Alert) : Prop :=
  a.check = d.name ∧ a.StandsIn t

theorem Definition.finds_alert (d : Definition) {t m : Text} {i j : Nat} (args : List Text)
    (h : slice? t i j = some m) : d.Finds t (d.alert t i j args) :=
  ⟨rfl, i, j, h.trans (congrArg some (slice_eq_of_slice? h).symm), rfl⟩

variable {d : Definition} {r : Regex} {t : Text} {a : Alert}

theorem Existence.finds_of_mem_run {e : Existence} (h : a ∈ e.run d r t) : d.Finds t a := by
  obtain ⟨m, hm, rfl⟩ := List.mem_map.mp h
  exact d.finds_alert _ (slice?_of_mem_findAll (List.mem_filter.mp hm).1)

theorem Substitution.finds_of_mem_run {s : Substitution} (h : a ∈ s.run d r t) :
    d.Finds t a := by
  obtain ⟨m, hm, ha⟩ := List.mem_filterMap.mp h
  unfold alertOf? at ha
  split at ha
  · cases ha
  · simp only [Option.bind_eq_bind, Option.bind_eq_some_iff] at ha
    obtain ⟨i, -, expected, -, ha⟩ := ha
    split at ha
    · cases ha
    · rw [← Option.some.inj ha]
      exact d.finds_alert _ (slice?_of_mem_findAll hm)

theorem Occurrence.exists_slice?_opening {i j : Nat} (ho : opening t = (i, j)) (h : i < j) :
    ∃ m, slice? t i j = some m := by
  simp only [opening, Prod.mk.injEq] at ho
  obtain ⟨hi, hj⟩ := ho
  obtain ⟨trail, ht⟩ := dropEndWhile_prefix isSpace t
  rw [← trimEnd] at ht
  rw [trimStart, size_sub_dropWhile] at hi hj
  have hleft : isBoundary t i = true := by
    have hcut := List.takeWhile_append_dropWhile (p := isSpace) (l := trimEnd t)
    refine isBoundary_iff.mpr ⟨_, (trimEnd t).dropWhile isSpace ++ trail, ?_, hi⟩
    rw [← List.append_assoc, hcut, ht]
  have hstop : (find? ['\n'] (trimEnd t)).getD (size (trimEnd t)) = j := by
    change Max.max _ _ = j at hj
    omega
  refine exists_slice? hleft (isBoundary_iff.mpr ?_) h.le
  cases hf : find? ['\n'] (trimEnd t) with
  | none => exact ⟨trimEnd t, trail, ht, by rw [← hstop, hf]; rfl⟩
  | some k =>
    obtain ⟨b, c, hbc, hk⟩ := exists_append_of_find? hf
    refine ⟨b, '\n' :: c ++ trail, ?_, by rw [← hstop, hf, hk]; rfl⟩
    rw [← ht, ← hbc, List.append_assoc]
    rfl

theorem Occurrence.finds_of_mem_run {o : Occurrence} (h : a ∈ o.run d r t) : d.Finds t a := by
  simp only [Occurrence.run] at h
  split at h
  · rename_i excess he
    obtain ⟨n, -, hn⟩ := Option.bind_eq_some_iff.mp he
    rw [List.mem_singleton.mp h]
    exact d.finds_alert _ (slice?_of_mem_findAll (List.mem_filter.mp (List.mem_of_getElem? hn)).1)
  · split at h
    · rename_i hc
      rw [Bool.and_eq_true, decide_eq_true_eq] at hc
      obtain ⟨m, hm⟩ := exists_slice?_opening (t := t) rfl hc.2
      rw [List.mem_singleton.mp h]
      exact d.finds_alert _ hm
    · simp at h

theorem Repetition.reaches_of_mem_pairs (rep : Repetition) {n : Node} {p : Point} {ms : List Match}
    (hms : Successive n p ms) (hp : (Point.ofText t).Reaches p) (previous : Option Match)
    (hprev : ∀ m, previous = some m →
      ∃ x y, (Point.ofText t).Reaches x ∧ m.Spans x y ∧ y.Reaches p) :
    ∀ e ∈ rep.pairs t previous ms, ∃ x y : Point, (Point.ofText t).Reaches x ∧ x.Reaches y ∧
      e.1.start = x.offset ∧ e.2.stop = y.offset := by
  -- the token that was kept ends before the place where the search goes on
  induction hms generalizing previous with
  | nil => simp [pairs]
  | @cons p x y m ms hpx hmatch hms ih =>
    have hm := (Node.matchAt?_spans hmatch).1
    have hy := (hp.trans hpx).trans hm.reaches
    have hnone := ih hy none (by simp)
    have hsome := ih hy (some m) fun m' h =>
      ⟨x, y, hp.trans hpx, Option.some.inj h ▸ hm, .refl y⟩
    unfold pairs
    split
    · exact hnone
    · cases previous with
      | none => exact hsome
      | some m' =>
        obtain ⟨u, v, hu, hm', hv⟩ := hprev m' rfl
        simp only
        split
        · intro e he
          rcases List.mem_cons.mp he with rfl | he
          · exact ⟨u, y, hu, ((hm'.reaches.trans hv).trans hpx).trans hm.reaches, hm'.start_eq,
              hm.stop_eq⟩
          · exact hnone e he
        · exact hsome

theorem Repetition.finds_of_mem_run {rep : Repetition} (h : a ∈ rep.run d r t) : d.Finds t a := by
  obtain ⟨⟨p, m⟩, hpm, rfl⟩ := List.mem_map.mp h
  obtain ⟨x, y, hx, hxy, hstart, hstop⟩ :=
    rep.reaches_of_mem_pairs (findAll_successive r t) (.refl _) none (by simp) _ hpm
  obtain ⟨s, -, hs⟩ := hx.slice? hxy
  rw [← hstart, ← hstop] at hs
  exact d.finds_alert _ hs

theorem Capitalization.finds_of_mem_run {c : Capitalization} {style : CaseStyle}
    (h : a ∈ c.run d style t) : d.Finds t a := by
  simp only [Capitalization.run] at h
  split at h
  · simp at h
  · rw [List.mem_singleton.mp h]
    obtain ⟨trail, htrail⟩ := dropEndWhile_prefix isSpace
      (trimStart (t.takeWhile (· != '\n')))
    refine d.finds_alert _ (m := trim (t.takeWhile (· != '\n'))) (slice?_eq_some_iff.mpr
      ⟨(t.takeWhile (· != '\n')).takeWhile isSpace, trail ++ t.dropWhile (· != '\n'), ?_,
        (size_sub_dropWhile isSpace _).symm, rfl⟩)
    rw [trim, trimEnd, ← List.append_assoc (dropEndWhile _ _), htrail, ← List.append_assoc,
      trimStart, List.takeWhile_append_dropWhile, List.takeWhile_append_dropWhile]

theorem Check.finds_of_mem_run {provider : Option Provider} {c : Check}
    (hc : c.compiled ≠ .delegated) (h : a ∈ c.run provider t) : c.definition.Finds t a := by
  unfold Check.run at h
  split at h
  · exact Existence.finds_of_mem_run h
  · exact Substitution.finds_of_mem_run h
  · exact Occurrence.finds_of_mem_run h
  · exact Repetition.finds_of_mem_run h
  · exact Capitalization.finds_of_mem_run h
  · rename_i hd
    exact absurd hd hc

/-- A rule that needs no provider reports with its own alert, only the place and the words of the
message vary. -/
theorem Check.exists_alert_of_mem_run {provider : Option Provider} {c : Check}
    (hc : c.compiled ≠ .delegated) (h : a ∈ c.run provider t) :
    ∃ i j args, a = c.definition.alert t i j args := by
  unfold Check.run at h
  -- one case for each kind of check; the last is that of a provider
  split at h
  · obtain ⟨m, -, rfl⟩ := List.mem_map.mp h
    exact ⟨_, _, _, rfl⟩
  · obtain ⟨m, hm, ha⟩ := List.mem_filterMap.mp h
    unfold Substitution.alertOf? at ha
    split at ha
    · cases ha
    · simp only [Option.bind_eq_bind, Option.bind_eq_some_iff] at ha
      obtain ⟨i, -, expected, -, ha⟩ := ha
      split at ha
      · cases ha
      · exact ⟨_, _, _, (Option.some.inj ha).symm⟩
  · simp only [Occurrence.run] at h
    split at h
    · exact ⟨_, _, _, List.mem_singleton.mp h⟩
    · split at h
      · exact ⟨_, _, _, List.mem_singleton.mp h⟩
      · cases h
  · obtain ⟨pair, -, rfl⟩ := List.mem_map.mp h
    exact ⟨_, _, _, rfl⟩
  · simp only [Capitalization.run] at h
    split at h
    · cases h
    · exact ⟨_, _, _, List.mem_singleton.mp h⟩
  · rename_i hd
    exact absurd hd hc

theorem Check.runOn_eq_ok {service : Option Service} {c : Check} (hc : c.compiled ≠ .delegated)
    (b : Block) : c.runOn service b = .ok (c.run none b.text) := by
  unfold Check.runOn
  split
  · rename_i hd
    exact absurd hd hc
  · rfl

theorem Check.runOn_delegated {service : Option Service} {c : Check} (hc : c.compiled = .delegated)
    (b : Block) : c.runOn service b = service.elim (.ok []) fun s => s c.definition b := by
  unfold Check.runOn Check.run
  rw [hc]
  cases service <;> rfl

/-- What holds of the findings of every other rule and of every answer of the services holds of all
that a rule finds. -/
theorem Check.forall_of_runOn {service : Option Service} {c : Check} {b : Block} {as : List Alert}
    {P : Alert → Prop} (hs : ∀ s ∈ service, ∀ as, s c.definition b = .ok as → ∀ a ∈ as, P a)
    (hc : ∀ a, c.definition.Finds b.text a → P a) (h : c.runOn service b = .ok as) :
    ∀ a ∈ as, P a := by
  intro a ha
  by_cases hd : c.compiled = .delegated
  · rw [Check.runOn_delegated hd] at h
    cases service with
    | none =>
      obtain rfl := Except.ok.inj h
      cases ha
    | some s => exact hs s rfl as h a ha
  · rw [Check.runOn_eq_ok hd] at h
    obtain rfl := Except.ok.inj h
    exact hc a (Check.finds_of_mem_run hd ha)

/-- Language services report in the name of the rule that they are asked about. -/
def NamesRules (s : Service) : Prop := ∀ d b as, s d b = .ok as → ∀ a ∈ as, a.check = d.name

theorem Check.check_eq_of_mem_runOn {service : Option Service} {c : Check} {b : Block}
    {as : List Alert} (hs : ∀ s ∈ service, NamesRules s) (h : c.runOn service b = .ok as)
    (ha : a ∈ as) : a.check = c.definition.name :=
  Check.forall_of_runOn (fun s hmem => hs s hmem c.definition b) (fun _ hfinds => hfinds.1) h a ha

/-- Language services place what they report on the text that it matched. -/
def PlacesFindings (s : Service) : Prop :=
  ∀ d b as, s d b = .ok as → ∀ a ∈ as, a.StandsIn b.text

theorem Check.standsIn_of_mem_runOn {service : Option Service} {c : Check} {b : Block}
    {as : List Alert} (hs : ∀ s ∈ service, PlacesFindings s) (h : c.runOn service b = .ok as)
    (ha : a ∈ as) : a.StandsIn b.text :=
  Check.forall_of_runOn (fun s hmem => hs s hmem c.definition b) (fun _ hfinds => hfinds.2) h a ha

/-- Language services that look at nothing but the text of a block. -/
def ReadsText (s : Service) : Prop := ∀ d b b', b.text = b'.text → s d b = s d b'

theorem Check.runOn_congr {service : Option Service} (hs : ∀ s ∈ service, ReadsText s) {b b' : Block}
    (h : b.text = b'.text) (c : Check) : c.runOn service b = c.runOn service b' := by
  by_cases hd : c.compiled = .delegated
  · rw [Check.runOn_delegated hd, Check.runOn_delegated hd]
    cases service with
    | none => rfl
    | some s => exact hs s rfl c.definition b b' h
  · rw [Check.runOn_eq_ok hd, Check.runOn_eq_ok hd, h]

/-- Language services that never fail. -/
def Answers (s : Service) : Prop := ∀ d b, ∃ as, s d b = .ok as

theorem Check.exists_runOn_eq_ok {service : Option Service} (hs : ∀ s ∈ service, Answers s)
    (c : Check) (b : Block) : ∃ as, c.runOn service b = .ok as := by
  by_cases hd : c.compiled = .delegated
  · rw [Check.runOn_delegated hd]
    cases service with
    | none => exact ⟨[], rfl⟩
    | some s => exact hs s rfl c.definition b
  · exact ⟨_, Check.runOn_eq_ok hd b⟩

end Copydesk.Rule
