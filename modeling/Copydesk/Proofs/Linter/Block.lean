import Copydesk.Linter
import Copydesk.Proofs.Alert
import Copydesk.Proofs.Outcome
import Copydesk.Proofs.Rule.Findings
import Copydesk.Proofs.Text.Split
import Mathlib.Data.List.TakeWhile

/-! The alerts on one block: each comes from a rule that chose the block or a piece of it, and
stands in the block's text. The pieces, its paragraphs and sentences, are slices of it. -/

namespace Copydesk

/-- No rule is left to a provider. -/
def RuleSet.IsPatternOnly (s : RuleSet) : Prop := ∀ c ∈ s.rules, c.compiled ≠ .delegated

/-- A rule that flags a text wherever it occurs in some scopes. -/
def Rule.Definition.ofLiteral (name literal : Text) (selectors : List Text) :
    Rule.Definition where
  name := name
  checkType := "existence"
  level := .warning
  scope := ⟨selectors.map .ofText⟩
  message := "Avoid '%s'."
  kind := .existence { raw := [literal] }

def Rule.Check.ofLiteral (name literal : Text) (selectors : List Text) : Rule.Check where
  definition := .ofLiteral name literal selectors
  compiled := .existence { raw := [literal] } ⟨literal, .literal literal, 0⟩

/-- One rule against the word `bad`. -/
def RuleSet.house (selectors scopes : List Text) : RuleSet :=
  ⟨[.ofLiteral "House.Bad" "bad" selectors], scopes, false, .suggestion⟩

/-- What that rule finds at the beginning of a text. -/
def Alert.house : Alert := ⟨"House.Bad", .warning, "Avoid 'bad'.", [], [], 1, ⟨1, 3⟩, "bad"⟩

namespace Linter

/-- A linter without languages, programs and a provider. -/
def ofRules (config : Config) (rules : RuleSet) (blueprints : List (Text × Blueprint)) : Linter where
  config := config
  rules := rules
  languages := []
  renderers := .standard .none []
  blueprints := blueprints
  tools := .none

open Text

/-- A piece of a text that begins at the byte offset given with it. -/
def IsPiece (t : Text) (piece : Nat × Text) : Prop :=
  slice? t piece.1 (piece.1 + size piece.2) = some piece.2

theorem isPiece_iff {t p : Text} {o : Nat} :
    IsPiece t (o, p) ↔ ∃ a b, a ++ (p ++ b) = t ∧ size a = o := by
  simp only [IsPiece, slice?_eq_some_iff, and_true]

theorem isPiece_of_mem_withOffsets (sep : Text) {start : Nat} {ps : List Text}
    {e : Nat × Text} (h : e ∈ withOffsets (size sep) start ps) :
    ∃ a b, a ++ (e.2 ++ b) = join sep ps ∧ start + size a = e.1 := by
  induction ps generalizing start with
  | nil => simp [withOffsets] at h
  | cons p ps ih =>
    rcases List.mem_cons.mp h with rfl | h
    · cases ps with
      | nil => exact ⟨[], [], by simp [join, List.intercalate], rfl⟩
      | cons q qs => exact ⟨[], _, (join_cons sep p (by simp)).symm, rfl⟩
    · obtain ⟨a, b, hab, ha⟩ := ih h
      -- the separator only stands before a piece that follows
      have hps : ps ≠ [] := by
        rintro rfl
        simp [withOffsets] at h
      refine ⟨p ++ (sep ++ a), b, ?_, ?_⟩
      · rw [join_cons sep p hps, ← hab]
        simp only [List.append_assoc]
      · rw [← ha, size_append, size_append]
        omega

theorem exists_trimPiece (p : Char → Bool) (e : Nat × Text) :
    ∃ lead trail, lead ++ ((trimPiece p e).2 ++ trail) = e.2 ∧
      (trimPiece p e).1 = e.1 + size lead ∧ (∀ c ∈ lead, p c = true) ∧
        ∀ c ∈ trail, isSpace c = true := by
  have htrim := dropEndWhile_append isSpace (e.2.dropWhile p)
  refine ⟨e.2.takeWhile p, ((e.2.dropWhile p).reverse.takeWhile isSpace).reverse, ?_, ?_,
    fun c hc => List.mem_takeWhile_imp hc, fun c hc =>
      List.mem_takeWhile_imp (List.mem_reverse.mp hc)⟩
  · rw [trimPiece, trimEnd, htrim, List.takeWhile_append_dropWhile]
  · rw [trimPiece, size_sub_dropWhile]

theorem IsPiece.trim {t : Text} {e : Nat × Text} (h : IsPiece t e) (p : Char → Bool) :
    IsPiece t (trimPiece p e) := by
  obtain ⟨a, b, rfl, ha⟩ := isPiece_iff.mp h
  obtain ⟨lead, trail, htrim, hstart, -⟩ := exists_trimPiece p e
  generalize trimPiece p e = kept at htrim hstart ⊢
  refine isPiece_iff.mpr ⟨a ++ lead, trail ++ b, ?_, ?_⟩
  · rw [← htrim]
    simp only [List.append_assoc]
  · rw [size_append, ha, hstart]

theorem isPiece_of_mem_paragraphs {t : Text} {e : Nat × Text} (h : e ∈ paragraphs t) :
    IsPiece t e := by
  obtain ⟨e', he', rfl⟩ := List.mem_map.mp (List.mem_filter.mp h).1
  obtain ⟨a, b, hab, ha⟩ := isPiece_of_mem_withOffsets "\n\n".toList he'
  rw [join_splitOnText (by decide)] at hab
  rw [Nat.zero_add] at ha
  exact IsPiece.trim (isPiece_iff.mpr ⟨a, b, hab, ha⟩) _

theorem isPiece_of_mem_sentences {t : Text} {e : Nat × Text} (h : e ∈ sentences t) :
    IsPiece t e := by
  obtain ⟨e', he', rfl⟩ := List.mem_map.mp (List.mem_filter.mp h).1
  obtain ⟨a, b, hab, ha⟩ := isPiece_of_mem_withOffsets [] he'
  rw [join_nil, flatten_sentences] at hab
  rw [Nat.zero_add] at ha
  exact IsPiece.trim (isPiece_iff.mpr ⟨a, b, hab, ha⟩) _

section Outcomes

open Outcome

variable {l : Linter} {a : Alert} {as : List Alert} {b : Block} {kind scope text : Text}
  {piece : Nat × Text} {pieces : Text → List (Nat × Text)}

theorem exists_of_mem_runRules (h : l.runRules b = .ok as) (ha : a ∈ as) :
    ∃ c ∈ l.rules.rules, c.definition.scope.admits b.scope = true ∧
      ∃ found, c.runOn l.provider b = .ok found ∧ a ∈ found := by
  obtain ⟨found, hfound, h⟩ := bind_eq_ok_iff.mp h
  rw [← pure_eq_ok_iff.mp h] at ha
  obtain ⟨c, hc, hrun⟩ := exists_of_mem_flatten hfound ha
  obtain ⟨hmem, hadmits⟩ := List.mem_filter.mp hc
  exact ⟨c, hmem, hadmits, hrun⟩

theorem runPiece_eq_ok_iff : l.runPiece text scope piece = .ok as ↔ ∃ found,
    l.runRules (.ofText piece.2 scope) = .ok found ∧
      found.map (Position.shift text piece.1) = as := by
  simp only [runPiece, bind_eq_ok_iff, pure_eq_ok_iff]

theorem lintPieces_eq_ok_iff : l.lintPieces b kind pieces = .ok as ↔
    (l.cuts b kind = true ∧ ∃ found,
      (pieces b.text).mapM (l.runPiece b.text (pieceScope kind b.scope)) = .ok found ∧
        found.flatten = as) ∨ l.cuts b kind = false ∧ [] = as := by
  rw [lintPieces]
  cases l.cuts b kind <;> simp only [if_true, if_false, bind_eq_ok_iff, pure_eq_ok_iff, true_and,
    false_and, or_false, false_or, Bool.false_eq_true, Bool.true_eq_false]

theorem lintBlock_eq_ok_iff : l.lintBlock b = .ok as ↔
    (l.ignores b.scope = true ∧ [] = as) ∨ l.ignores b.scope = false ∧
      ∃ whole onParagraphs onSentences, l.runRules b = .ok whole ∧
        l.lintPieces b "paragraph" paragraphs = .ok onParagraphs ∧
        l.lintPieces b "sentence" sentences = .ok onSentences ∧
        whole ++ onParagraphs ++ onSentences = as := by
  rw [lintBlock]
  cases l.ignores b.scope <;> simp only [if_true, if_false, bind_eq_ok_iff, pure_eq_ok_iff,
    true_and, false_and, or_false, false_or, Bool.false_eq_true, Bool.true_eq_false,
    exists_and_left]

theorem exists_of_mem_lintPieces (h : l.lintPieces b kind pieces = .ok as) (ha : a ∈ as) :
    ∃ piece ∈ pieces b.text, ∃ found, l.runRules (.ofText piece.2 (pieceScope kind b.scope)) =
      .ok found ∧ ∃ a₀ ∈ found, Position.shift b.text piece.1 a₀ = a := by
  rcases lintPieces_eq_ok_iff.mp h with ⟨-, found, hfound, rfl⟩ | ⟨-, rfl⟩
  · obtain ⟨piece, hpiece, shifted, hrun, ha⟩ := exists_of_mem_flatten hfound ha
    obtain ⟨found, hrules, rfl⟩ := runPiece_eq_ok_iff.mp hrun
    exact ⟨piece, hpiece, found, hrules, List.mem_map.mp ha⟩
  · cases ha

/-- The rules see the block or a piece of it. -/
theorem exists_of_mem_lintBlock (h : l.lintBlock b = .ok as) (ha : a ∈ as) :
    (∃ found, l.runRules b = .ok found ∧ a ∈ found) ∨ ∃ kind piece found, IsPiece b.text piece ∧
      l.runRules (.ofText piece.2 (pieceScope kind b.scope)) = .ok found ∧
        ∃ a₀ ∈ found, Position.shift b.text piece.1 a₀ = a := by
  rcases lintBlock_eq_ok_iff.mp h with
    ⟨-, rfl⟩ | ⟨-, whole, onParagraphs, onSentences, hwhole, hparagraphs, hsentences, rfl⟩
  · cases ha
  · simp only [List.mem_append] at ha
    rcases ha with (ha | ha) | ha
    · exact .inl ⟨whole, hwhole, ha⟩
    · obtain ⟨piece, hpiece, hrun⟩ := exists_of_mem_lintPieces hparagraphs ha
      exact .inr ⟨_, piece, _, isPiece_of_mem_paragraphs hpiece, hrun.choose_spec⟩
    · obtain ⟨piece, hpiece, hrun⟩ := exists_of_mem_lintPieces hsentences ha
      exact .inr ⟨_, piece, _, isPiece_of_mem_sentences hpiece, hrun.choose_spec⟩

/-- A block fails only where a service does. -/
theorem exists_lintBlock_eq_ok (hs : ∀ s ∈ l.provider, Rule.Answers s) (b : Block) :
    ∃ as, l.lintBlock b = .ok as := by
  have hrules (b : Block) : ∃ as, l.runRules b = .ok as :=
    exists_bind_eq_ok (exists_mapM_eq_ok fun c _ => c.exists_runOn_eq_ok hs b)
      fun _ => ⟨_, rfl⟩
  have hpieces (kind : Text) (pieces : Text → List (Nat × Text)) :
      ∃ as, l.lintPieces b kind pieces = .ok as := by
    unfold lintPieces
    split
    · refine exists_bind_eq_ok (exists_mapM_eq_ok fun piece _ => ?_) fun _ => ⟨_, rfl⟩
      exact exists_bind_eq_ok (hrules _) fun _ => ⟨_, rfl⟩
    · exact ⟨[], rfl⟩
  unfold lintBlock
  split
  · exact ⟨[], rfl⟩
  · exact exists_bind_eq_ok (hrules b) fun _ => exists_bind_eq_ok (hpieces _ _) fun _ =>
      exists_bind_eq_ok (hpieces _ _) fun _ => ⟨_, rfl⟩

end Outcomes

variable {l : Linter} {a : Alert} {as : List Alert} {b : Block} {scope text : Text}

def FindsStanding (l : Linter) : Prop :=
  ∀ c ∈ l.rules.rules, ∀ b as, c.runOn l.provider b = .ok as → ∀ a ∈ as, a.StandsIn b.text

theorem findsStanding_of_placesFindings (hs : ∀ s ∈ l.provider, Rule.PlacesFindings s) :
    l.FindsStanding :=
  fun _ _ _ _ h _ ha => Rule.Check.standsIn_of_mem_runOn hs h ha

theorem findsStanding_of_isPatternOnly (hl : l.rules.IsPatternOnly) : l.FindsStanding := by
  intro c hc b as h a ha
  rw [Rule.Check.runOn_eq_ok (hl c hc)] at h
  obtain rfl := Except.ok.inj h
  exact (Rule.Check.finds_of_mem_run (hl c hc) ha).2

section Standing

variable (hl : l.FindsStanding)

include hl

theorem FindsStanding.of_mem_runRules (h : l.runRules b = .ok as) (ha : a ∈ as) :
    a.StandsIn b.text := by
  obtain ⟨c, hc, -, found, hfound, ha⟩ := exists_of_mem_runRules h ha
  exact hl c hc b found hfound a ha

theorem FindsStanding.of_mem_lintBlock (h : l.lintBlock b = .ok as) (ha : a ∈ as) :
    a.StandsIn b.text := by
  rcases exists_of_mem_lintBlock h ha with
    ⟨found, hfound, ha⟩ | ⟨kind, piece, found, hpiece, hfound, a₀, ha₀, rfl⟩
  · exact hl.of_mem_runRules hfound ha
  · exact (hl.of_mem_runRules hfound ha₀).shift hpiece

end Standing

theorem standsIn_of_mem_lintBlock (hl : l.rules.IsPatternOnly) (h : l.lintBlock b = .ok as)
    (ha : a ∈ as) : a.StandsIn b.text :=
  (findsStanding_of_isPatternOnly hl).of_mem_lintBlock h ha

section Checks

open Outcome

variable (hs : ∀ s ∈ l.provider, Rule.NamesRules s) (q : Text → Bool)

include hs

theorem ofChecks_runOn {c : Rule.Check} (h : c.runOn l.provider b = .ok as) :
    Alert.ofChecks q as = if q c.definition.name then as else [] := by
  have hcheck : ∀ a ∈ as, a.check = c.definition.name :=
    fun a ha => Rule.Check.check_eq_of_mem_runOn hs h ha
  split
  · rename_i hq
    refine List.filter_eq_self.mpr fun a ha => ?_
    rw [hcheck a ha, hq]
  · rename_i hq
    refine List.filter_eq_nil_iff.mpr fun a ha => ?_
    rwa [hcheck a ha]

/-- Of the alerts of some checks, leaving the others' names out leaves the others out. -/
theorem ofChecks_mapM_runOn {checks : List Rule.Check} {found : List (List Alert)}
    (h : checks.mapM (·.runOn l.provider b) = .ok found) :
    ∃ kept, (checks.filter fun c => q c.definition.name).mapM (·.runOn l.provider b) = .ok kept ∧
      kept.flatten = Alert.ofChecks q found.flatten := by
  induction checks generalizing found with
  | nil =>
    obtain rfl := pure_eq_ok_iff.mp h
    exact ⟨[], rfl, rfl⟩
  | cons c checks ih =>
    obtain ⟨as, rest, has, hrest, rfl⟩ := mapM_cons_eq_ok_iff.mp h
    obtain ⟨kept, hkept, hflat⟩ := ih hrest
    rw [List.flatten_cons, Alert.ofChecks_append, ofChecks_runOn hs q has, List.filter_cons]
    split
    · exact ⟨as :: kept, mapM_cons_eq_ok_iff.mpr ⟨as, kept, has, hkept, rfl⟩,
        congrArg (as ++ ·) hflat⟩
    · exact ⟨kept, hkept, hflat⟩

end Checks

end Linter

end Copydesk
