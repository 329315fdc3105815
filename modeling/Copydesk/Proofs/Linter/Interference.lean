import Copydesk.Proofs.Linter.Block
import Copydesk.Proofs.Linter.Extraction
import Copydesk.Proofs.RuleSet
import Mathlib

/-! What rules have to do with each other. They share the decision whether blocks are cut into
paragraphs and sentences, and nothing else: a rule finds what it would find alone, unless another
one has blocks cut whose pieces it chooses as well. -/

namespace Copydesk.Linter

def pieceKinds : List Text := ["paragraph", "sentence"]

/-- No rule of the first set sees pieces of the block under only one of the sets. -/
def CutsAlike (l : Linter) (s s' : RuleSet) (b : Block) : Prop :=
  l.ignores b.scope = true ∨ hasSection b.scope "heading" = true ∨ ∀ kind ∈ pieceKinds,
    s.usesScope kind = s'.usesScope kind ∨
      ∀ c ∈ s.rules, c.definition.scope.admits (pieceScope kind b.scope) = false

section Part

open Outcome

variable {l : Linter} {s s' : RuleSet} {scope text : Text} {b : Block} {as : List Alert}

theorem runRules_of_isPart (hs : s.IsPart s') (hp : ∀ p ∈ l.provider, Rule.NamesRules p)
    (h : (l.withRules s').runRules b = .ok as) :
    (l.withRules s).runRules b = .ok (Alert.ofChecks s.holds as) := by
  obtain ⟨found, hfound, h⟩ := bind_eq_ok_iff.mp h
  obtain rfl := pure_eq_ok_iff.mp h
  obtain ⟨kept, hkept, hflat⟩ := ofChecks_mapM_runOn (l := l.withRules s') hp s.holds hfound
  refine bind_eq_ok_iff.mpr ⟨kept, ?_, pure_eq_ok_iff.mpr hflat⟩
  have hrules : (l.withRules s).rules.rules =
      (l.withRules s').rules.rules.filter fun c => s.holds c.definition.name := hs.rules
  rw [hrules, List.filter_comm]
  exact hkept

theorem runPiece_of_isPart (hs : s.IsPart s') (hp : ∀ p ∈ l.provider, Rule.NamesRules p)
    {piece : Nat × Text} (h : (l.withRules s').runPiece text scope piece = .ok as) :
    (l.withRules s).runPiece text scope piece = .ok (Alert.ofChecks s.holds as) := by
  obtain ⟨found, hfound, rfl⟩ := runPiece_eq_ok_iff.mp h
  have hshift : Alert.ofChecks s.holds (found.map (Position.shift text piece.1)) =
      (Alert.ofChecks s.holds found).map (Position.shift text piece.1) := List.filter_map
  exact runPiece_eq_ok_iff.mpr ⟨_, runRules_of_isPart hs hp hfound, hshift.symm⟩

theorem runPiece_eq_nil (hadmits : ∀ c ∈ s.rules, c.definition.scope.admits scope = false)
    (piece : Nat × Text) : (l.withRules s).runPiece text scope piece = .ok [] := by
  have hnone : (l.withRules s).rules.rules.filter (fun c => c.definition.scope.admits scope) = [] :=
    List.filter_eq_nil_iff.mpr fun c hc => by simp [hadmits c hc]
  refine runPiece_eq_ok_iff.mpr ⟨[], bind_eq_ok_iff.mpr ⟨[], ?_, rfl⟩, rfl⟩
  exact (congrArg (List.mapM _) hnone).trans rfl

theorem lintPieces_eq_nil {kind : Text} {pieces : Text → List (Nat × Text)}
    (hadmits : ∀ c ∈ s.rules, c.definition.scope.admits (pieceScope kind b.scope) = false) :
    (l.withRules s).lintPieces b kind pieces = .ok [] := by
  unfold lintPieces
  split
  · refine bind_eq_ok_iff.mpr ⟨(pieces b.text).map fun _ => [],
      mapM_eq_map fun piece _ => runPiece_eq_nil hadmits piece, pure_eq_ok_iff.mpr ?_⟩
    simp
  · rfl

theorem lintPieces_of_isPart (hs : s.IsPart s') (hp : ∀ p ∈ l.provider, Rule.NamesRules p)
    {kind : Text} {pieces : Text → List (Nat × Text)}
    (hcut : hasSection b.scope "heading" = true ∨ s.usesScope kind = s'.usesScope kind ∨
      ∀ c ∈ s.rules, c.definition.scope.admits (pieceScope kind b.scope) = false)
    (h : (l.withRules s').lintPieces b kind pieces = .ok as) :
    (l.withRules s).lintPieces b kind pieces = .ok (Alert.ofChecks s.holds as) := by
  have hcuts : (l.withRules s).cuts b kind = (l.withRules s').cuts b kind ∨
      ∀ c ∈ s.rules, c.definition.scope.admits (pieceScope kind b.scope) = false := by
    rcases hcut with hheading | huses | hadmits
    · rw [cuts, cuts, hheading, Bool.not_true, Bool.and_false, Bool.and_false]
      exact .inl rfl
    · exact .inl (congrArg (· && !hasSection b.scope "heading") huses)
    · exact .inr hadmits
  rcases lintPieces_eq_ok_iff.mp h with ⟨hcut', found, hfound, rfl⟩ | ⟨hcut', rfl⟩
  · rw [Alert.ofChecks_flatten]
    rcases hcuts with hcuts | hadmits
    · refine lintPieces_eq_ok_iff.mpr (.inl ⟨hcuts.trans hcut', _, ?_, rfl⟩)
      exact mapM_eq_ok_map (fun piece _ as has => runPiece_of_isPart hs hp has) hfound
    · -- the pieces are there for one of the sets only, but no rule of the part chooses them
      have hnone : ∀ as ∈ found, Alert.ofChecks s.holds as = [] := by
        intro as has
        obtain ⟨piece, -, hpiece⟩ := exists_of_mem_mapM hfound has
        have hpart := runPiece_of_isPart hs hp hpiece
        rw [runPiece_eq_nil hadmits piece] at hpart
        exact (Except.ok.inj hpart).symm
      rw [lintPieces_eq_nil hadmits, List.flatten_eq_nil_iff.mpr (List.forall_mem_map.mpr hnone)]
  · rcases hcuts with hcuts | hadmits
    · exact lintPieces_eq_ok_iff.mpr (.inr ⟨hcuts.trans hcut', rfl⟩)
    · exact lintPieces_eq_nil hadmits

theorem findsOnly_of_isPart (hs : s.IsPart s') (hp : ∀ p ∈ l.provider, Rule.NamesRules p)
    (hcut : l.CutsAlike s s' b) : l.FindsOnly s s' s.holds b := by
  intro as h
  rcases lintBlock_eq_ok_iff.mp h with
    ⟨hignored, rfl⟩ | ⟨hignored, whole, onParagraphs, onSentences, hwhole, hparagraphs, hsentences,
      rfl⟩
  · exact lintBlock_eq_ok_iff.mpr (.inl ⟨hignored, rfl⟩)
  · have hkind (kind : Text) (hk : kind ∈ pieceKinds) : hasSection b.scope "heading" = true ∨
        s.usesScope kind = s'.usesScope kind ∨
          ∀ c ∈ s.rules, c.definition.scope.admits (pieceScope kind b.scope) = false := by
      rcases hcut with hignored' | hcut
      · exact absurd (hignored.symm.trans hignored') Bool.false_ne_true
      · exact hcut.imp_right fun h => h kind hk
    refine lintBlock_eq_ok_iff.mpr (.inr ⟨hignored, _, _, _, runRules_of_isPart hs hp hwhole,
      lintPieces_of_isPart hs hp (hkind "paragraph" (by decide)) hparagraphs,
      lintPieces_of_isPart hs hp (hkind "sentence" (by decide)) hsentences, ?_⟩)
    rw [Alert.ofChecks_append, Alert.ofChecks_append]

end Part

/-- Of the alerts that a larger set of rules finds, its part finds those of its own rules if blocks
are cut for it as for the whole, and so it does by itself if that makes no difference to its rules. -/
theorem lint_eq_ofChecks {l : Linter} {s s' : RuleSet} {path text : Text} {as : List Alert}
    (hs : s.IsPart s') (hp : ∀ p ∈ l.provider, Rule.NamesRules p)
    (h : (l.withRules s').lint path text = .ok as) :
    (l.withRules { s with scopes := s'.scopes }).lint path text =
        .ok (Alert.ofChecks s.holds as) ∧
      ((∀ b, l.Extracts (l.target path) text b → l.CutsAlike s s' b) →
        (l.withRules s).lint path text = .ok (Alert.ofChecks s.holds as)) := by
  refine ⟨?_, fun hcut => lint_filter hs.minLevel
    (fun b hb => findsOnly_of_isPart hs hp (hcut b hb)) h⟩
  have hpart : RuleSet.IsPart { s with scopes := s'.scopes } s' := ⟨hs.rules, hs.minLevel⟩
  exact lint_filter hs.minLevel
    (fun b _ => findsOnly_of_isPart hpart hp (.inr (.inr fun kind _ => .inl rfl))) h

/-- The rule `House.Bad` beside one about paragraphs. -/
def slowRules (selectors scopes : List Text) : RuleSet :=
  ⟨[.ofLiteral "House.Bad" "bad" selectors, .ofLiteral "House.Slow" "slow" ["paragraph"]],
    scopes, false, .suggestion⟩

def houseDraft (selectors : List Text) : RuleSet.Draft :=
  [("House.Bad", .ofLiteral "House.Bad" "bad" selectors)]

def slowDraft : RuleSet.Draft := [("House.Slow", .ofLiteral "House.Slow" "slow" ["paragraph"])]

def houseLinter : Linter := ofRules {} (.house [] []) []

/-- A rule of scope `text` does not choose paragraphs, so it finds the same in either company. -/
theorem house_eq_ofChecks :
    (houseLinter.withRules (slowRules ["text"] ["paragraph", "text"])).lint "a.txt" "bad" =
        .ok [Alert.house] ∧
      (houseLinter.withRules (RuleSet.house ["text"] ["text"])).lint "a.txt" "bad" =
        .ok [Alert.house] := by
  have hlint : (houseLinter.withRules (slowRules ["text"] ["paragraph", "text"])).lint
      "a.txt" "bad" = .ok [Alert.house] := by cbv
  have hpart : (RuleSet.house ["text"] ["text"]).IsPart (slowRules ["text"] ["paragraph", "text"]) :=
    ⟨by cbv, rfl⟩
  have hroute : houseLinter.route (houseLinter.target "a.txt") = .prose .plain := by cbv
  refine ⟨hlint, (lint_eq_ofChecks hpart ?_ hlint).2 ?_⟩
  · intro p hp
    cases hp
  · intro b hb
    unfold Extracts at hb
    rw [hroute] at hb
    obtain ⟨bs, hbs, hb⟩ := hb
    rw [← Except.ok.inj hbs, List.mem_singleton] at hb
    rw [hb]
    refine .inr (.inr fun kind hkind => .inr fun c hc => ?_)
    rw [List.mem_singleton.mp hc]
    revert kind
    decide

/-- A rule with only negated selectors chooses paragraphs too. Next to a rule that has the text cut
into them it reports its one find twice. -/
theorem house_twice :
    RuleSet.freeze (houseDraft ["~heading"]) .suggestion = .ok (RuleSet.house ["~heading"] []) ∧
      RuleSet.freeze (houseDraft ["~heading"] ++ slowDraft) .suggestion =
        .ok (slowRules ["~heading"] ["paragraph"]) ∧
      (RuleSet.house ["~heading"] []).IsPart (slowRules ["~heading"] ["paragraph"]) ∧
      (houseLinter.withRules (RuleSet.house ["~heading"] [])).lint "a.txt" "bad" =
        .ok [Alert.house] ∧
      (houseLinter.withRules (slowRules ["~heading"] ["paragraph"])).lint "a.txt" "bad" =
        .ok [Alert.house, Alert.house] ∧
      Alert.ofChecks (RuleSet.house ["~heading"] []).holds [Alert.house, Alert.house] ≠
        Alert.ofChecks (RuleSet.house ["~heading"] []).holds [Alert.house] := by
  refine ⟨by cbv, by cbv, ⟨by cbv, rfl⟩, by cbv, by cbv, by decide⟩

end Copydesk.Linter
