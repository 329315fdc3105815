import Copydesk.Proofs.Linter.Interference
import Mathlib

/-! Negated selectors. A rule with one that lies in the scope of a block finds nothing in the block
itself, but its paragraphs and sentences have scopes of their own, which the selector need not lie
in. -/

namespace Copydesk.Linter

open Outcome Rule

/-- The alerts of a rule on the pieces of some kind, if the block is cut into them and the rule
chooses them. -/
def pieceAlerts (l : Linter) (c : Rule.Check) (b : Block) (kind : Text)
    (pieces : Text → List (Nat × Text)) : Except LintError (List Alert) := do
  if l.rules.usesScope kind && !hasSection b.scope "heading" &&
      c.definition.scope.admits (pieceScope kind b.scope) then
    let found ← (pieces b.text).mapM fun piece => do
      let as ← c.runOn l.provider (.ofText piece.2 (pieceScope kind b.scope))
      return as.map (Position.shift b.text piece.1)
    return found.flatten
  else return []

/-- The alerts of a rule on the paragraphs of a block and then on its sentences. -/
def alertsOnPieces (l : Linter) (c : Rule.Check) (b : Block) : Except LintError (List Alert) := do
  if l.ignores b.scope then return []
  else
    let onParagraphs ← l.pieceAlerts c b "paragraph" paragraphs
    let onSentences ← l.pieceAlerts c b "sentence" sentences
    return onParagraphs ++ onSentences

variable {l : Linter} {c : Rule.Check} {b : Block} {scope text : Text} {as : List Alert}

theorem runRules_alone : (l.withRules (l.rules.alone c)).runRules b =
    if c.definition.scope.admits b.scope then c.runOn l.provider b else .ok [] := by
  have hrules : (l.withRules (l.rules.alone c)).rules.rules = [c] := rfl
  rw [runRules, hrules, List.filter_cons]
  cases c.definition.scope.admits b.scope with
  | false => rfl
  | true =>
    change ([c].mapM (·.runOn l.provider b) >>= fun found => .ok found.flatten) =
      c.runOn l.provider b
    rw [List.mapM_cons]
    cases c.runOn l.provider b with
    | error e => rfl
    | ok as => exact congrArg Except.ok (List.append_nil as)

theorem runPiece_alone {piece : Nat × Text} :
    (l.withRules (l.rules.alone c)).runPiece text scope piece =
      if c.definition.scope.admits scope then (do
        let as ← c.runOn l.provider (.ofText piece.2 scope)
        return as.map (Position.shift text piece.1))
      else .ok [] := by
  have hscope : (Block.ofText piece.2 scope).scope = scope := rfl
  rw [runPiece, runRules_alone, hscope]
  split <;> rfl

theorem lintPieces_alone {kind : Text} {pieces : Text → List (Nat × Text)} :
    (l.withRules (l.rules.alone c)).lintPieces b kind pieces = l.pieceAlerts c b kind pieces := by
  have hcuts : (l.withRules (l.rules.alone c)).cuts b kind =
      (l.rules.usesScope kind && !hasSection b.scope "heading") := rfl
  have hpiece : (l.withRules (l.rules.alone c)).runPiece b.text (pieceScope kind b.scope) =
      fun piece => _ := funext fun _ => runPiece_alone
  rw [lintPieces, pieceAlerts, hcuts, hpiece]
  cases l.rules.usesScope kind && !hasSection b.scope "heading" with
  | false => rfl
  | true =>
    cases c.definition.scope.admits (pieceScope kind b.scope) with
    | false =>
      refine bind_eq_ok_iff.mpr ⟨(pieces b.text).map fun _ => [], mapM_eq_map fun _ _ => rfl, ?_⟩
      exact congrArg Except.ok (List.flatten_eq_nil_iff.mpr (List.forall_mem_map.mpr fun _ _ => rfl))
    | true => rfl

theorem ofChecks_lintBlock_of_mem (hl : l.rules.names.Nodup)
    (hp : ∀ p ∈ l.provider, NamesRules p) (hc : c ∈ l.rules.rules) (h : l.lintBlock b = .ok as) :
    (l.withRules (l.rules.alone c)).lintBlock b =
      .ok (Alert.ofChecks (· == c.definition.name) as) := by
  have hpart := RuleSet.alone_isPart hl hc
  have hfinds : l.FindsOnly (l.rules.alone c) l.rules (l.rules.alone c).holds b :=
    findsOnly_of_isPart hpart hp (.inr (.inr fun kind _ => .inl rfl))
  rw [RuleSet.alone_holds] at hfinds
  exact hfinds as h

theorem admits_eq_false {s : ScopeSet} {sel : ScopeSelector} (hsel : sel ∈ s.selectors)
    (hneg : sel.negated = true) (hin : sel.contains scope = true) : s.admits scope = false := by
  have hexcludes : s.excludes scope = true :=
    List.any_eq_true.mpr ⟨sel, hsel, by rw [hneg, hin, Bool.and_self]⟩
  rw [ScopeSet.admits, hexcludes, Bool.not_true, Bool.false_and]

/-- The alerts of a rule on a block that one of its negated selectors excludes are those on the
pieces that it chooses. Only a service can leave the block without an answer. -/
theorem ofChecks_lintBlock_of_negated (hl : l.rules.names.Nodup)
    (hp : ∀ p ∈ l.provider, NamesRules p) (hc : c ∈ l.rules.rules) {sel : ScopeSelector}
    (hsel : sel ∈ c.definition.scope.selectors) (hneg : sel.negated = true)
    (hin : sel.contains b.scope = true) :
    ((∀ p ∈ l.provider, Answers p) → ∃ as, l.lintBlock b = .ok as) ∧
      ∀ as, l.lintBlock b = .ok as →
        l.alertsOnPieces c b = .ok (Alert.ofChecks (· == c.definition.name) as) := by
  refine ⟨fun hanswers => exists_lintBlock_eq_ok hanswers b, fun as h => ?_⟩
  have hnone : (l.withRules (l.rules.alone c)).runRules b = .ok [] := by
    rw [runRules_alone, admits_eq_false hsel hneg hin]
    rfl
  have halone := ofChecks_lintBlock_of_mem hl hp hc h
  rw [lintBlock, hnone, lintPieces_alone, lintPieces_alone] at halone
  exact halone

/-- A rule about paragraphs outside of quotations. -/
def quoteRule : Check := .ofLiteral "House.Bad" "bad" ["paragraph", "~blockquote"]

def quoteLinter : Linter :=
  houseLinter.withRules (.house ["paragraph", "~blockquote"] ["paragraph"])

def quoteBlock : Block := .ofText "bad" "text.blockquote.html"

theorem ofChecks_lintBlock_quoteBlock :
    quoteLinter.lintBlock quoteBlock = .ok [.house] ∧
      quoteLinter.alertsOnPieces quoteRule quoteBlock = .ok [.house] := by
  have hnames : quoteLinter.rules.names.Nodup := by decide
  have hprovider : ∀ p ∈ quoteLinter.provider, NamesRules p := by
    intro p hp
    cases hp
  have hrule : quoteRule ∈ quoteLinter.rules.rules := List.mem_cons_self
  have hselector : ScopeSelector.ofText "~blockquote" ∈ quoteRule.definition.scope.selectors :=
    List.mem_cons_of_mem _ List.mem_cons_self
  have hin : (ScopeSelector.ofText "~blockquote").contains quoteBlock.scope = true := by decide
  have hlint : quoteLinter.lintBlock quoteBlock = .ok [.house] := by cbv
  have hpieces := ofChecks_lintBlock_of_negated hnames hprovider hrule hselector rfl hin
  exact ⟨hlint, hpieces.2 _ hlint⟩

/-- The paragraph in a quotation is found, although the quotation is excluded. -/
theorem lintBlock_quoteBlock :
    RuleSet.freeze [("House.Bad", quoteRule.definition)] .suggestion = .ok quoteLinter.rules ∧
      quoteLinter.Extracts (quoteLinter.target "a.html") "<blockquote>bad</blockquote>"
        quoteBlock ∧
      ScopeSelector.ofText "~blockquote" ∈ quoteRule.definition.scope.selectors ∧
      (ScopeSelector.ofText "~blockquote").negated = true ∧
      (ScopeSelector.ofText "~blockquote").contains quoteBlock.scope = true ∧
      quoteLinter.lintBlock quoteBlock = .ok [.house] ∧
      Alert.house.check = quoteRule.definition.name := by
  have hroute : quoteLinter.route (quoteLinter.target "a.html") = .prose .html := by cbv
  have hblocks : quoteLinter.formatBlocks (quoteLinter.target "a.html") .html []
      "<blockquote>bad</blockquote>" = .ok [quoteBlock] := rfl
  refine ⟨by cbv, ?_, List.mem_cons_of_mem _ List.mem_cons_self, rfl, by decide, by cbv, rfl⟩
  unfold Extracts
  rw [hroute]
  exact ⟨_, hblocks, List.mem_cons_self⟩

end Copydesk.Linter
