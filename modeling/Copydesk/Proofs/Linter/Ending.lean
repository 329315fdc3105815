import Copydesk.Proofs.Html.Walker
import Copydesk.Proofs.Linter.Block
import Copydesk.Proofs.Linter.Extraction

/-! Scopes end in the extension of the file that is checked. Where no rule and no ignored scope asks
for a section of the ending, markup has the same alerts in a file of another extension. -/

namespace Copydesk

open Text

/-- The selector asks for no section of the ending. -/
def ScopeSelector.IsBlindTo (s : ScopeSelector) (e : Text) : Prop :=
  ∀ part ∈ s.sections, part ∉ splitOn '.' e

namespace Linter

open Html.Walker (IsEnding)
open Outcome Position

section Scope

variable {s : ScopeSelector} {e e' : Text}

theorem lastSection_append (head e : Text) : lastSection (head ++ '.' :: e) = lastSection e := by
  rw [lastSection, lastSection, splitOn_append_cons, List.getLast?_append_of_ne_nil]
  exact splitWhere_ne_nil _ e

theorem lastSection_mem (e : Text) : lastSection e ∈ splitOn '.' e := by
  have hne : splitOn '.' e ≠ [] := splitWhere_ne_nil _ e
  rw [lastSection, List.getLast?_eq_some_getLast hne]
  exact List.getLast_mem hne

theorem isBlindTo_lastSection (h : s.IsBlindTo e) :
    s.IsBlindTo (lastSection e) := by
  intro part hpart hmem
  have hdot : '.' ∉ lastSection e := fun hc =>
    absurd (not_of_mem_splitWhere (lastSection_mem e) hc) (by decide)
  rw [splitOn_of_not_mem hdot, List.mem_singleton] at hmem
  exact h part hpart (hmem ▸ lastSection_mem e)

theorem any_congr_of_mem {α : Type} {l : List α} {f g : α → Bool} (h : ∀ a ∈ l, f a = g a) :
    l.any f = l.any g := by
  rw [Bool.eq_iff_iff, List.any_eq_true, List.any_eq_true]
  exact exists_congr fun a => and_congr_right fun ha => by rw [h a ha]

theorem contains_append (h : s.IsBlindTo e) (head : Text) :
    s.contains (head ++ '.' :: e) = s.sections.all fun part => part ∈ splitOn '.' head := by
  rw [ScopeSelector.contains, Bool.eq_iff_iff, List.all_eq_true, List.all_eq_true]
  refine forall₂_congr fun part hpart => ?_
  rw [decide_eq_true_iff, decide_eq_true_iff, splitOn_append_cons, List.mem_append,
    or_iff_left (h part hpart)]

theorem admits_congr {s : ScopeSet} (h : ∀ sel ∈ s.selectors, sel.IsBlindTo e)
    (h' : ∀ sel ∈ s.selectors, sel.IsBlindTo e') (head : Text) :
    s.admits (head ++ '.' :: e) = s.admits (head ++ '.' :: e') := by
  have hcontains (sel : ScopeSelector) (hsel : sel ∈ s.selectors) :
      sel.contains (head ++ '.' :: e) = sel.contains (head ++ '.' :: e') :=
    (contains_append (h sel hsel) head).trans (contains_append (h' sel hsel) head).symm
  have hany (f : ScopeSelector → Bool → Bool) :
      (s.selectors.any fun sel => f sel (sel.contains (head ++ '.' :: e))) =
        s.selectors.any fun sel => f sel (sel.contains (head ++ '.' :: e')) :=
    any_congr_of_mem fun sel hsel => by rw [hcontains sel hsel]
  rw [ScopeSet.admits, ScopeSet.admits, ScopeSet.excludes, ScopeSet.excludes,
    hany fun sel b => sel.negated && b, hany fun sel b => !sel.negated && b]

end Scope

/-- Neither rules nor ignored scopes ask for sections of the ending, and services do not look at
scopes at all. -/
structure IsBlindTo (l : Linter) (e : Text) : Prop where
  ending : IsEnding e
  rules : ∀ c ∈ l.rules.rules, ∀ s ∈ c.definition.scope.selectors, s.IsBlindTo e
  ignored : ∀ raw ∈ l.config.settings.ignoredScopes, (ScopeSelector.ofText raw).IsBlindTo e
  heading : "heading".toList ∉ splitOn '.' e
  provider : ∀ s ∈ l.provider, Rule.ReadsText s

theorem runRules_congr {l : Linter} (hs : ∀ s ∈ l.provider, Rule.ReadsText s) {b b' : Block}
    (htext : b.text = b'.text) (hadmits : ∀ c ∈ l.rules.rules,
      c.definition.scope.admits b.scope = c.definition.scope.admits b'.scope) :
    l.runRules b = l.runRules b' := by
  have hrun : (fun c : Rule.Check => c.runOn l.provider b) = fun c => c.runOn l.provider b' :=
    funext (Rule.Check.runOn_congr hs htext)
  rw [runRules, runRules, List.filter_congr hadmits, hrun]

section Blind

variable {l : Linter} {e e' : Text} (he : l.IsBlindTo e) (he' : l.IsBlindTo e')

include he he'

theorem ignores_congr (head : Text) :
    l.ignores (head ++ '.' :: e) = l.ignores (head ++ '.' :: e') := by
  refine any_congr_of_mem fun s hs => ?_
  obtain ⟨raw, hraw, rfl⟩ := List.mem_map.mp hs
  rw [contains_append (he.ignored raw hraw), contains_append (he'.ignored raw hraw)]

theorem runPiece_congr (head text kind : Text) (piece : Nat × Text) :
    l.runPiece text (pieceScope kind (head ++ '.' :: e)) piece =
      l.runPiece text (pieceScope kind (head ++ '.' :: e')) piece := by
  have hadmits (c : Rule.Check) (hc : c ∈ l.rules.rules) :
      c.definition.scope.admits (kind ++ '.' :: lastSection e) =
        c.definition.scope.admits (kind ++ '.' :: lastSection e') :=
    admits_congr (fun s hs => isBlindTo_lastSection (he.rules c hc s hs))
      (fun s hs => isBlindTo_lastSection (he'.rules c hc s hs)) kind
  have hrules : l.runRules (.ofText piece.2 (kind ++ '.' :: lastSection e)) =
      l.runRules (.ofText piece.2 (kind ++ '.' :: lastSection e')) :=
    runRules_congr he.provider rfl hadmits
  rw [runPiece, runPiece, pieceScope, pieceScope, lastSection_append, lastSection_append, hrules]

theorem lintPieces_congr (head text kind : Text) (pieces : Text → List (Nat × Text)) :
    l.lintPieces (.ofText text (head ++ '.' :: e)) kind pieces =
      l.lintPieces (.ofText text (head ++ '.' :: e')) kind pieces := by
  have hheading : hasSection (head ++ '.' :: e) "heading" =
      hasSection (head ++ '.' :: e') "heading" := by
    rw [hasSection, hasSection, splitOn_append_cons, splitOn_append_cons, decide_eq_decide,
      List.mem_append, List.mem_append, or_iff_left he.heading, or_iff_left he'.heading]
  have hpiece : l.runPiece text (pieceScope kind (head ++ '.' :: e)) =
      l.runPiece text (pieceScope kind (head ++ '.' :: e')) :=
    funext (runPiece_congr he he' head text kind)
  unfold lintPieces cuts Block.ofText
  dsimp only
  rw [hheading, hpiece]

theorem lintBlock_congr {b b' : Block} (h : Html.Alike e e' b b') :
    l.lintBlock b = l.lintBlock b' := by
  obtain ⟨text, head, rfl, rfl⟩ := h
  have hignores : l.ignores (Block.ofText text (head ++ '.' :: e)).scope =
      l.ignores (Block.ofText text (head ++ '.' :: e')).scope := ignores_congr he he' head
  have hrules : l.runRules (.ofText text (head ++ '.' :: e)) =
      l.runRules (.ofText text (head ++ '.' :: e')) :=
    runRules_congr he.provider rfl fun c hc => admits_congr (he.rules c hc) (he'.rules c hc) head
  rw [lintBlock, lintBlock, hignores, hrules, lintPieces_congr he he', lintPieces_congr he he']

omit he he' in
theorem place_path {loc loc' : Locator} {a a' : Alert} (h : loc.place a = .ok (a', loc'))
    (path : Text) : { loc with path }.place a = .ok (a', { loc' with path }) := by
  obtain ⟨i, j, hr, rfl, rfl⟩ := Locator.place_eq_ok_iff.mp h
  exact Locator.place_eq_ok_iff.mpr ⟨i, j, hr, rfl, rfl⟩

omit he he' in
theorem placeAll_path {loc loc' : Locator} {as bs : List Alert}
    (h : placeAll loc as = .ok (bs, loc')) (path : Text) :
    placeAll { loc with path } as = .ok (bs, { loc' with path }) := by
  induction as generalizing loc bs with
  | nil =>
    obtain ⟨rfl, rfl⟩ := Prod.mk.inj (Except.ok.inj h)
    rfl
  | cons a as ih =>
    obtain ⟨a', loc₁, as', hplace, has, rfl⟩ := placeAll_cons_eq_ok_iff.mp h
    exact placeAll_cons_eq_ok_iff.mpr ⟨a', _, as', place_path hplace path, ih has, rfl⟩

omit he he' in
theorem enterBlock_path (loc : Locator) (path text : Text) :
    { loc with path }.enterBlock text = { loc.enterBlock text with path } := by
  have hcandidates : { loc with path }.candidates = loc.candidates := rfl
  simp only [Locator.enterBlock, hcandidates]
  split <;> rfl

theorem lintBlocks_congr {loc : Locator} {bs bs' : List Block} {as : List Alert}
    (hbs : List.Forall₂ (Html.Alike e e') bs bs') (h : l.lintBlocks loc bs = .ok as) (path : Text) :
    l.lintBlocks { loc with path } bs' = .ok as := by
  induction hbs generalizing loc as with
  | nil => exact h
  | cons hb _ ih =>
    obtain ⟨found, placed, loc₁, rest, hfound, hplaced, hrest, rfl⟩ :=
      lintBlocks_cons_eq_ok_iff.mp h
    rw [lintBlock_congr he he' hb] at hfound
    refine lintBlocks_cons_eq_ok_iff.mpr
      ⟨found, placed, { loc₁ with path }, rest, hfound, ?_, ih hrest, rfl⟩
    -- blocks are located by their texts, which are the same
    obtain ⟨text, head, rfl, rfl⟩ := hb
    rw [enterBlock_path]
    exact placeAll_path hplaced path

end Blind

/-- What the scopes of markup end in. -/
def ending (t : Target) (name : Text) : Text :=
  if name.isEmpty then t.ext else name ++ '.' :: t.ext

/-- Markup that is prepared alike has the same alerts in files whose endings nothing asks for. -/
theorem lintMarkup_congr {l : Linter} {t t' : Target} {format : Format} {name name' text : Text}
    {as : List Alert} (he : l.IsBlindTo (ending t name)) (he' : l.IsBlindTo (ending t' name'))
    (hprepare : Markup.prepare l.config t.path format text =
      Markup.prepare l.config t'.path format text)
    (h : l.lintMarkup t format name text = .ok as) :
    l.lintMarkup t' format name' text = .ok as := by
  obtain ⟨bs, hbs, h⟩ := bind_eq_ok_iff.mp h
  obtain ⟨html, hhtml, hbs⟩ := bind_eq_ok_iff.mp hbs
  have hrender : l.renderMarkup t' format text = .ok html := by
    rw [renderMarkup, ← hprepare]
    exact hhtml
  obtain rfl := pure_eq_ok_iff.mp hbs
  refine bind_eq_ok_iff.mpr ⟨_, bind_eq_ok_iff.mpr ⟨html, hrender, rfl⟩, ?_⟩
  exact lintBlocks_congr he he' (Html.Walker.walk_alike he.ending he'.ending html) h t'.path

theorem scopeOf_eq (t : Target) (name : Text) :
    scopeOf t name = "text".toList ++ '.' :: ending t name := by
  rw [scopeOf, ending]
  split <;> simp [join, List.intercalate]

theorem lintFormat_congr {l : Linter} {t t' : Target} {format : Format} {name name' text : Text}
    {as : List Alert} (he : l.IsBlindTo (ending t name)) (he' : l.IsBlindTo (ending t' name'))
    (hprepare : Markup.prepare l.config t.path format text =
      Markup.prepare l.config t'.path format text)
    (h : l.lintFormat t format name text = .ok as) :
    l.lintFormat t' format name' text = .ok as := by
  have hplain : l.lintPlain t name text = l.lintPlain t' name' text :=
    lintBlock_congr he he' ⟨text, "text".toList, by rw [scopeOf_eq], by rw [scopeOf_eq]⟩
  cases format with
  | plain | code | data => exact hplain.symm.trans h
  | _ => exact lintMarkup_congr he he' hprepare h

end Linter

end Copydesk
