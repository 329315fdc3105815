import Copydesk.Linter
import Copydesk.Proofs.Alert
import Copydesk.Proofs.Outcome
import Copydesk.Proofs.Position.Locator
import Copydesk.Proofs.Position.Remap

/-! The blocks that a linter takes from a file, which do not depend on its rules. Where one set of
rules finds in every block the alerts of some checks that another set finds there, it finds in the
file the alerts of those checks that the other set finds there. -/

namespace Copydesk.Linter

open Outcome Position

def withRules (l : Linter) (s : RuleSet) : Linter := { l with rules := s }

/-- The blocks of a text of some format. -/
def formatBlocks (l : Linter) (t : Target) (format : Format) (name text : Text) :
    Except LintError (List Block) :=
  match format with
  | .plain | .code | .data => .ok [.ofText text (scopeOf t name)]
  | _ => l.markupBlocks t format name text

/-- The block is taken from the file. -/
def Extracts (l : Linter) (t : Target) (text : Text) (b : Block) : Prop :=
  match l.route t with
  | .skipped | .missing _ => False
  | .comments queries => ∃ e,
      Comment.extract? l.languages t.ext queries (l.config.delimitersFor? t.path) text =
        .ok (some e) ∧ ∃ c ∈ e.comments, commentBlock t c = b
  | .values blueprint => ∃ found,
      blueprint.apply l.tools text (Extension.ofPath t.path) t.path = .ok found ∧
        ∃ f ∈ found, ∃ v ∈ f.values, Text.isBlank v = false ∧
          ∃ bs, l.formatBlocks t f.format f.scope v = .ok bs ∧ b ∈ bs
  | .prose format => ∃ bs, l.formatBlocks t format [] text = .ok bs ∧ b ∈ bs

theorem movedOrFail_moveEach (move : Alert → Except LintError Alert) (as : List Alert) :
    movedOrFail (moveEach move as) = as.mapM move := by
  induction as with
  | nil => rfl
  | cons a as ih =>
    rw [List.mapM_cons, ← ih, moveEach]
    cases move a with
    | error e => rfl
    | ok a' =>
      cases h : moveEach move as with
      | mk as' e => cases e <;> rfl

theorem lint_eq_sort {l : Linter} {path text : Text} {found : List Alert}
    (h : l.lintTarget (l.target path) text = .ok found) : l.lint path text =
      .ok (Alert.sort (found.filter fun a => l.rules.minLevel.le a.level)) := by
  rw [lint, h]
  rfl

theorem lint_eq_error {l : Linter} {path text : Text} {e : LintError}
    (h : l.lintTarget (l.target path) text = .error e) : l.lint path text = .error e := by
  rw [lint, h]
  rfl

theorem exists_mem_of_mem_lint {l : Linter} {path text : Text} {as : List Alert} {a : Alert}
    (h : l.lint path text = .ok as) (ha : a ∈ as) :
    ∃ found, l.lintTarget (l.target path) text = .ok found ∧ a ∈ found := by
  obtain ⟨found, hfound, h⟩ := bind_eq_ok_iff.mp h
  rw [← pure_eq_ok_iff.mp h, Alert.sort, List.mem_mergeSort] at ha
  exact ⟨found, hfound, (List.mem_filter.mp ha).1⟩

theorem placeAll_cons_eq_ok_iff {loc loc' : Locator} {a : Alert} {as bs : List Alert} :
    placeAll loc (a :: as) = .ok (bs, loc') ↔ ∃ a' loc₁ as', loc.place a = .ok (a', loc₁) ∧
      placeAll loc₁ as = .ok (as', loc') ∧ a' :: as' = bs := by
  simp only [placeAll, bind_eq_ok_iff, pure_eq_ok_iff, Prod.exists, Prod.mk.injEq]
  constructor
  · rintro ⟨a', loc₁, hplace, as', loc₂, has, rfl, rfl⟩
    exact ⟨a', loc₁, as', hplace, has, rfl⟩
  · rintro ⟨a', loc₁, as', hplace, has, rfl⟩
    exact ⟨a', loc₁, hplace, as', loc', has, rfl, rfl⟩

theorem lintBlocks_cons_eq_ok_iff {l : Linter} {loc : Locator} {b : Block} {bs : List Block}
    {as : List Alert} : l.lintBlocks loc (b :: bs) = .ok as ↔ ∃ found placed loc' rest,
      l.lintBlock b = .ok found ∧ placeAll (loc.enterBlock b.text) found = .ok (placed, loc') ∧
        l.lintBlocks loc' bs = .ok rest ∧ placed ++ rest = as := by
  simp only [lintBlocks, bind_eq_ok_iff, pure_eq_ok_iff, Prod.exists, exists_and_left]

theorem lintComment_eq_ok_iff {l : Linter} {t : Target} {text : Text}
    {padding : Option (Text → Nat)} {c : Comment} {as : List Alert} :
    l.lintComment t text padding c = .ok as ↔ ∃ found, l.lintBlock (commentBlock t c) = .ok found ∧
      found.mapM (remapAnchoredOne c.text ⟨c.line, c.offset⟩
        ((padding.map (paddedColumns (commentBlock t c))).getD []) text t.path) = .ok as := by
  simp only [lintComment, remapAnchored, movedOrFail_moveEach, bind_eq_ok_iff]
  rfl

section Filter

variable {l : Linter} {s s' : RuleSet} {p : Text → Bool} {t : Target} {text name : Text}
  {format : Format} {as : List Alert}

/-- Of the alerts that the second rules find on the block, the first find those of some checks. -/
def FindsOnly (l : Linter) (s s' : RuleSet) (p : Text → Bool) (b : Block) : Prop :=
  ∀ as, (l.withRules s').lintBlock b = .ok as →
    (l.withRules s).lintBlock b = .ok (Alert.ofChecks p as)

theorem placeAll_only {loc loc' : Locator} {bs : List Alert}
    (h : placeAll loc as = .ok (bs, loc')) :
    placeAll (loc.only p) (Alert.ofChecks p as) = .ok (Alert.ofChecks p bs, loc'.only p) := by
  induction as generalizing loc bs with
  | nil =>
    obtain ⟨rfl, rfl⟩ := Prod.mk.inj (Except.ok.inj h)
    rfl
  | cons a as ih =>
    obtain ⟨a', loc₁, as', hplace, has, rfl⟩ := placeAll_cons_eq_ok_iff.mp h
    have hcheck : a'.check = a.check := by
      obtain ⟨i, j, -, rfl, -⟩ := Locator.place_eq_ok_iff.mp hplace
      rfl
    cases hp : p a.check with
    | false =>
      rw [Alert.ofChecks_cons_of_neg hp, Alert.ofChecks_cons_of_neg (hcheck ▸ hp),
        ← Locator.only_of_place hp hplace]
      exact ih has
    | true =>
      rw [Alert.ofChecks_cons_of_pos hp, Alert.ofChecks_cons_of_pos (hcheck ▸ hp)]
      exact placeAll_cons_eq_ok_iff.mpr ⟨a', _, _, Locator.only_place hp hplace, ih has, rfl⟩

theorem lintBlocks_filter {loc : Locator} {bs : List Block} (hb : ∀ b ∈ bs, l.FindsOnly s s' p b)
    (h : (l.withRules s').lintBlocks loc bs = .ok as) :
    (l.withRules s).lintBlocks (loc.only p) bs = .ok (Alert.ofChecks p as) := by
  induction bs generalizing loc as with
  | nil =>
    obtain rfl := Except.ok.inj h
    rfl
  | cons b bs ih =>
    obtain ⟨found, placed, loc₁, rest, hfound, hplaced, hrest, rfl⟩ :=
      lintBlocks_cons_eq_ok_iff.mp h
    rw [Alert.ofChecks_append]
    refine lintBlocks_cons_eq_ok_iff.mpr ⟨_, _, loc₁.only p, _, hb b List.mem_cons_self _ hfound, ?_,
      ih (fun x hx => hb x (List.mem_cons_of_mem b hx)) hrest, rfl⟩
    rw [Locator.only_enterBlock]
    exact placeAll_only hplaced

theorem lintFormat_filter
    (hb : ∀ bs, l.formatBlocks t format name text = .ok bs → ∀ b ∈ bs, l.FindsOnly s s' p b)
    (h : (l.withRules s').lintFormat t format name text = .ok as) :
    (l.withRules s).lintFormat t format name text = .ok (Alert.ofChecks p as) := by
  have hmarkup (hblocks : l.formatBlocks t format name text = l.markupBlocks t format name text)
      (h : (l.withRules s').lintMarkup t format name text = .ok as) :
      (l.withRules s).lintMarkup t format name text = .ok (Alert.ofChecks p as) := by
    obtain ⟨bs, hbs, h⟩ := bind_eq_ok_iff.mp h
    exact bind_eq_ok_iff.mpr ⟨bs, hbs, lintBlocks_filter (hb bs (hblocks.trans hbs)) h⟩
  have hplain (hblocks : l.formatBlocks t format name text = .ok [.ofText text (scopeOf t name)])
      (h : (l.withRules s').lintPlain t name text = .ok as) :
      (l.withRules s).lintPlain t name text = .ok (Alert.ofChecks p as) :=
    hb _ hblocks _ List.mem_cons_self as h
  cases format with
  | plain | code | data => exact hplain rfl h
  | _ => exact hmarkup rfl h

theorem lintComment_filter {padding : Option (Text → Nat)} {c : Comment}
    (hb : l.FindsOnly s s' p (commentBlock t c))
    (h : (l.withRules s').lintComment t text padding c = .ok as) :
    (l.withRules s).lintComment t text padding c = .ok (Alert.ofChecks p as) := by
  obtain ⟨found, hfound, h⟩ := lintComment_eq_ok_iff.mp h
  refine lintComment_eq_ok_iff.mpr ⟨_, hb found hfound, mapM_filter ?_ h⟩
  intro a a' hmove
  obtain ⟨place, rfl⟩ := exists_moveTo_of_remapAnchoredOne hmove
  rfl

theorem lintCode_filter {queries : Option (List Comment.Query)}
    (hb : ∀ e, Comment.extract? l.languages t.ext queries (l.config.delimitersFor? t.path) text =
      .ok (some e) → ∀ c ∈ e.comments, l.FindsOnly s s' p (commentBlock t c))
    (h : (l.withRules s').lintCode t queries text = .ok as) :
    (l.withRules s).lintCode t queries text = .ok (Alert.ofChecks p as) := by
  obtain ⟨extraction, hextract, h⟩ := bind_eq_ok_iff.mp h
  refine bind_eq_ok_iff.mpr ⟨extraction, hextract, ?_⟩
  cases extraction with
  | none =>
    obtain rfl := pure_eq_ok_iff.mp h
    rfl
  | some e =>
    obtain ⟨found, hfound, h⟩ := bind_eq_ok_iff.mp h
    obtain rfl := pure_eq_ok_iff.mp h
    rw [Alert.ofChecks_flatten]
    exact bind_eq_ok_iff.mpr ⟨_, mapM_eq_ok_map
      (fun c hc as h => lintComment_filter (hb e hextract c hc) h) hfound, rfl⟩

theorem lintValues_filter {vs : List Text} {cursor : Cursor}
    (hb : ∀ v ∈ vs, Text.isBlank v = false → ∀ bs, l.formatBlocks t format name v = .ok bs →
      ∀ b ∈ bs, l.FindsOnly s s' p b)
    (h : (l.withRules s').lintValues t name format text cursor vs = .ok as) :
    (l.withRules s).lintValues t name format text cursor vs =
      .ok (Alert.ofChecks p as) := by
  induction vs generalizing cursor as with
  | nil =>
    obtain rfl := Except.ok.inj h
    rfl
  | cons v vs ih =>
    have hvs := fun x hx => hb x (List.mem_cons_of_mem v hx)
    rw [lintValues] at h ⊢
    cases hblank : Text.isBlank v with
    | true =>
      rw [hblank, if_pos rfl] at h
      rw [if_pos rfl]
      exact ih hvs h
    | false =>
      rw [hblank, if_neg Bool.false_ne_true] at h
      rw [if_neg Bool.false_ne_true]
      obtain ⟨found, hfound, h⟩ := bind_eq_ok_iff.mp h
      obtain ⟨moved, hmoved, h⟩ := bind_eq_ok_iff.mp h
      obtain ⟨rest, hrest, h⟩ := bind_eq_ok_iff.mp h
      obtain rfl := pure_eq_ok_iff.mp h
      have hfound := lintFormat_filter (hb v List.mem_cons_self hblank) hfound
      -- where an alert is moved to does not depend on the others
      have hmoved : movedOrFail (remapValue v text cursor t.path
          (Alert.ofChecks p found)) = .ok (Alert.ofChecks p moved) := by
        rw [remapValue, movedOrFail_moveEach] at hmoved ⊢
        refine mapM_filter ?_ hmoved
        intro a a' hmove
        obtain ⟨place, rfl⟩ := exists_moveTo_of_remapValueOne hmove
        rfl
      rw [Alert.ofChecks_append]
      exact bind_eq_ok_iff.mpr ⟨_, hfound, bind_eq_ok_iff.mpr ⟨_, hmoved,
        bind_eq_ok_iff.mpr ⟨_, ih hvs hrest, rfl⟩⟩⟩

theorem lintTarget_filter (hb : ∀ b, l.Extracts t text b → l.FindsOnly s s' p b)
    (h : (l.withRules s').lintTarget t text = .ok as) :
    (l.withRules s).lintTarget t text = .ok (Alert.ofChecks p as) := by
  -- rules have no say in the route
  have hroute : (l.withRules s').route t = l.route t := rfl
  have hroute' : (l.withRules s).route t = l.route t := rfl
  unfold Extracts at hb
  rw [lintTarget, hroute] at h
  rw [lintTarget, hroute']
  cases hr : l.route t with
  | skipped =>
    rw [hr] at h
    obtain rfl := Except.ok.inj h
    rfl
  | comments queries =>
    rw [hr] at h hb
    exact lintCode_filter (fun e he c hc => hb _ ⟨e, he, c, hc, rfl⟩) h
  | values blueprint =>
    rw [hr] at h hb
    obtain ⟨found, hfound, h⟩ := bind_eq_ok_iff.mp h
    obtain ⟨parts, hparts, h⟩ := bind_eq_ok_iff.mp h
    obtain rfl := pure_eq_ok_iff.mp h
    rw [Alert.ofChecks_flatten]
    refine bind_eq_ok_iff.mpr ⟨found, hfound, bind_eq_ok_iff.mpr ⟨_, ?_, rfl⟩⟩
    refine mapM_eq_ok_map ?_ hparts
    intro f hf as has
    refine lintValues_filter ?_ has
    intro v hv hblank bs hbs b hbmem
    exact hb b ⟨found, hfound, f, hf, v, hv, hblank, bs, hbs, hbmem⟩
  | prose format =>
    rw [hr] at h hb
    exact lintFormat_filter (fun bs hbs b hbmem => hb b ⟨bs, hbs, hbmem⟩) h
  | missing blueprint =>
    rw [hr] at h
    cases h

/-- Alerts are dropped and sorted after the rules ran, each by what it is alone. -/
theorem lint_filter {path : Text} (hlevel : s.minLevel = s'.minLevel)
    (hb : ∀ b, l.Extracts (l.target path) text b → l.FindsOnly s s' p b)
    (h : (l.withRules s').lint path text = .ok as) :
    (l.withRules s).lint path text = .ok (Alert.ofChecks p as) := by
  obtain ⟨found, hfound, h⟩ := bind_eq_ok_iff.mp h
  obtain rfl := pure_eq_ok_iff.mp h
  refine bind_eq_ok_iff.mpr ⟨_, lintTarget_filter hb hfound, pure_eq_ok_iff.mpr ?_⟩
  -- the level is looked at first, but either way both tests decide
  have hmin : (l.withRules s).rules.minLevel = (l.withRules s').rules.minLevel := hlevel
  rw [Alert.ofChecks_sort, hmin]
  simp only [Alert.ofChecks, List.filter_filter, Bool.and_comm]

end Filter

end Copydesk.Linter
