import Copydesk.Proofs.Filter
import Copydesk.Proofs.Filter.Derivation
import Copydesk.Proofs.Filter.Lexemes

/-! Whether a filter looks at levels is read off its text: `.Level` stands there exactly where a field
that begins so is written with its dot, or within the quotes of a string. Of the fields of the
expression that misses `#Level` and mistakes longer names and strings for it, and nothing else. -/

namespace Copydesk.Filter

open Text Outcome
open Copydesk.Filter.Expr (ofTokens MayFollow Derives fieldName? operatorWords)

def levelName : Text := ['L', 'e', 'v', 'e', 'l']

def levelMark : Text := '.' :: levelName

def ShowsLevel : Text × Token → Prop
  | (w, .field n) => (w = '.' :: n ∨ w = '#' :: '.' :: n) ∧ levelName <+: n
  | (w, .str _) => levelMark <:+: w
  | _ => False

/-- What is told from the text would be right of this token: `Level` is written with a dot, no other
field begins so, and no string holds `.Level`. -/
def IsTelling : Text × Token → Prop
  | (w, .field n) => (n = levelName → w ≠ '#' :: n) ∧ (levelName <+: n → n = levelName)
  | (w, .str _) => ¬levelMark <:+: w
  | _ => True

section Tokens

variable {w rest u v n t : Text} {tok : Token} {ls : List (Text × Token)}

theorem not_infix_of_chars {p : Char → Bool} (hp : p '.' = false) (h : ∀ c ∈ w, p c = true) :
    ¬levelMark <:+: w := by
  intro hlies
  have hdot := h '.' (hlies.subset (by decide))
  rw [hp] at hdot
  cases hdot

theorem infix_field_iff (hrun : Token.IsRun n rest) (mark : FieldMark) :
    levelMark <:+: mark.text ++ n ↔ ShowsLevel (mark.text ++ n, .field n) := by
  have hname : ¬levelMark <:+: n := not_infix_of_chars (by decide) hrun.chars
  have hdot : levelMark <:+: '.' :: n ↔ levelName <+: n := by
    rw [List.infix_cons_iff, or_iff_left hname]
    exact List.prefix_cons_inj '.'
  have hhash (t : Text) : levelMark <:+: '#' :: t ↔ levelMark <:+: t := by
    rw [List.infix_cons_iff, or_iff_right]
    exact fun h => absurd (List.cons_prefix_cons.mp h).1 (by decide)
  have hne : '#' :: n ≠ '#' :: '.' :: n := fun h => by
    have hlength := congrArg List.length h
    simp only [List.length_cons] at hlength
    omega
  cases mark with
  | dot =>
    refine hdot.trans ⟨fun h => ⟨.inl rfl, h⟩, And.right⟩
  | hash =>
    refine (hhash n).trans ⟨fun h => absurd h hname, fun h => ?_⟩
    rcases h.1 with h | h
    · exact absurd (List.cons.inj h).1 (by decide)
    · exact absurd h hne
  | hashDot =>
    refine (hhash ('.' :: n)).trans (hdot.trans ⟨fun h => ⟨.inr rfl, h⟩, And.right⟩)

theorem infix_iff_showsLevel (h : tok.IsSpelled rest w) :
    levelMark <:+: w ↔ ShowsLevel (w, tok) := by
  have hnone (hno : ¬levelMark <:+: w) : levelMark <:+: w ↔ False := iff_false_intro hno
  have hmarks (hw : ∀ c ∈ w, c ∈ Token.marks) : ¬levelMark <:+: w := fun hlies =>
    absurd (hw '.' (hlies.subset (by decide))) (by decide)
  cases tok with
  | field n =>
    obtain ⟨⟨mark, rfl⟩, hrun⟩ := h
    exact infix_field_iff hrun mark
  | ident n =>
    obtain ⟨rfl, hrun⟩ := h
    exact hnone (not_infix_of_chars (by decide) hrun.chars)
  | str s => rfl
  | num x =>
    refine hnone fun hlies => ?_
    exact absurd (h.2 'L' (hlies.subset (by decide))) (by decide)
  | _ => exact hnone (hmarks h.2)

theorem exists_ident_of_lexed (h : Lexed ('L' :: t) ls) :
    ∃ w n ls', ls = (w, .ident ('L' :: n)) :: ls' := by
  cases h with
  | blank hc h => exact absurd hc (by decide)
  | token hc hnext hw hspelled h =>
    rw [Token.next_of_isNameStart (by decide)] at hnext
    obtain ⟨rfl, -⟩ := Prod.mk.inj (Except.ok.inj hnext)
    exact ⟨_, _, _, rfl⟩

theorem not_suffix_quoted {quote : Char} (hquote : quote ∈ Token.quotes) (body : Text)
    (huv : levelMark = '.' :: u ++ v) : ¬('.' :: u <:+ quote :: (body ++ [quote])) := by
  intro hw
  have hlast : ('.' :: u).getLast (List.cons_ne_nil '.' u) = quote := by
    rw [hw.getLast]
    exact List.getLast_append_singleton (quote :: body)
  have hmem : quote ∈ levelMark := by
    rw [huv, ← hlast]
    exact List.mem_append_left _ (List.getLast_mem _)
  have hno : ∀ q ∈ Token.quotes, q ∉ levelMark := by
    simp [Token.quotes, levelMark, levelName]
  exact hno quote hquote hmem

theorem not_isChain_num_level {x : Float} (h : Lexed (levelName ++ t) ls) :
    ¬(.num x :: ls.map Prod.snd).IsChain MayFollow := by
  intro hchain
  obtain ⟨w, n, ls', rfl⟩ := exists_ident_of_lexed h
  have hword : 'L' :: n ∈ operatorWords := (List.isChain_cons_cons.mp hchain).1
  have hno : ∀ w ∈ operatorWords, w.head? ≠ some 'L' := by decide
  exact hno _ hword rfl

/-- `.Level` does not reach from one token into what follows. A number may end in a dot, but the word
that `Level` would be cannot follow it. -/
theorem not_straddles (h : tok.IsSpelled rest w) (hls : Lexed rest ls)
    (hchain : (tok :: ls.map Prod.snd).IsChain MayFollow) (huv : levelMark = u ++ v) (hu : u ≠ [])
    (hv : v ≠ []) (hw : u <:+ w) (hrest : v <+: rest) : False := by
  obtain ⟨x, u, rfl⟩ := List.exists_cons_of_ne_nil hu
  obtain ⟨y, v, rfl⟩ := List.exists_cons_of_ne_nil hv
  obtain ⟨rfl, hlevel⟩ := List.cons.inj huv
  obtain ⟨r, rfl⟩ := hrest
  have hy : y ∈ levelName := by
    rw [hlevel]
    exact List.mem_append_right u List.mem_cons_self
  have hrun {n : Text} (hrun : Token.IsRun n (y :: v ++ r)) : False := by
    have hname : levelName.all (fun c => c.isAlphanum || c == '_') = true := by rfl
    have hstop := hrun.stop y rfl
    rw [Token.isNameChar_of_isAlphanum (List.all_eq_true.mp hname y hy)] at hstop
    cases hstop
  have hmarks (hmarks : ∀ c ∈ w, c ∈ Token.marks) : False :=
    absurd (hmarks '.' (hw.subset List.mem_cons_self)) (by decide)
  cases tok with
  | field n => exact hrun h.2
  | ident n => exact hrun h.2
  | str s =>
    obtain ⟨quote, hquote, body, rfl⟩ := h
    exact not_suffix_quoted hquote body huv hw
  | num x =>
    -- only the dot can be the number's, so that the whole name is in what follows
    cases u with
    | cons c u =>
      obtain ⟨rfl, -⟩ := List.cons.inj hlevel
      have hL := h.2 'L' (hw.subset (by simp))
      exact absurd hL (by decide)
    | nil =>
      change levelName = y :: v at hlevel
      rw [← hlevel] at hls
      exact not_isChain_num_level hls hchain
  | _ => exact hmarks h.2

/-- `.Level` stands in a text exactly where it stands in a token of the text. -/
theorem infix_iff_exists_of_lexed (h : Lexed t ls) (hchain : (ls.map Prod.snd).IsChain MayFollow) :
    levelMark <:+: t ↔ ∃ l ∈ ls, ShowsLevel l := by
  induction h with
  | nil =>
    refine ⟨fun h => ?_, nofun⟩
    exact absurd (List.infix_nil.mp h) (List.cons_ne_nil _ _)
  | blank hc _ ih =>
    rw [List.infix_cons_iff, or_iff_right, ih hchain]
    intro h
    obtain ⟨rfl, -⟩ := List.cons_prefix_cons.mp h
    exact absurd hc (by decide)
  | @token at' c t w rest tok ls hc hnext hw hspelled hls ih =>
    have hrest := ih hchain.tail
    have hwithin := infix_iff_showsLevel hspelled
    simp only [List.mem_cons, exists_eq_or_imp, ← hwithin, ← hrest]
    rw [hw, List.infix_append_iff]
    refine ⟨?_, Or.imp_right .inl⟩
    rintro (h | h | ⟨u, v, huv, hu, hv⟩)
    · exact .inl h
    · exact .inr h
    · by_cases hu' : u = []
      · subst hu'
        exact .inr (huv ▸ hv.isInfix)
      · by_cases hv' : v = []
        · subst hv'
          rw [List.append_nil] at huv
          exact .inl (huv ▸ hu.isInfix)
        · exact (not_straddles hspelled hls hchain huv hu' hv' hu hv).elim

theorem Lexed.written (h : Lexed t ls) (hmem : (w, .field n) ∈ ls) :
    w = '.' :: n ∨ w = '#' :: n ∨ w = '#' :: '.' :: n := by
  induction h with
  | nil => cases hmem
  | blank _ _ ih => exact ih hmem
  | token _ _ _ hspelled _ ih =>
    rcases List.mem_cons.mp hmem with heq | hmem
    · obtain ⟨rfl, rfl⟩ := Prod.mk.inj heq
      obtain ⟨⟨mark, rfl⟩, -⟩ := hspelled
      cases mark with
      | dot => exact .inl rfl
      | hash => exact .inr (.inl rfl)
      | hashDot => exact .inr (.inr rfl)
    · exact ih hmem

end Tokens

section Filters

variable {source : Text} {f : Filter}

/-- What `referencesLevel` tells of a filter that was read from `source`, lexeme by lexeme. -/
structure TellsLevel (source : Text) (f : Filter) (ls : List (Text × Token)) : Prop where
  lexed : Lexed source ls
  derives : Derives (ls.map Prod.snd) f.expr
  fields : f.expr.fields = ls.filterMap fun l => fieldName? l.2
  shown : f.referencesLevel = true ↔ ∃ l ∈ ls, ShowsLevel l
  /-- A field `Level` that is not noticed is written with `#` alone wherever it stands. -/
  missed : f.referencesLevel = false → ∀ w, (w, .field levelName) ∈ ls → w = '#' :: levelName
  /-- Without a field `Level` only a longer name or a string is taken for it. -/
  mistaken : f.referencesLevel = true → levelName ∉ f.expr.fields →
    ∃ l ∈ ls, ShowsLevel l ∧ ((∃ n, l.2 = .field (levelName ++ n) ∧ n ≠ []) ∨ ∃ s, l.2 = .str s)
  agrees : (∀ l ∈ ls, IsTelling l) → (f.referencesLevel = true ↔ levelName ∈ f.expr.fields)

theorem exists_tokens_of_compile (h : compile source = .ok f) :
    ∃ toks, tokenize source = .ok toks ∧ ofTokens toks = .ok f.expr := by
  unfold compile at h
  split at h
  · rename_i e he
    obtain ⟨toks, htoks, hread⟩ := bind_eq_ok_iff.mp he
    obtain rfl := Except.ok.inj h
    exact ⟨toks, htoks, hread⟩
  · cases h

theorem mem_filterMap_fieldName_iff {n : Text} {ls : List (Text × Token)} :
    n ∈ ls.filterMap (fun l => fieldName? l.2) ↔ ∃ w, (w, .field n) ∈ ls := by
  simp only [List.mem_filterMap, Prod.exists]
  constructor
  · rintro ⟨w, tok, hl, hname⟩
    cases tok with
    | field m => exact ⟨w, Option.some.inj hname ▸ hl⟩
    | _ => cases hname
  · rintro ⟨w, hl⟩
    exact ⟨w, _, hl, rfl⟩

theorem tellsLevel (h : compile source = .ok f) : ∃ ls, TellsLevel source f ls := by
  obtain ⟨toks, htoks, hread⟩ := exists_tokens_of_compile h
  obtain ⟨ls, hlexed, rfl⟩ := exists_lexed_of_tokenize htoks
  have hderives := Expr.derives_of_ofTokens hread
  have hshown : f.referencesLevel = true ↔ ∃ l ∈ ls, ShowsLevel l :=
    (referencesLevel_iff h).trans (infix_iff_exists_of_lexed hlexed hderives.isChain)
  have hfields : f.expr.fields = ls.filterMap fun l => fieldName? l.2 := by
    rw [hderives.fields_eq, List.filterMap_map]
    rfl
  have hmem : levelName ∈ f.expr.fields ↔ ∃ w, (w, .field levelName) ∈ ls := by
    rw [hfields]
    exact mem_filterMap_fieldName_iff
  refine ⟨ls, hlexed, hderives, hfields, hshown, ?missed, ?mistaken, ?agrees⟩
  case missed =>
    intro hfalse w hl
    have hno : ¬ShowsLevel (w, .field levelName) := by
      intro hshows
      have htrue := hshown.mpr ⟨_, hl, hshows⟩
      rw [htrue] at hfalse
      cases hfalse
    -- of the three spellings only the one without a dot does not show
    rcases hlexed.written hl with rfl | rfl | rfl
    · exact absurd ⟨.inl rfl, List.prefix_rfl⟩ hno
    · rfl
    · exact absurd ⟨.inr rfl, List.prefix_rfl⟩ hno
  case mistaken =>
    intro htrue hnot
    obtain ⟨⟨w, tok⟩, hl, hshows⟩ := hshown.mp htrue
    refine ⟨(w, tok), hl, hshows, ?_⟩
    cases tok with
    | field n =>
      obtain ⟨-, r, rfl⟩ := hshows
      refine .inl ⟨r, rfl, ?_⟩
      rintro rfl
      rw [List.append_nil] at hl
      exact hnot (hmem.mpr ⟨w, hl⟩)
    | str s => exact .inr ⟨s, rfl⟩
    | _ => exact hshows.elim
  case agrees =>
    intro htelling
    rw [hshown, hmem]
    constructor
    · rintro ⟨⟨w, tok⟩, hl, hshows⟩
      have htell := htelling _ hl
      cases tok with
      | field n => exact ⟨w, htell.2 hshows.2 ▸ hl⟩
      | str s => exact absurd hshows htell
      | _ => exact hshows.elim
    · rintro ⟨w, hl⟩
      have htell := (htelling _ hl).1 rfl
      rcases hlexed.written hl with rfl | rfl | rfl
      · exact ⟨_, hl, .inl rfl, List.prefix_rfl⟩
      · exact absurd rfl htell
      · exact ⟨_, hl, .inr rfl, List.prefix_rfl⟩

/-- What a text compiles to can be looked at where its numbers cannot be compared. -/
theorem exists_of_looks {names : List Text} {told : Bool}
    (h : (compile source).toOption.map (fun f => (f.expr.fields, f.referencesLevel)) =
      some (names, told)) :
    ∃ f, compile source = .ok f ∧ f.expr.fields = names ∧ f.referencesLevel = told := by
  obtain ⟨f, hf, heq⟩ := Option.map_eq_some_iff.mp h
  obtain ⟨hnames, htold⟩ := Prod.mk.inj heq
  exact ⟨f, toOption_eq_some_iff.mp hf, hnames, htold⟩

theorem tellsLevel_hash : ∃ f, compile "#Level == \"error\" and .Name == 'a'" = .ok f ∧
    f.expr.fields = ["Level".toList, "Name".toList] ∧ f.referencesLevel = false ∧
    ∃ ls, TellsLevel "#Level == \"error\" and .Name == 'a'" f ls := by
  have hlooks : (compile "#Level == \"error\" and .Name == 'a'").toOption.map
      (fun f => (f.expr.fields, f.referencesLevel)) =
        some (["Level".toList, "Name".toList], false) := by decide +kernel
  obtain ⟨f, hf, hfields, htold⟩ := exists_of_looks hlooks
  exact ⟨f, hf, hfields, htold, tellsLevel hf⟩

/-- A field written with `#` alone is not noticed, and a string is taken for a field. -/
theorem referencesLevel_misled :
    (∃ f, compile "#Level == \"error\"" = .ok f ∧ f.expr.fields = ["Level".toList] ∧
      f.referencesLevel = false) ∧
    ∃ f, compile ".Name == \".Level\"" = .ok f ∧ f.expr.fields = ["Name".toList] ∧
      f.referencesLevel = true :=
  ⟨exists_of_looks (by decide +kernel), exists_of_looks (by decide +kernel)⟩

end Filters

end Copydesk.Filter
