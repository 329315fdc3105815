import Copydesk.Proofs.Data.Object
import Copydesk.Proofs.Regex.Folded
import Copydesk.Proofs.Rule.Attribution
import Copydesk.Rule.Builtin
import Copydesk.Rule.Check

/-! The rule that is made of a vocabulary. Its keys are the lower-cased terms, and of terms with one
lower-cased form the last gives the spelling. What is found is a key up to case, and reported if it is
not the spelling to the letter. -/

namespace Copydesk.Rule

open Regex Reader Text

section Lower

variable {t before : Text} {c d : Char}

theorem mem_lowerFrom (hc : c ∈ t) (hsigma : c ≠ 'Σ') (hd : d ∈ Unicode.lowerChar c) :
    d ∈ lowerFrom before t := by
  induction t generalizing before with
  | nil => cases hc
  | cons b t ih =>
    rw [lowerFrom]
    rcases List.mem_cons.mp hc with rfl | hc
    · rw [if_neg hsigma]
      exact List.mem_append_left _ hd
    · exact List.mem_append_right _ (ih hc)

/-- No character of the lower-cased term means anything in an expression. -/
def IsPlain (term : Text) : Prop := ∀ c ∈ toLower term, c ∉ metaChars

instance (term : Text) : Decidable (IsPlain term) := List.decidableBAll _ _

theorem mem_lowerChar_of_metaChar (hc : c ∈ metaChars) : c ≠ 'Σ' ∧ c ∈ Unicode.lowerChar c := by
  have hascii : c ≠ 'Σ' ∧ c.toNat < 128 ∧ c.toLower = c := by
    rcases mem_metaChars_iff.mp hc with rfl | rfl | rfl | rfl | rfl | rfl | rfl | rfl | rfl | rfl |
      rfl | rfl | rfl | rfl | rfl | rfl | rfl | rfl <;> decide
  refine ⟨hascii.1, ?_⟩
  rw [Unicode.lowerChar, if_pos hascii.2.1, hascii.2.2]
  exact List.mem_singleton_self c

theorem IsPlain.not_mem (h : IsPlain t) (hc : c ∈ metaChars) : c ∉ t := by
  intro hmem
  obtain ⟨hsigma, hlower⟩ := mem_lowerChar_of_metaChar hc
  exact h c (mem_lowerFrom hmem hsigma hlower) hc

theorem toLower_of_ascii (h : ∀ c ∈ t, c.toNat < 128) : toLower t = t.map Char.toLower := by
  suffices hall : ∀ before, lowerFrom before t = t.map Char.toLower from hall []
  induction t with
  | nil => exact fun _ => rfl
  | cons c t ih =>
    obtain ⟨hc, ht⟩ := List.forall_mem_cons.mp h
    have hsigma : c ≠ 'Σ' := by
      rintro rfl
      exact absurd hc (by decide)
    intro before
    rw [lowerFrom, if_neg hsigma, Unicode.lowerChar, if_pos hc, ih ht]
    rfl

theorem isPlain_of_ascii (hall : t.all (fun c => c.isAlphanum || c == ' ') = true) : IsPlain t := by
  have h : ∀ c ∈ t, c.isAlphanum = true ∨ c = ' ' := by simpa using hall
  have hascii : ∀ c ∈ t, c.toNat < 128 := by
    intro c hc
    rcases h c hc with hword | rfl
    · simp only [Char.isAlphanum, Char.isAlpha, Char.isUpper, Char.isLower, Char.isDigit,
        Bool.or_eq_true, Bool.and_eq_true, decide_eq_true_eq, UInt32.le_iff_toNat_le,
        ge_iff_le] at hword
      change (((65 ≤ c.toNat ∧ c.toNat ≤ 90) ∨ (97 ≤ c.toNat ∧ c.toNat ≤ 122)) ∨
        (48 ≤ c.toNat ∧ c.toNat ≤ 57)) at hword
      omega
    · decide
  have hlower : ∀ n < 128, (Char.ofNat n).isAlphanum = true ∨ Char.ofNat n = ' ' →
      (Char.ofNat n).toLower ∉ metaChars := by decide +kernel
  intro d hd
  rw [toLower_of_ascii hascii] at hd
  obtain ⟨c, hc, rfl⟩ := List.mem_map.mp hd
  have hnot := hlower c.toNat (hascii c hc)
  rw [Char.ofNat_toNat] at hnot
  exact hnot (h c hc)

end Lower

section Spellings

variable {α : Type} {accepted : List Text} {key : Text} {a : α} {e : Text × α}
  {fields : List (Text × α)}

theorem keys_put : (Data.put key a fields).map Prod.fst =
    if key ∈ fields.map Prod.fst then fields.map Prod.fst else fields.map Prod.fst ++ [key] := by
  induction fields with
  | nil => rfl
  | cons f fields ih =>
    by_cases hkey : f.1 = key
    · subst hkey
      simp [Data.put]
    · have hput : Data.put key a (f :: fields) = f :: Data.put key a fields := if_neg hkey
      rw [hput, List.map_cons, ih]
      by_cases hmem : key ∈ fields.map Prod.fst
      · simp [hmem]
      · simp [hmem, Ne.symm hkey]

theorem nodup_put (h : (fields.map Prod.fst).Nodup) :
    ((Data.put key a fields).map Prod.fst).Nodup := by
  rw [keys_put]
  split
  · exact h
  · rename_i hkey
    refine List.nodup_append.mpr ⟨h, List.nodup_singleton key, fun k hk k' hk' heq => ?_⟩
    rw [heq, List.mem_singleton.mp hk'] at hk
    exact hkey hk

theorem mem_put (h : (fields.map Prod.fst).Nodup) (he : e ∈ Data.put key a fields) :
    e = (key, a) ∨ e ∈ fields ∧ e.1 ≠ key := by
  induction fields with
  | nil => exact .inl (List.mem_singleton.mp he)
  | cons f fields ih =>
    obtain ⟨hnot, hrest⟩ := List.nodup_cons.mp h
    by_cases hkey : f.1 = key
    · have hput : Data.put key a (f :: fields) = (f.1, a) :: fields := if_pos hkey
      rw [hput, hkey] at he
      rcases List.mem_cons.mp he with rfl | he
      · exact .inl rfl
      · refine .inr ⟨List.mem_cons_of_mem f he, fun heq => hnot ?_⟩
        rw [hkey, ← heq]
        exact List.mem_map_of_mem he
    · have hput : Data.put key a (f :: fields) = f :: Data.put key a fields := if_neg hkey
      rw [hput] at he
      rcases List.mem_cons.mp he with rfl | he
      · exact .inr ⟨List.mem_cons_self, hkey⟩
      · exact (ih hrest he).imp_right fun h => ⟨List.mem_cons_of_mem f h.1, h.2⟩

/-- The last of the accepted terms with its lower-cased form. -/
def IsSpelling (accepted : List Text) (term : Text) : Prop :=
  ∃ before after, accepted = before ++ term :: after ∧ ∀ u ∈ after, toLower u ≠ toLower term

theorem IsSpelling.mem {term : Text} (h : IsSpelling accepted term) : term ∈ accepted := by
  obtain ⟨before, after, rfl, -⟩ := h
  exact List.mem_append_right before List.mem_cons_self

theorem mem_spellings {e : Text × Text} (h : e ∈ Builtin.spellings accepted) :
    e.1 = toLower e.2 ∧ IsSpelling accepted e.2 := by
  rw [Builtin.spellings, List.mem_mergeSort] at h
  -- on the terms from the first to the last, with the keys that are there so far
  suffices hall : ∀ seen : List Text,
      let m : List (Text × Text) := seen.foldl (fun m t => Data.put (toLower t) t m) []
      (m.map Prod.fst).Nodup ∧ ∀ e ∈ m, e.1 = toLower e.2 ∧ IsSpelling seen e.2 from
    (hall accepted).2 e h
  intro seen
  induction seen using List.reverseRecOn with
  | nil => exact ⟨List.nodup_nil, by simp⟩
  | append_singleton seen term ih =>
    obtain ⟨hkeys, hlast⟩ := ih
    rw [List.foldl_append]
    refine ⟨nodup_put hkeys, fun e he => ?_⟩
    rcases mem_put hkeys he with rfl | ⟨hold, hkey⟩
    · exact ⟨rfl, seen, [], rfl, by simp⟩
    · obtain ⟨hlower, before, after, hseen, hafter⟩ := hlast e hold
      refine ⟨hlower, before, after ++ [term], ?_, ?_⟩
      · rw [hseen, List.append_assoc, List.cons_append]
      · intro u hu
        rcases List.mem_append.mp hu with hu | hu
        · exact hafter u hu
        · obtain rfl := List.mem_singleton.mp hu
          exact fun heq => hkey (hlower.trans heq.symm)

end Spellings

section Texts

variable {k : Text}

theorem uncapture_of_plain (h : ∀ c ∈ k, c ∉ metaChars) : uncapture k = k := by
  unfold uncapture
  induction k with
  | nil => rfl
  | cons c k ih =>
    obtain ⟨hc, hk⟩ := List.forall_mem_cons.mp h
    simp only [mem_metaChars_iff, not_or] at hc
    unfold uncaptureFrom
    split
    · contradiction
    · split
      case h_5 => rw [ih hk]
      all_goals simp at hc

theorem optionPieces_of_plain (hbar : '|' ∉ k) (hslash : '\\' ∉ k) : optionPieces k = [k] := by
  induction k with
  | nil => rfl
  | cons c k ih =>
    rw [List.mem_cons, not_or] at hbar hslash
    have hrest := ih hbar.2 hslash.2
    unfold optionPieces
    split
    · rename_i heq
      cases heq
    · rename_i heq
      exact absurd (List.cons.inj heq).1.symm hslash.1
    · rename_i heq
      obtain ⟨rfl, rfl⟩ := List.cons.inj heq
      rw [if_neg (Ne.symm hbar.1), hrest]

theorem IsPlain.options_eq (h : IsPlain k) (hne : k ≠ []) : options k = [k] := by
  have hbar : '|' ∉ k := h.not_mem (by decide)
  have hslash : '\\' ∉ k := h.not_mem (by decide)
  rw [options, optionPieces_of_plain hbar hslash]
  refine List.filter_cons_of_pos ?_
  simpa using hne

theorem formatMessage_terms (term found : Text) :
    formatMessage "Use '%s' instead of '%s'." [term, found] =
      "Use '".toList ++ (term ++ ("' instead of '".toList ++ (found ++ "'.".toList))) := by
  rfl

end Texts

section Rule

def vocabulary (accepted : List Text) : Substitution where
  swap := Builtin.spellings accepted
  ignoreCase := true

variable {accepted : List Text} {d : Definition} {c : Check} {r : Regex} {t : Text} {m : Match}

theorem exists_of_compile (hd : Builtin.terms? accepted = some d) (hc : Check.compile d = .ok c) :
    ∃ r, c = ⟨d, .substitution (vocabulary accepted) r⟩ ∧
      d.regex (vocabulary accepted).pattern true = .ok r ∧
        d.message = "Use '%s' instead of '%s'.".toList := by
  unfold Builtin.terms? at hd
  split at hd
  · cases hd
  · obtain rfl := Option.some.inj hd
    obtain ⟨compiled, hkind, hpure⟩ := Outcome.bind_eq_ok_iff.mp hc
    obtain rfl := Outcome.pure_eq_ok_iff.mp hpure
    obtain ⟨-, hregex⟩ := Outcome.unless_bind_eq_ok_iff.mp hkind
    obtain ⟨r, hr, hpure⟩ := Outcome.bind_eq_ok_iff.mp hregex
    obtain rfl := Outcome.pure_eq_ok_iff.mp hpure
    exact ⟨r, rfl, hr, rfl⟩

/-- Keys as they are read, without groups of their own. -/
def literals : List (Text × Text) → List (Node × Nat) := List.map fun e => (.ofList (folded e.1), 0)

theorem groupCount_literals (es : List (Text × Text)) : groupCount (literals es) = es.length := by
  induction es with
  | nil => rfl
  | cons e es ih =>
    have hcons : groupCount (literals (e :: es)) = 0 + 1 + groupCount (literals es) := rfl
    rw [hcons, ih, List.length_cons]
    omega

theorem root_vocabulary (hplain : ∀ term ∈ accepted, IsPlain term)
    (hr : d.regex (vocabulary accepted).pattern true = .ok r) :
    r.root = Node.framed false (groupsFrom 0 (literals (vocabulary accepted).pairs)) ∧
      r.groups = groupCount (literals (vocabulary accepted).pairs) := by
  refine Substitution.root_of_readsAs (s := vocabulary accepted) ?_ hr
  rw [literals, List.forall₂_map_left_iff, List.forall₂_map_right_iff, List.forall₂_same]
  intro e he
  obtain ⟨hkey, hspelling⟩ := mem_spellings (List.mem_mergeSort.mp he)
  have hchars : ∀ c ∈ e.1, c ∉ metaChars := hkey ▸ hplain e.2 hspelling.mem
  have hquestion : '?' ∈ metaChars := by decide
  rw [uncapture_of_plain hchars]
  refine ⟨fun hhead => ?_, readsAs_folded rfl rfl rfl hchars⟩
  exact hchars '?' (List.mem_of_mem_head? hhead) hquestion

/-- What becomes of a match: the term that it is found by is suggested for it, unless it is the term
itself. -/
structure IsFinding (accepted : List Text) (d : Definition) (t : Text) (m : Match) (term : Text)
    (found : Option Alert) : Prop where
  spelling : IsSpelling accepted term
  alike : Alike (toLower term) (m.text t)
  silent : m.text t = term → found = none
  alert : m.text t ≠ term → found = some (d.alert t m.start m.stop [term, m.text t])

theorem accepts_vocabulary_iff {term observed : Text} (hplain : IsPlain term) (hne : term ≠ []) :
    (vocabulary accepted).Accepts term observed ↔ observed = term := by
  rw [Substitution.Accepts, hplain.options_eq hne, List.mem_singleton]
  simp [vocabulary]

theorem exists_isFinding (hplain : ∀ term ∈ accepted, IsPlain term)
    (hr : d.regex (vocabulary accepted).pattern true = .ok r) (hm : m ∈ r.findAll t)
    (hne : m.isEmpty = false) : ∃ term, IsFinding accepted d t m term
      ((vocabulary accepted).alertOf? d r ((vocabulary accepted).pairs.map (·.2)) t m) := by
  obtain ⟨hroot, hgroups⟩ := root_vocabulary hplain hr
  obtain ⟨pre, rest, q, firsts, part, others, m₀, ht, hsplit, -, hpart, hshift, hindex⟩ :=
    Substitution.exists_alternative hroot hgroups hm hne
  obtain ⟨before, l, hpairs, rfl, hl⟩ := List.map_eq_append_iff.mp hsplit
  obtain ⟨e, after, rfl, rfl, rfl⟩ := List.map_eq_cons_iff.mp hl
  obtain ⟨u, v, rfl, hu, hstart, hstop⟩ := Node.exists_of_framed_folded hpart
  have htext : m.text t = u := by
    rw [hshift, Match.text, Match.shift, hstart, hstop, ht]
    exact slice_between pre u v
  have hmem : e ∈ (vocabulary accepted).pairs := by
    rw [hpairs]
    exact List.mem_append_right before List.mem_cons_self
  obtain ⟨hkey, hspelling⟩ := mem_spellings (List.mem_mergeSort.mp hmem)
  have hterm : e.2 ≠ [] := by
    intro hnil
    rw [hkey, hnil] at hu
    have hsame : m.start = m.stop := by
      rw [hshift, Match.shift, hstart, hstop, List.forall₂_nil_left_iff.mp hu, List.append_nil]
    exact Bool.false_ne_true (hne.symm.trans (beq_iff_eq.mpr hsame))
  -- no key has groups of its own, so that the number of the group is that of the key
  have hvalue : (vocabulary accepted).pairs[groupCount (literals before)]? = some e := by
    rw [groupCount_literals, hpairs]
    simp
  obtain ⟨hsilent, halert⟩ := Substitution.reports_of_keyIndex? (s := vocabulary accepted) (d := d)
    (t := t) hne hindex hvalue
  have hown := hplain e.2 hspelling.mem
  rw [accepts_vocabulary_iff hown hterm] at hsilent halert
  rw [hown.options_eq hterm, join_singleton] at halert
  refine ⟨e.2, hspelling, ?_, hsilent, halert⟩
  rw [htext, ← hkey]
  exact hu

/-- No two accepted terms are the same up to case. -/
def IsUnambiguous (accepted : List Text) : Prop :=
  ∀ term ∈ accepted, ∀ u ∈ accepted, Alike (toLower term) u → u = term

/-- What the rule of a vocabulary reports in any text. -/
structure SuggestsAccepted (accepted : List Text) (c : Check) : Prop where
  /-- A finding is an accepted term up to case, but not to the letter. Of the terms that differ only in
  case the last is meant. -/
  other : ∀ provider t, ∀ a ∈ c.run provider t, ∃ term, IsSpelling accepted term ∧
    Alike (toLower term) a.matched ∧ a.matched ≠ term ∧ a.message =
      "Use '".toList ++ (term ++ ("' instead of '".toList ++ (a.matched ++ "'.".toList)))
  spares : IsUnambiguous accepted → ∀ provider t, ∀ a ∈ c.run provider t, a.matched ∉ accepted
  /-- Each match that is not empty is a term to the letter or reported. -/
  found : ∀ s r, c.compiled = .substitution s r → ∀ provider t, ∀ m ∈ r.findAll t,
    m.isEmpty = false → m.text t ∈ accepted ∨ ∃ a ∈ c.run provider t, a.matched = m.text t

theorem isEmpty_eq_false_of_alertOf? {s : Substitution} {values : List Text} {a : Alert}
    (h : s.alertOf? d r values t m = some a) : m.isEmpty = false := by
  unfold Substitution.alertOf? at h
  split at h
  · cases h
  · rename_i hempty
    exact Bool.eq_false_iff.mpr hempty

theorem exists_term_of_mem_run {a : Alert} (hplain : ∀ term ∈ accepted, IsPlain term)
    (hr : d.regex (vocabulary accepted).pattern true = .ok r)
    (hmessage : d.message = "Use '%s' instead of '%s'.".toList)
    (ha : a ∈ (vocabulary accepted).run d r t) : ∃ term, IsSpelling accepted term ∧
      Alike (toLower term) a.matched ∧ a.matched ≠ term ∧ a.message =
        "Use '".toList ++ (term ++ ("' instead of '".toList ++ (a.matched ++ "'.".toList))) := by
  obtain ⟨m, hm, halert⟩ := List.mem_filterMap.mp ha
  have hne := isEmpty_eq_false_of_alertOf? halert
  obtain ⟨term, hfinding⟩ := exists_isFinding hplain hr hm hne
  have hdiffers : m.text t ≠ term := by
    intro heq
    rw [hfinding.silent heq] at halert
    cases halert
  rw [hfinding.alert hdiffers] at halert
  obtain rfl := Option.some.inj halert
  refine ⟨term, hfinding.spelling, hfinding.alike, hdiffers, ?_⟩
  change formatMessage d.message [term, m.text t] = _
  rw [hmessage, formatMessage_terms]
  rfl

theorem suggestsAccepted (hplain : ∀ term ∈ accepted, IsPlain term)
    (hd : Builtin.terms? accepted = some d) (hc : Check.compile d = .ok c) :
    SuggestsAccepted accepted c := by
  obtain ⟨r, rfl, hr, hmessage⟩ := exists_of_compile hd hc
  refine ⟨?other, ?spares, ?found⟩
  case other => exact fun provider t a ha => exists_term_of_mem_run hplain hr hmessage ha
  case spares =>
    intro hunambiguous provider t a ha haccepted
    obtain ⟨term, hspelling, halike, hdiffers, -⟩ := exists_term_of_mem_run hplain hr hmessage ha
    have hsame := hunambiguous term hspelling.mem a.matched haccepted halike
    exact hdiffers hsame
  case found =>
    intro s r' hcompiled provider t m hm hne
    obtain ⟨rfl, rfl⟩ : vocabulary accepted = s ∧ r = r' := by
      cases hcompiled
      exact ⟨rfl, rfl⟩
    obtain ⟨term, hfinding⟩ := exists_isFinding hplain hr hm hne
    by_cases heq : m.text t = term
    · exact .inl (heq ▸ hfinding.spelling.mem)
    · have halert := hfinding.alert heq
      exact .inr ⟨_, List.mem_filterMap.mpr ⟨m, hm, halert⟩, rfl⟩

section Shared

variable {low term : Text}

theorem eq_of_isSpelling {found : Text} (h : IsSpelling [low, term] found)
    (hshared : toLower term = toLower low) : found = term := by
  obtain ⟨before, after, hsplit, hafter⟩ := h
  cases before with
  | nil =>
    obtain ⟨rfl, rfl⟩ := List.cons.inj hsplit
    exact absurd hshared (hafter term List.mem_cons_self)
  | cons x before =>
    obtain ⟨-, hrest⟩ := List.cons.inj hsplit
    cases before with
    | nil => exact (List.cons.inj hrest).1.symm
    | cons y before => simp at hrest

theorem spellings_of_shared (hlow : toLower low = low) (hterm : toLower term = low) :
    Builtin.spellings [low, term] = [(low, term)] := by
  have hfields : [low, term].foldl (fun m t => Data.put (toLower t) t m) [] = [(low, term)] := by
    rw [List.foldl_cons, List.foldl_cons, List.foldl_nil, hlow, hterm]
    exact if_pos rfl
  rw [Builtin.spellings, hfields, List.mergeSort_singleton]

/-- Accepted after its lower-cased form, a term takes the place of that form, which is then reported
where it stands alone though it is accepted, too. -/
theorem exists_alert_of_shared {first last : Char} (hplain : IsPlain low) (hlow : toLower low = low)
    (hterm : toLower term = low) (hne : low ≠ term) (hhead : low.head? = some first)
    (hfirst : isWordChar first = true) (hend : low.getLast? = some last)
    (hlast : isWordChar last = true) (hd : Builtin.terms? [low, term] = some d)
    (hc : Check.compile d = .ok c) :
    ∃ a ∈ c.run none low, a.matched = low ∧ a.message =
      "Use '".toList ++ (term ++ ("' instead of '".toList ++ (low ++ "'.".toList))) := by
  obtain ⟨r, rfl, hr, hmessage⟩ := exists_of_compile hd hc
  have hboth : ∀ t ∈ [low, term], IsPlain t := by
    have hother : IsPlain term := by
      unfold IsPlain
      rw [hterm, ← hlow]
      exact hplain
    simpa using ⟨hplain, hother⟩
  have hpairs : (vocabulary [low, term]).pairs = [(low, term)] := by
    rw [Substitution.pairs, vocabulary, spellings_of_shared hlow hterm, List.mergeSort_singleton]
  obtain ⟨hroot, -⟩ := root_vocabulary hboth hr
  rw [hpairs] at hroot
  obtain ⟨m, hm, hfound, htext⟩ := exists_of_mem_alone hroot hhead hfirst hend hlast
  obtain ⟨found, hfinding⟩ := exists_isFinding hboth hr hm hfound
  obtain rfl := eq_of_isSpelling hfinding.spelling (hterm.trans hlow.symm)
  have halert := hfinding.alert (htext.symm ▸ hne)
  refine ⟨_, List.mem_filterMap.mpr ⟨m, hm, halert⟩, htext, ?_⟩
  change formatMessage d.message [found, m.text low] = _
  rw [hmessage, htext, formatMessage_terms]

end Shared

section Names

/-- The name of a company, and what it is typed as. -/
def names : List Text := ["github", "GitHub"]

theorem spellings_names : Builtin.spellings names = [("github".toList, "GitHub".toList)] :=
  spellings_of_shared (by decide +kernel) (by decide +kernel)

theorem isPlain_of_mem_names : ∀ term ∈ names, IsPlain term := by
  intro term hterm
  rcases List.mem_cons.mp hterm with rfl | hterm
  · exact isPlain_of_ascii (by decide +kernel)
  · obtain rfl := List.mem_singleton.mp hterm
    exact isPlain_of_ascii (by decide +kernel)

theorem exists_check_names :
    ∃ d c, Builtin.terms? names = some d ∧ Check.compile d = .ok c := by
  obtain ⟨d, hd⟩ : ∃ d, Builtin.terms? names = some d := ⟨_, rfl⟩
  obtain ⟨r, hr⟩ : ∃ r, d.regex (vocabulary names).pattern true = .ok r := by
    have hpairs : (vocabulary names).pairs = [("github".toList, "GitHub".toList)] := by
      rw [Substitution.pairs, vocabulary, spellings_names, List.mergeSort_singleton]
    have hpattern : (vocabulary names).pattern = "\\b(?:(github))\\b".toList := by
      rw [Substitution.pattern, hpairs]
      rfl
    rw [hpattern]
    cases hd
    exact Substitution.exists_regex_eq_ok (by decide +kernel)
  refine ⟨d, ⟨d, .substitution (vocabulary names) r⟩, hd, ?_⟩
  cases hd
  have hswap : ¬(Builtin.spellings names).isEmpty = true := by
    rw [spellings_names]
    decide
  refine Outcome.bind_eq_ok_iff.mpr ⟨.substitution (vocabulary names) r, ?_, rfl⟩
  exact Outcome.unless_bind_eq_ok_iff.mpr ⟨hswap, Outcome.bind_eq_ok_iff.mpr ⟨r, hr, rfl⟩⟩

theorem suggestsAccepted_names : (∀ term ∈ names, IsPlain term) ∧
    ∃ d c, Builtin.terms? names = some d ∧ Check.compile d = .ok c ∧ SuggestsAccepted names c := by
  obtain ⟨d, c, hd, hc⟩ := exists_check_names
  exact ⟨isPlain_of_mem_names, d, c, hd, hc, suggestsAccepted isPlain_of_mem_names hd hc⟩

/-- Both names are accepted, and one of them is reported. -/
theorem run_names : ∃ d c, Builtin.terms? names = some d ∧ Check.compile d = .ok c ∧
    ∃ a ∈ c.run none "github", a.matched ∈ names ∧
      a.message = "Use 'GitHub' instead of 'github'.".toList := by
  obtain ⟨d, c, hd, hc⟩ := exists_check_names
  obtain ⟨a, ha, hmatched, hmessage⟩ := exists_alert_of_shared
    (isPlain_of_mem_names "github" List.mem_cons_self) (by decide +kernel) (by decide +kernel)
    (by decide) rfl (by decide) rfl (by decide) hd hc
  refine ⟨d, c, hd, hc, a, ha, ?_, ?_⟩
  · rw [hmatched]
    exact List.mem_cons_self
  · rw [hmessage]
    rfl

end Names

end Rule

end Copydesk.Rule
