import Copydesk.Comment.Language
import Copydesk.Proofs.Regex.Words
import Mathlib.Data.Finset.Max

/-! Where the text of a comment begins on its line. The padding of a line is measured by the longest
opener that it begins with, the text is what the pattern for delimiters leaves. The two agree just
in case that opener is the only match of the pattern. -/

namespace Copydesk.Comment

open Regex (firstWord? erase)
open Text (size)

section Spaces

variable {ws : List Text} {t : Text}

def beginsSolid (t : Text) : Bool := t.head?.any (!Text.isSpace ·)

theorem trimSpaces_append {s : Text} (h : ∀ c ∈ s, c = ' ') (t : Text) :
    trimSpaces (s ++ t) = trimSpaces t := List.dropWhile_append_of_pos fun c hc => by simp [h c hc]

theorem trimSpaces_append_of_solid {x : Text} (hx : beginsSolid x = true) (u : Text) :
    trimSpaces (x ++ u) = x ++ u := by
  cases x with
  | nil => cases hx
  | cons c x =>
    refine List.dropWhile_cons_of_neg fun hc => ?_
    rw [beginsSolid, List.head?_cons, Option.any_some, beq_iff_eq.mp hc] at hx
    cases hx

theorem takeWhile_append_trimSpaces (t : Text) : t.takeWhile (· == ' ') ++ trimSpaces t = t :=
  List.takeWhile_append_dropWhile

theorem eq_space_of_mem_takeWhile {c : Char} (h : c ∈ t.takeWhile (· == ' ')) : c = ' ' := by
  simpa using List.mem_takeWhile_imp h

theorem length_trimSpaces_le (t : Text) : (trimSpaces t).length ≤ t.length :=
  (List.dropWhile_suffix _).length_le

theorem nil_not_mem_of_solid (h : ∀ w ∈ ws, beginsSolid w = true) : [] ∉ ws :=
  fun hnil => Bool.false_ne_true (h [] hnil)

theorem erase_append_spaces (h : ∀ w ∈ ws, beginsSolid w = true) {s : Text}
    (hs : ∀ c ∈ s, c = ' ') (t : Text) : erase ws (s ++ t) = s ++ erase ws t := by
  refine Regex.erase_append_of_not_head (fun c hc w hw hhead => ?_) (nil_not_mem_of_solid h) t
  have hsolid := h w hw
  rw [beginsSolid, hhead, hs c hc] at hsolid
  cases hsolid

theorem erase_eq_append (h : ∀ w ∈ ws, beginsSolid w = true) (t : Text) :
    erase ws t = t.takeWhile (· == ' ') ++ erase ws (trimSpaces t) := by
  conv_lhs => rw [← takeWhile_append_trimSpaces t]
  exact erase_append_spaces h (fun _ => eq_space_of_mem_takeWhile) _

theorem trimSpaces_erase_eq_iff (h : ∀ w ∈ ws, beginsSolid w = true) (t : Text) :
    trimSpaces (erase ws t) = trimSpaces t ↔ erase ws t = t := by
  refine ⟨fun heq => ?_, fun heq => by rw [heq]⟩
  have hsplit := erase_eq_append h t
  rw [hsplit, trimSpaces_append fun _ => eq_space_of_mem_takeWhile] at heq
  -- Nothing is left to be taken out, or the text would be shorter.
  have hle := Regex.length_erase_le (nil_not_mem_of_solid h) (trimSpaces t)
  have hsuffix : trimSpaces (erase ws (trimSpaces t)) <:+ erase ws (trimSpaces t) :=
    List.dropWhile_suffix _
  have hkept := hsuffix.eq_of_length_le (by rw [heq]; exact hle)
  rw [hsplit, ← hkept, heq, takeWhile_append_trimSpaces]

end Spaces

namespace Language

variable {l : Language} {line d t : Text}

/-- The text of a line without delimiters and the spaces that come first. -/
def body (l : Language) (line : Text) : Text :=
  trimSpaces (l.delims.replaceAll line fun _ => [])

/-- The text of a line begins where the padding ends. -/
def Aligned (l : Language) (line : Text) : Prop :=
  ∃ lead, line = lead ++ l.body line ∧ lead.length = l.padding line

/-- The longest opener that a line begins with. -/
structure OpensWith (l : Language) (line d : Text) : Prop where
  mem : d ∈ l.openers
  begins : d <+: line
  longest : ∀ e ∈ l.openers, e <+: line → e <+: d

theorem exists_opensWith {e : Text} (he : e ∈ l.openers) (hline : e <+: line) :
    ∃ d, l.OpensWith line d := by
  have hne : (l.openers.filter (· <+: line)).toFinset.Nonempty := ⟨e, by simp [he, hline]⟩
  obtain ⟨d, hd, hmax⟩ := Finset.exists_max_image _ List.length hne
  rw [List.mem_toFinset, List.mem_filter, decide_eq_true_eq] at hd
  refine ⟨d, hd.1, hd.2, fun e he hline => ?_⟩
  exact List.prefix_of_prefix_length_le hline hd.2 (hmax e (by simp [he, hline]))

def longer (best : Option Text) (d : Text) : Option Text :=
  if best.any fun b => size d < size b then best else some d

theorem longer_eq {best : Option Text} (h : ∀ b ∈ best, b = d ∨ size b < size d) :
    longer best d = some d := by
  refine if_neg fun hany => ?_
  cases best with
  | none => cases hany
  | some b =>
    have hlt : size d < size b := by simpa using hany
    rcases h b rfl with rfl | hb
    · exact Nat.lt_irrefl _ hlt
    · exact Nat.lt_asymm hlt hb

theorem foldl_longer {ds : List Text} {best : Option Text}
    (hbest : ∀ b ∈ best, b = d ∨ size b < size d) (hds : ∀ e ∈ ds, e = d ∨ size e < size d)
    (hd : best = some d ∨ d ∈ ds) : ds.foldl longer best = some d := by
  induction ds generalizing best with
  | nil => simpa using hd
  | cons e ds ih =>
    obtain ⟨he, hds⟩ := List.forall_mem_cons.mp hds
    rw [List.foldl_cons]
    rcases he with rfl | he
    · rw [longer_eq hbest]
      exact ih (fun b hb => .inl (Option.some.inj hb).symm) hds (.inl rfl)
    · rcases hd with rfl | hd
      · have hkept : longer (some d) e = some d := if_pos (by simpa using he)
        rw [hkept]
        exact ih hbest hds (.inl rfl)
      · have hmem : d ∈ ds := by
          rcases List.mem_cons.mp hd with rfl | hmem
          · exact absurd he (Nat.lt_irrefl _)
          · exact hmem
        refine ih (fun b hb => ?_) hds (.inr hmem)
        rw [longer] at hb
        split at hb
        · exact hbest b hb
        · exact .inr (Option.some.inj hb ▸ he)

theorem OpensWith.padding_eq (h : l.OpensWith (d ++ t) d) (hd : beginsSolid d = true) :
    l.padding (d ++ t) = (d ++ t.takeWhile (· == ' ')).length := by
  have htrim : Text.trimStart (d ++ t) = d ++ t := by
    cases d with
    | nil => cases hd
    | cons c d => exact List.dropWhile_cons_of_neg (by simpa [beginsSolid] using hd)
  have hlongest : (l.openers.filter fun e => Text.startsWith (d ++ t) e).foldl longer none =
      some d := by
    refine foldl_longer nofun (fun e he => ?_) (.inr ?_)
    · obtain ⟨hmem, hstart⟩ := List.mem_filter.mp he
      obtain ⟨z, rfl⟩ := h.longest e hmem (Text.startsWith_iff.mp hstart)
      rcases eq_or_ne z [] with rfl | hz
      · exact .inl (List.append_nil e).symm
      · have hsize : size z ≠ 0 := fun hzero => hz (Text.size_eq_zero hzero)
        rw [Text.size_append]
        exact .inr (Nat.lt_add_of_pos_right (Nat.pos_of_ne_zero hsize))
    · exact List.mem_filter.mpr ⟨h.mem, Text.startsWith_iff.mpr h.begins⟩
  rw [padding, paddingWidth]
  simp only [htrim, Nat.sub_self]
  split
  · rename_i hnone
    exact absurd (hlongest.symm.trans hnone) nofun
  · rename_i e he
    obtain rfl := Option.some.inj (hlongest.symm.trans he)
    simp

theorem OpensWith.aligned_iff (h : l.OpensWith (d ++ t) d) (hd : beginsSolid d = true) :
    l.Aligned (d ++ t) ↔ l.body (d ++ t) = trimSpaces t := by
  have hsplit : d ++ t = (d ++ t.takeWhile (· == ' ')) ++ trimSpaces t := by
    rw [List.append_assoc, takeWhile_append_trimSpaces]
  constructor
  · rintro ⟨lead, hlead, hlength⟩
    rw [h.padding_eq hd] at hlength
    exact (List.append_inj (hlead.symm.trans hsplit) hlength).2
  · intro hbody
    exact ⟨_, hbody ▸ hsplit, (h.padding_eq hd).symm⟩

/-- The longest opener is not followed by what would make it a longer one. -/
theorem OpensWith.head?_ne {c : Char} (h : l.OpensWith (d ++ t) d) (hc : d ++ [c] ∈ l.openers) :
    t.head? ≠ some c := by
  intro hhead
  obtain ⟨t, rfl⟩ := List.head?_eq_some_iff.mp hhead
  have hle := (h.longest _ hc ⟨t, by simp⟩).length_le
  rw [List.length_append] at hle
  exact Nat.not_succ_le_self _ hle

/-- Openers and delimiters are words that begin with no white space, the delimiters `ws`. -/
structure Delimited (l : Language) (ws : List Text) : Prop where
  openers : ∀ e ∈ l.openers, beginsSolid e = true
  words : l.delims.root.words? = some ws
  solid : ∀ w ∈ ws, beginsSolid w = true

namespace Delimited

variable {ws : List Text} {w x u : Text}

theorem body_eq (hl : l.Delimited ws) (line : Text) : l.body line = trimSpaces (erase ws line) := by
  rw [body, Regex.replaceAll_eq_erase hl.words (nil_not_mem_of_solid hl.solid)]

theorem body_append (hl : l.Delimited ws) (h : firstWord? ws (w ++ u) = some (w, u)) :
    l.body (w ++ u) = trimSpaces (erase ws u) := by
  have hne : w ≠ [] := fun hnil =>
    nil_not_mem_of_solid hl.solid (hnil ▸ (Regex.eq_append_of_firstWord? h).1)
  rw [hl.body_eq, Regex.erase_append hne h]

theorem length_body_append_le (hl : l.Delimited ws) (h : firstWord? ws (w ++ u) = some (w, u)) :
    (l.body (w ++ u)).length ≤ u.length := by
  rw [hl.body_append h]
  exact (length_trimSpaces_le _).trans
    (Regex.length_erase_le (nil_not_mem_of_solid hl.solid) u)

/-- A first match that is not the opener is no lone match of the opener. -/
theorem findAll_ne (hl : l.Delimited ws) (h : firstWord? ws (w ++ u) = some (w, u))
    (hsize : size w ≠ size d) : l.delims.findAll (w ++ u) ≠ [⟨0, size d, []⟩] := by
  rw [Regex.findAll_append hl.words (nil_not_mem_of_solid hl.solid) h]
  intro heq
  exact hsize (Regex.Match.mk.inj (List.head_eq_of_cons_eq heq)).2.1

theorem aligned_iff_of_opener (hl : l.Delimited ws) (h : l.OpensWith (d ++ t) d)
    (hfirst : firstWord? ws (d ++ t) = some (d, t)) :
    l.Aligned (d ++ t) ↔ l.delims.findAll (d ++ t) = [⟨0, size d, []⟩] := by
  rw [h.aligned_iff (hl.openers d h.mem), hl.body_append hfirst, trimSpaces_erase_eq_iff hl.solid,
    Regex.findAll_eq_singleton_iff hl.words (nil_not_mem_of_solid hl.solid) hfirst]

/-- A delimiter that goes on where the longest opener ends takes part of what counts as text. -/
theorem aligned_iff_of_longer (hl : l.Delimited ws) (h : l.OpensWith (d ++ (x ++ u)) d)
    (hx : beginsSolid x = true) (hfirst : firstWord? ws (d ++ x ++ u) = some (d ++ x, u)) :
    l.Aligned (d ++ (x ++ u)) ↔ l.delims.findAll (d ++ (x ++ u)) = [⟨0, size d, []⟩] := by
  have hne : x ≠ [] := by
    rintro rfl
    cases hx
  refine iff_of_false (fun haligned => ?_) ?_
  · have hle := hl.length_body_append_le hfirst
    rw [List.append_assoc, (h.aligned_iff (hl.openers d h.mem)).mp haligned,
      trimSpaces_append_of_solid hx, List.length_append] at hle
    have := List.length_pos_iff.mpr hne
    omega
  · rw [← List.append_assoc]
    refine hl.findAll_ne hfirst fun hsize => hne (Text.size_eq_zero ?_)
    rw [Text.size_append] at hsize
    omega

end Delimited

section Slashes

/-- The delimiters of a language that has an opener of two stars but no such delimiter. -/
def slashWords : List Text := ["//", "/*", "*/"]

theorem solid_slashWords : ∀ w ∈ slashWords, beginsSolid w = true := by decide

theorem erase_star (t : Text) : erase slashWords ('*' :: t) =
    if t.head? = some '/' then erase slashWords t.tail else '*' :: erase slashWords t := by
  split
  · rename_i h
    obtain ⟨t, rfl⟩ := List.head?_eq_some_iff.mp h
    exact Regex.erase_append (w := ['*', '/']) (List.cons_ne_nil _ _) rfl
  · rename_i h
    refine Regex.erase_cons ?_
    cases t with
    | nil => rfl
    | cons c t =>
      have hc : '/' ≠ c := by rintro rfl; exact h rfl
      simp [firstWord?, slashWords, Text.afterPrefix?, hc]

theorem length_erase_tail_lt {t : Text} (h : t.head? = some '/') :
    (erase slashWords t.tail).length < t.length := by
  obtain ⟨t, rfl⟩ := List.head?_eq_some_iff.mp h
  exact Nat.lt_succ_of_le
    (Regex.length_erase_le (nil_not_mem_of_solid solid_slashWords) t)

theorem ne_star_append_erase {s : Text} (hs : ∀ c ∈ s, c = ' ') (u : Text) :
    u ≠ '*' :: (s ++ erase slashWords u) := by
  induction hlength : u.length using Nat.strong_induction_on generalizing u with
  | _ n ih =>
    subst hlength
    intro heq
    have hshort : (erase slashWords u).length < u.length := by
      conv_rhs => rw [heq]
      rw [List.length_cons, List.length_append]
      omega
    have hstep := congrArg (erase slashWords) heq
    rw [erase_star] at hstep
    split at hstep
    · rename_i hslash
      have hlt := length_erase_tail_lt hslash
      cases s with
      | nil =>
        rw [← hstep, List.nil_append] at hlt
        exact Nat.lt_irrefl _ hlt
      | cons c s =>
        rw [hs c List.mem_cons_self] at hslash
        cases hslash
    · -- What is left of the text is a text of the same form, and shorter.
      rw [erase_append_spaces solid_slashWords hs] at hstep
      exact ih _ hshort _ rfl hstep

/-- Where the opener has two stars and the delimiter one, the text begins with a star. -/
theorem Delimited.aligned_iff_of_stars (hl : l.Delimited slashWords)
    (h : l.OpensWith ("/**".toList ++ t) "/**".toList) : l.Aligned ("/**".toList ++ t) ↔
      l.delims.findAll ("/**".toList ++ t) = [⟨0, size "/**".toList, []⟩] := by
  have hline : "/**".toList ++ t = "/*".toList ++ '*' :: t := rfl
  have hfirst : firstWord? slashWords ("/*".toList ++ '*' :: t) = some ("/*".toList, '*' :: t) :=
    rfl
  have haligned := h.aligned_iff rfl
  rw [hline] at haligned ⊢
  refine iff_of_false (fun hal => ?_) (hl.findAll_ne hfirst (by decide))
  have htext := haligned.mp hal
  rw [hl.body_append hfirst, erase_star] at htext
  split at htext
  · rename_i hslash
    have hlt := length_erase_tail_lt hslash
    have hle := length_trimSpaces_le (erase slashWords t.tail)
    obtain ⟨t, rfl⟩ := List.head?_eq_some_iff.mp hslash
    have hkept : trimSpaces ('/' :: t) = '/' :: t :=
      trimSpaces_append_of_solid (x := ['/']) rfl t
    rw [htext, hkept] at hle
    exact Nat.lt_irrefl _ (Nat.lt_of_le_of_lt hle hlt)
  · have hkept : trimSpaces ('*' :: erase slashWords t) = '*' :: erase slashWords t :=
      trimSpaces_append_of_solid (x := ['*']) rfl _
    rw [hkept, erase_eq_append solid_slashWords] at htext
    exact ne_star_append_erase (fun _ => eq_space_of_mem_takeWhile) _ htext.symm

end Slashes

section Languages

variable {ws : List Text}

theorem Delimited.congr {l' : Language} (hl : l.Delimited ws) (hopeners : l'.openers = l.openers)
    (hdelims : l'.delims = l.delims) : l'.Delimited ws :=
  ⟨hopeners ▸ hl.openers, hdelims ▸ hl.words, hl.solid⟩

theorem delimited_rust : rust.Delimited ["///!", "///", "//!", "//"] :=
  ⟨by decide, by rfl, by decide⟩

theorem delimited_python : python.Delimited ["#", "\"\"\"", "'''"] :=
  ⟨by decide, by rfl, by decide⟩

theorem delimited_go : go.Delimited slashWords := ⟨by decide, by rfl, solid_slashWords⟩

theorem delimited_javascript : javascript.Delimited ["//", "/**", "/*", "*/"] :=
  ⟨by decide, by rfl, by decide⟩

theorem aligned_iff_rust (h : rust.OpensWith (d ++ t) d) :
    rust.Aligned (d ++ t) ↔ rust.delims.findAll (d ++ t) = [⟨0, size d, []⟩] := by
  have hmem : d ∈ (["//", "//!", "///"] : List Text) := h.mem
  simp only [List.mem_cons, List.not_mem_nil, or_false] at hmem
  rcases hmem with rfl | rfl | rfl
  · refine delimited_rust.aligned_iff_of_opener h ?_
    have hbang : t.head? ≠ some '!' := h.head?_ne (by decide)
    have hslash : t.head? ≠ some '/' := h.head?_ne (by decide)
    cases t with
    | nil => rfl
    | cons c t =>
      rw [List.head?_cons, Ne, Option.some.injEq, eq_comm] at hbang hslash
      simp [firstWord?, Text.afterPrefix?, hbang, hslash]
  · exact delimited_rust.aligned_iff_of_opener h rfl
  · -- The pattern takes a bang after three slashes, which is no opener.
    by_cases hbang : t.head? = some '!'
    · obtain ⟨u, rfl⟩ := List.head?_eq_some_iff.mp hbang
      exact delimited_rust.aligned_iff_of_longer (x := ['!']) h rfl rfl
    · refine delimited_rust.aligned_iff_of_opener h ?_
      cases t with
      | nil => rfl
      | cons c t =>
        rw [List.head?_cons, Option.some.injEq, eq_comm] at hbang
        simp [firstWord?, Text.afterPrefix?, hbang]

theorem aligned_iff_python (h : python.OpensWith (d ++ t) d) :
    python.Aligned (d ++ t) ↔ python.delims.findAll (d ++ t) = [⟨0, size d, []⟩] := by
  refine delimited_python.aligned_iff_of_opener h ?_
  have hmem : d ∈ (["#", "\"\"\"", "'''"] : List Text) := h.mem
  simp only [List.mem_cons, List.not_mem_nil, or_false] at hmem
  rcases hmem with rfl | rfl | rfl <;> rfl

theorem aligned_iff_go (h : go.OpensWith (d ++ t) d) :
    go.Aligned (d ++ t) ↔ go.delims.findAll (d ++ t) = [⟨0, size d, []⟩] := by
  have hmem : d ∈ slashOpeners := h.mem
  simp only [slashOpeners, List.mem_cons, List.not_mem_nil, or_false] at hmem
  rcases hmem with rfl | rfl | rfl
  · exact delimited_go.aligned_iff_of_opener h rfl
  · exact delimited_go.aligned_iff_of_opener h rfl
  · exact delimited_go.aligned_iff_of_stars h

theorem aligned_iff_javascript (hl : l.Delimited ["//", "/**", "/*", "*/"])
    (hopeners : l.openers = slashOpeners) (h : l.OpensWith (d ++ t) d) :
    l.Aligned (d ++ t) ↔ l.delims.findAll (d ++ t) = [⟨0, size d, []⟩] := by
  refine hl.aligned_iff_of_opener h ?_
  have hmem : d ∈ slashOpeners := hopeners ▸ h.mem
  simp only [slashOpeners, List.mem_cons, List.not_mem_nil, or_false] at hmem
  rcases hmem with rfl | rfl | rfl
  · rfl
  · have hstar : t.head? ≠ some '*' := h.head?_ne (by rw [hopeners]; decide)
    cases t with
    | nil => rfl
    | cons c t =>
      rw [List.head?_cons, Ne, Option.some.injEq, eq_comm] at hstar
      simp [firstWord?, Text.afterPrefix?, hstar]
  · rfl

end Languages

end Language

/-- The text of a line that begins with an opener begins where the padding ends just in case the
longest of these openers is the only delimiter in the line. -/
theorem Registry.exists_aligned_iff {ext line e : Text} {l : Language}
    (hl : (ext, l) ∈ standard) (he : e ∈ l.openers) (hline : e <+: line) :
    ∃ d, l.OpensWith line d ∧
      (l.Aligned line ↔ l.delims.findAll line = [⟨0, size d, []⟩]) := by
  obtain ⟨d, h⟩ := Language.exists_opensWith he hline
  refine ⟨d, h, ?_⟩
  obtain ⟨t, rfl⟩ := h.begins
  simp only [standard, List.mem_cons, Prod.mk.injEq, List.not_mem_nil, or_false] at hl
  rcases hl with ⟨-, rfl⟩ | ⟨-, rfl⟩ | ⟨-, rfl⟩ | ⟨-, rfl⟩ | ⟨-, rfl⟩ | ⟨-, rfl⟩
  · exact Language.aligned_iff_go h
  · exact Language.aligned_iff_javascript Language.delimited_javascript rfl h
  · exact Language.aligned_iff_python h
  · exact Language.aligned_iff_rust h
  · exact Language.aligned_iff_javascript (Language.delimited_javascript.congr rfl rfl) rfl h
  · exact Language.aligned_iff_javascript (Language.delimited_javascript.congr rfl rfl) rfl h

/-- A line of several delimiters before its text. -/
def ruledLine : Text := "#### bad bad"

theorem Registry.exists_aligned_iff_ruledLine : ("py".toList, .python) ∈ standard ∧
    "#".toList ∈ Language.python.openers ∧ "#".toList <+: ruledLine ∧
    ∃ d, Language.python.OpensWith ruledLine d ∧ (Language.python.Aligned ruledLine ↔
      Language.python.delims.findAll ruledLine = [⟨0, size d, []⟩]) := by
  have hpython : ("py".toList, .python) ∈ standard := by simp [standard]
  have hopener : "#".toList ∈ Language.python.openers := by decide
  have hline : "#".toList <+: ruledLine := ⟨"### bad bad".toList, rfl⟩
  exact ⟨hpython, hopener, hline, exists_aligned_iff hpython hopener hline⟩

/-- Its text is a suffix that begins further on than the padding ends. -/
theorem Language.body_ruledLine : ("py".toList, python) ∈ Registry.standard ∧
    "#".toList ∈ python.openers ∧ "#".toList <+: ruledLine ∧
    python.body ruledLine = "bad bad".toList ∧ python.body ruledLine <:+ ruledLine ∧
    ruledLine.length - (python.body ruledLine).length = 5 ∧ python.padding ruledLine = 1 := by
  refine ⟨by simp [Registry.standard], ?_⟩
  decide +kernel

end Copydesk.Comment
