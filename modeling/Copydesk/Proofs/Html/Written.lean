import Copydesk.Html.Token
import Copydesk.Proofs.Html.Elements
import Copydesk.Proofs.Text.Offset
import Copydesk.Proofs.Text.Trim
import Mathlib.Data.List.Chain
import Mathlib.Data.List.TakeWhile

/-! Tokens written as HTML. A document is read from its front, and after a whole tag reading starts
afresh. The characters that begin a tag or a reference are written as references, and so is the
quote that ends a value, so a document of written tokens is read as those tokens again, as long as
each text in it stands between tags. -/

namespace Copydesk.Html

open Text

section Reading

variable {t r inner : Text}

namespace Token

theorem length_of_afterHidden? (h : afterHidden? t = some r) : r.length < t.length := by
  unfold afterHidden? at h
  split at h
  · rename_i body hbody
    have hrest : (((Text.find? "-->" body).map fun i => Text.after body (i + 3)).getD []).length
        ≤ body.length := by
      cases Text.find? "-->" body with
      | none => exact Nat.zero_le _
      | some i => exact (suffix_after body (i + 3)).length_le
    have hopen : ("<!--" : String).toList.length = 4 := rfl
    rw [afterPrefix?_eq_some_iff.mp hbody, List.length_append, ← Option.some.inj h]
    omega
  · split at h
    · rename_i hstarts
      have hlen : 0 < t.length := List.length_pos_iff.mpr (by rintro rfl; cases hstarts)
      have hdrop := (List.dropWhile_suffix (l := t) (· != '>')).length_le
      rw [← Option.some.inj h, List.length_drop]
      omega
    · cases h

theorem length_rawText_le (token : Token) (t : Text) : (rawText token t).2.length ≤ t.length := by
  unfold rawText
  split
  · split
    · split
      · exact (suffix_after t _).length_le
      · exact Nat.zero_le _
    · exact Nat.le_refl _
  · exact Nat.le_refl _

/-- More fuel than characters is enough. -/
theorem readFrom_congr {m n : Nat} (hm : t.length < m) (hn : t.length < n) :
    readFrom m t = readFrom n t := by
  induction m generalizing n t with
  | zero => omega
  | succ m ih =>
    obtain ⟨n, rfl⟩ := Nat.exists_eq_add_one_of_ne_zero (show n ≠ 0 by omega)
    -- However reading goes on, it does so on fewer characters.
    have hshorter {r : Text} (hr : r.length < t.length) : readFrom m r = readFrom n r :=
      ih (by omega) (by omega)
    rw [readFrom, readFrom]
    dsimp only
    split
    · rename_i hbefore
      have hpos : (t.takeWhile (· != '<')).length ≠ 0 := by
        rw [Ne, List.length_eq_zero_iff]
        simpa using hbefore
      have hle := (List.takeWhile_prefix (l := t) (· != '<')).length_le
      rw [hshorter (by rw [List.length_drop]; omega)]
    · split
      · rfl
      · rename_i hne
        have hpos : t.length ≠ 0 := by
          rw [Ne, List.length_eq_zero_iff]
          simpa using hne
        split
        · rename_i rest hrest
          exact hshorter (length_of_afterHidden? hrest)
        · split
          · rfl
          · have hrest := length_rawText_le (ofTag ((t.takeWhile (· != '>')).drop 1))
              (t.drop ((t.takeWhile (· != '>')).length + 1))
            rw [List.length_drop] at hrest
            rw [hshorter (by omega)]

end Token

theorem readFrom_eq_tokenize {n : Nat} (h : t.length < n) : Token.readFrom n t = tokenize t :=
  Token.readFrom_congr h (Nat.lt_succ_self _)

theorem tokenize_nil : tokenize [] = [] := rfl

def textTokens (t : Text) : List Token :=
  if t.isEmpty then [] else [.text (decodeEntities t)]

theorem tokenize_append (ht : '<' ∉ t) (hr : ∀ c ∈ r.head?, c = '<') :
    tokenize (t ++ r) = textTokens t ++ tokenize r := by
  cases t with
  | nil => rfl
  | cons c t =>
    have hbefore : (c :: t ++ r).takeWhile (· != '<') = c :: t := by
      have hrest : r.takeWhile (· != '<') = [] := by
        cases r with
        | nil => rfl
        | cons d r => rw [hr d rfl]; rfl
      rw [List.takeWhile_append_of_pos fun d hd => by
        simpa using ne_of_mem_of_not_mem hd ht, hrest, List.append_nil]
    rw [tokenize, Token.readFrom, hbefore, List.drop_left, textTokens]
    simp only [List.isEmpty_cons, Bool.not_false, if_true]
    have hlength : r.length < (c :: t ++ r).length := by
      rw [List.length_append, List.length_cons]
      omega
    rw [readFrom_eq_tokenize hlength]
    rfl

/-- The inside of a tag that is read as it stands: no comment, declaration or instruction, and not
the start of an element with raw text. -/
structure IsTag (inner : Text) : Prop where
  not_mem : '>' ∉ inner
  head : ∀ c ∈ inner.head?, c ≠ '!' ∧ c ≠ '?'
  content : ∀ r, Token.rawText (Token.ofTag inner) r = ([], r)

theorem tokenize_tag (h : IsTag inner) (r : Text) :
    tokenize ('<' :: (inner ++ '>' :: r)) = Token.ofTag inner :: tokenize r := by
  have hhidden : Token.afterHidden? ('<' :: (inner ++ '>' :: r)) = none := by
    have hhead := h.head
    cases inner with
    | nil => rfl
    | cons c inner =>
      obtain ⟨hbang, hquestion⟩ := hhead c rfl
      simp [Token.afterHidden?, afterPrefix?, Text.startsWith, Ne.symm hbang, Ne.symm hquestion]
  have htag : ('<' :: (inner ++ '>' :: r)).takeWhile (· != '>') = '<' :: inner := by
    rw [List.takeWhile_cons_of_pos (by decide), List.takeWhile_append_of_pos fun d hd => by
      simpa using ne_of_mem_of_not_mem hd h.not_mem, List.takeWhile_cons_of_neg (by simp),
      List.append_nil]
  rw [tokenize, Token.readFrom, htag, hhidden]
  have hlength : ('<' :: inner).length ≠ ('<' :: (inner ++ '>' :: r)).length := by simp
  have hdrop : ('<' :: (inner ++ '>' :: r)).drop (('<' :: inner).length + 1) = r := by simp
  have hbefore : ('<' :: (inner ++ '>' :: r)).takeWhile (· != '<') = [] := rfl
  simp only [hbefore, List.isEmpty_nil, List.isEmpty_cons, Bool.not_true, Bool.false_eq_true,
    if_false, hlength, hdrop]
  have hfuel : r.length < ('<' :: (inner ++ '>' :: r)).length := by
    rw [List.length_cons, List.length_append, List.length_cons]
    omega
  rw [List.drop_succ_cons, List.drop_zero, h.content, readFrom_eq_tokenize hfuel]
  rfl

end Reading

section References

/-- How each character is written: as it stands, or as a reference that is read as it. -/
def IsSpelling (f : Char → Text) : Prop :=
  ∀ c, f c = [c] ∧ c ≠ '&' ∨
    ∃ name, f c = '&' :: name ∧ ∀ r, leadingEntity? ('&' :: (name ++ r)) = some (c, r)

variable {f : Char → Text}

theorem IsSpelling.decodeFrom_flatMap (hf : IsSpelling f) {t : Text} {fuel : Nat}
    (h : (t.flatMap f).length ≤ fuel) : decodeFrom fuel (t.flatMap f) = t := by
  induction t generalizing fuel with
  | nil => cases fuel <;> rfl
  | cons c t ih =>
    rw [List.flatMap_cons] at h ⊢
    rcases hf c with ⟨hplain, hamp⟩ | ⟨name, hname, hread⟩
    · rw [hplain, List.singleton_append, List.length_cons] at h
      obtain ⟨fuel, rfl⟩ := Nat.exists_eq_add_one_of_ne_zero (show fuel ≠ 0 by omega)
      rw [hplain, List.singleton_append, decodeFrom, if_neg hamp, ih (by omega)]
    · rw [hname, List.cons_append, List.length_cons, List.length_append] at h
      obtain ⟨fuel, rfl⟩ := Nat.exists_eq_add_one_of_ne_zero (show fuel ≠ 0 by omega)
      rw [hname, List.cons_append, decodeFrom, if_pos rfl, hread]
      dsimp only
      rw [ih (by omega)]

theorem IsSpelling.decodeEntities_flatMap (hf : IsSpelling f) (t : Text) :
    decodeEntities (t.flatMap f) = t := hf.decodeFrom_flatMap (Nat.le_refl _)

def escapeChar (c : Char) : Text :=
  if c = '&' then "&amp;".toList
  else if c = '<' then "&lt;".toList
  else if c = '>' then "&gt;".toList
  else [c]

theorem escape_eq (t : Text) : escape t = t.flatMap escapeChar := by
  refine List.flatMap_congr fun c _ => ?_
  unfold escapeChar
  split <;> simp_all

/-- How a character of a value between double quotes is written. -/
def quoteChar (c : Char) : Text := if c = '"' then "&quot;".toList else escapeChar c

theorem leadingEntity?_append (name : Text) {c : Char} (hstop : ';' ∉ name)
    (hlimit : size name < entityLimit) (hname : entity? name = some c) (r : Text) :
    leadingEntity? ('&' :: (name ++ ';' :: r)) = some (c, r) := by
  have hstop' : ';' ∉ '&' :: name := List.not_mem_cons_of_ne_of_not_mem (by decide) hstop
  have hsize : size ('&' :: name) = size name + 1 := by
    rw [size, Nat.add_comm]
    rfl
  have hlong : ¬entityLimit < size ('&' :: name) := by omega
  have hfind := find?_append_of_not_mem hstop' r
  have hbefore := before_append ('&' :: name) (';' :: r)
  have hafter := after_append ('&' :: name ++ [';']) r
  rw [size_append, List.append_assoc] at hafter
  change after ('&' :: name ++ ';' :: r) (size ('&' :: name) + 1) = r at hafter
  rw [← List.cons_append, leadingEntity?, hfind]
  simp only [Option.bind_eq_bind, Option.bind_some, if_neg hlong, hbefore, hafter,
    List.drop_succ_cons, List.drop_zero, hname]
  rfl

theorem isSpelling_escapeChar : IsSpelling escapeChar := by
  intro c
  unfold escapeChar
  split_ifs with hamp hlt hgt
  · subst hamp
    exact .inr ⟨"amp;".toList, rfl, leadingEntity?_append "amp" (by decide) (by decide) (by decide)⟩
  · subst hlt
    exact .inr ⟨"lt;".toList, rfl, leadingEntity?_append "lt" (by decide) (by decide) (by decide)⟩
  · subst hgt
    exact .inr ⟨"gt;".toList, rfl, leadingEntity?_append "gt" (by decide) (by decide) (by decide)⟩
  · exact .inl ⟨rfl, hamp⟩

theorem isSpelling_quoteChar : IsSpelling quoteChar := by
  intro c
  unfold quoteChar
  split_ifs with hquote
  · subst hquote
    exact .inr ⟨"quot;".toList, rfl,
      leadingEntity?_append "quot" (by decide) (by decide) (by decide)⟩
  · exact isSpelling_escapeChar c

theorem decodeEntities_escape (t : Text) : decodeEntities (escape t) = t := by
  rw [escape_eq, isSpelling_escapeChar.decodeEntities_flatMap]

def references : List Text := ["&amp;".toList, "&lt;".toList, "&gt;".toList, "&quot;".toList]

theorem ne_of_mem_reference {c : Char} {t : Text} (ht : t ∈ references) (h : c ∈ t) :
    c ≠ '<' ∧ c ≠ '>' ∧ c ≠ '"' := by
  have hall : references.all (·.all fun c => c != '<' && c != '>' && c != '"') = true := by decide
  simpa [and_assoc] using List.all_eq_true.mp (List.all_eq_true.mp hall t ht) c h

theorem escapeChar_cases (c : Char) : escapeChar c ∈ references ∨
    escapeChar c = [c] ∧ c ≠ '<' ∧ c ≠ '>' := by
  unfold escapeChar
  split_ifs with hamp hlt hgt
  · exact .inl (by decide)
  · exact .inl (by decide)
  · exact .inl (by decide)
  · exact .inr ⟨rfl, hlt, hgt⟩

theorem quoteChar_cases (c : Char) : quoteChar c ∈ references ∨
    quoteChar c = [c] ∧ c ≠ '>' ∧ c ≠ '"' := by
  unfold quoteChar
  split_ifs with hquote
  · exact .inl (by decide)
  · exact (escapeChar_cases c).imp_right fun ⟨hc, _, hgt⟩ => ⟨hc, hgt, hquote⟩

theorem ne_of_mem_escapeChar {c d : Char} (h : c ∈ escapeChar d) : c ≠ '<' ∧ c ≠ '>' := by
  rcases escapeChar_cases d with hreference | ⟨hd, hne⟩
  · obtain ⟨hlt, hgt, -⟩ := ne_of_mem_reference hreference h
    exact ⟨hlt, hgt⟩
  · rw [hd] at h
    exact List.mem_singleton.mp h ▸ hne

theorem ne_of_mem_quoteChar {c d : Char} (h : c ∈ quoteChar d) : c ≠ '>' ∧ c ≠ '"' := by
  rcases quoteChar_cases d with hreference | ⟨hd, hne⟩
  · exact (ne_of_mem_reference hreference h).2
  · rw [hd] at h
    exact List.mem_singleton.mp h ▸ hne

theorem ne_of_mem_escape {c : Char} {t : Text} (h : c ∈ escape t) : c ≠ '<' ∧ c ≠ '>' := by
  rw [escape_eq] at h
  obtain ⟨d, -, hd⟩ := List.mem_flatMap.mp h
  exact ne_of_mem_escapeChar hd

theorem escape_ne_nil {t : Text} (h : t ≠ []) : escape t ≠ [] := by
  intro hnil
  have hread := decodeEntities_escape t
  rw [hnil] at hread
  exact h hread.symm

end References

/-- The characters of names: lower-case letters, digits and hyphens. -/
def isNameChar (c : Char) : Bool := c.isLower || c.isDigit || c == '-'

/-- No character of a name ends it, and none is changed to lower case. -/
theorem endsAttrName_of_isNameChar {c : Char} (h : isNameChar c = true) :
    Token.endsAttrName c = false ∧ c.toLower = c ∧ c ∉ ['<', '>', '!', '?', '"'] := by
  have hascii : ∀ n < 128, isNameChar (Char.ofNat n) = true →
      Token.endsAttrName (Char.ofNat n) = false ∧ (Char.ofNat n).toLower = Char.ofNat n ∧
        Char.ofNat n ∉ ['<', '>', '!', '?', '"'] := by
    decide
  have hbelow {d : Char} (hd : d.toNat < 128) (hle : decide (c.val ≤ d.val) = true) :
      c.toNat < 128 :=
    Nat.lt_of_le_of_lt (UInt32.le_iff_toNat_le.mp (of_decide_eq_true hle)) hd
  have hlt : c.toNat < 128 := by
    rw [isNameChar, Bool.or_eq_true, Bool.or_eq_true, beq_iff_eq] at h
    rcases h with (hlower | hdigit) | rfl
    · exact hbelow (d := 'z') (by decide) (Bool.and_eq_true_iff.mp hlower).2
    · exact hbelow (d := '9') (by decide) (Bool.and_eq_true_iff.mp hdigit).2
    · decide
  have hc := hascii c.toNat hlt
  rw [Char.ofNat_toNat] at hc
  exact hc h

namespace Token

/-- A letter first, then letters and digits, all in lower case, and no element with raw text. -/
def IsTagName (name : Text) : Prop :=
  (∃ c ∈ name.head?, c.isLower = true) ∧ (∀ c ∈ name, c.isLower = true ∨ c.isDigit = true) ∧
    name ∉ rawTextTags

instance : DecidablePred IsTagName := fun name =>
  decidable_of_iff (name.head?.any Char.isLower = true ∧
    name.all (fun c => c.isLower || c.isDigit) = true ∧ name ∉ rawTextTags)
    (by simp [IsTagName, Option.any_eq_true])

def IsAttrName (name : Text) : Prop := name ≠ [] ∧ ∀ c ∈ name, isNameChar c = true

instance : DecidablePred IsAttrName := fun name =>
  decidable_of_iff (name ≠ [] ∧ name.all isNameChar = true) (by simp [IsAttrName])

def writeAttr (p : Text × Text) : Text :=
  ' ' :: (p.1 ++ '=' :: '"' :: (p.2.flatMap quoteChar ++ ['"']))

def startTag (name : Text) (attrs : List (Text × Text)) (selfClosing : Bool) : Text :=
  name ++ (attrs.flatMap writeAttr ++ if selfClosing then ['/'] else [])

def write : Token → Text
  | start name attrs selfClosing => '<' :: (startTag name attrs selfClosing ++ ['>'])
  | stop name => '<' :: ('/' :: name ++ ['>'])
  | text t => escape t

/-- Tokens that their written form stands for. -/
def IsWritable : Token → Prop
  | start name attrs selfClosing => IsTagName name ∧ (∀ p ∈ attrs, IsAttrName p.1) ∧
      (name ∈ voidTags → selfClosing = true)
  | stop name => IsTagName name
  | text t => t ≠ []

instance : DecidablePred IsWritable
  | start name attrs selfClosing => inferInstanceAs (Decidable (IsTagName name ∧
      (∀ p ∈ attrs, IsAttrName p.1) ∧ (name ∈ voidTags → selfClosing = true)))
  | stop name => inferInstanceAs (Decidable (IsTagName name))
  | text t => inferInstanceAs (Decidable (t ≠ []))

def isText : Token → Bool
  | text _ => true
  | _ => false

section Attributes

variable {name r : Text} {attrs : List (Text × Text)}

theorem dropWhile_endsName {c : Char} (hc : endsAttrName c = false) (t : Text) :
    (c :: t).dropWhile endsName = c :: t := by
  refine List.dropWhile_cons_of_neg fun h => ?_
  simp_all [endsAttrName, endsName]

theorem asciiLower_of_isNameChar (h : ∀ c ∈ name, isNameChar c = true) :
    asciiLower name = name := by
  conv_rhs => rw [← List.map_id name]
  exact List.map_congr_left fun c hc => (endsAttrName_of_isNameChar (h c hc)).2.1

theorem attrValue_quoted (value r : Text) :
    attrValue ('"' :: (value.flatMap quoteChar ++ '"' :: r)) = (value, r) := by
  have hquoted : ∀ c ∈ value.flatMap quoteChar, (c != '"') = true := by
    intro c hc
    obtain ⟨d, -, hd⟩ := List.mem_flatMap.mp hc
    simpa using (ne_of_mem_quoteChar hd).2
  have hend : value.flatMap quoteChar ++ '"' :: r = (value.flatMap quoteChar ++ ['"']) ++ r := by
    simp
  rw [attrValue, if_pos (.inl rfl)]
  dsimp only
  rw [List.takeWhile_append_of_pos hquoted, List.takeWhile_cons_of_neg (by simp), List.append_nil,
    isSpelling_quoteChar.decodeEntities_flatMap, hend, List.drop_left' (by simp)]

theorem attrsFrom_writeAttr (h : IsAttrName name) (value : Text) (fuel : Nat) (r : Text) :
    attrsFrom (fuel + 1) (writeAttr (name, value) ++ r) = (name, value) :: attrsFrom fuel r := by
  obtain ⟨c, rest, rfl⟩ := List.exists_cons_of_ne_nil h.1
  have hchars : ∀ d ∈ c :: rest, (!endsAttrName d) = true := fun d hd => by
    rw [(endsAttrName_of_isNameChar (h.2 d hd)).1]
    rfl
  have hsplit : writeAttr (c :: rest, value) ++ r = ' ' :: (c :: rest ++ '=' :: '"' ::
      (value.flatMap quoteChar ++ '"' :: r)) := by simp [writeAttr]
  have hname (t : Text) : (c :: rest ++ '=' :: t).takeWhile (!endsAttrName ·) = c :: rest := by
    rw [List.takeWhile_append_of_pos hchars, List.takeWhile_cons_of_neg (by decide),
      List.append_nil]
  rw [hsplit, attrsFrom, List.dropWhile_cons_of_pos (by decide), List.cons_append,
    dropWhile_endsName (endsAttrName_of_isNameChar (h.2 c List.mem_cons_self)).1]
  dsimp only
  rw [← List.cons_append, hname, List.drop_left, asciiLower_of_isNameChar h.2]
  simp only [attrValue_quoted]
  rfl

theorem attrsFrom_write (h : ∀ p ∈ attrs, IsAttrName p.1) (selfClosing : Bool) {fuel : Nat}
    (hfuel : attrs.length < fuel) :
    attrsFrom fuel (attrs.flatMap writeAttr ++ if selfClosing then ['/'] else []) = attrs := by
  induction attrs generalizing fuel with
  | nil =>
    obtain ⟨fuel, rfl⟩ := Nat.exists_eq_add_one_of_ne_zero (Nat.ne_of_gt hfuel)
    cases selfClosing <;> rfl
  | cons p attrs ih =>
    obtain ⟨fuel, rfl⟩ := Nat.exists_eq_add_one_of_ne_zero (show fuel ≠ 0 by omega)
    rw [List.length_cons] at hfuel
    rw [List.flatMap_cons, List.append_assoc, attrsFrom_writeAttr (h p List.mem_cons_self),
      ih (fun q hq => h q (List.mem_cons_of_mem p hq)) (by omega)]

theorem readAttrs_write (h : ∀ p ∈ attrs, IsAttrName p.1) (selfClosing : Bool) :
    readAttrs (attrs.flatMap writeAttr ++ if selfClosing then ['/'] else []) = attrs := by
  refine attrsFrom_write h selfClosing (Nat.lt_succ_of_le ?_)
  have hle : attrs.length ≤ (attrs.flatMap writeAttr).length := by
    induction attrs with
    | nil => exact Nat.le_refl _
    | cons p attrs ih =>
      have hrest := ih fun q hq => h q (List.mem_cons_of_mem p hq)
      rw [List.flatMap_cons, List.length_append, List.length_cons, writeAttr, List.length_cons]
      omega
  rw [List.length_append]
  omega

end Attributes

section Tags

variable {name : Text} {attrs : List (Text × Text)} {selfClosing : Bool}

theorem IsTagName.isNameChar (h : IsTagName name) : ∀ c ∈ name, isNameChar c = true := by
  intro c hc
  rcases h.2.1 c hc with hlower | hdigit
  · simp [Html.isNameChar, hlower]
  · simp [Html.isNameChar, hdigit]

theorem not_endsName_of_isNameChar {c : Char} (h : isNameChar c = true) :
    endsName c = false := by
  have hends := (endsAttrName_of_isNameChar h).1
  simp_all [endsAttrName, endsName]

theorem endsWith_startTag (h : IsTagName name) :
    Text.endsWith (trimEnd (startTag name attrs selfClosing)) "/" = selfClosing := by
  obtain ⟨t, c, ht, hc⟩ : ∃ t c, startTag name attrs selfClosing = t ++ [c] ∧
      (isSpace c = false ∧ (c = '/' ↔ selfClosing = true)) := by
    cases selfClosing with
    | true => exact ⟨name ++ attrs.flatMap writeAttr, '/', by simp [startTag], by decide⟩
    | false =>
      rcases List.eq_nil_or_concat' attrs with rfl | ⟨attrs, p, rfl⟩
      · have hne : name ≠ [] := by
          rintro rfl
          simp [IsTagName] at h
        have hlast := not_endsName_of_isNameChar (h.isNameChar _ (List.getLast_mem hne))
        refine ⟨name.dropLast, name.getLast hne, ?_, ?_⟩
        · simp [startTag, List.dropLast_append_getLast]
        · simpa [endsName] using hlast
      · refine ⟨name ++ (attrs.flatMap writeAttr ++
          ' ' :: (p.1 ++ '=' :: '"' :: p.2.flatMap quoteChar)), '"', ?_, by decide⟩
        simp [startTag, writeAttr]
  have htrim : trimEnd (t ++ [c]) = t ++ [c] := by
    simp [trimEnd, dropEndWhile, hc.1]
  rw [ht, htrim, Bool.eq_iff_iff, ← hc.2, Text.endsWith, Option.isSome_iff_exists]
  simp only [beforeSuffix?_eq_some_iff]
  constructor
  · rintro ⟨r, hr⟩
    exact List.singleton_inj.mp (List.append_inj' hr rfl).2
  · rintro rfl
    exact ⟨t, rfl⟩

theorem takeWhile_startTag (h : IsTagName name) :
    (startTag name attrs selfClosing).takeWhile (!endsName ·) = name := by
  have hname : ∀ c ∈ name, (!endsName c) = true := fun c hc => by
    rw [not_endsName_of_isNameChar (h.isNameChar c hc)]
    rfl
  have hrest : (attrs.flatMap writeAttr ++ if selfClosing then ['/'] else []).takeWhile
      (!endsName ·) = [] := by
    cases attrs with
    | nil => cases selfClosing <;> rfl
    | cons p attrs => rfl
  rw [startTag, List.takeWhile_append_of_pos hname, hrest, List.append_nil]

theorem head?_startTag (h : IsTagName name) (attrs : List (Text × Text)) (selfClosing : Bool) :
    ∃ c, (startTag name attrs selfClosing).head? = some c ∧ c.isLower = true := by
  obtain ⟨c, hhead, hlower⟩ := h.1
  refine ⟨c, ?_, hlower⟩
  rw [startTag, List.head?_append, Option.mem_def.mp hhead]
  rfl

theorem ofTag_startTag (h : IsWritable (.start name attrs selfClosing)) :
    ofTag (startTag name attrs selfClosing) = .start name attrs selfClosing := by
  obtain ⟨hname, hattrs, hvoid⟩ := h
  obtain ⟨c, hhead, hlower⟩ := hname.1
  have hslash : ∀ t, startTag name attrs selfClosing ≠ '/' :: t := by
    intro t ht
    obtain ⟨d, hd, hlower⟩ := head?_startTag hname attrs selfClosing
    rw [ht] at hd
    cases hd
    cases hlower
  have halpha : (name.head?).any Char.isAlpha = true := by
    rw [Option.mem_def.mp hhead]
    exact Bool.or_eq_true_iff.mpr (.inr hlower)
  have hdrop : (startTag name attrs selfClosing).drop name.length =
      attrs.flatMap writeAttr ++ if selfClosing then ['/'] else [] := List.drop_left
  unfold ofTag
  split
  · rename_i t ht
    exact absurd ht (hslash t)
  · dsimp only
    rw [takeWhile_startTag hname, if_pos halpha, asciiLower_of_isNameChar hname.isNameChar, hdrop,
      readAttrs_write hattrs, endsWith_startTag hname]
    cases selfClosing with
    | true => rfl
    | false => simpa using hvoid

theorem ofTag_stop (h : IsTagName name) : ofTag ('/' :: name) = .stop name := by
  have hspace : ∀ c ∈ name, isSpace c = false := fun c hc => by
    have hends := not_endsName_of_isNameChar (h.isNameChar c hc)
    rw [endsName, Bool.or_eq_false_iff] at hends
    exact hends.1
  have htrim : trim name = name := trim_eq_self hspace
  rw [ofTag, htrim, asciiLower_of_isNameChar h.isNameChar]

end Tags

theorem IsTagName.isTag_stop (h : IsTagName name) : IsTag ('/' :: name) := by
  refine ⟨?_, ?_, fun r => by rw [ofTag_stop h]; rfl⟩
  · rw [List.mem_cons, not_or]
    refine ⟨by decide, fun hmem => ?_⟩
    exact (endsAttrName_of_isNameChar (h.isNameChar _ hmem)).2.2 (by decide)
  · rintro c ⟨⟩
    decide

theorem not_mem_writeAttr {p : Text × Text} (h : IsAttrName p.1) : '>' ∉ writeAttr p := by
  have hname : '>' ∉ p.1 := fun hmem => (endsAttrName_of_isNameChar (h.2 _ hmem)).2.2 (by decide)
  have hvalue : '>' ∉ p.2.flatMap quoteChar := by
    intro hmem
    obtain ⟨c, -, hc⟩ := List.mem_flatMap.mp hmem
    exact (ne_of_mem_quoteChar hc).1 rfl
  simp [writeAttr, hname, hvalue]

theorem IsWritable.isTag_startTag (h : IsWritable (.start name attrs selfClosing)) :
    IsTag (startTag name attrs selfClosing) := by
  have hread := ofTag_startTag h
  obtain ⟨hname, hattrs, -⟩ := h
  refine ⟨?_, fun c hc => ?_, fun r => ?_⟩
  · have hchars : '>' ∉ name :=
      fun hmem => (endsAttrName_of_isNameChar (hname.isNameChar _ hmem)).2.2 (by decide)
    have hwritten : '>' ∉ attrs.flatMap writeAttr := by
      intro hmem
      obtain ⟨p, hp, hmem⟩ := List.mem_flatMap.mp hmem
      exact not_mem_writeAttr (hattrs p hp) hmem
    cases selfClosing <;> simp [startTag, hchars, hwritten]
  · obtain ⟨d, hd, hlower⟩ := head?_startTag hname attrs selfClosing
    obtain rfl := Option.some.inj (hd.symm.trans hc)
    constructor <;> rintro rfl <;> cases hlower
  · rw [hread]
    cases selfClosing with
    | true => rfl
    | false => exact if_neg hname.2.2

end Token

open Token

variable {token : Token} {tokens : List Token}

theorem tokenize_write_append (h : token.IsWritable) (htag : token.isText = false) (r : Text) :
    tokenize (token.write ++ r) = token :: tokenize r := by
  cases token with
  | start name attrs selfClosing =>
    have hread := tokenize_tag (IsWritable.isTag_startTag h) r
    rw [ofTag_startTag h] at hread
    rw [write, List.cons_append, List.append_assoc]
    exact hread
  | stop name =>
    have hread := tokenize_tag (IsTagName.isTag_stop h) r
    rw [ofTag_stop h] at hread
    rw [write, List.cons_append, List.append_assoc]
    exact hread
  | text t => cases htag

/-- Tokens that can be written one after another: no two texts meet. -/
structure AreWritable (tokens : List Token) : Prop where
  each : ∀ token ∈ tokens, token.IsWritable
  apart : tokens.IsChain fun a b => ¬(a.isText = true ∧ b.isText = true)

theorem head?_write (h : token.IsWritable) (htag : token.isText = false) :
    token.write.head? = some '<' := by
  cases token with
  | start name attrs selfClosing => rfl
  | stop name => rfl
  | text t => cases htag

theorem textTokens_escape {t : Text} (h : t ≠ []) : textTokens (escape t) = [.text t] := by
  rw [textTokens, if_neg (by simpa using escape_ne_nil h), decodeEntities_escape]

theorem tokenize_flatMap_write (h : AreWritable tokens) :
    tokenize (tokens.flatMap write) = tokens := by
  obtain ⟨heach, hapart⟩ := h
  induction tokens with
  | nil => rfl
  | cons token tokens ih =>
    obtain ⟨htoken, htokens⟩ := List.forall_mem_cons.mp heach
    obtain ⟨hnext, hchain⟩ := List.isChain_cons.mp hapart
    rw [List.flatMap_cons]
    cases htext : token.isText with
    | false => rw [tokenize_write_append htoken htext, ih htokens hchain]
    | true =>
      cases token with
      | start | stop => cases htext
      | text t =>
        -- The text is all that comes before the tag after it.
        have hhead : ∀ c ∈ (tokens.flatMap write).head?, c = '<' := by
          intro c hc
          cases tokens with
          | nil => cases hc
          | cons next tokens =>
            have hwrite := head?_write (htokens next List.mem_cons_self)
              (Bool.eq_false_iff.mpr fun hmeet => hnext next rfl ⟨rfl, hmeet⟩)
            rw [List.flatMap_cons, List.head?_append, hwrite] at hc
            exact (Option.some.inj hc).symm
        rw [write, tokenize_append (fun hmem => (ne_of_mem_escape hmem).1 rfl) hhead,
          textTokens_escape htoken, ih htokens hchain]
        rfl

/-- Written tokens are read as they were, and so is a text that stands alone. -/
theorem tokenize_written :
    (∀ tokens, AreWritable tokens → tokenize (tokens.flatMap write) = tokens) ∧
    ∀ t, t ≠ [] → tokenize (escape t) = [.text t] := by
  refine ⟨fun tokens => tokenize_flatMap_write, fun t ht => ?_⟩
  have halone : AreWritable [.text t] := ⟨by simpa [IsWritable] using ht, .singleton _⟩
  have hread := tokenize_flatMap_write halone
  rwa [List.flatMap_singleton, write] at hread

/-- A value with a quote, a tag without content, and texts that look like a reference and a tag. -/
def quotedPage : List Token :=
  [.start "h2" [("data-x", "a \"b\" > c"), ("id", "")] false, .text "1 &lt; 2", .start "br" [] true,
    .text "<b> 'q'", .stop "h2"]

theorem tokenize_written_quotedPage : AreWritable quotedPage ∧
    quotedPage.flatMap write = "<h2 data-x=\"a &quot;b&quot; &gt; c\" id=\"\">".toList ++
      "1 &amp;lt; 2<br/>&lt;b&gt; 'q'</h2>".toList ∧
    tokenize (quotedPage.flatMap write) = quotedPage := by
  have h : AreWritable quotedPage := ⟨by decide, by decide⟩
  exact ⟨h, by decide, tokenize_written.1 quotedPage h⟩

end Copydesk.Html
