import Copydesk.Proofs.Markup.Mask
import Copydesk.Proofs.Markup.Neutralize
import Mathlib.Data.List.Forall2

/-! Masked copies byte by byte. A text over whose bytes placeholders are written is a text again
only where each character is hidden as a whole or not at all. Each pass over a source writes
asterisks over whole characters and leaves every other byte where it is. -/

namespace Copydesk

namespace Text

/-- The UTF-8 encoding. -/
def bytes (t : Text) : List UInt8 := t.flatMap String.utf8EncodeChar

theorem bytes_cons (c : Char) (t : Text) : bytes (c :: t) = String.utf8EncodeChar c ++ bytes t :=
  List.flatMap_cons

theorem bytes_append (s t : Text) : bytes (s ++ t) = bytes s ++ bytes t := List.flatMap_append

theorem exists_encode (c : Char) : ∃ b more, String.utf8EncodeChar c = b :: more ∧
    b.IsUTF8FirstByte ∧ ∀ x ∈ more, ¬x.IsUTF8FirstByte := by
  obtain ⟨b, more, hc⟩ := List.exists_cons_of_ne_nil (String.utf8EncodeChar_ne_nil (c := c))
  have hfirst (i : Nat) (hi : i < (b :: more).length) :
      ((b :: more)[i]).IsUTF8FirstByte ↔ i = 0 := by
    simpa only [hc] using @UInt8.isUTF8FirstByte_getElem_utf8EncodeChar c i (hc ▸ hi)
  refine ⟨b, more, hc, (hfirst 0 (Nat.succ_pos _)).mpr rfl, ?_⟩
  intro x hx
  obtain ⟨i, hi, rfl⟩ := List.getElem_of_mem hx
  exact fun h => absurd ((hfirst (i + 1) (Nat.succ_lt_succ hi)).mp h) (Nat.succ_ne_zero i)

theorem utf8EncodeChar_injective {c d : Char}
    (h : String.utf8EncodeChar c = String.utf8EncodeChar d) : c = d := by
  have hdecode (c : Char) := ByteArray.utf8DecodeChar?_utf8EncodeChar_append (b := .empty) (c := c)
  have hc := hdecode c
  rw [h, hdecode d] at hc
  exact (Option.some.inj hc).symm

/-- The first byte tells how many bytes the character has, and an ASCII byte is the whole of it. -/
theorem utf8Size_of_encode {c : Char} {b : UInt8} {more : List UInt8}
    (h : String.utf8EncodeChar c = b :: more) :
    c.utf8Size = (if b.toNat < 128 then 1 else if b.toNat < 224 then 2 else
      if b.toNat < 240 then 3 else 4) ∧ (b.toNat < 128 → c.toNat = b.toNat) := by
  have hvalid : c.val.toNat < 1114112 := by
    have := c.valid
    simp only [UInt32.isValidChar, Nat.isValidChar] at this
    omega
  have hval : c.toNat = c.val.toNat := rfl
  rw [← String.length_utf8EncodeChar, hval]
  revert h
  fun_cases String.utf8EncodeChar c
  all_goals
    intro h
    obtain ⟨rfl, -⟩ := List.cons.inj h
    simp only [UInt8.toNat_ofNat', List.length_cons, List.length_nil]
    split_ifs <;> omega

theorem isUTF8FirstByte_of_lt {b : UInt8} (h : b < 128) : b.IsUTF8FirstByte := by
  have hb : b.toNat < 128 := h
  have hvalid : b.toNat.isValidChar := .inl (by omega)
  have hval : (Char.ofNat b.toNat).val.toNat = b.toNat := by
    rw [Char.ofNat, dif_pos hvalid]
    rfl
  have hencode : String.utf8EncodeChar (Char.ofNat b.toNat) = [b] := by
    rw [String.utf8EncodeChar, hval, if_pos (by omega), UInt8.ofNat_toNat]
  obtain ⟨x, more, hx, hfirst, -⟩ := exists_encode (Char.ofNat b.toNat)
  rw [hencode] at hx
  exact (List.cons.inj hx).1 ▸ hfirst

theorem toNat_eq_of_mem_encode {c : Char} {b : UInt8} (hb : b < 128)
    (h : b ∈ String.utf8EncodeChar c) : c.toNat = b.toNat := by
  obtain ⟨first, more, henc, -, hmore⟩ := exists_encode c
  rw [henc] at h
  rcases List.mem_cons.mp h with rfl | h
  · exact (utf8Size_of_encode henc).2 hb
  · exact absurd (isUTF8FirstByte_of_lt hb) (hmore b h)

end Text

namespace Markup

open Text

/-- A byte of a copy: the byte itself, or an ASCII placeholder over it. Newlines stay, and no byte
becomes one. -/
def CopiesByte (b m : UInt8) : Prop := m = b ∨ (b ≠ 10 ∧ m ≠ 10 ∧ m < 128)

/-- The second text is a copy of the first, as long as it, byte by byte. -/
def CopiesBytes (t u : Text) : Prop := List.Forall₂ CopiesByte (bytes t) (bytes u)

/-- The ASCII characters other than the newline. -/
def placeholders : List Char := ((List.range 128).map Char.ofNat).filter (· != '\n')

theorem placeholders_areBytes : AreBytes placeholders := by
  have hsize : placeholders.all (fun c => c.utf8Size == 1) = true := by decide +kernel
  exact fun c hc => beq_iff_eq.mp (List.all_eq_true.mp hsize c hc)

theorem mem_placeholders {c : Char} (hascii : c.toNat < 128) (hc : c ≠ '\n') :
    c ∈ placeholders :=
  List.mem_filter.mpr ⟨List.mem_map.mpr ⟨c.toNat, List.mem_range.mpr hascii, Char.ofNat_toNat c⟩,
    bne_iff_ne.mpr hc⟩

theorem exists_placeholder {m : UInt8} {r : List UInt8} {u : Text} (hm : m ≠ 10) (hascii : m < 128)
    (h : m :: r = bytes u) : ∃ d v, u = d :: v ∧ d ∈ placeholders ∧ r = bytes v := by
  cases u with
  | nil => cases h
  | cons d v =>
    obtain ⟨b, more, hd, -, -⟩ := exists_encode d
    rw [bytes_cons, hd] at h
    obtain ⟨rfl, rfl⟩ := List.cons.inj h
    obtain ⟨hsize, hnat⟩ := utf8Size_of_encode hd
    have hlt : m.toNat < 128 := hascii
    rw [if_pos hlt, ← String.length_utf8EncodeChar, hd] at hsize
    obtain rfl := List.length_eq_zero_iff.mp (Nat.succ.inj hsize)
    have hnewline : d ≠ '\n' := by
      rintro rfl
      exact hm (UInt8.toNat_inj.mp (hnat hlt).symm)
    exact ⟨d, v, rfl, mem_placeholders (by rwa [hnat hlt]) hnewline, rfl⟩

theorem exists_placeholders {more rest : List UInt8} {u : Text}
    (hmore : ∀ x ∈ more, ¬x.IsUTF8FirstByte)
    (h : List.Forall₂ CopiesByte (more ++ rest) (bytes u)) :
    ∃ w v, u = w ++ v ∧ w.length = more.length ∧ (∀ m ∈ w, m ∈ placeholders) ∧
      List.Forall₂ CopiesByte rest (bytes v) := by
  induction more generalizing u with
  | nil => exact ⟨[], u, rfl, rfl, by simp, h⟩
  | cons x more ih =>
    obtain ⟨m, r, hxm, hr, hu⟩ := List.forall₂_cons_left_iff.mp h
    have hx := hmore x List.mem_cons_self
    have hm : m ≠ x := by
      rintro rfl
      cases u with
      | nil => cases hu
      | cons d v =>
        obtain ⟨b, s, hd, hb, -⟩ := exists_encode d
        rw [bytes_cons, hd] at hu
        exact hx ((List.cons.inj hu).1 ▸ hb)
    obtain ⟨-, hm, hascii⟩ := hxm.resolve_left hm
    obtain ⟨d, v, rfl, hd, rfl⟩ := exists_placeholder hm hascii hu.symm
    obtain ⟨w, v, rfl, hw, hwm, hv⟩ := ih (fun y hy => hmore y (List.mem_cons_of_mem x hy)) hr
    refine ⟨d :: w, v, rfl, congrArg Nat.succ hw, ?_, hv⟩
    intro y hy
    rcases List.mem_cons.mp hy with rfl | hy
    · exact hd
    · exact hwm y hy

theorem eq_of_copies {more s rest rest' : List UInt8} (hs : ∀ x ∈ s, ¬x.IsUTF8FirstByte)
    (hlength : more.length = s.length)
    (h : List.Forall₂ CopiesByte (more ++ rest) (s ++ rest')) :
    more = s ∧ List.Forall₂ CopiesByte rest rest' := by
  induction more generalizing s with
  | nil =>
    obtain rfl := List.length_eq_zero_iff.mp hlength.symm
    exact ⟨rfl, h⟩
  | cons b more ih =>
    cases s with
    | nil => cases hlength
    | cons m s =>
      obtain ⟨hbm, h⟩ := List.forall₂_cons.mp h
      obtain ⟨rfl, hrest⟩ := ih (fun x hx => hs x (List.mem_cons_of_mem m hx))
        (Nat.succ.inj hlength) h
      rcases hbm with rfl | ⟨-, -, hascii⟩
      · exact ⟨rfl, hrest⟩
      · exact absurd (isUTF8FirstByte_of_lt hascii) (hs m List.mem_cons_self)

/-- A copy by bytes is one by characters. -/
theorem masks_of_copiesBytes {t u : Text} (h : CopiesBytes t u) : Masks placeholders t u := by
  unfold CopiesBytes at h
  induction t generalizing u with
  | nil =>
    cases u with
    | nil => exact .nil
    | cons d v =>
      obtain ⟨b, r, hd, -⟩ := exists_encode d
      rw [bytes_cons, hd] at h
      cases h
  | cons c t ih =>
    obtain ⟨b, more, hc, hb, hmore⟩ := exists_encode c
    rw [bytes_cons, hc] at h
    obtain ⟨m, r, hbm, hr, hu⟩ := List.forall₂_cons_left_iff.mp h
    rcases hbm with rfl | ⟨hnewline, hm, hascii⟩
    -- a first byte that is kept asks for as many bytes as before, and none of those is ASCII
    · cases u with
      | nil => cases hu
      | cons d v =>
        obtain ⟨x, s, hd, -, hs⟩ := exists_encode d
        rw [bytes_cons, hd] at hu
        obtain ⟨rfl, rfl⟩ := List.cons.inj hu
        have hsize := (utf8Size_of_encode hc).1.trans (utf8Size_of_encode hd).1.symm
        rw [← String.length_utf8EncodeChar, ← String.length_utf8EncodeChar, hc, hd] at hsize
        obtain ⟨rfl, hrest⟩ := eq_of_copies hs (Nat.succ.inj hsize) hr
        obtain rfl := utf8EncodeChar_injective (hc.trans hd.symm)
        exact .keep c (ih hrest)
    -- once the first byte is hidden, the others belong to no character and are hidden as well
    · obtain ⟨d, v, rfl, hd, rfl⟩ := exists_placeholder hm hascii hu.symm
      obtain ⟨w, v, rfl, hw, hwm, hv⟩ := exists_placeholders hmore hr
      rw [← List.cons_append]
      refine .hide c (d :: w) ?_ ?_ ?_ (ih hv)
      · rintro rfl
        exact hnewline (List.cons.inj hc).1.symm
      · rw [← String.length_utf8EncodeChar, hc, List.length_cons, List.length_cons, hw]
      · intro y hy
        rcases List.mem_cons.mp hy with rfl | hy
        · exact hd
        · exact hwm y hy

theorem encode_ne_newline {c : Char} (hc : c ≠ '\n') : ∀ b ∈ String.utf8EncodeChar c, b ≠ 10 := by
  rintro b hb rfl
  exact hc (Char.toNat_inj.mp (toNat_eq_of_mem_encode (by decide) hb))

theorem bytes_placeholders {w : Text} (hw : ∀ m ∈ w, m ∈ placeholders) :
    (bytes w).length = w.length ∧ ∀ b ∈ bytes w, b ≠ 10 ∧ b < 128 := by
  have hascii : placeholders.all (fun m => (String.utf8EncodeChar m).length == 1 &&
      (String.utf8EncodeChar m).all fun b => b != 10 && decide (b < 128)) = true := by
    decide +kernel
  induction w with
  | nil => exact ⟨rfl, by simp [bytes]⟩
  | cons m w ih =>
    obtain ⟨hlength, hbytes⟩ := ih fun x hx => hw x (List.mem_cons_of_mem m hx)
    have hm := List.all_eq_true.mp hascii m (hw m List.mem_cons_self)
    simp only [Bool.and_eq_true, beq_iff_eq, List.all_eq_true, bne_iff_ne, decide_eq_true_eq] at hm
    rw [bytes_cons]
    refine ⟨by rw [List.length_append, hm.1, hlength, List.length_cons, Nat.add_comm], ?_⟩
    intro b hb
    exact (List.mem_append.mp hb).elim (hm.2 b) (hbytes b)

theorem copies_of_placeholders {bs ms : List UInt8} (hlength : bs.length = ms.length)
    (hbs : ∀ b ∈ bs, b ≠ 10) (hms : ∀ m ∈ ms, m ≠ 10 ∧ m < 128) :
    List.Forall₂ CopiesByte bs ms := by
  induction bs generalizing ms with
  | nil =>
    obtain rfl := List.length_eq_zero_iff.mp hlength.symm
    exact .nil
  | cons b bs ih =>
    cases ms with
    | nil => cases hlength
    | cons m ms =>
      refine .cons (.inr ⟨hbs b List.mem_cons_self, hms m List.mem_cons_self⟩) ?_
      exact ih (Nat.succ.inj hlength) (fun x hx => hbs x (List.mem_cons_of_mem b hx))
        fun x hx => hms x (List.mem_cons_of_mem m hx)

theorem copiesBytes_of_masks {t u : Text} (h : Masks placeholders t u) : CopiesBytes t u := by
  unfold CopiesBytes
  induction h with
  | nil => exact .nil
  | keep c _ ih =>
    rw [bytes_cons, bytes_cons]
    exact List.rel_append (List.forall₂_same.mpr fun b _ => .inl rfl) ih
  | hide c w hc hlength hw _ ih =>
    obtain ⟨hbytes, hascii⟩ := bytes_placeholders hw
    rw [bytes_cons, bytes_append]
    refine List.rel_append (copies_of_placeholders ?_ (encode_ne_newline hc) hascii) ih
    rw [String.length_utf8EncodeChar, hbytes, hlength]

section Neutralized

/-- A byte as it stands, or an asterisk over it. No newline is covered. -/
def StarsByte (b m : UInt8) : Prop := m = b ∨ (b ≠ 10 ∧ m = 42)

/-- The second text is the first with asterisks over the bytes of some characters. -/
structure IsByteMask (t u : Text) : Prop where
  utf8 : (bytes u).toByteArray.IsValidUTF8
  length : (bytes u).length = (bytes t).length
  newlines : ∀ i : Nat, (bytes u)[i]? = some 10 ↔ (bytes t)[i]? = some 10
  others : ∀ (i : Nat) (b : UInt8), (bytes t)[i]? = some b →
    (bytes u)[i]? = some b ∨ (bytes u)[i]? = some 42
  /-- The bytes of one character stay or go together. -/
  characters : ∀ a c b, a ++ c :: b = t →
    ((bytes u).drop (size a)).take c.utf8Size = String.utf8EncodeChar c ∨
      ((bytes u).drop (size a)).take c.utf8Size = List.replicate c.utf8Size 42
  boundaries : ∀ i, isBoundary t i = true → isBoundary u i = true

theorem length_bytes (t : Text) : (bytes t).length = size t := by
  induction t with
  | nil => rfl
  | cons c t ih => rw [bytes_cons, List.length_append, String.length_utf8EncodeChar, ih, size]

theorem bytes_replicate (n : Nat) : bytes (List.replicate n '*') = List.replicate n 42 := by
  induction n with
  | zero => rfl
  | succ n ih =>
    rw [List.replicate_succ, List.replicate_succ, bytes_cons, ih]
    rfl

variable {t u : Text}

theorem starsBytes_of_masks (h : Masks ['*'] t u) :
    List.Forall₂ StarsByte (bytes t) (bytes u) := by
  induction h with
  | nil => exact .nil
  | keep c _ ih =>
    rw [bytes_cons, bytes_cons]
    exact List.rel_append (List.forall₂_same.mpr fun b _ => .inl rfl) ih
  | hide c w hc hlength hw _ ih =>
    have hstars : w = List.replicate c.utf8Size '*' :=
      List.eq_replicate_iff.mpr ⟨hlength, fun m hm => List.mem_singleton.mp (hw m hm)⟩
    rw [bytes_cons, bytes_append, hstars, bytes_replicate]
    refine List.rel_append (List.forall₂_iff_get.mpr ⟨?_, fun i hi hi' => ?_⟩) ih
    · rw [String.length_utf8EncodeChar, List.length_replicate]
    · exact .inr ⟨encode_ne_newline hc _ (List.getElem_mem hi), by simp⟩

theorem bytes_of_masks_cons {a b : Text} {c : Char} (h : Masks ['*'] (a ++ c :: b) u) :
    ((bytes u).drop (size a)).take c.utf8Size = String.utf8EncodeChar c ∨
      ((bytes u).drop (size a)).take c.utf8Size = List.replicate c.utf8Size 42 := by
  obtain ⟨x, y, rfl, hx, -, hy⟩ := h.exists_of_append asterisk_areBytes
  rw [bytes_append, ← hx, ← length_bytes, List.drop_left]
  cases hy with
  | keep _ hy =>
    left
    rw [bytes_cons, ← String.length_utf8EncodeChar, List.take_left]
  | hide _ w _ hlength hw hy =>
    right
    have hstars : w = List.replicate c.utf8Size '*' :=
      List.eq_replicate_iff.mpr ⟨hlength, fun m hm => List.mem_singleton.mp (hw m hm)⟩
    rw [bytes_append, hstars, bytes_replicate, List.take_left' List.length_replicate]

theorem isBoundary_of_masks (h : Masks ['*'] t u) {i : Nat} (hi : isBoundary t i = true) :
    isBoundary u i = true := by
  obtain ⟨a, b, rfl, rfl⟩ := isBoundary_iff.mp hi
  obtain ⟨x, y, rfl, hx, -⟩ := h.exists_of_append asterisk_areBytes
  exact isBoundary_iff.mpr ⟨x, y, rfl, hx⟩

theorem isByteMask_of_masks (h : Masks ['*'] t u) : IsByteMask t u := by
  have hbytes := starsBytes_of_masks h
  have hlength : (bytes u).length = (bytes t).length := hbytes.length_eq.symm
  have hat (i : Nat) (b : UInt8) (hb : (bytes t)[i]? = some b) :
      ∃ m, (bytes u)[i]? = some m ∧ StarsByte b m := by
    obtain ⟨hi, rfl⟩ := List.getElem?_eq_some_iff.mp hb
    exact ⟨_, List.getElem?_eq_getElem (hlength ▸ hi), hbytes.get hi (hlength ▸ hi)⟩
  refine ⟨⟨u, rfl⟩, hlength, fun i => ⟨fun hi => ?_, fun hi => ?_⟩, fun i b hb => ?_, ?_,
    fun i => isBoundary_of_masks h⟩
  · have hlt : i < (bytes t).length := hlength ▸ (List.getElem?_eq_some_iff.mp hi).1
    obtain ⟨m, hm, hstar⟩ := hat i _ (List.getElem?_eq_getElem hlt)
    obtain rfl : m = 10 := Option.some.inj (hm.symm.trans hi)
    rcases hstar with heq | ⟨-, hstar⟩
    · rw [List.getElem?_eq_getElem hlt, heq]
    · cases hstar
  · obtain ⟨m, hm, hstar⟩ := hat i 10 hi
    rcases hstar with rfl | ⟨hne, -⟩
    · exact hm
    · exact absurd rfl hne
  · obtain ⟨m, hm, hstar⟩ := hat i b hb
    rcases hstar with rfl | ⟨-, rfl⟩
    · exact .inl hm
    · exact .inr hm
  · rintro a c b rfl
    exact bytes_of_masks_cons h

/-- Every neutralized source is a mask of its source, byte by byte. -/
theorem isByteMask_neutralized (t : Text) :
    IsByteMask t (neutralizeMarkdown t) ∧ IsByteMask t (neutralizeAsciidoc t) ∧
      IsByteMask t (neutralizeHtml t) ∧ IsByteMask t (maskCode t) ∧
        ∀ f, IsByteMask t (searchable f t) :=
  ⟨isByteMask_of_masks (masks_neutralizeMarkdown t),
    isByteMask_of_masks (masks_neutralizeAsciidoc t),
    isByteMask_of_masks (masks_blankGroup tag 0 t), isByteMask_of_masks (masks_maskCode t),
    fun f => isByteMask_of_masks (masks_searchable f t)⟩

end Neutralized

end Markup

end Copydesk
