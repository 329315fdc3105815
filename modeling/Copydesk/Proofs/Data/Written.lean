import Copydesk.Proofs.Data.Object
import Copydesk.Proofs.Text.Decimal

/-! JSON as it is written. It is read back as it was, and it stands on one line. -/

namespace Copydesk.Data.Json

open Text (ofNat appendDigits)

namespace Reader

section Numbers

variable {m n : Nat} {ds rest : Text}

theorem foldl_digit (h : appendDigits m ds ≤ maxWord) :
    ds.foldl (Significand.digit false) ⟨m, 0, false⟩ = ⟨appendDigits m ds, 0, false⟩ := by
  induction ds generalizing m with
  | nil => rfl
  | cons c ds ih =>
    have hle : 10 * m + (c.toNat - '0'.toNat) ≤ maxWord :=
      Nat.le_trans (Text.le_appendDigits _ ds) h
    have hdigit : Significand.digit false ⟨m, 0, false⟩ c =
        ⟨10 * m + (c.toNat - '0'.toNat), 0, false⟩ := by
      rw [Significand.digit, Bool.false_or, if_neg (by simpa using hle)]
      rfl
    rw [List.foldl_cons, hdigit]
    exact ih h

/-- A text that continues no number. -/
def EndsNumber (t : Text) : Prop := ∀ c ∈ t.head?, c.isDigit = false ∧ c ≠ '.' ∧ c ≠ 'e' ∧ c ≠ 'E'

theorem isBlank_of_isDigit {c : Char} (h : c.isDigit = true) : isBlank c = false := by
  simp only [isBlank, Bool.or_eq_false_iff, beq_eq_false_iff_ne]
  refine ⟨⟨⟨?_, ?_⟩, ?_⟩, ?_⟩ <;>
  · rintro rfl
    cases h

theorem takeWhile_isDigit_ofNat (n : Nat) (hrest : EndsNumber rest) :
    (ofNat n ++ rest).takeWhile Char.isDigit = ofNat n := by
  rw [List.takeWhile_append_of_pos fun _ => Text.isDigit_of_mem_ofNat]
  cases rest with
  | nil => exact List.append_nil _
  | cons c rest => rw [List.takeWhile_cons_of_neg (by simp [(hrest c rfl).1]), List.append_nil]

theorem ofNat_append_ne_minus (n : Nat) (t : Text) : ofNat n ++ rest ≠ '-' :: t := by
  obtain ⟨c, ds, hcons, hdigit⟩ := Text.exists_cons_ofNat n
  rw [hcons, List.cons_append]
  intro h
  rw [(List.cons.inj h).1] at hdigit
  cases hdigit

theorem number_ofNat (hn : n ≤ maxWord) (hrest : EndsNumber rest) :
    number (ofNat n ++ rest) = .ok (.int n, rest) := by
  have hwhole := takeWhile_isDigit_ofNat n hrest
  have hproper : ((ofNat n).isEmpty ||
      ((ofNat n).head? == some '0' && (ofNat n).length != 1)) = false := by
    rw [Bool.or_eq_false_iff, Bool.and_eq_false_iff]
    refine ⟨List.isEmpty_eq_false_iff.mpr (Text.ofNat_ne_nil n), ?_⟩
    by_cases hzero : n = 0
    · exact .inr (hzero ▸ rfl)
    · exact .inl (beq_eq_false_iff_ne.mpr (Text.head?_ofNat hzero))
  have hfold : (ofNat n).foldl (Significand.digit false) {} = ⟨n, 0, false⟩ := by
    have h := @foldl_digit 0 (ofNat n)
    rw [Text.appendDigits_ofNat] at h
    exact h hn
  unfold number
  rw [bind_of_ok (u := ofNat n ++ rest) (a := ofNat n ++ rest) rfl]
  split
  · exact absurd ‹_› (ofNat_append_ne_minus n _)
  · simp only [hwhole, hproper, List.drop_left, hfold, Bool.false_eq_true, if_false]
    cases rest with
    | nil => rfl
    | cons c rest =>
      -- neither a fraction nor an exponent follows
      obtain ⟨-, hdot, he, hE⟩ := hrest c rfl
      have hexponent : ¬(c = 'e' ∨ c = 'E') := not_or.mpr ⟨he, hE⟩
      simp only [pure_bind, hdot, hexponent, if_false, List.cons.injEq, false_and, imp_self,
        implies_true]
      rfl

end Numbers

end Reader

variable {d : Nat} {v : Value} {vs : List Value} {fs : List (Text × Value)} {k : Text}

/-- Values without fractions, with numbers of a machine word and no key twice in a table. At most
`d` lists and tables stand in one another. -/
inductive Fits : Nat → Value → Prop
  | null {d : Nat} : Fits d .null
  | bool {d : Nat} (b : Bool) : Fits d (.bool b)
  | nat {d n : Nat} (hn : n ≤ Reader.maxWord) : Fits d (.int n)
  | str {d : Nat} (t : Text) : Fits d (.str t)
  | list {d : Nat} {vs : List Value} (hvs : ∀ v ∈ vs, Fits d v) : Fits (d + 1) (.list vs)
  | table {d : Nat} {fs : List (Text × Value)} (hkeys : (fs.map (·.1)).Nodup)
    (hfs : ∀ f ∈ fs, Fits d f.2) : Fits (d + 1) (.table fs)

theorem write_nat (n : Nat) : write (.int n) = Text.ofNat n := rfl

theorem writeItems_cons (v : Value) (hvs : vs ≠ []) :
    writeItems (v :: vs) = write v ++ ',' :: writeItems vs := by
  rw [writeItems]
  exact hvs

theorem writeFields_cons (k : Text) (v : Value) (hfs : fs ≠ []) :
    writeFields ((k, v) :: fs) = writeString k ++ ':' :: (write v ++ ',' :: writeFields fs) := by
  rw [writeFields]
  · simp
  · exact hfs

/-- A text that is not empty and begins with no blank and no closing bracket. -/
def BeginsValue (t : Text) : Prop := ∃ c u, t = c :: u ∧ Reader.isBlank c = false ∧ c ≠ ']'

theorem beginsValue_write (h : Fits d v) : BeginsValue (write v) := by
  cases h with
  | null => exact ⟨'n', _, rfl, by decide, by decide⟩
  | bool b => cases b <;> exact ⟨_, _, rfl, by decide, by decide⟩
  | @nat _ n hn =>
    obtain ⟨c, u, hcons, hdigit⟩ := Text.exists_cons_ofNat n
    refine ⟨c, u, hcons, Reader.isBlank_of_isDigit hdigit, ?_⟩
    rintro rfl
    cases hdigit
  | str t => exact ⟨'"', _, rfl, by decide, by decide⟩
  | list hvs => exact ⟨'[', _, rfl, by decide, by decide⟩
  | table hkeys hfs => exact ⟨'{', _, rfl, by decide, by decide⟩

namespace Reader

/-- The value is read from where it is written, and reading stops there. -/
def Reads (d : Nat) (v : Value) : Prop :=
  ∀ fuel rest, 2 * (write v).length ≤ fuel → EndsNumber rest →
    value fuel d (write v ++ rest) = .ok (v, rest)

variable {fuel : Nat} {rest : Text}

theorem endsNumber_comma : EndsNumber (',' :: rest) := by
  rintro c ⟨⟩
  decide

theorem endsNumber_bracket : EndsNumber (']' :: rest) := by
  rintro c ⟨⟩
  decide

theorem endsNumber_brace : EndsNumber ('}' :: rest) := by
  rintro c ⟨⟩
  decide

/-- A value without parts needs one round of reading. -/
theorem reads_of_succ (hbegins : BeginsValue (write v))
    (h : ∀ fuel rest, EndsNumber rest → value (fuel + 1) d (write v ++ rest) = .ok (v, rest)) :
    Reads d v := by
  intro fuel rest hfuel hrest
  obtain ⟨c, u, hcons, -⟩ := hbegins
  rw [hcons, List.length_cons] at hfuel
  obtain ⟨fuel, rfl⟩ : ∃ fuel', fuel = fuel' + 1 := ⟨fuel - 1, by omega⟩
  exact h fuel rest hrest

theorem reads_null : Reads d .null := by
  refine reads_of_succ (beginsValue_write (@Fits.null d)) fun fuel rest _ => ?_
  cases d <;> rfl

theorem reads_bool (b : Bool) : Reads d (.bool b) := by
  refine reads_of_succ (beginsValue_write (@Fits.bool d b)) fun fuel rest _ => ?_
  cases b <;> cases d <;> rfl

theorem reads_str (t : Text) : Reads d (.str t) := by
  refine reads_of_succ (beginsValue_write (@Fits.str d t)) fun fuel rest _ => ?_
  have hread := @string_writeString rest t
  have htext : write (.str t) ++ rest = writeString t ++ rest := rfl
  rw [htext]
  rw [writeString_append] at hread ⊢
  cases d <;>
  · rw [value, bind_of_ok (skipBlank_cons (by decide)), bind_of_ok rfl]
    exact bind_of_ok hread

theorem reads_nat {n : Nat} (hn : n ≤ maxWord) : Reads d (.int n) := by
  refine reads_of_succ (beginsValue_write (@Fits.nat d n hn)) fun fuel rest hrest => ?_
  have hread := number_ofNat hn hrest
  obtain ⟨c, u, hcons, hdigit⟩ := Text.exists_cons_ofNat n
  rw [hcons, List.cons_append] at hread
  rw [write_nat, hcons, List.cons_append]
  cases d <;>
  · rw [value, bind_of_ok (skipBlank_cons (isBlank_of_isDigit hdigit)),
      bind_of_ok (a := c :: (u ++ rest)) rfl, List.head?_cons]
    refine (congrFun ?_ _).trans hread
    split
    case h_7 h => exact if_pos (.inr (Option.some.inj h ▸ hdigit))
    case h_8 h => cases h
    -- no other value begins with a digit
    all_goals
      obtain rfl := Option.some.inj ‹_›
      cases hdigit

def afterItem (fuel depth : Nat) (v : Value) : Reader (List Value) := do
  skipBlank
  match (← get).head? with
  | some ',' => expect [',']; return v :: (← items fuel depth)
  | some ']' => expect [']']; return [v]
  | _ => unexpected

theorem items_of_value {t : Text} (h : value fuel d t = .ok (v, rest)) :
    items (fuel + 1) d t = afterItem fuel d v rest := by
  rw [items, bind_of_ok h]
  rfl

theorem afterItem_bracket : afterItem fuel d v (']' :: rest) = .ok ([v], rest) := by
  rw [afterItem, bind_of_ok (skipBlank_cons (by decide)), bind_of_ok (a := ']' :: rest) rfl]
  exact bind_of_ok (expect_cons ']')

theorem afterItem_comma {vs : List Value} {t : Text} (h : items fuel d t = .ok (vs, rest)) :
    afterItem fuel d v (',' :: t) = .ok (v :: vs, rest) := by
  rw [afterItem, bind_of_ok (skipBlank_cons (by decide)), bind_of_ok (a := ',' :: t) rfl]
  refine (bind_of_ok (expect_cons ',')).trans ?_
  exact bind_of_ok h

theorem items_writeItems (hvs : ∀ v ∈ vs, Reads d v) (hne : vs ≠ [])
    (hfuel : 2 * (writeItems vs).length < fuel) :
    items fuel d (writeItems vs ++ ']' :: rest) = .ok (vs, rest) := by
  induction vs generalizing fuel with
  | nil => exact absurd rfl hne
  | cons v vs ih =>
    obtain ⟨fuel, rfl⟩ := Nat.exists_eq_succ_of_ne_zero (Nat.ne_of_gt (Nat.zero_lt_of_lt hfuel))
    have hv := hvs v List.mem_cons_self
    by_cases hnil : vs = []
    · subst hnil
      rw [writeItems] at hfuel ⊢
      rw [items_of_value (hv fuel _ (by omega) endsNumber_bracket), afterItem_bracket]
    · rw [writeItems_cons v hnil, List.length_append, List.length_cons] at hfuel
      rw [writeItems_cons v hnil, List.append_assoc, List.cons_append,
        items_of_value (hv fuel _ (by omega) endsNumber_comma)]
      exact afterItem_comma
        (ih (fun w hw => hvs w (List.mem_cons_of_mem v hw)) hnil (by omega))

theorem fields_of_value {acc : List (Text × Value)} {t : Text}
    (h : value fuel d t = .ok (v, rest)) :
    fields (fuel + 1) d acc (writeString k ++ ':' :: t) = afterMember fuel d (put k v acc) rest := by
  have hread := @string_writeString (':' :: t) k
  rw [writeString_append] at hread ⊢
  rw [fields, bind_of_ok (skipBlank_cons (by decide)), bind_of_ok hread,
    bind_of_ok (skipBlank_cons (by decide)), bind_of_ok (expect_cons ':'), bind_of_ok h]
  rfl

theorem fields_writeFields {acc : List (Text × Value)} (hfs : ∀ f ∈ fs, Reads d f.2) (hne : fs ≠ [])
    (hkeys : (acc.map (·.1) ++ fs.map (·.1)).Nodup) (hfuel : 2 * (writeFields fs).length < fuel) :
    fields fuel d acc (writeFields fs ++ '}' :: rest) = .ok (acc ++ fs, rest) := by
  induction fs generalizing fuel acc with
  | nil => exact absurd rfl hne
  | cons f fs ih =>
    obtain ⟨k, v⟩ := f
    obtain ⟨fuel, rfl⟩ := Nat.exists_eq_succ_of_ne_zero (Nat.ne_of_gt (Nat.zero_lt_of_lt hfuel))
    have hv : Reads d v := hfs (k, v) List.mem_cons_self
    have hput : put k v acc = acc ++ [(k, v)] := by
      obtain ⟨-, -, hdisjoint⟩ := List.nodup_append.mp hkeys
      exact put_of_not_mem v fun h => hdisjoint k h k List.mem_cons_self rfl
    by_cases hnil : fs = []
    · subst hnil
      have hend := @afterMember_brace fuel d [] rest (acc ++ [(k, v)]) (by simp)
      rw [writeFields, List.length_append, List.length_cons] at hfuel
      rw [writeFields, List.append_assoc, List.cons_append,
        fields_of_value (hv fuel _ (by omega) endsNumber_brace), hput]
      exact hend
    · rw [writeFields_cons k v hnil, List.length_append, List.length_cons, List.length_append,
        List.length_cons] at hfuel
      rw [writeFields_cons k v hnil, List.append_assoc, List.cons_append, List.append_assoc,
        List.cons_append, fields_of_value (hv fuel _ (by omega) endsNumber_comma), afterMember_comma,
        hput, ih (fun w hw => hfs w (List.mem_cons_of_mem (k, v) hw)) hnil ?_ (by omega),
        List.append_assoc]
      · rfl
      · simpa using hkeys

theorem beginsValue_writeItems (hvs : ∀ v ∈ vs, Fits d v) (hne : vs ≠ []) :
    BeginsValue (writeItems vs) := by
  obtain ⟨v, vs, rfl⟩ := List.exists_cons_of_ne_nil hne
  obtain ⟨c, u, hcons, hc⟩ := beginsValue_write (hvs v List.mem_cons_self)
  by_cases hnil : vs = []
  · subst hnil
    exact ⟨c, u, by rw [writeItems, hcons], hc⟩
  · exact ⟨c, _, by rw [writeItems_cons v hnil, hcons]; rfl, hc⟩

theorem exists_writeFields_eq (hne : fs ≠ []) : ∃ u, writeFields fs = '"' :: u := by
  obtain ⟨⟨k, v⟩, fs, rfl⟩ := List.exists_cons_of_ne_nil hne
  by_cases hnil : fs = []
  · subst hnil
    exact ⟨_, by rw [writeFields, writeString, List.cons_append]⟩
  · exact ⟨_, by rw [writeFields_cons k v hnil, writeString, List.cons_append]⟩

theorem reads_list (hvs : ∀ v ∈ vs, Fits d v) (ih : ∀ v ∈ vs, Reads d v) :
    Reads (d + 1) (.list vs) := by
  intro fuel rest hfuel hrest
  have htext : write (.list vs) ++ rest = '[' :: (writeItems vs ++ ']' :: rest) := by
    simp [write]
  have hlength : (write (.list vs)).length = (writeItems vs).length + 2 := by
    simp [write]
  rw [hlength] at hfuel
  obtain ⟨fuel, rfl⟩ : ∃ fuel', fuel = fuel' + 1 := ⟨fuel - 1, by omega⟩
  rw [htext, value, bind_of_ok (skipBlank_cons (by decide)),
    bind_of_ok (a := '[' :: (writeItems vs ++ ']' :: rest)) rfl]
  refine (bind_of_ok (expect_cons '[')).trans ?_
  by_cases hne : vs = []
  · subst hne
    rfl
  · obtain ⟨c, u, hcons, hblank, hclose⟩ := beginsValue_writeItems hvs hne
    have hitems := @items_writeItems d vs fuel rest ih hne (by omega)
    rw [hcons, List.cons_append] at hitems ⊢
    rw [bind_of_ok (skipBlank_cons hblank), bind_of_ok (a := c :: (u ++ ']' :: rest)) rfl,
      if_neg (by simpa using hclose)]
    exact bind_of_ok hitems

theorem reads_table (hkeys : (fs.map (·.1)).Nodup) (ih : ∀ f ∈ fs, Reads d f.2) :
    Reads (d + 1) (.table fs) := by
  intro fuel rest hfuel hrest
  have htext : write (.table fs) ++ rest = '{' :: (writeFields fs ++ '}' :: rest) := by
    simp [write]
  have hlength : (write (.table fs)).length = (writeFields fs).length + 2 := by
    simp [write]
  rw [hlength] at hfuel
  obtain ⟨fuel, rfl⟩ : ∃ fuel', fuel = fuel' + 1 := ⟨fuel - 1, by omega⟩
  rw [htext, value, bind_of_ok (skipBlank_cons (by decide)),
    bind_of_ok (a := '{' :: (writeFields fs ++ '}' :: rest)) rfl]
  refine (bind_of_ok (expect_cons '{')).trans ?_
  by_cases hne : fs = []
  · subst hne
    rfl
  · obtain ⟨u, hcons⟩ := exists_writeFields_eq hne
    have hfields := @fields_writeFields d fs fuel rest [] ih hne hkeys (by omega)
    rw [hcons, List.cons_append] at hfields ⊢
    rw [bind_of_ok (skipBlank_cons (by decide)), bind_of_ok (a := '"' :: (u ++ '}' :: rest)) rfl,
      if_neg (by simp)]
    exact bind_of_ok hfields

theorem reads_of_fits (h : Fits d v) : Reads d v := by
  induction h with
  | null => exact reads_null
  | bool b => exact reads_bool b
  | nat hn => exact reads_nat hn
  | str t => exact reads_str t
  | list hvs ih => exact reads_list hvs ih
  | table hkeys _ ih => exact reads_table hkeys ih

end Reader

/-- What is written is read back, and blanks behind it do not matter. -/
theorem read_write_append {tail : Text} (h : Fits nestingLimit v)
    (htail : ∀ c ∈ tail, Reader.isBlank c = true) : read (write v ++ tail) = .ok v := by
  have hends : Reader.EndsNumber tail := by
    intro c hc
    have hblank := htail c (List.mem_of_mem_head? hc)
    refine ⟨Bool.eq_false_iff.mpr fun hdigit => ?_, ?_, ?_, ?_⟩
    · rw [Reader.isBlank_of_isDigit hdigit] at hblank
      cases hblank
    all_goals
      rintro rfl
      cases hblank
  have hfuel : 2 * (write v).length ≤ 2 * (write v ++ tail).length + 2 := by
    rw [List.length_append]
    omega
  have hvalue := Reader.reads_of_fits h _ tail hfuel hends
  have hend : tail.dropWhile Reader.isBlank = [] := List.dropWhile_eq_nil_iff.mpr htail
  refine Outcome.bind_eq_ok_iff.mpr ⟨(v, tail), hvalue, ?_⟩
  simp only [hend]
  rfl

theorem newline_not_mem_writeItems (hvs : ∀ v ∈ vs, '\n' ∉ write v) : '\n' ∉ writeItems vs := by
  induction vs with
  | nil => exact List.not_mem_nil
  | cons v vs ih =>
    have hv := hvs v List.mem_cons_self
    have ih := ih fun w hw => hvs w (List.mem_cons_of_mem v hw)
    by_cases hnil : vs = []
    · subst hnil
      rwa [writeItems]
    · simp [writeItems_cons v hnil, hv, ih]

theorem newline_not_mem_writeFields (hfs : ∀ f ∈ fs, '\n' ∉ write f.2) : '\n' ∉ writeFields fs := by
  induction fs with
  | nil => exact List.not_mem_nil
  | cons f fs ih =>
    obtain ⟨k, v⟩ := f
    have hk := newline_not_mem_writeString k
    have hv : '\n' ∉ write v := hfs (k, v) List.mem_cons_self
    have ih := ih fun w hw => hfs w (List.mem_cons_of_mem (k, v) hw)
    by_cases hnil : fs = []
    · subst hnil
      simp [writeFields, hk, hv]
    · simp [writeFields_cons k v hnil, hk, hv, ih]

theorem newline_not_mem_write (h : Fits d v) : '\n' ∉ write v := by
  induction h with
  | null => decide
  | bool b => cases b <;> decide
  | nat hn => exact Text.not_mem_ofNat (by decide)
  | str t => exact newline_not_mem_writeString t
  | list hvs ih => simp [write, newline_not_mem_writeItems ih]
  | table hkeys _ ih => simp [write, newline_not_mem_writeFields ih]

end Copydesk.Data.Json
