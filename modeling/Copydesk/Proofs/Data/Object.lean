import Copydesk.Data.Json
import Copydesk.Proofs.Outcome
import Copydesk.Proofs.Text.Line
import Mathlib.Data.List.DropRight
import Mathlib.Data.List.Nodup

/-! The reader of JSON, step by step. Each character of a string is read as itself, whether it
stands for itself or is written with a backslash. Reading an object of strings, with blanks of one's
choice between its members, gives the members back, and with a member to a line it has them on
successive lines. -/

namespace Copydesk.Data

theorem put_of_not_mem {α : Type} {key : Text} {fields : List (Text × α)} (a : α)
    (h : key ∉ fields.map (·.1)) : put key a fields = fields ++ [(key, a)] := by
  induction fields with
  | nil => rfl
  | cons f fields ih =>
    rw [List.map_cons, List.mem_cons, not_or] at h
    rw [put, if_neg (Ne.symm h.1), ih h.2]
    rfl

namespace Json

namespace Reader

variable {α β : Type} {fuel : Nat} {gap rest : Text}

theorem bind_of_ok {r : Reader α} {f : α → Reader β} {t u : Text} {a : α}
    (h : r t = .ok (a, u)) : (r >>= f) t = f a u := by
  change (r t >>= fun p => f p.1 p.2) = f a u
  rw [h]
  rfl

theorem skipBlank_append {c : Char} (hgap : ∀ x ∈ gap, isBlank x = true) (hc : isBlank c = false) :
    skipBlank (gap ++ c :: rest) = .ok ((), c :: rest) := by
  have h : (gap ++ c :: rest).dropWhile isBlank = c :: rest := by
    rw [List.dropWhile_append_of_pos hgap, List.dropWhile_cons_of_neg (by simp [hc])]
  exact congrArg (fun t => Except.ok ((), t)) h

theorem skipBlank_cons {c : Char} (hc : isBlank c = false) :
    skipBlank (c :: rest) = .ok ((), c :: rest) :=
  @skipBlank_append [] rest c (fun _ h => absurd h List.not_mem_nil) hc

theorem expect_cons (c : Char) : expect [c] (c :: rest) = .ok ((), rest) := by
  have h : Text.afterPrefix? [c] (c :: rest) = some rest :=
    Text.afterPrefix?_eq_some_iff.mpr rfl
  rw [expect, bind_of_ok (u := c :: rest) (a := c :: rest) rfl, h]
  rfl

theorem hexDigit?_hexDigit : ∀ n < 16, hexDigit? (hexDigit n) = some n := by decide

theorem scalar_toNat (c : Char) : scalar c.toNat = .ok c := by
  have hvalid : c.toNat.isValidChar := c.valid
  rw [scalar, dif_pos hvalid]
  rfl

theorem unicodeEscape_hexDigit {c : Char} (hc : c.toNat < 32) (t : Text) :
    unicodeEscape ('0' :: '0' :: hexDigit (c.toNat / 16) :: hexDigit (c.toNat % 16) :: t) =
      .ok (c, t) := by
  have hhigh : hexDigit? (hexDigit (c.toNat / 16)) = some (c.toNat / 16) :=
    hexDigit?_hexDigit _ (by omega)
  have hlow : hexDigit? (hexDigit (c.toNat % 16)) = some (c.toNat % 16) :=
    hexDigit?_hexDigit _ (by omega)
  have hhex : hex4? ('0' :: '0' :: hexDigit (c.toNat / 16) :: hexDigit (c.toNat % 16) :: t) =
      some (c.toNat, t) := by
    have hzero : hexDigit? '0' = some 0 := by decide
    have hvalue : ((0 * 16 + 0) * 16 + c.toNat / 16) * 16 + c.toNat % 16 = c.toNat := by omega
    simp only [hex4?, hzero, hhigh, hlow, Option.bind_eq_bind, Option.bind_some, hvalue]
    rfl
  have hplain : ¬(0xd800 ≤ c.toNat ∧ c.toNat < 0xdc00) := by omega
  simp only [unicodeEscape, hhex]
  rw [if_neg hplain, scalar_toNat]
  rfl

theorem stringBody_bare {c : Char} (hquote : c ≠ '"') (hslash : c ≠ '\\') (hcontrol : 32 ≤ c.toNat)
    (t : Text) : stringBody (fuel + 1) (c :: t) = stringBody fuel t >>= fun p => pure (c :: p.1, p.2) := by
  rw [stringBody, if_neg hslash, if_neg (Nat.not_lt.mpr hcontrol)]
  · exact hquote
  · exact fun _ h => absurd h hslash
  · exact fun _ _ h => absurd h hslash

/-- A character as it is written is read as itself, and reading goes on. -/
theorem stringBody_escapeChar (c : Char) (t : Text) : stringBody (fuel + 1) (escapeChar c ++ t) =
    stringBody fuel t >>= fun p => pure (c :: p.1, p.2) := by
  unfold escapeChar
  split
  case h_8 hquote hslash _ _ _ _ _ =>
    split
    · rename_i hcontrol
      rw [List.cons_append, List.cons_append, stringBody]
      simp only [List.cons_append, List.nil_append, unicodeEscape_hexDigit hcontrol]
      rfl
    · rename_i hcontrol
      exact stringBody_bare hquote hslash (Nat.not_lt.mp hcontrol) t
  all_goals rfl

theorem stringBody_flatMap {s : Text} (hfuel : s.length < fuel) :
    stringBody fuel (s.flatMap escapeChar ++ '"' :: rest) = .ok (s, rest) := by
  induction s generalizing fuel with
  | nil =>
    obtain ⟨fuel, rfl⟩ := Nat.exists_eq_succ_of_ne_zero (Nat.ne_of_gt hfuel)
    rfl
  | cons c s ih =>
    obtain ⟨fuel, rfl⟩ := Nat.exists_eq_succ_of_ne_zero (Nat.ne_of_gt (Nat.zero_lt_of_lt hfuel))
    rw [List.flatMap_cons, List.append_assoc, stringBody_escapeChar, ih (Nat.lt_of_succ_lt_succ hfuel)]
    rfl

theorem string_of_stringBody {s t : Text} (h : stringBody (t.length + 1) t = .ok (s, rest)) :
    string ('"' :: t) = .ok (s, rest) := by
  have hlift : (liftM (stringBody (t.length + 1) t) : Reader (Text × Text)) t =
      .ok ((s, rest), t) := by
    rw [h]
    rfl
  rw [string, bind_of_ok (expect_cons '"'), bind_of_ok (u := t) rfl]
  exact bind_of_ok hlift

theorem length_le_flatMap_escapeChar (s : Text) : s.length ≤ (s.flatMap escapeChar).length := by
  have hpos (c : Char) : 0 < (escapeChar c).length := by
    unfold escapeChar
    repeat' split
    all_goals exact Nat.succ_pos _
  induction s with
  | nil => exact Nat.le_refl 0
  | cons c s ih =>
    have hc := hpos c
    rw [List.flatMap_cons, List.length_append, List.length_cons]
    omega

theorem writeString_append (s : Text) :
    writeString s ++ rest = '"' :: (s.flatMap escapeChar ++ '"' :: rest) := by
  simp [writeString]

theorem string_writeString (s : Text) : string (writeString s ++ rest) = .ok (s, rest) := by
  have hlength : s.length < (s.flatMap escapeChar ++ '"' :: rest).length + 1 := by
    have := length_le_flatMap_escapeChar s
    rw [List.length_append]
    omega
  rw [writeString_append]
  exact string_of_stringBody (stringBody_flatMap hlength)

end Reader

theorem newline_not_mem_escapeChar (c : Char) : '\n' ∉ escapeChar c := by
  unfold escapeChar
  split
  case h_8 hnewline _ _ =>
    split
    · rename_i hcontrol
      have hhex : ∀ n < 16, hexDigit n ≠ '\n' := by decide
      have hhigh := hhex (c.toNat / 16) (by omega)
      have hlow := hhex (c.toNat % 16) (by omega)
      simp [Ne.symm hhigh, Ne.symm hlow]
    · exact fun h => hnewline (List.mem_singleton.mp h).symm
  all_goals decide

theorem newline_not_mem_writeString (t : Text) : '\n' ∉ writeString t := by
  have ht : '\n' ∉ t.flatMap escapeChar := fun h => by
    obtain ⟨c, -, hc⟩ := List.mem_flatMap.mp h
    exact newline_not_mem_escapeChar c hc
  simp [writeString, ht]

/-- The characters stand for themselves in a string. -/
def IsBare (t : Text) : Prop := ∀ c ∈ t, c ≠ '"' ∧ c ≠ '\\' ∧ 32 ≤ c.toNat

instance (t : Text) : Decidable (IsBare t) := List.decidableBAll _ t

theorem escapeChar_eq_self {c : Char} (h : c ≠ '"' ∧ c ≠ '\\' ∧ 32 ≤ c.toNat) :
    escapeChar c = [c] := by
  obtain ⟨hquote, hslash, hcontrol⟩ := h
  unfold escapeChar
  split
  case h_1 => exact absurd rfl hquote
  case h_2 => exact absurd rfl hslash
  case h_8 => rw [if_neg (Nat.not_lt.mpr hcontrol)]
  all_goals exact absurd hcontrol (by decide)

theorem IsBare.flatMap_escapeChar {s : Text} (hs : IsBare s) : s.flatMap escapeChar = s := by
  rw [List.flatMap_congr fun c hc => escapeChar_eq_self (hs c hc)]
  exact List.flatMap_singleton' s

/-- What stands before a value: a gap and the key. -/
def keyText (gap key : Text) : Text := gap ++ '"' :: (key ++ ['"', ':', ' ', '"'])

def memberText (gap : Text) (m : Text × Text) : Text := keyText gap m.1 ++ (m.2 ++ ['"'])

def membersText (gap : Text) : List (Text × Text) → Text
  | [] => []
  | [m] => memberText gap m
  | m :: ms => memberText gap m ++ ',' :: membersText gap ms

/-- An object of strings with a gap before each member and before its closing brace. -/
def objectText (gap close : Text) (ms : List (Text × Text)) : Text :=
  '\x7b' :: (membersText gap ms ++ (close ++ ['\x7d']))

def fieldsOf (ms : List (Text × Text)) : List (Text × Value) := ms.map fun m => (m.1, .str m.2)

namespace Reader

variable {fuel depth : Nat} {gap close rest : Text}

theorem string_append {s : Text} (hs : IsBare s) :
    string ('"' :: (s ++ '"' :: rest)) = .ok (s, rest) := by
  have hread := @string_writeString rest s
  rwa [writeString_append, hs.flatMap_escapeChar] at hread

theorem value_string {s : Text} (hs : IsBare s) (hgap : ∀ x ∈ gap, isBlank x = true) :
    value (fuel + 1) depth (gap ++ '"' :: (s ++ '"' :: rest)) = .ok (.str s, rest) := by
  have hquote : isBlank '"' = false := by decide
  have hskip := @skipBlank_append gap (s ++ '"' :: rest) '"' hgap hquote
  cases depth <;>
  · rw [value, bind_of_ok hskip, bind_of_ok (u := '"' :: (s ++ '"' :: rest)) rfl]
    exact bind_of_ok (string_append hs)

theorem memberText_append (m : Text × Text) : memberText gap m ++ rest =
    gap ++ '"' :: (m.1 ++ '"' :: ':' :: ([' '] ++ '"' :: (m.2 ++ '"' :: rest))) := by
  simp [memberText, keyText]

def afterMember (fuel depth : Nat) (acc : List (Text × Value)) : Reader (List (Text × Value)) := do
  skipBlank
  match (← get).head? with
  | some ',' => expect [',']; fields fuel depth acc
  | some '}' => expect ['}']; return acc
  | _ => unexpected

theorem afterMember_comma {acc : List (Text × Value)} :
    afterMember fuel depth acc (',' :: rest) = fields fuel depth acc rest := by
  rw [afterMember, bind_of_ok (skipBlank_cons (by decide)), bind_of_ok (u := ',' :: rest) rfl]
  exact bind_of_ok (expect_cons ',')

theorem afterMember_brace {acc : List (Text × Value)} (hclose : ∀ x ∈ close, isBlank x = true) :
    afterMember fuel depth acc (close ++ '}' :: rest) = .ok (acc, rest) := by
  rw [afterMember, bind_of_ok (skipBlank_append hclose (by decide)),
    bind_of_ok (u := '}' :: rest) rfl]
  exact bind_of_ok (expect_cons '}')

theorem fields_memberText {m : Text × Text} {acc : List (Text × Value)}
    (hm : IsBare m.1 ∧ IsBare m.2) (hgap : ∀ x ∈ gap, isBlank x = true) :
    fields (fuel + 2) depth acc (memberText gap m ++ rest) =
      afterMember (fuel + 1) depth (put m.1 (.str m.2) acc) rest := by
  have hblank : ∀ x ∈ [' '], isBlank x = true := List.forall_mem_singleton.mpr (by decide)
  rw [memberText_append, fields, bind_of_ok (skipBlank_append hgap (by decide)),
    bind_of_ok (string_append hm.1), bind_of_ok (skipBlank_cons (by decide)),
    bind_of_ok (expect_cons ':'), bind_of_ok (value_string hm.2 hblank)]
  rfl

theorem fields_members {ms : List (Text × Text)} {acc : List (Text × Value)} (hne : ms ≠ [])
    (hgap : ∀ x ∈ gap, isBlank x = true) (hclose : ∀ x ∈ close, isBlank x = true)
    (hms : ∀ m ∈ ms, IsBare m.1 ∧ IsBare m.2)
    (hkeys : (acc.map (·.1) ++ ms.map (·.1)).Nodup) (hfuel : ms.length < fuel) :
    fields fuel depth acc (membersText gap ms ++ (close ++ '}' :: rest)) =
      .ok (acc ++ fieldsOf ms, rest) := by
  induction ms generalizing fuel acc with
  | nil => exact absurd rfl hne
  | cons m ms ih =>
    obtain ⟨fuel, rfl⟩ := Nat.exists_eq_add_of_lt hfuel
    obtain ⟨-, -, hdisjoint⟩ := List.nodup_append.mp hkeys
    have hput : put m.1 (.str m.2) acc = acc ++ [(m.1, .str m.2)] :=
      put_of_not_mem _ fun h => hdisjoint _ h m.1 (by simp) rfl
    have hm := hms m List.mem_cons_self
    have hlength : (m :: ms).length + fuel + 1 = ms.length + fuel + 2 := by
      rw [List.length_cons]
      omega
    rw [hlength]
    -- the last member is followed by the brace, the others by a comma
    cases ms with
    | nil => rw [membersText, fields_memberText hm hgap, afterMember_brace hclose, hput]; rfl
    | cons m' ms =>
      rw [membersText, List.append_assoc, List.cons_append, fields_memberText hm hgap,
        afterMember_comma, hput, ih (by simp) (fun x hx => hms x (List.mem_cons_of_mem m hx)) _
          (by omega), List.append_assoc]
      · rfl
      · simpa using hkeys
      · simp

/-- Blanks may be skipped before members are read. -/
theorem fields_dropWhile (acc : List (Text × Value)) (t : Text) :
    fields (fuel + 1) depth acc (t.dropWhile isBlank) = fields (fuel + 1) depth acc t := by
  have hbind (f : Unit → Reader (List (Text × Value))) (t : Text) :
      (skipBlank >>= f) t = f () (t.dropWhile isBlank) := rfl
  rw [fields, hbind, hbind, List.dropWhile_idempotent]

theorem objectText_append (ms : List (Text × Text)) : objectText gap close ms ++ rest =
    '{' :: (membersText gap ms ++ (close ++ '}' :: rest)) := by
  simp [objectText]

theorem exists_membersText_eq {ms : List (Text × Text)} (hne : ms ≠ []) :
    ∃ more, membersText gap ms = gap ++ '"' :: more := by
  obtain ⟨m, ms, rfl⟩ := List.exists_cons_of_ne_nil hne
  have hmember (t : Text) : ∃ more, memberText gap m ++ t = gap ++ '"' :: more :=
    ⟨_, memberText_append m⟩
  cases ms with
  | nil => simpa [membersText] using hmember []
  | cons m' ms => exact hmember _

theorem value_object {ms : List (Text × Text)} (hne : ms ≠ []) (hgap : ∀ x ∈ gap, isBlank x = true)
    (hclose : ∀ x ∈ close, isBlank x = true) (hms : ∀ m ∈ ms, IsBare m.1 ∧ IsBare m.2)
    (hkeys : (ms.map (·.1)).Nodup) (hfuel : ms.length < fuel) :
    value (fuel + 1) (depth + 1) (objectText gap close ms ++ rest) =
      .ok (.table (fieldsOf ms), rest) := by
  have hfields := @fields_members fuel depth gap close rest ms [] hne hgap hclose hms hkeys hfuel
  obtain ⟨fuel, rfl⟩ := Nat.exists_eq_succ_of_ne_zero (Nat.ne_of_gt (Nat.zero_lt_of_lt hfuel))
  obtain ⟨more, hmore⟩ := @exists_membersText_eq gap ms hne
  have hdrop : (membersText gap ms ++ (close ++ '}' :: rest)).dropWhile isBlank =
      '"' :: (more ++ (close ++ '}' :: rest)) := by
    rw [hmore, List.append_assoc, List.dropWhile_append_of_pos hgap]
    rfl
  -- the end of an empty object is looked for first, past the blanks before the first member
  rw [← fields_dropWhile, hdrop] at hfields
  have hskip : skipBlank (membersText gap ms ++ (close ++ '}' :: rest)) =
      .ok ((), '"' :: (more ++ (close ++ '}' :: rest))) :=
    congrArg (fun t => Except.ok ((), t)) hdrop
  rw [objectText_append, value, bind_of_ok (skipBlank_cons (by decide)),
    bind_of_ok (u := '{' :: (membersText gap ms ++ (close ++ '}' :: rest))) rfl]
  simp only [List.head?_cons]
  rw [bind_of_ok (expect_cons '{'), bind_of_ok hskip,
    bind_of_ok (u := '"' :: (more ++ (close ++ '}' :: rest))) rfl, if_neg (by simp)]
  exact bind_of_ok hfields

end Reader

theorem length_le_length_membersText (gap : Text) (ms : List (Text × Text)) :
    ms.length ≤ (membersText gap ms).length := by
  fun_induction membersText gap ms with
  | case1 => exact Nat.le_refl 0
  | case2 m =>
    simp only [memberText, keyText, List.length_append, List.length_cons, List.length_nil]
    omega
  | case3 m ms hne ih =>
    rw [List.length_append, List.length_cons, List.length_cons]
    omega

theorem read_objectText {gap close tail : Text} {ms : List (Text × Text)} (hne : ms ≠ [])
    (hgap : ∀ x ∈ gap, Reader.isBlank x = true) (hclose : ∀ x ∈ close, Reader.isBlank x = true)
    (htail : ∀ x ∈ tail, Reader.isBlank x = true)
    (hms : ∀ m ∈ ms, IsBare m.1 ∧ IsBare m.2) (hkeys : (ms.map (·.1)).Nodup) :
    read (objectText gap close ms ++ tail) = .ok (.table (fieldsOf ms)) := by
  have hfuel : ms.length < 2 * (objectText gap close ms ++ tail).length + 1 := by
    have := length_le_length_membersText gap ms
    rw [Reader.objectText_append, List.length_cons, List.length_append]
    omega
  have hvalue := @Reader.value_object _ 126 gap close tail ms hne hgap hclose hms hkeys hfuel
  have hend : tail.dropWhile Reader.isBlank = [] := List.dropWhile_eq_nil_iff.mpr htail
  refine Outcome.bind_eq_ok_iff.mpr ⟨_, hvalue, ?_⟩
  simp only [hend]
  rfl

section Lines

open Text

variable {indent close tail key v : Text} {ms : List (Text × Text)} {i : Nat}

theorem IsBare.newline_not_mem {t : Text} (h : IsBare t) : '\n' ∉ t :=
  fun hn => absurd (h '\n' hn).2.2 (by decide)

theorem newline_not_mem_keyText (hindent : '\n' ∉ indent) (hkey : IsBare key) :
    '\n' ∉ keyText indent key := by
  simp [keyText, hindent, hkey.newline_not_mem]

theorem count_memberText (hindent : '\n' ∉ indent) (hkey : IsBare key) (hv : IsBare v) :
    (memberText ('\n' :: indent) (key, v)).count '\n' = 1 := by
  have hkey := List.count_eq_zero.mpr (newline_not_mem_keyText hindent hkey)
  have hv := List.count_eq_zero.mpr hv.newline_not_mem
  have htext : memberText ('\n' :: indent) (key, v) =
      '\n' :: (keyText indent key ++ (v ++ ['"'])) := rfl
  rw [htext, List.count_cons_self, List.count_append, List.count_append, hkey, hv]
  rfl

theorem exists_append_membersText (hindent : '\n' ∉ indent)
    (hms : ∀ m ∈ ms, IsBare m.1 ∧ IsBare m.2) (hi : ms[i]? = some (key, v)) :
    ∃ s t, s ++ '\n' :: (keyText indent key ++ (v ++ t)) = membersText ('\n' :: indent) ms ∧
      s.count '\n' = i := by
  induction ms generalizing i with
  | nil => cases hi
  | cons m ms ih =>
    cases i with
    | zero =>
      obtain rfl := Option.some.inj hi
      cases ms with
      | nil => exact ⟨[], ['"'], rfl, rfl⟩
      | cons m' ms =>
        refine ⟨[], '"' :: ',' :: membersText ('\n' :: indent) (m' :: ms), ?_, rfl⟩
        simp [membersText, memberText, keyText]
    | succ i =>
      obtain ⟨s, t, hst, hcount⟩ := ih (fun x hx => hms x (List.mem_cons_of_mem m hx)) hi
      obtain ⟨hkey, hvalue⟩ := hms m List.mem_cons_self
      have hne : ms ≠ [] := by
        rintro rfl
        cases hi
      -- the member in front takes up one line
      refine ⟨memberText ('\n' :: indent) m ++ ',' :: s, t, ?_, ?_⟩
      · rw [List.append_assoc, List.cons_append, hst]
        cases ms with
        | nil => exact absurd rfl hne
        | cons m' ms => rfl
      · rw [List.count_append, count_memberText hindent hkey hvalue, List.count_cons, hcount]
        simp
        omega

theorem getElem?_splitOn_objectText (hindent : '\n' ∉ indent)
    (hms : ∀ m ∈ ms, IsBare m.1 ∧ IsBare m.2) (hi : ms[i]? = some (key, v)) :
    ∃ rest, (splitOn '\n' (objectText ('\n' :: indent) close ms ++ tail))[i + 1]? =
      some (keyText indent key ++ (v ++ rest)) := by
  obtain ⟨s, t, hst, hcount⟩ := exists_append_membersText hindent hms hi
  obtain ⟨hkey, hvalue⟩ := hms (key, v) (List.mem_of_getElem? hi)
  have hdoc : objectText ('\n' :: indent) close ms ++ tail =
      ('\x7b' :: s ++ '\n' :: keyText indent key) ++ (v ++ (t ++ (close ++ '\x7d' :: tail))) := by
    rw [Reader.objectText_append, ← hst]
    simp
  have hbefore : ('\x7b' :: s ++ '\n' :: keyText indent key).count '\n' = i + 1 := by
    have hzero := List.count_eq_zero.mpr (newline_not_mem_keyText hindent hkey)
    simp [hcount, hzero]
  have hlast : lastLine ('\x7b' :: s ++ '\n' :: keyText indent key) = keyText indent key := by
    rw [lastLine_append, if_pos List.mem_cons_self, lastLine_cons, if_pos (.inr rfl),
      lastLine_of_not_mem (newline_not_mem_keyText hindent hkey)]
  obtain ⟨rest, hrest⟩ := firstLine_prefix_append v (t ++ (close ++ '\x7d' :: tail))
  have hfirst : firstLine v = v := takeWhile_ne_newline.mpr hvalue.newline_not_mem
  refine ⟨rest, ?_⟩
  rw [hdoc, ← hbefore, getElem?_splitOn_append, hlast, ← hrest, hfirst]

end Lines

/-- An object with a member to a line. -/
structure Listing where
  members : List (Text × Text)
  /-- What stands before each member on its line. -/
  indent : Text
  /-- What stands behind the object. -/
  tail : Text
  isBare : ∀ m ∈ members, IsBare m.1 ∧ IsBare m.2
  nodup : (members.map (·.1)).Nodup
  indent_isBlank : ∀ c ∈ indent, c = ' ' ∨ c = '\t'
  tail_isBlank : ∀ c ∈ tail, Reader.isBlank c = true

namespace Listing

variable (o : Listing) {key v : Text} {i : Nat}

def text : Text := objectText ('\n' :: o.indent) ['\n'] o.members ++ o.tail

theorem read_text (hne : o.members ≠ []) : read o.text = .ok (.table (fieldsOf o.members)) := by
  have hclose : ∀ c ∈ ['\n'], Reader.isBlank c = true := List.forall_mem_singleton.mpr (by decide)
  refine read_objectText hne ?_ hclose o.tail_isBlank o.isBare o.nodup
  intro c hc
  rcases List.mem_cons.mp hc with rfl | hc
  · decide
  · rcases o.indent_isBlank c hc with rfl | rfl <;> decide

theorem exists_line (hi : o.members[i]? = some (key, v)) :
    ∃ rest, (Text.splitOn '\n' o.text)[i + 1]? = some (keyText o.indent key ++ (v ++ rest)) := by
  refine getElem?_splitOn_objectText (fun hn => ?_) o.isBare hi
  rcases o.indent_isBlank _ hn with h | h <;> exact absurd h (by decide)

theorem get?_fieldsOf (hi : o.members[i]? = some (key, v)) :
    get? (fieldsOf o.members) key = some (.str v) := by
  obtain ⟨xs, ys, hxy⟩ := List.append_of_mem (List.mem_of_getElem? hi)
  have hnodup := o.nodup
  rw [hxy, List.map_append] at hnodup
  obtain ⟨-, -, hdisjoint⟩ := List.nodup_append.mp hnodup
  refine List.lookup_eq_some_iff.mpr ⟨fieldsOf xs, fieldsOf ys, ?_, ?_⟩
  · rw [hxy, fieldsOf, List.map_append]
    rfl
  · intro f hf
    obtain ⟨m, hm, rfl⟩ := List.mem_map.mp hf
    have hne := hdisjoint m.1 (List.mem_map_of_mem hm) key List.mem_cons_self
    simpa using Ne.symm hne

end Listing

end Json

end Copydesk.Data
