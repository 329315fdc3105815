import Copydesk.Proofs.Regex.Surroundings.Basic

/-! Escapes, counts, names and bracketed classes within two surroundings. A member of a class may look
ahead, but not past the bracket that closes the class. -/

namespace Copydesk.Regex.Reader

open Text

variable {γ δ : Type} {w w' x need : Text} {d : Nat}

section OfFlags

theorem fold_ofFlags (c : CharSet) : OfFlags (fold c) := by
  refine .bind .flags fun f => ?_
  split
  · exact .pure _
  · split <;> exact .pure _

theorem negate_ofFlags (c : CharSet) : OfFlags (negate c) := by
  refine .bind .flags fun f => ?_
  split
  · exact .pure _
  · exact .fail _

theorem literal_ofFlags (c : Char) : OfFlags (literal c) :=
  .bind (fold_ofFlags _) fun _ => .pure _

theorem perlClass_ofFlags (c : Char) : OfFlags (perlClass c) := by
  refine .bind .flags fun f => ?_
  dsimp only
  split
  · exact .pure _
  · exact .pure _
  · exact .pure _
  · exact .bind (negate_ofFlags _) fun _ => .pure _
  · exact .bind (negate_ofFlags _) fun _ => .pure _
  · exact .bind (negate_ofFlags _) fun _ => .pure _
  · exact .pure _

theorem wordKind_ofFlags : OfFlags wordKind := .bind .flags fun _ => .pure _

theorem dot_ofFlags : OfFlags dot := by
  refine .bind .flags fun f => ?_
  dsimp only
  refine .guard ?_
  split
  · exact .pure _
  · split <;> exact .pure _

theorem finish_ofFlags (pending : Option (SetOp × CharSet)) (c : CharSet) :
    OfFlags (finish pending c) := by
  refine .bind (fold_ofFlags c) fun c => ?_
  cases pending <;> exact .pure _

theorem hexChar_ofFlags (digits : Text) : OfFlags (hexChar digits) := by
  unfold hexChar
  dsimp only
  refine .guard ?_
  split
  · exact .fail _
  · rename_i ds hds
    by_cases hchar : (ds.foldl (fun n d => 16 * n + d) 0).isValidChar
    · rw [dif_pos hchar]
      exact .pure _
    · rw [dif_neg hchar]
      exact .fail _

theorem flagItems_ofFlags (items : Text) (negated : Option Bool) (seen : List Char) (f : Flags) :
    OfFlags (flagItems items negated seen f) := by
  fun_induction flagItems items negated seen f with
  | case1 => exact .fail _
  | case2 => exact .pure _
  | case3 cs seen f ih => exact ih
  | case4 => exact .fail _
  | case5 => exact .fail _
  | case6 => rename_i ih; exact ih
  | case7 => exact .fail _

end OfFlags

section Escapes

theorem propertyClass_corresponds (inverted : Bool) :
    Corresponds w w' d need Eq (propertyClass inverted) (propertyClass inverted) := by
  unfold propertyClass
  dsimp only
  refine .bind (.ofFlags .flags) fun f => .guard (.next rfl rfl fun c => ?_)
  split
  · rename_i h
    cases h
  · refine delimited_corresponds ?_ ?_
    · intro s t h
      rw [h]
    · intro s
      refine .ofFlags ?_
      split
      · exact .pure _
      · exact .fail _
  · refine .ofFlags ?_
    split
    · exact .pure _
    · exact .fail _

theorem hexEscape_corresponds (hw : Surround w w') (width : Nat) :
    Corresponds w w' d need Eq (hexEscape width) (hexEscape width) := by
  have heq : hexEscape width = (accept '{' >>= fun braced =>
      if braced then delimited '}' .badEscape fun s => hexChar (s.rest.takeWhile (· != '}'))
      else takeExactly width .badEscape >>= hexChar) := by
    rw [accept_bind, takeExactly_bind]
    rfl
  rw [heq]
  refine .bind (accept_corresponds hw (by decide)) fun braced => ?_
  cases braced with
  | true => exact delimited_corresponds (fun s t h => by rw [h]) fun s => .ofFlags (hexChar_ofFlags _)
  | false => exact .bind (takeExactly_corresponds _ _) fun digits => .ofFlags (hexChar_ofFlags digits)

def inBoundaryName (c : Char) : Bool := c.isAlpha || c == '-'

def namedBoundary (k : WordKind) (name : Text) : Reader Escape :=
  match String.ofList name with
  | "start" => return .look (.wordStart k)
  | "end" => return .look (.wordEnd k)
  | "start-half" => return .look (.wordStartHalf k)
  | "end-half" => return .look (.wordEndHalf k)
  | _ => fail .badEscape

/-- A boundary before a brace. The brace is left where no name follows it. -/
def boundaryInBraces (k : WordKind) : Text → Reader Escape
  | c :: rest => do
    if inBoundaryName c then
      let name := (c :: rest).takeWhile inBoundaryName
      if ((c :: rest).drop name.length).head? != some '}' then fail .badEscape
      advance (name.length + 2)
      namedBoundary k name
    else return .look (.wordBoundary k)
  | [] => fail .badEscape

def boundaryAt (k : WordKind) : Text → Reader Escape
  | '{' :: rest => boundaryInBraces k rest
  | _ => return .look (.wordBoundary k)

theorem boundaryEscape_eq :
    boundaryEscape = wordKind >>= fun k => get >>= fun s => boundaryAt k s.rest := by
  unfold boundaryEscape
  congr 1
  funext k
  congr 1
  funext s
  generalize s.rest = t
  split
  · split <;> rfl
  · rename_i hbrace
    unfold boundaryAt
    split
    · exact absurd rfl (hbrace _)
    · rfl

theorem boundaryAt_of_ne {c : Char} (hc : c ≠ '{') (k : WordKind) (t : Text) :
    boundaryAt k (c :: t) = pure (.look (.wordBoundary k)) := by
  unfold boundaryAt
  split
  · rename_i heq
    exact absurd (List.cons.inj heq).1 hc
  · rfl

theorem namedBoundary_ofFlags (k : WordKind) (name : Text) : OfFlags (namedBoundary k name) := by
  unfold namedBoundary
  split <;> first | exact .pure _ | exact .fail _

theorem moves_boundaryInBraces (k : WordKind) (t : Text) : Moves (boundaryInBraces k t) := by
  unfold boundaryInBraces
  split
  · split
    · exact .guard ((moves_advance _).bind fun _ => (namedBoundary_ofFlags k _).moves)
    · exact .pure _
  · exact .fail [] _

theorem moves_boundaryAt (k : WordKind) (t : Text) : Moves (boundaryAt k t) := by
  unfold boundaryAt
  split
  · exact moves_boundaryInBraces k _
  · exact .pure _

theorem boundaryInBraces_append {v : Text} (hv : ∀ c ∈ v.head?, inBoundaryName c = false)
    {c : Char} (hc : inBoundaryName c = true) (k : WordKind) (x : Text) :
    boundaryInBraces k (c :: x ++ v) = (do
      let name := (c :: x).takeWhile inBoundaryName
      if ((c :: x).dropWhile inBoundaryName ++ v).head? != some '}' then fail .badEscape
      advance (name.length + 2)
      namedBoundary k name) := by
  obtain ⟨htake, hdrop⟩ := takeWhile_append_of_head? hv (c :: x)
  rw [← hdrop, ← drop_length_takeWhile, List.cons_append, boundaryInBraces, if_pos hc,
    ← List.cons_append, htake]

theorem boundaryInBraces_agrees (hw : Surround w w') (k : WordKind) (x : Text) :
    AgreesAt w w' d need Eq ('{' :: x) (boundaryInBraces k (x ++ w))
      (boundaryInBraces k (x ++ w')) := by
  have hplain : Corresponds w w' d need Eq (pure (Escape.look (.wordBoundary k)))
      (pure (.look (.wordBoundary k))) := .pure rfl
  have hfirst : w = [] ∨ ∃ v, w = ')' :: v := hw.first.imp And.left List.head?_eq_some_iff.mp
  cases x with
  | nil =>
    -- the brace is the last of the part, so no name can follow
    obtain ⟨v', hsecond⟩ := List.head?_eq_some_iff.mp hw.second
    rw [hsecond] at hplain ⊢
    rcases hfirst with rfl | ⟨v, rfl⟩
    · exact (Corresponds.fail_left _ (.pure _)).agrees
    · exact hplain.agrees
  | cons c x =>
    by_cases hc : inBoundaryName c = true
    · obtain ⟨hw₁, hw₂⟩ := hw.head?_ne (p := inBoundaryName) (by decide)
      have hparts := List.takeWhile_append_dropWhile (p := inBoundaryName) (l := c :: x)
      rw [boundaryInBraces_append hw₁ hc, boundaryInBraces_append hw₂ hc]
      generalize (c :: x).takeWhile inBoundaryName = name at hparts ⊢
      generalize (c :: x).dropWhile inBoundaryName = more at hparts ⊢
      by_cases hend : more.head? = some '}'
      · obtain ⟨z, rfl⟩ := List.head?_eq_some_iff.mp hend
        have hx : '{' :: c :: x = ('{' :: (name ++ ['}'])) ++ z := by
          rw [← hparts, List.cons_append, List.append_assoc, List.singleton_append]
        rw [hx]
        exact Corresponds.read (by simp) (.ofFlags (namedBoundary_ofFlags k name))
      · have hne : (more ++ w).head? ≠ some '}' := by
          cases more with
          | nil => rcases hfirst with rfl | ⟨v, rfl⟩ <;> simp
          | cons e z => exact hend
        dsimp only
        rw [if_pos (bne_iff_ne.mpr hne)]
        exact fun _ _ _ _ _ _ _ _ h => absurd h fail_bind_ne_ok
    · rw [List.cons_append, List.cons_append, boundaryInBraces, boundaryInBraces, if_neg hc,
        if_neg hc]
      exact hplain.agrees

theorem boundaryEscape_corresponds (hw : Surround w w') :
    Corresponds w w' d need Eq boundaryEscape boundaryEscape := by
  rw [boundaryEscape_eq]
  refine .bind (.ofFlags wordKind_ofFlags) fun k => .get (fun s => moves_boundaryAt k s.rest)
    (fun s => moves_boundaryAt k s.rest) fun x s t hs ht => ?_
  rw [hs, ht]
  cases x with
  | nil =>
    obtain ⟨v', rfl⟩ := List.head?_eq_some_iff.mp hw.second
    have hplain : Corresponds w (')' :: v') d need Eq (pure (Escape.look (.wordBoundary k)))
        (pure (.look (.wordBoundary k))) := .pure rfl
    rcases hw.first with ⟨rfl, -⟩ | h
    · exact hplain.agrees
    · obtain ⟨v, rfl⟩ := List.head?_eq_some_iff.mp h
      exact hplain.agrees
  | cons b x =>
    by_cases hbrace : b = '{'
    · subst hbrace
      exact boundaryInBraces_agrees hw k x
    · rw [List.cons_append, List.cons_append, boundaryAt_of_ne hbrace, boundaryAt_of_ne hbrace]
      exact (Corresponds.pure rfl).agrees

theorem escape_corresponds (hw : Surround w w') : Corresponds w w' d need Eq escape escape := by
  unfold escape
  refine .next rfl rfl fun c => .bind (.ofFlags (perlClass_ofFlags c)) fun o => ?_
  cases o with
  | some set => exact .pure rfl
  | none =>
    dsimp only
    split
    · exact .bind (hexEscape_corresponds hw 2) fun _ => .pure rfl
    · exact .bind (hexEscape_corresponds hw 4) fun _ => .pure rfl
    · exact .bind (hexEscape_corresponds hw 8) fun _ => .pure rfl
    · exact .bind (propertyClass_corresponds false) fun _ => .pure rfl
    · exact .bind (propertyClass_corresponds true) fun _ => .pure rfl
    · exact .pure rfl
    · exact .pure rfl
    · exact .pure rfl
    · exact .pure rfl
    · exact .pure rfl
    · exact .pure rfl
    · exact .pure rfl
    · exact .pure rfl
    · exact boundaryEscape_corresponds hw
    · exact .bind (.ofFlags .flags) fun f => .guard (.pure rfl)
    · exact .bind (.ofFlags wordKind_ofFlags) fun _ => .pure rfl
    · exact .bind (.ofFlags wordKind_ofFlags) fun _ => .pure rfl
    · split
      · exact .pure rfl
      · exact .ofFlags (.fail _)

end Escapes

section Counts

def Shifted (d : Nat) (a b : Node) : Prop := b = a.shift d

theorem repetition_corresponds (hw : Surround w w') (lo : Nat) (hi : Option Nat) (a : Node) :
    Corresponds w w' d need (Shifted d) (repetition lo hi a) (repetition lo hi (a.shift d)) := by
  have heq (a : Node) : repetition lo hi a = (accept '?' >>= fun lazyMark => flags >>= fun f =>
      pure (.rep lo hi (lazyMark == f.swapGreed) a)) := by
    rw [accept_bind]
    funext s
    rw [repetition, bind_of_ok (peek_apply s), bind_of_ok (peek_apply s)]
    cases h : s.rest.head? == some '?' <;> rfl
  rw [heq, heq]
  exact .bind (accept_corresponds hw (by decide)) fun lazyMark =>
    .bind (.ofFlags .flags) fun f => .pure rfl

theorem decimal?_eq : decimal? = (do
    let _ ← takeRun isSpace
    let digits ← takeRun Char.isDigit
    let _ ← takeRun isSpace
    match toNat? digits with
    | some n => if n < 4294967296 then return some n else fail .badRepetition
    | none => return none) := by
  funext s
  simp only [decimal?, bind_apply, modify_apply, get_apply, advance_apply, takeRun, trimStart,
    Except.bind]
  rewrite [drop_length_takeWhile]
  rfl

theorem decimal?_corresponds (hw : Surround w w') :
    Corresponds w w' d need Eq decimal? decimal? := by
  rw [decimal?_eq]
  refine .bind (takeRun_corresponds hw (by decide)) fun _ =>
    .bind (takeRun_corresponds hw (by decide)) fun digits =>
      .bind (takeRun_corresponds hw (by decide)) fun _ => .ofFlags ?_
  split
  · split
    · exact .pure _
    · exact .fail _
  · exact .pure _

theorem counted_corresponds (hw : Surround w w') (a : Node) :
    Corresponds w w' d need (Shifted d) (counted a) (counted (a.shift d)) := by
  unfold counted
  refine .bind (decimal?_corresponds hw) fun lo => ?_
  cases lo with
  | none => exact .fail_left _ (.fail [] _)
  | some lo =>
    refine .next rfl rfl fun c => ?_
    split
    · exact repetition_corresponds hw lo _ a
    · refine .bind (skipBlank_corresponds hw) fun _ =>
        .acceptOr hw (by decide) (repetition_corresponds hw lo none a) ?_
      refine .bind (decimal?_corresponds hw) fun hi => ?_
      cases hi with
      | none => exact .fail_left _ (.fail [] _)
      | some hi =>
        exact .next rfl rfl fun c => .guard (.guard (repetition_corresponds hw lo _ a))
    · exact .fail_left _ (.fail [] _)

end Counts

section Names

theorem moves_register (name : Text) :
    Moves (modify fun s : ReadState => { s with names := name :: s.names }) := by
  intro s a s' h
  cases h
  exact ⟨[], rfl, List.nil_subset _⟩

theorem register_corresponds (name : Text) :
    Corresponds w w' d need Eq (modify fun s : ReadState => { s with names := name :: s.names })
      (modify fun s : ReadState => { s with names := name :: s.names }) where
  left := moves_register name
  right := moves_register name
  agrees := by
    intro x s t a s' b t' y hst hs ht hy hneed hne
    cases hs
    cases ht
    obtain rfl := List.append_cancel_right (hst.first.symm.trans hy)
    exact ⟨rfl, hst.first, hst.second, hst.flags, hst.groups⟩

theorem groupName_corresponds : Corresponds w w' d need Eq groupName groupName := by
  unfold groupName
  refine delimited_corresponds (fun s t h => by rw [h]) fun s => ?_
  split
  · exact .ofFlags (.fail _)
  · exact .guard (.get (fun _ => .guard (moves_register _)) (fun _ => .guard (moves_register _))
      fun _ _ _ _ _ => (Corresponds.guard (register_corresponds _)).agrees)

end Names

section Members

theorem classItem_corresponds (hw : Surround w w') :
    Corresponds w w' d need Eq classItem classItem := by
  unfold classItem
  refine .next rfl rfl fun c => ?_
  split
  · rename_i h
    cases h
  · refine .bind (escape_corresponds hw) fun e => ?_
    cases e with
    | char c => exact .pure rfl
    | set c => exact .pure rfl
    | look l => exact .ofFlags (.fail _)
  · exact .pure rfl

def rangeFrom (item : Char ⊕ CharSet) : Reader CharSet := do
  skipBlank
  match item, ← classItem with
  | .inl lo, .inl hi => if lo ≤ hi then return .range lo hi else fail .badClassRange
  | _, _ => fail .badClassRange

theorem rangeFrom_corresponds (hw : Surround w w') (item : Char ⊕ CharSet) :
    Corresponds w w' d need Eq (rangeFrom item) (rangeFrom item) := by
  refine .bind (skipBlank_corresponds hw) fun _ => .bind (classItem_corresponds hw) fun _ =>
    .ofFlags ?_
  split
  · split
    · exact .pure _
    · exact .fail _
  · exact .fail _

def opensRange : Text → Bool
  | '-' :: c :: _ => c != ']' && c != '-'
  | _ => false

/-- A member, or the range that it begins, once what follows it is known. -/
def memberOrRange (item : Char ⊕ CharSet) (t : Text) : Reader CharSet := do
  if t.isEmpty then fail .unclosedClass
  if !opensRange t then
    match item with
    | .inl c => return CharSet.single c
    | .inr s => return s
  advance 1
  rangeFrom item

theorem classRange_eq : classRange = (do
    let item ← classItem
    skipBlank
    let s ← get
    memberOrRange item s.rest) := rfl

theorem moves_memberOrRange (item : Char ⊕ CharSet) (t : Text) : Moves (memberOrRange item t) := by
  unfold memberOrRange
  refine .guard ?_
  dsimp only
  split
  · split <;> exact .pure _
  · have hrange : Corresponds [')'] [')'] 0 [] Eq (rangeFrom item) (rangeFrom item) :=
      rangeFrom_corresponds ⟨.inr rfl, rfl⟩ item
    exact (moves_advance 1).bind fun _ => hrange.left

theorem opensRange_append (h : ']' ∈ x) (v : Text) : opensRange (x ++ v) = opensRange x := by
  obtain ⟨b, x, rfl⟩ := List.exists_cons_of_ne_nil (List.ne_nil_of_mem h)
  cases x with
  | nil =>
    obtain rfl := List.mem_singleton.mp h
    rfl
  | cons c x =>
    rw [List.cons_append, List.cons_append]
    unfold opensRange
    split <;> rename_i heq
    · cases heq
      rfl
    · split
      · rename_i h'
        cases h'
        exact absurd rfl (heq _ _)
      · rfl

theorem classRange_corresponds (hw : Surround w w') :
    Corresponds w w' d ([']'] ++ need) Eq classRange classRange := by
  rw [classRange_eq]
  refine .bind (classItem_corresponds hw) fun item => .bind (skipBlank_corresponds hw) fun _ =>
    .get (fun s => moves_memberOrRange item s.rest) (fun s => moves_memberOrRange item s.rest)
      fun x s t hs ht => .of_takes (moves_memberOrRange item s.rest) fun hx => ?_
  have hclosed : ']' ∈ x := hx List.mem_cons_self
  have hempty (v : Text) : (x ++ v).isEmpty = false := by
    cases x with
    | nil => cases hclosed
    | cons c x => rfl
  unfold memberOrRange
  rw [hs, ht, hempty, hempty, opensRange_append hclosed, opensRange_append hclosed]
  cases hrange : opensRange x with
  | false => cases item <;> exact (Corresponds.pure rfl).agrees
  | true =>
    obtain ⟨c, x, rfl⟩ : ∃ c z, x = c :: z := List.exists_cons_of_ne_nil (List.ne_nil_of_mem hclosed)
    exact Corresponds.read (v := [c]) rfl (rangeFrom_corresponds hw item)

theorem moves_classRange : Moves classRange := by
  have hrange : Corresponds [')'] [')'] 0 ([']'] ++ []) Eq classRange classRange :=
    classRange_corresponds ⟨.inr rfl, rfl⟩
  exact hrange.left

end Members

section Posix

theorem posixClass?_eq_none {name : Text} (h : ']' ∈ name) : posixClass? name = none := by
  have hne (lit : String) (hlit : ']' ∉ lit.toList) : String.ofList name ≠ lit := by
    rintro rfl
    exact hlit (by simpa using h)
  unfold posixClass?
  split <;> first | rfl | (rename_i heq; exact absurd heq (hne _ (by decide)))

def named? (body : Text) : Option (Nat × CharSet) :=
  let name := body.takeWhile (· != ':')
  if startsWith (body.drop name.length) ":]" then (posixClass? name).map fun c => (name.length, c)
  else none

/-- A bracket in the body ends the name or keeps it from being one. -/
theorem named?_append (h : ']' ∈ x) : (∀ v, named? (x ++ v) = none) ∨
    ∃ name c r, x = name ++ ':' :: ']' :: r ∧ ∀ v, named? (x ++ v) = some (name.length, c) := by
  by_cases hcolon : ':' ∈ x
  · obtain ⟨name, r, rfl, hname⟩ := List.eq_append_cons_of_mem hcolon
    have hnamed (v : Text) : named? (name ++ ':' :: r ++ v) =
        if startsWith (':' :: (r ++ v)) ":]" then (posixClass? name).map fun c => (name.length, c)
        else none := by
      rw [named?, List.append_assoc, List.cons_append, takeWhile_ne_append hname, List.drop_left]
    cases hclass : posixClass? name with
    | none => exact .inl fun v => by rw [hnamed, hclass, Option.map_none, ite_self]
    | some c =>
      have hr : ']' ∈ r := by
        have hnot : ']' ∉ name := fun hmem => by
          rw [posixClass?_eq_none hmem] at hclass
          cases hclass
        simpa [hnot] using h
      obtain ⟨e, r, rfl⟩ := List.exists_cons_of_ne_nil (List.ne_nil_of_mem hr)
      -- only a bracket right after the colon ends a name
      by_cases he : e = ']'
      · subst he
        exact .inr ⟨name, c, r, rfl, fun v => by rw [hnamed, hclass]; rfl⟩
      · refine .inl fun v => ?_
        have hno : startsWith (':' :: (e :: r ++ v)) ":]" = false := by
          rw [Bool.eq_false_iff, Ne, startsWith_iff]
          rintro ⟨u, hu⟩
          exact he (List.cons.inj (List.cons.inj hu).2).1.symm
        rw [hnamed, hno]
        rfl
  · refine .inl fun v => ?_
    have hall : ∀ c ∈ x, (c != ':') = true := fun c hc => bne_iff_ne.mpr fun heq => hcolon (heq ▸ hc)
    rw [named?, List.takeWhile_append_of_pos hall,
      posixClass?_eq_none (List.mem_append_left _ h), Option.map_none, ite_self]

def posixFrom (inverted : Bool) (body : Text) : Reader (Option CharSet) :=
  match named? body with
  | some (n, c) => do
    advance (1 + (if inverted then 1 else 0) + n + 2)
    if inverted then return some (← negate c) else return some c
  | none => return none

theorem eq_posixFrom (inverted : Bool) (body : Text) : (
    let name := body.takeWhile (· != ':')
    if startsWith (body.drop name.length) ":]" then
      match posixClass? name with
      | some s => do
        advance (1 + (if inverted then 1 else 0) + name.length + 2)
        if inverted then return some (← negate s) else return some s
      | none => return none
    else return none) = posixFrom inverted body := by
  unfold posixFrom named?
  dsimp only
  split
  · cases posixClass? (body.takeWhile (· != ':')) <;> rfl
  · rfl

def inversion : Text → Bool × Text
  | '^' :: t => (true, t)
  | t => (false, t)

theorem inversion_append (h : ']' ∈ x) : ∃ v z, x = v ++ z ∧ ']' ∈ z ∧ ∃ inverted,
    v.length = (if inverted then 1 else 0) ∧ ∀ u, inversion (x ++ u) = (inverted, z ++ u) := by
  obtain ⟨c, x, rfl⟩ := List.exists_cons_of_ne_nil (List.ne_nil_of_mem h)
  by_cases hc : c = '^'
  · subst hc
    exact ⟨['^'], x, rfl, by simpa using h, true, rfl, fun _ => rfl⟩
  · refine ⟨[], c :: x, rfl, h, false, rfl, fun u => ?_⟩
    unfold inversion
    split
    · rename_i heq
      exact absurd (List.cons.inj heq).1 hc
    · rfl

def posixAfter : Text → Reader (Option CharSet)
  | ':' :: t => posixFrom (inversion t).1 (inversion t).2
  | _ => return none

theorem posixAfter_of_head?_ne {t : Text} (h : t.head? ≠ some ':') : posixAfter t = return none := by
  unfold posixAfter
  split
  · exact absurd rfl h
  · rfl

theorem posixItem?_eq : posixItem? = get >>= fun s => posixAfter s.rest := by
  unfold posixItem?
  congr 1
  funext s
  by_cases hcolon : s.rest.head? = some ':'
  · obtain ⟨rest, heq⟩ := List.head?_eq_some_iff.mp hcolon
    rw [heq]
    exact eq_posixFrom (inversion rest).1 (inversion rest).2
  · rw [posixAfter_of_head?_ne hcolon]
    split
    · rename_i heq
      rw [heq] at hcolon
      exact absurd rfl hcolon
    · rfl

theorem posixFrom_agrees (v : Text) (inverted : Bool)
    (hv : v.length = 1 + if inverted then 1 else 0) (h : ']' ∈ x) :
    AgreesAt w w' d need Eq (v ++ x) (posixFrom inverted (x ++ w)) (posixFrom inverted (x ++ w')) := by
  unfold posixFrom
  obtain hnone | ⟨name, c, r, rfl, hsome⟩ := named?_append h
  · rw [hnone, hnone]
    exact (Corresponds.pure rfl).agrees
  · rw [hsome, hsome, show v ++ (name ++ ':' :: ']' :: r) = (v ++ name ++ [':', ']']) ++ r by simp]
    refine Corresponds.read
      (by simp only [List.length_append, List.length_cons, List.length_nil, hv]) (.ofFlags ?_)
    cases inverted
    · exact .pure _
    · exact .bind (negate_ofFlags c) fun _ => .pure _

theorem moves_posixAfter (t : Text) : Moves (posixAfter t) := by
  unfold posixAfter posixFrom
  split
  · split
    · refine (moves_advance _).bind fun _ => ?_
      split
      · exact (negate_ofFlags _).moves.bind fun _ => .pure _
      · exact .pure _
    · exact .pure _
  · exact .pure _

theorem moves_posixItem? : Moves posixItem? := by
  rw [posixItem?_eq]
  exact .get fun s => moves_posixAfter s.rest

theorem posixItem?_corresponds :
    Corresponds w w' d ([']'] ++ need) Eq posixItem? posixItem? := by
  rw [posixItem?_eq]
  refine .get (fun s => moves_posixAfter s.rest) (fun s => moves_posixAfter s.rest)
      fun x s t hs ht => .of_takes (moves_posixAfter s.rest) fun hx => ?_
  have hclosed : ']' ∈ x := hx List.mem_cons_self
  rw [hs, ht]
  obtain ⟨c, x, rfl⟩ := List.exists_cons_of_ne_nil (List.ne_nil_of_mem hclosed)
  by_cases hc : c = ':'
  · subst hc
    obtain ⟨v, z, rfl, hz, inverted, hv, heq⟩ := inversion_append (by simpa using hclosed)
    have hafter (u : Text) : posixAfter (':' :: (v ++ z) ++ u) = posixFrom inverted (z ++ u) := by
      rw [List.cons_append, posixAfter, heq]
    rw [hafter, hafter]
    exact posixFrom_agrees (':' :: v) inverted (by rw [List.length_cons, hv, Nat.add_comm]) hz
  · have hafter (u : Text) : posixAfter (c :: x ++ u) = pure none := by
      unfold posixAfter
      split
      · rename_i heq
        exact absurd (List.cons.inj heq).1 hc
      · rfl
    rw [hafter, hafter]
    exact (Corresponds.pure rfl).agrees

end Posix

section Classes

def doubled? : Char → Option SetOp
  | '&' => some .inter
  | '-' => some .diff
  | '~' => some .symmDiff
  | _ => none

def setOpAt : Text → Option SetOp
  | a :: b :: _ => if a = b then doubled? a else none
  | _ => none

theorem setOp?_eq : setOp? = get >>= fun s => pure (setOpAt s.rest) := by
  unfold setOp?
  congr 1
  funext s
  generalize s.rest = t
  split
  · rfl
  · rfl
  · rfl
  · rename_i hinter hdiff hsymm
    rcases t with _ | ⟨a, _ | ⟨b, t⟩⟩
    · rfl
    · rfl
    · rw [setOpAt]
      split
      · rename_i hab
        subst hab
        unfold doubled?
        split
        · exact (hinter t rfl).elim
        · exact (hdiff t rfl).elim
        · exact (hsymm t rfl).elim
        · rfl
      · rfl

theorem setOpAt_append (h : ']' ∈ x) (v : Text) : setOpAt (x ++ v) = setOpAt x := by
  obtain ⟨b, x, rfl⟩ := List.exists_cons_of_ne_nil (List.ne_nil_of_mem h)
  cases x with
  | nil =>
    obtain rfl := List.mem_singleton.mp h
    cases v with
    | nil => rfl
    | cons b v =>
      rw [List.singleton_append, setOpAt]
      split <;> rfl
  | cons c x => rfl

def closingMember (dashes : Text) : Reader Bool :=
  if dashes.isEmpty then accept ']' else pure false

theorem closingMember_corresponds (hw : Surround w w') (dashes : Text) :
    Corresponds w w' d need Eq (closingMember dashes) (closingMember dashes) := by
  unfold closingMember
  split
  · exact accept_corresponds hw (by decide)
  · exact .pure rfl

theorem bracketed_succ (fuel : Nat) : bracketed (fuel + 1) = (do
    skipBlank
    let inverted ← accept '^'
    skipBlank
    let dashes ← takeRun (· == '-')
    skipBlank
    let closing ← closingMember dashes
    let s ← classUnion fuel none
      (if closing then .single ']' else if dashes.isEmpty then .empty else .single '-')
    if inverted then negate s else return s) := by
  rw [bracketed]
  congr 1
  funext _
  rw [accept_bind]
  congr 1
  funext o
  dsimp only
  generalize (o == some '^') = inverted
  cases inverted
  case' true =>
    rw [if_pos rfl, if_pos rfl]
    congr 1
    funext _
  case' false => rw [if_neg Bool.false_ne_true, if_neg Bool.false_ne_true]
  -- with a caret or without, the rest is read alike
  all_goals
    congr 1
    funext _
    rw [takeRun_bind]
    congr 1
    funext s
    congr 1
    funext _
    congr 1
    funext _
    unfold closingMember
    cases (s.rest.takeWhile (· == '-')).isEmpty with
    | false => rfl
    | true =>
      change _ = accept ']' >>= _
      rw [accept_bind]
      rfl

/-- Goes on after an operator, or else with a member. -/
def afterOp (k : SetOp → Reader γ) (j : Reader γ) : Option SetOp → Reader γ
  | some op => advance 2 >>= fun _ => k op
  | none => j

/-- Goes on after a class that has a name, or else with one that begins here. -/
def afterPosix (k : CharSet → Reader γ) (j : Reader γ) : Option CharSet → Reader γ
  | some s => k s
  | none => j

theorem classUnion_succ (fuel : Nat) (pending : Option (SetOp × CharSet)) (acc : CharSet) :
    classUnion (fuel + 1) pending acc = (do
      skipBlank
      if ← accept ']' then finish pending acc
      else if ← accept '[' then
        let named ← posixItem?
        afterPosix (fun s => classUnion fuel pending (acc.union s))
          (bracketed fuel >>= fun s => classUnion fuel pending (acc.union s)) named
      else
        let op ← setOp?
        afterOp
          (fun op => finish pending acc >>= fun lhs => classUnion fuel (some (op, lhs)) .empty)
          (classRange >>= fun s => classUnion fuel pending (acc.union s)) op) := by
  rw [classUnion]
  congr 1
  funext _
  funext s
  rw [bind_of_ok (peek_apply s), accept_bind_apply]
  generalize hhead : s.rest.head? = o
  cases o with
  | none =>
    rw [if_neg (Option.some_ne_none _).symm, if_neg Bool.false_ne_true, accept_bind_apply, hhead,
      if_neg (Option.some_ne_none _).symm, if_neg Bool.false_ne_true]
    -- a member that is missing is refused alike
    obtain ⟨rest, f, n, names⟩ := s
    obtain rfl : rest = [] := List.head?_eq_none_iff.mp hhead
    rfl
  | some c =>
    by_cases hclose : c = ']'
    · subst hclose
      rw [if_pos rfl]
      exact bind_of_ok (advance_apply 1 s) _
    · rw [if_neg fun h => hclose (Option.some.inj h), if_neg Bool.false_ne_true, accept_bind_apply, hhead]
      by_cases hopen : c = '['
      · subst hopen
        rw [if_pos rfl]
        refine (bind_of_ok (advance_apply 1 s) _).trans ?_
        refine congrFun (congrArg (posixItem? >>= ·) (funext fun o => ?_)) _
        cases o <;> rfl
      · rw [if_neg fun h => hopen (Option.some.inj h), if_neg Bool.false_ne_true]
        refine congrFun ?_ s
        split
        · rename_i h
          cases h
        · rename_i h
          exact absurd (Option.some.inj h) hclose
        · rename_i h
          exact absurd (Option.some.inj h) hopen
        · rfl

theorem moves_setOp? : Moves setOp? := by
  rw [setOp?_eq]
  exact .get fun _ => .pure _

/-- A class is read up to its closing bracket. -/
theorem takes_bracketed (fuel : Nat) : Moves (bracketed fuel) ∧
    ∀ pending acc, Takes [']'] (classUnion fuel pending acc) := by
  have hfinish (pending : Option (SetOp × CharSet)) (acc : CharSet) : Moves (finish pending acc) :=
    (finish_ofFlags pending acc).moves
  have hclosing (dashes : Text) : Moves (closingMember dashes) := by
    unfold closingMember
    split
    · exact moves_accept ']'
    · exact .pure _
  -- a class and its members are read by one another, so the induction is on both
  induction fuel with
  | zero => exact ⟨.fail [] _, fun _ _ => .fail _ _⟩
  | succ fuel ih =>
    refine ⟨?_, fun pending acc => ?_⟩
    · rw [bracketed_succ]
      refine moves_skipBlank.bind fun _ => (moves_accept '^').bind fun inverted =>
        moves_skipBlank.bind fun _ => (moves_takeRun _).bind fun dashes =>
          moves_skipBlank.bind fun _ => (hclosing dashes).bind fun closing =>
            (ih.2 none _).moves.bind fun s => ?_
      split
      · exact (negate_ofFlags s).moves
      · exact .pure s
    · rw [classUnion_succ]
      refine .after moves_skipBlank fun _ => .accept_bind (hfinish pending acc) ?_
      refine .after (moves_accept '[') fun opened => ?_
      cases opened with
      | true =>
        refine .after moves_posixItem? fun o => ?_
        cases o with
        | some s => exact ih.2 pending _
        | none => exact .after ih.1 fun s => ih.2 pending _
      | false =>
        refine .after moves_setOp? fun o => ?_
        cases o with
        | some op =>
          exact .after (moves_advance 2) fun _ => .after (hfinish pending acc) fun lhs => ih.2 _ _
        | none => exact .after moves_classRange fun s => ih.2 pending _

theorem setOp?_bind_corresponds {R : γ → δ → Prop} {k : SetOp → Reader γ} {k' : SetOp → Reader δ}
    {j : Reader γ} {j' : Reader δ} (hk : ∀ op, Corresponds w w' d need R (k op) (k' op))
    (hj : Corresponds w w' d need R j j') (htakes : ∀ op, Takes [']'] (k op))
    (htakes' : Takes [']'] j) :
    Corresponds w w' d need R (setOp? >>= afterOp k j) (setOp? >>= afterOp k' j') := by
  have hleft (o : Option SetOp) : Takes [']'] (afterOp k j o) := by
    cases o with
    | some op => exact .after (moves_advance 2) fun _ => htakes op
    | none => exact htakes'
  have hright (o : Option SetOp) : Moves (afterOp k' j' o) := by
    cases o with
    | some op => exact (moves_advance 2).bind fun _ => (hk op).right
    | none => exact hj.right
  rw [setOp?_eq]
  refine .get (fun s => (hleft (setOpAt s.rest)).moves) (fun s => hright (setOpAt s.rest))
    fun x s t hs ht => .of_takes (hleft (setOpAt s.rest)) fun hx => ?_
  have hclosed : ']' ∈ x := hx List.mem_cons_self
  change AgreesAt w w' d need R x (afterOp k j (setOpAt s.rest)) (afterOp k' j' (setOpAt t.rest))
  rw [hs, ht, setOpAt_append hclosed, setOpAt_append hclosed]
  cases hop : setOpAt x with
  | none => exact hj.agrees
  | some op =>
    rcases x with _ | ⟨b, _ | ⟨c, x⟩⟩
    · cases hop
    · cases hop
    · exact Corresponds.read (v := [b, c]) rfl (hk op)

variable {fuel fuel' : Nat} (hw : Surround w w')
  (hbracketed : Corresponds w w' d need Eq (bracketed fuel) (bracketed fuel'))
  (hunion : ∀ pending acc,
    Corresponds w w' d need Eq (classUnion fuel pending acc) (classUnion fuel' pending acc))

include hw hunion in
theorem bracketed_succ_corresponds :
    Corresponds w w' d need Eq (bracketed (fuel + 1)) (bracketed (fuel' + 1)) := by
  rw [bracketed_succ, bracketed_succ]
  refine .bind (skipBlank_corresponds hw) fun _ =>
    .bind (accept_corresponds hw (by decide)) fun inverted =>
      .bind (skipBlank_corresponds hw) fun _ =>
        .bind (takeRun_corresponds hw (by decide)) fun dashes =>
          .bind (skipBlank_corresponds hw) fun _ =>
            .bind (closingMember_corresponds hw dashes) fun closing =>
              .bind (hunion none _) fun s => ?_
  split
  · exact .ofFlags (negate_ofFlags s)
  · exact .pure rfl

include hbracketed hunion in
/-- A class within the class, which has a name or is in brackets itself. -/
theorem innerClass_corresponds (pending : Option (SetOp × CharSet)) (acc : CharSet) :
    Corresponds w w' d need Eq
      (posixItem? >>= afterPosix (fun s => classUnion fuel pending (acc.union s))
        (bracketed fuel >>= fun s => classUnion fuel pending (acc.union s)))
      (posixItem? >>= afterPosix (fun s => classUnion fuel' pending (acc.union s))
        (bracketed fuel' >>= fun s => classUnion fuel' pending (acc.union s))) := by
  have htakes := (takes_bracketed fuel).2 pending
  have htakes' := (takes_bracketed fuel').2 pending
  refine .bindTaking posixItem?_corresponds ?_ (fun o => ?_) fun o => ?_
  · rintro o _ rfl
    cases o with
    | some s => exact hunion pending _
    | none => exact .bind hbracketed fun s => hunion pending _
  · cases o with
    | some s => exact htakes _
    | none => exact .after (takes_bracketed fuel).1 fun s => htakes _
  · cases o with
    | some s => exact (htakes' _).moves
    | none => exact (takes_bracketed fuel').1.bind fun s => (htakes' _).moves

include hw hunion in
/-- What else may stand in a class, an operator or a member. -/
theorem classPart_corresponds (pending : Option (SetOp × CharSet)) (acc : CharSet) :
    Corresponds w w' d need Eq
      (setOp? >>= afterOp
        (fun op => finish pending acc >>= fun lhs => classUnion fuel (some (op, lhs)) .empty)
        (classRange >>= fun s => classUnion fuel pending (acc.union s)))
      (setOp? >>= afterOp
        (fun op => finish pending acc >>= fun lhs => classUnion fuel' (some (op, lhs)) .empty)
        (classRange >>= fun s => classUnion fuel' pending (acc.union s))) := by
  have htakes := (takes_bracketed fuel).2
  have htakes' := (takes_bracketed fuel').2
  refine setOp?_bind_corresponds (fun op => ?_) ?_ (fun op => ?_) ?_
  · exact .bind (.ofFlags (finish_ofFlags pending acc)) fun lhs => hunion _ _
  · exact .bindTaking (classRange_corresponds hw) (fun s _ hs => hs ▸ hunion pending _)
      (fun s => htakes pending _) fun s => (htakes' pending _).moves
  · exact .after (finish_ofFlags pending acc).moves fun lhs => htakes _ _
  · exact .after moves_classRange fun s => htakes _ _

include hw hbracketed hunion in
theorem classUnion_succ_corresponds (pending : Option (SetOp × CharSet)) (acc : CharSet) :
    Corresponds w w' d need Eq (classUnion (fuel + 1) pending acc)
      (classUnion (fuel' + 1) pending acc) := by
  rw [classUnion_succ, classUnion_succ]
  refine .bind (skipBlank_corresponds hw) fun _ =>
    .bind (accept_corresponds hw (by decide)) fun closed => ?_
  cases closed with
  | true => exact .ofFlags (finish_ofFlags pending acc)
  | false =>
    refine .bind (accept_corresponds hw (by decide)) fun opened => ?_
    cases opened with
    | true => exact innerClass_corresponds hbracketed hunion pending acc
    | false => exact classPart_corresponds hw hunion pending acc

/-- Both surroundings of a class are read alike, if it ends within the piece. -/
theorem bracketed_corresponds (hw : Surround w w') (fuel fuel' : Nat) :
    Corresponds w w' d need Eq (bracketed fuel) (bracketed fuel') ∧ ∀ pending acc,
      Corresponds w w' d need Eq (classUnion fuel pending acc) (classUnion fuel' pending acc) := by
  induction fuel generalizing fuel' with
  | zero =>
    obtain ⟨hmoves, htakes⟩ := takes_bracketed fuel'
    exact ⟨.fail_left _ hmoves, fun pending acc => .fail_left _ (htakes pending acc).moves⟩
  | succ fuel ih =>
    cases fuel' with
    | zero =>
      obtain ⟨hmoves, htakes⟩ := takes_bracketed (fuel + 1)
      exact ⟨.fail_right _ hmoves, fun pending acc => .fail_right _ (htakes pending acc).moves⟩
    | succ fuel' =>
      obtain ⟨hbracketed, hunion⟩ := ih fuel'
      exact ⟨bracketed_succ_corresponds hw hunion,
        classUnion_succ_corresponds hw hbracketed hunion⟩

end Classes

end Copydesk.Regex.Reader
