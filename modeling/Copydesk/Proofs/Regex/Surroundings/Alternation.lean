import Copydesk.Proofs.Regex.Surroundings.Items
import Copydesk.Proofs.Text.Replace

/-! Groups and alternatives within two surroundings. An expression that is read in both is the same
in both, up to the numbers of its groups. -/

namespace Copydesk.Regex.Reader

open Text

variable {γ δ : Type} {w w' x need : Text} {d fuel fuel' : Nat}

section Openings

/-- The opening as it is numbered in the second surroundings. -/
def Opening.shift (d : Nat) : Opening → Opening
  | directive f => directive f
  | inner f index => inner f (index.map (· + d))

theorem numbered_apply (s : ReadState) : numbered s =
    .ok (.inner s.flags (some (s.groups + 1)), { s with groups := s.groups + 1 }) := rfl

theorem moves_numbered : Moves numbered := by
  intro s a s' h
  cases h
  exact ⟨[], rfl, List.nil_subset _⟩

theorem numbered_corresponds :
    Corresponds w w' d need (fun a b => b = a.shift d) numbered numbered where
  left := moves_numbered
  right := moves_numbered
  agrees := by
    intro x s t a s' b t' y hst hs ht hy hneed hne
    rw [numbered_apply] at hs ht
    cases hs
    cases ht
    obtain rfl := List.append_cancel_right (hst.first.symm.trans hy)
    have hgroups : t.groups + 1 = s.groups + 1 + d := by rw [hst.groups, Nat.add_right_comm]
    refine ⟨?_, hst.first, hst.second, hst.flags, hgroups⟩
    rw [hst.flags, hgroups]
    rfl

/-- Flags after a question mark, for the rest of the group or for a group of their own. -/
def flagGroup : Reader Opening := do
  let items ← takeRun fun c => c != ':' && c != ')'
  let f ← flagItems items none [] (← flags)
  match ← next? with
  | some ')' =>
    if items.isEmpty then fail .nothingToRepeat
    return .directive f
  | some ':' => return .inner f none
  | _ => fail .unclosedGroup

theorem flagGroup_corresponds (hw : Surround w w') :
    Corresponds w w' d need (fun a b => b = a.shift d) flagGroup flagGroup := by
  refine .bind (takeRun_corresponds hw (by decide)) fun items => .bind (.ofFlags .flags) fun f =>
    .bind (.ofFlags (flagItems_ofFlags _ _ _ _)) fun f => .next rfl rfl fun c => ?_
  split
  · exact .guard (.pure rfl)
  · exact .pure rfl
  · exact .fail_left _ (.fail [] _)

theorem eq_flagGroup : (do
    let items := (← get).rest.takeWhile fun c => c != ':' && c != ')'
    let f ← flagItems items none [] (← flags)
    match (← get).rest.drop items.length with
    | ')' :: _ =>
      if items.isEmpty then fail .nothingToRepeat
      advance (items.length + 1)
      return .directive f
    | ':' :: _ =>
      advance (items.length + 1)
      return .inner f none
    | _ => fail .unclosedGroup) = flagGroup := by
  unfold flagGroup
  rw [takeRun_bind]
  funext s
  rw [bind_of_ok (get_apply s), bind_of_ok (get_apply s)]
  dsimp only
  rw [bind_of_ok (flags_apply s), bind_of_ok (advance_apply _ s), bind_of_ok (flags_apply _)]
  obtain ⟨h, hread⟩ :=
    flagItems_ofFlags (s.rest.takeWhile fun c => c != ':' && c != ')') none [] s.flags
  rw [bind_apply, bind_apply, hread, hread]
  dsimp only
  cases h s.flags with
  | error e => rfl
  | ok f =>
    generalize s.rest.takeWhile (fun c => c != ':' && c != ')') = items
    -- one side looks past the flags and then reads them, the other reads them first
    have hdrop (r : Text) (c : Char) (h : s.rest.drop items.length = c :: r) :
        s.rest.drop (items.length + 1) = r := by
      rw [← List.drop_drop, h, List.drop_one, List.tail_cons]
    refine (bind_of_ok (get_apply s) _).trans (.trans ?_ (bind_of_ok (next?_apply _) _).symm)
    dsimp only
    generalize hrest : s.rest.drop items.length = rest at hdrop
    split
    · rw [List.head?_cons]
      split
      · rfl
      · rw [bind_of_ok (advance_apply _ s), hdrop _ _ rfl]
        rfl
    · rw [bind_of_ok (advance_apply _ s), hdrop _ _ rfl]
      rfl
    · rename_i hclose hcolon
      refine .trans (b := fail .unclosedGroup { s with rest := rest.drop 1 }) rfl (congrFun ?_ _)
      split
      · rename_i heq
        obtain ⟨r, rfl⟩ := List.head?_eq_some_iff.mp heq
        exact (hclose r rfl).elim
      · rename_i heq
        obtain ⟨r, rfl⟩ := List.head?_eq_some_iff.mp heq
        exact (hcolon r rfl).elim
      · rfl

def looksAround (t : Text) : Bool :=
  startsWith t "?=" || startsWith t "?!" || startsWith t "?<=" || startsWith t "?<!"

def openingAt (t : Text) : Reader Opening := do
  if looksAround t then fail .lookAround
  if startsWith t "?P<" then
    advance 3
    groupName
    numbered
  else if startsWith t "?<" then
    advance 2
    groupName
    numbered
  else if startsWith t "?" then
    advance 1
    flagGroup
  else numbered

theorem opening_eq : opening = get >>= fun s => openingAt s.rest := by
  funext s
  rw [opening, bind_of_ok (get_apply s), openingAt, bind_of_ok (upcoming_apply _ s),
    bind_of_ok (upcoming_apply _ s), bind_of_ok (upcoming_apply _ s),
    bind_of_ok (upcoming_apply _ s)]
  change (if looksAround s.rest = true then _ else _ : Reader Opening) s = _
  dsimp only
  split
  · rfl
  · rw [bind_of_ok (upcoming_apply _ s)]
    split
    · rfl
    · rw [bind_of_ok (upcoming_apply _ s)]
      split
      · rfl
      · rw [bind_of_ok (upcoming_apply _ s)]
        split
        · rewrite [← eq_flagGroup]
          rfl
        · rfl

theorem moves_groupName : Moves groupName := by
  have hname : Corresponds [')'] [')'] 0 [] Eq groupName groupName := groupName_corresponds
  exact hname.left

theorem moves_openingAt (t : Text) : Moves (openingAt t) := by
  have hflags : Corresponds [')'] [')'] 0 [] (fun a b => b = a.shift 0) flagGroup flagGroup :=
    flagGroup_corresponds ⟨.inr rfl, rfl⟩
  have hnamed : Moves (groupName >>= fun _ => numbered) :=
    moves_groupName.bind fun _ => moves_numbered
  unfold openingAt
  refine .guard ?_
  dsimp only
  split
  · exact (moves_advance 3).bind fun _ => hnamed
  · split
    · exact (moves_advance 2).bind fun _ => hnamed
    · split
      · exact (moves_advance 1).bind fun _ => hflags.left
      · exact moves_numbered

/-- A mark without a closing parenthesis in it stands in the piece or nowhere. -/
theorem startsWith_append {v p : Text} (h : ∀ c ∈ v.head?, c ∉ p) (x : Text) :
    startsWith (x ++ v) p = startsWith x p := by
  rw [Bool.eq_iff_iff, startsWith_iff, startsWith_iff]
  change p <+: x ++ v ↔ p <+: x
  exact ⟨prefix_of_prefix_append h, fun hp => hp.trans (List.prefix_append x v)⟩

theorem openingAt_append {v : Text} (h : ∀ c ∈ v.head?, c = ')') (x : Text) :
    openingAt (x ++ v) = openingAt x := by
  have hmark (p : Text) (hp : ')' ∉ p) : startsWith (x ++ v) p = startsWith x p :=
    startsWith_append (fun c hc => h c hc ▸ hp) x
  unfold openingAt looksAround
  rw [hmark "?=" (by decide), hmark "?!" (by decide), hmark "?<=" (by decide),
    hmark "?<!" (by decide), hmark "?P<" (by decide), hmark "?<" (by decide), hmark "?" (by decide)]

theorem opening_corresponds (hw : Surround w w') :
    Corresponds w w' d need (fun a b => b = a.shift d) opening opening := by
  have hnamed : Corresponds w w' d need (fun a b => b = a.shift d)
      (groupName >>= fun _ => numbered) (groupName >>= fun _ => numbered) :=
    .bind groupName_corresponds fun _ => numbered_corresponds
  -- what surrounds the part begins with a parenthesis, which continues no mark
  have hfirst : ∀ c ∈ w.head?, c = ')' := by
    intro c hc
    rcases hw.first with ⟨rfl, -⟩ | h
    · cases hc
    · exact (Option.some.inj (h.symm.trans hc)).symm
  have hsecond : ∀ c ∈ w'.head?, c = ')' :=
    fun c hc => (Option.some.inj (hw.second.symm.trans hc)).symm
  rw [opening_eq]
  refine .get (fun s => moves_openingAt s.rest) (fun s => moves_openingAt s.rest)
    fun x s t hs ht => ?_
  rw [hs, ht, openingAt_append hfirst, openingAt_append hsecond]
  unfold openingAt
  cases looksAround x with
  | true => exact fun _ _ _ _ _ _ _ _ h => absurd h fail_bind_ne_ok
  | false =>
    dsimp only
    rw [if_neg Bool.false_ne_true]
    split
    · rename_i hmark
      obtain ⟨z, rfl⟩ := startsWith_iff.mp hmark
      exact Corresponds.read rfl hnamed
    · split
      · rename_i hmark
        obtain ⟨z, rfl⟩ := startsWith_iff.mp hmark
        exact Corresponds.read rfl hnamed
      · split
        · rename_i hmark
          obtain ⟨z, rfl⟩ := startsWith_iff.mp hmark
          exact Corresponds.read rfl (flagGroup_corresponds hw)
        · exact numbered_corresponds.agrees

end Openings

section Items

inductive Lead
  | zeroOrMore | oneOrMore | atMostOne | count | dot | caret | dollar | bracket | backslash | paren
  | other

def leadOf : Char → Lead
  | '*' => .zeroOrMore
  | '+' => .oneOrMore
  | '?' => .atMostOne
  | '{' => .count
  | '.' => .dot
  | '^' => .caret
  | '$' => .dollar
  | '[' => .bracket
  | '\\' => .backslash
  | '(' => .paren
  | _ => .other

theorem leadOf_eq_other {c : Char}
    (h : c ∉ ['*', '+', '?', '{', '.', '^', '$', '[', '\\', '(']) : leadOf c = .other := by
  unfold leadOf
  split <;> first | rfl | exact absurd (by decide) h

def repeatLast (fuel : Nat) : List (Option Node) → (Node → Reader Node) → Reader Node
  | some a :: before, f => f a >>= fun b => concatenation fuel (some b :: before)
  | _, _ => fail .nothingToRepeat

def groupItem (fuel : Nat) (items : List (Option Node)) (f : Flags) : Opening → Reader Node
  | .directive f' => do
    modify fun s => { s with flags := f' }
    concatenation fuel (none :: items)
  | .inner f' index => do
    modify fun s => { s with flags := f' }
    let a ← alternation fuel
    if (← next?) != some ')' then fail .unclosedGroup
    modify fun s => { s with flags := f }
    concatenation fuel (some (index.elim a fun i => .group i a) :: items)

def item (fuel : Nat) (items : List (Option Node)) (c : Char) : Reader Node := do
  let push (a : Node) : Reader Node := concatenation fuel (some a :: items)
  let f ← flags
  match leadOf c with
  | .zeroOrMore => repeatLast fuel items (repetition 0 none)
  | .oneOrMore => repeatLast fuel items (repetition 1 none)
  | .atMostOne => repeatLast fuel items (repetition 0 (some 1))
  | .count => repeatLast fuel items counted
  | .dot => push (.one (← dot))
  | .caret => push (.look (if f.multiLine then .lineStart f.crlf else .textStart))
  | .dollar => push (.look (if f.multiLine then .lineEnd f.crlf else .textEnd))
  | .bracket => push (.one (← bracketed fuel))
  | .backslash => match ← escape with
    | .char c => push (← literal c)
    | .set s => push (.one s)
    | .look l => push (.look l)
  | .paren => groupItem fuel items f (← opening)
  | .other => push (← literal c)

theorem concatenation_succ (fuel : Nat) (items : List (Option Node)) :
    concatenation (fuel + 1) items = (do
      skipBlank
      match ← peek with
      | none | some '|' | some ')' => return Node.ofList (items.reverse.filterMap id)
      | some c =>
        advance 1
        item fuel items c) := by
  rw [concatenation]
  congr 1
  funext _
  dsimp only
  congr 1
  funext o
  congr 1
  funext c
  congr 1
  funext _
  unfold item
  congr 1
  funext f
  -- the first four need an item before them, and a group is opened by `groupItem`
  split
  · rcases items with _ | ⟨_ | a, before⟩ <;> rfl
  · rcases items with _ | ⟨_ | a, before⟩ <;> rfl
  · rcases items with _ | ⟨_ | a, before⟩ <;> rfl
  · rcases items with _ | ⟨_ | a, before⟩ <;> rfl
  · rfl
  · rfl
  · rfl
  · rfl
  · rfl
  · change _ = opening >>= groupItem fuel items f
    congr 1
    funext o
    cases o with
    | directive f' => rfl
    | inner f' index => cases index <;> rfl
  · rename_i hstar hplus hmark hcount hdot hcaret hdollar hbracket hbackslash hparen
    have hother : c ∉ ['*', '+', '?', '{', '.', '^', '$', '[', '\\', '('] := by
      simp only [List.mem_cons, List.not_mem_nil, or_false, not_or]
      exact ⟨hstar, hplus, hmark, hcount, hdot, hcaret, hdollar, hbracket, hbackslash, hparen⟩
    rw [leadOf_eq_other hother]

end Items

section Moves

/-- What is read alike in both surroundings puts nothing back. -/
theorem moves_of_corresponds {R : γ → δ → Prop} {p : Reader γ} {q : Reader δ}
    (h : ∀ {w w' : Text}, Surround w w' → Corresponds w w' 0 [] R p q) : Moves p :=
  have hsurround : Surround [')'] [')'] := ⟨.inr rfl, rfl⟩
  (h hsurround).left

theorem moves_setFlags (f : Flags) : Moves (modify fun s : ReadState => { s with flags := f }) := by
  intro s a s' h
  cases h
  exact ⟨[], rfl, List.nil_subset _⟩

theorem moves_repeatLast {f : Node → Reader Node} (hf : ∀ a, Moves (f a))
    (hcat : ∀ items, Moves (concatenation fuel items)) (items : List (Option Node)) :
    Moves (repeatLast fuel items f) := by
  rcases items with _ | ⟨_ | a, before⟩
  · exact .fail [] _
  · exact .fail [] _
  · exact (hf a).bind fun b => hcat (some b :: before)

theorem moves_groupItem (halt : Moves (alternation fuel))
    (hcat : ∀ items, Moves (concatenation fuel items)) (items : List (Option Node)) (f : Flags)
    (o : Opening) : Moves (groupItem fuel items f o) := by
  cases o with
  | directive f' => exact (moves_setFlags f').bind fun _ => hcat (none :: items)
  | inner f' index =>
    exact (moves_setFlags f').bind fun _ => halt.bind fun a => moves_next.bind fun c =>
      .guard ((moves_setFlags f).bind fun _ => hcat _)

theorem moves_item (halt : Moves (alternation fuel))
    (hcat : ∀ items, Moves (concatenation fuel items)) (items : List (Option Node)) (c : Char) :
    Moves (item fuel items c) := by
  have hrepetition (lo : Nat) (hi : Option Nat) (a : Node) : Moves (repetition lo hi a) :=
    moves_of_corresponds fun hw => repetition_corresponds hw lo hi a
  have hcounted (a : Node) : Moves (counted a) :=
    moves_of_corresponds fun hw => counted_corresponds hw a
  have hescape : Moves escape := moves_of_corresponds fun hw => escape_corresponds hw
  have hopening : Moves opening := moves_of_corresponds fun hw => opening_corresponds hw
  have hliteral : Moves (literal c >>= fun a => concatenation fuel (some a :: items)) :=
    (literal_ofFlags c).moves.bind fun a => hcat _
  unfold item
  refine OfFlags.flags.moves.bind fun f => ?_
  cases leadOf c with
  | zeroOrMore => exact moves_repeatLast (hrepetition 0 none) hcat items
  | oneOrMore => exact moves_repeatLast (hrepetition 1 none) hcat items
  | atMostOne => exact moves_repeatLast (hrepetition 0 (some 1)) hcat items
  | count => exact moves_repeatLast hcounted hcat items
  | dot => exact dot_ofFlags.moves.bind fun s => hcat _
  | caret => exact hcat _
  | dollar => exact hcat _
  | bracket => exact (takes_bracketed fuel).1.bind fun s => hcat _
  | backslash =>
    refine hescape.bind fun e => ?_
    cases e with
    | char c => exact (literal_ofFlags c).moves.bind fun a => hcat _
    | set s => exact hcat _
    | look l => exact hcat _
  | paren => exact hopening.bind fun o => moves_groupItem halt hcat items f o
  | other => exact hliteral

theorem moves_alternation (fuel : Nat) :
    Moves (alternation fuel) ∧ ∀ items, Moves (concatenation fuel items) := by
  induction fuel with
  | zero => exact ⟨.fail [] _, fun _ => .fail [] _⟩
  | succ fuel ih =>
    obtain ⟨halt, hcat⟩ := ih
    refine ⟨?_, fun items => ?_⟩
    · rw [alternation]
      refine (hcat []).bind fun a => moves_peek.bind fun o => ?_
      split
      · exact (moves_advance 1).bind fun _ => halt.bind fun b => .pure _
      · exact .pure a
    · rw [concatenation_succ]
      refine moves_skipBlank.bind fun _ => moves_peek.bind fun o => ?_
      split
      · exact .pure _
      · exact .pure _
      · exact .pure _
      · exact (moves_advance 1).bind fun _ => moves_item halt hcat items _

end Moves

section Correspondence

def shiftItems (d : Nat) (items : List (Option Node)) : List (Option Node) :=
  items.map (Option.map (Node.shift d))

theorem ofList_shiftItems (d : Nat) (items : List (Option Node)) :
    Node.ofList ((shiftItems d items).reverse.filterMap id) =
      (Node.ofList (items.reverse.filterMap id)).shift d := by
  rewrite [Node.shift_ofList, shiftItems, ← List.map_reverse, List.filterMap_map, List.map_filterMap]
  rfl

theorem setFlags_corresponds (f : Flags) :
    Corresponds w w' d need Eq (modify fun s : ReadState => { s with flags := f })
      (modify fun s : ReadState => { s with flags := f }) where
  left := moves_setFlags f
  right := moves_setFlags f
  agrees := by
    intro x s t a s' b t' y hst hs ht hy hneed hne
    cases hs
    cases ht
    obtain rfl := List.append_cancel_right (hst.first.symm.trans hy)
    exact ⟨rfl, hst.first, hst.second, rfl, hst.groups⟩

variable (hw : Surround w w')
  (halt : Corresponds w w' d need (Shifted d) (alternation fuel) (alternation fuel'))
  (hcat : ∀ items, Corresponds w w' d need (Shifted d) (concatenation fuel items)
    (concatenation fuel' (shiftItems d items)))

include hcat in
theorem pushes_alike {a b : Node} (items : List (Option Node)) (h : Shifted d a b) :
    Corresponds w w' d need (Shifted d) (concatenation fuel (some a :: items))
      (concatenation fuel' (some b :: shiftItems d items)) := by
  obtain rfl := h
  exact hcat (some a :: items)

include hcat in
theorem repeatLast_corresponds {f g : Node → Reader Node}
    (hf : ∀ a, Corresponds w w' d need (Shifted d) (f a) (g (a.shift d)))
    (items : List (Option Node)) :
    Corresponds w w' d need (Shifted d) (repeatLast fuel items f)
      (repeatLast fuel' (shiftItems d items) g) := by
  rcases items with _ | ⟨_ | a, before⟩
  · exact .fail_left _ (.fail [] _)
  · exact .fail_left _ (.fail [] _)
  · exact .bind' (hf a) (fun b b' hb => pushes_alike hcat before hb)
      (fun b => (moves_alternation fuel).2 _) fun b => (moves_alternation fuel').2 _

include halt hcat in
theorem groupItem_corresponds (items : List (Option Node)) (f : Flags) (o : Opening) :
    Corresponds w w' d need (Shifted d) (groupItem fuel items f o)
      (groupItem fuel' (shiftItems d items) f (o.shift d)) := by
  cases o with
  | directive f' => exact .bind (setFlags_corresponds f') fun _ => hcat (none :: items)
  | inner f' index =>
    refine .bind (setFlags_corresponds f') fun _ =>
      .bind' halt (fun a b hab => ?_) (fun a => ?_) fun b => ?_
    · refine .next rfl rfl fun c => .guard (.bind (setFlags_corresponds f) fun _ =>
        pushes_alike hcat items ?_)
      obtain rfl := hab
      cases index <;> rfl
    · exact moves_next.bind fun c => .guard ((moves_setFlags f).bind fun _ =>
        (moves_alternation fuel).2 _)
    · exact moves_next.bind fun c => .guard ((moves_setFlags f).bind fun _ =>
        (moves_alternation fuel').2 _)

include hw halt hcat in
theorem item_corresponds (items : List (Option Node)) (c : Char) :
    Corresponds w w' d need (Shifted d) (item fuel items c)
      (item fuel' (shiftItems d items) c) := by
  have hpush (a : Node) (h : a.shift d = a) :
      Corresponds w w' d need (Shifted d) (concatenation fuel (some a :: items))
        (concatenation fuel' (some a :: shiftItems d items)) :=
    pushes_alike hcat items h.symm
  have hliteral (c : Char) : Corresponds w w' d need (Shifted d)
      (literal c >>= fun a => concatenation fuel (some a :: items))
      (literal c >>= fun a => concatenation fuel' (some a :: shiftItems d items)) := by
    rw [literal, bind_assoc, bind_assoc]
    simp only [pure_bind]
    exact .bind (.ofFlags (fold_ofFlags _)) fun s => hpush _ rfl
  unfold item
  refine .bind (.ofFlags .flags) fun f => ?_
  cases leadOf c with
  | zeroOrMore => exact repeatLast_corresponds hcat (repetition_corresponds hw 0 none) items
  | oneOrMore => exact repeatLast_corresponds hcat (repetition_corresponds hw 1 none) items
  | atMostOne => exact repeatLast_corresponds hcat (repetition_corresponds hw 0 (some 1)) items
  | count => exact repeatLast_corresponds hcat (counted_corresponds hw) items
  | dot => exact .bind (.ofFlags dot_ofFlags) fun s => hpush _ rfl
  | caret => exact hpush _ rfl
  | dollar => exact hpush _ rfl
  | bracket => exact .bind (bracketed_corresponds hw fuel fuel').1 fun s => hpush _ rfl
  | backslash =>
    refine .bind (escape_corresponds hw) fun e => ?_
    cases e with
    | char c => exact hliteral c
    | set s => exact hpush _ rfl
    | look l => exact hpush _ rfl
  | paren =>
    refine .bind' (opening_corresponds hw)
      (fun o o' ho => ho ▸ groupItem_corresponds halt hcat items f o) (fun o => ?_) fun o => ?_
    · exact moves_groupItem (moves_alternation fuel).1 (moves_alternation fuel).2 items f o
    · exact moves_groupItem (moves_alternation fuel').1 (moves_alternation fuel').2 _ f o
  | other => exact hliteral c

include hcat halt hw in
theorem alternation_succ_corresponds : Corresponds w w' d need (Shifted d)
    (alternation (fuel + 1)) (alternation (fuel' + 1)) := by
  have hafter (fuel : Nat) (a : Node) : Moves (do
      if (← peek) == some '|' then
        advance 1
        return .alt a (← alternation fuel)
      else return a) := by
    refine moves_peek.bind fun o => ?_
    split
    · exact (moves_advance 1).bind fun _ => (moves_alternation fuel).1.bind fun b => .pure _
    · exact .pure a
  rw [alternation, alternation]
  refine .bind' (hcat []) (fun a b hab => ?_) (hafter fuel) (hafter fuel')
  refine .acceptOr hw (by decide) ?_ (.pure hab)
  exact .bind' halt (fun a' b' hab' => .pure (hab ▸ hab' ▸ rfl)) (fun _ => .pure _) fun _ => .pure _

include hcat halt hw in
theorem concatenation_succ_corresponds (items : List (Option Node)) :
    Corresponds w w' d need (Shifted d) (concatenation (fuel + 1) items)
      (concatenation (fuel' + 1) (shiftItems d items)) := by
  rw [concatenation_succ, concatenation_succ]
  refine .bind (skipBlank_corresponds hw) fun _ => .head hw ?_ (.pure _) fun c => ?_
  · rintro o (rfl | rfl)
    · exact .pure (ofList_shiftItems d items)
    · exact .pure (ofList_shiftItems d items)
  · by_cases hbar : c = '|'
    · subst hbar
      exact .inl (.pure (ofList_shiftItems d items))
    · by_cases hclose : c = ')'
      · subst hclose
        exact .inl (.pure (ofList_shiftItems d items))
      · refine .inr ⟨fun _ => item fuel items c, fun _ => item fuel' (shiftItems d items) c,
          ?_, ?_, item_corresponds hw halt hcat items c⟩
        all_goals
          split
          · rename_i h
            cases h
          · rename_i h
            exact absurd (Option.some.inj h) hbar
          · rename_i h
            exact absurd (Option.some.inj h) hclose
          · rename_i h
            cases h
            rfl

end Correspondence

/-- An expression is the same in both surroundings, but for the numbers of its groups. -/
theorem alternation_corresponds (hw : Surround w w') (fuel fuel' : Nat) :
    Corresponds w w' d need (Shifted d) (alternation fuel) (alternation fuel') ∧ ∀ items,
      Corresponds w w' d need (Shifted d) (concatenation fuel items)
        (concatenation fuel' (shiftItems d items)) := by
  induction fuel generalizing fuel' with
  | zero =>
    obtain ⟨halt, hcat⟩ := moves_alternation fuel'
    exact ⟨.fail_left _ halt, fun items => .fail_left _ (hcat _)⟩
  | succ fuel ih =>
    cases fuel' with
    | zero =>
      obtain ⟨halt, hcat⟩ := moves_alternation (fuel + 1)
      exact ⟨.fail_right _ halt, fun items => .fail_right _ (hcat items)⟩
    | succ fuel' =>
      obtain ⟨halt, hcat⟩ := ih fuel'
      exact ⟨alternation_succ_corresponds hw halt hcat, concatenation_succ_corresponds hw halt hcat⟩

end Copydesk.Regex.Reader
