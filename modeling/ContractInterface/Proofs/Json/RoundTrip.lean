/-
The text of a value is read as its written form (`Value.ofText_text`), and a written form is kept as
the value itself if it fits (`Value.Fits.keep_draft`). The text is followed token by token: where a
value may start, its text has the same effect as its finished draft (`Writes`), and so has the text of
a list or an object whose parts are written so (`Writes.list`, `Writes.object`).
-/
import ContractInterface.Proofs.Json.Fits
import ContractInterface.Proofs.Json.NumberText

namespace ContractInterface.Json

/-! ## Strings -/

theorem hexUnit?_control : ∀ n < 0x20,
    hexUnit? '0' '0' (Nat.digitChar (n / 16)) (Nat.digitChar (n % 16)) = some n := by decide

/-- A character is written as one piece, which is read as the character. -/
theorem scanString_escapeChar (c : Char) : ∃ p,
    (∀ rest, scanString (escapeChar c ++ rest) =
      scanString.prepend p (escapeChar c).length (scanString rest)) ∧
    ∀ pieces, joinPieces none (p :: pieces) = (c :: ·) <$> joinPieces none pieces := by
  unfold escapeChar
  split
  case h_8 _ hquote hslash _ _ _ _ _ =>
    split_ifs with hcontrol
    · have hunit := hexUnit?_control c.toNat hcontrol
      refine ⟨.unit c.toNat, fun rest => ?_, fun pieces => ?_⟩
      · simp [scanString, hunit]
      · have hc : Char.ofNat c.toNat = c := Char.ofNat_toNat c
        rw [joinPieces.eq_def]
        dsimp only
        rw [if_neg (by omega), if_neg (by omega), hc]
    · refine ⟨.char c, fun rest => ?_, fun _ => rfl⟩
      rw [List.singleton_append, scanString.eq_def]
      split <;> simp_all
  all_goals exact ⟨.char _, fun rest => by simp [scanString, shortEscape?], fun _ => rfl⟩

theorem scanString_flatMap (cs rest : List Char) : ∃ pieces,
    scanString (cs.flatMap escapeChar ++ '"' :: rest) =
      (pieces, .ok ((cs.flatMap escapeChar).length + 1)) ∧ joinPieces none pieces = .ok cs := by
  induction cs with
  | nil => exact ⟨[], by simp [scanString], rfl⟩
  | cons c cs ih =>
    obtain ⟨pieces, hscan, hjoin⟩ := ih
    obtain ⟨p, hp, hc⟩ := scanString_escapeChar c
    refine ⟨p :: pieces, ?_, by rw [hc, hjoin]; rfl⟩
    rw [List.flatMap_cons, List.append_assoc, hp, hscan, scanString.prepend, List.length_append]
    simp only [Except.map, Nat.add_assoc]

/-- The text of a string is one token. -/
theorem scan_writeString (s : String) (rest : List Char) :
    Token.scan '"' (s.toList.flatMap escapeChar ++ ['"'] ++ rest) =
      (.text s, (s.toList.flatMap escapeChar).length + 2) := by
  obtain ⟨pieces, hscan, hjoin⟩ := scanString_flatMap s.toList rest
  rw [List.append_assoc, List.singleton_append, Token.scan, scanText, hscan]
  simp only [hjoin, String.ofList_toList]
  exact Prod.ext rfl (by dsimp only; omega)

/-! ## Tokens -/

theorem tokensAfter_append (w rest : List Char) : tokensAfter w.length (w ++ rest) = tokens rest := by
  induction w with
  | nil => rfl
  | cons c w ih => exact ih

/-- A token and what stands behind it. -/
theorem tokens_of_scan {c : Char} {w rest : List Char} {token : Token} (hblank : isBlank c = false)
    (h : Token.scan c (w ++ rest) = (token, w.length + 1)) :
    tokens (c :: w ++ rest) = token :: tokens rest := by
  rw [tokens, List.cons_append, tokensAfter]
  simp only [hblank, Bool.false_eq_true, if_false, h, tokensAfter_append]

theorem tokens_writeString (s : String) (rest : List Char) :
    tokens (writeString s ++ rest) = .text s :: tokens rest := by
  refine tokens_of_scan rfl ?_
  rw [scan_writeString, List.length_append]
  rfl

theorem tokens_write_number (n : Number) {rest : List Char} (hrest : Ends rest) :
    tokens (n.write ++ rest) = .numeral n.numeral :: tokens rest := by
  obtain ⟨c, cs, hwrite, hblank, -, hscan⟩ := n.scan_write
  rw [hwrite]
  exact tokens_of_scan hblank (hscan rest hrest)

/-- The decimal digits of a natural number, of whatever size, are one token. -/
theorem tokens_toDigits (n : ℕ) {rest : List Char} (hrest : Ends rest) :
    tokens (Nat.toDigits 10 n ++ rest) = .numeral (.integer false (Nat.toDigits 10 n)) :: tokens rest := by
  have hwholes := wholeDigits_toDigits n
  have hscan := @Numeral.scan_integer false _ _ hwholes hrest
  obtain ⟨c, cs, hdigits, hc⟩ := exists_first hwholes []
  rw [List.append_nil] at hdigits
  rw [hdigits] at hscan ⊢
  obtain ⟨hblank, -, htoken⟩ := scan_digit hc (cs ++ rest)
  refine tokens_of_scan hblank ?_
  rw [htoken, ← List.cons_append, hscan]
  rfl

/-! ## Assembly -/

namespace Assembly

/-- A place where a value may start, in a list or an object or by itself. -/
def AwaitsValue (state : Assembly) (frames : List Frame) : Prop :=
  ∀ token, token ≠ .endList → state.step token = start frames token

/-- A place where a key may start. -/
def AwaitsKey (state : Assembly) (members : List (Key × Draft)) (frames : List Frame) : Prop :=
  ∀ s, state.step (.text s) = .afterKey members (.text s) frames

theorem awaitsValue_value (frames : List Frame) : (value frames).AwaitsValue frames :=
  fun _ _ => rfl

theorem awaitsValue_listStart (frames : List Frame) :
    (listStart frames).AwaitsValue (.list [] :: frames) := by
  intro token htoken
  cases token <;> first | rfl | exact absurd rfl htoken

theorem awaitsValue_afterListComma (items : List Draft) (frames : List Frame) :
    (afterListComma items frames).AwaitsValue (.list items :: frames) := by
  intro token htoken
  cases token <;> first | rfl | exact absurd rfl htoken

theorem awaitsKey_objectStart (frames : List Frame) : (objectStart frames).AwaitsKey [] frames :=
  fun _ => rfl

theorem awaitsKey_afterObjectComma (members : List (Key × Draft)) (frames : List Frame) :
    (afterObjectComma members frames).AwaitsKey members frames := fun _ => rfl

theorem run_cons (token : Token) (tokens : List Token) (state : Assembly) :
    run (token :: tokens) state = run tokens (state.step token) := rfl

end Assembly

/-! ## Written text -/

theorem ends_of_head {c : Char} (h : c = ',' ∨ c = ']' ∨ c = '\x7d') (rest : List Char) :
    Ends (c :: rest) := by
  rintro d ⟨⟩
  rcases h with rfl | rfl | rfl <;> decide

theorem commaSeparated_cons (part : List Char) (parts : List (List Char)) :
    commaSeparated (part :: parts) =
      part ++ if parts = [] then [] else ',' :: commaSeparated parts := by
  cases parts with
  | nil => simp [commaSeparated]
  | cons => simp [commaSeparated]

open Assembly

/-- Where a value may start, the characters have the effect of the draft, before text that no numeral goes on
with. -/
structure Writes (cs : List Char) (d : Draft) : Prop where
  run_eq : ∀ {rest : List Char}, Ends rest → ∀ {state : Assembly} {frames : List Frame},
    state.AwaitsValue frames → run (tokens (cs ++ rest)) state = run (tokens rest) (deliver d frames)

/-- The characters of a key, a colon and a value. -/
inductive WritesMember : List Char → Key × Draft → Prop
  | intro (key : String) {cs : List Char} {d : Draft} : Writes cs d →
      WritesMember (writeString key ++ ':' :: cs) (.text key, d)

/-- One token that is a value. -/
theorem Writes.of_token {cs : List Char} {token : Token} {d : Draft}
    (htokens : ∀ rest, Ends rest → tokens (cs ++ rest) = token :: tokens rest)
    (hend : token ≠ .endList) (hstart : ∀ frames, start frames token = deliver d frames) :
    Writes cs d := by
  refine ⟨fun {rest} hrest state frames h => ?_⟩
  rw [htokens rest hrest, run_cons, h token hend, hstart]

theorem writes_null : Writes ['n', 'u', 'l', 'l'] (.word .null) :=
  .of_token (fun _ _ => rfl) (by simp) fun _ => rfl

theorem writes_string (s : String) : Writes (writeString s) (.text s) :=
  .of_token (fun rest _ => tokens_writeString s rest) (by simp) fun _ => rfl

theorem writes_digits (n : ℕ) :
    Writes (Nat.toDigits 10 n) (.numeral (.integer false (Nat.toDigits 10 n))) :=
  .of_token (fun _ hrest => tokens_toDigits n hrest) (by simp) fun _ => rfl

/-- The items of a list after those that are read, up to its end. -/
theorem run_items {parts : List (List Char)} {drafts : List Draft}
    (h : List.Forall₂ Writes parts drafts) : parts ≠ [] → ∀ {rest : List Char} {state : Assembly}
    {done : List Draft} {frames : List Frame}, state.AwaitsValue (.list done :: frames) →
      run (tokens (commaSeparated parts ++ ']' :: rest)) state =
        run (tokens rest) (deliver (.list (done.reverse ++ drafts) .closed) frames) := by
  induction h with
  | nil => exact fun hne => absurd rfl hne
  | @cons part d parts drafts hpart hparts ih =>
    intro _ rest state done frames hstate
    rw [commaSeparated_cons, List.append_assoc]
    by_cases hlast : parts = []
    · subst hlast
      cases hparts
      rw [if_pos rfl, List.nil_append, hpart.run_eq (ends_of_head (by simp) rest) hstate]
      have htokens : tokens (']' :: rest) = .endList :: tokens rest := rfl
      rw [htokens, run_cons]
      simp [deliver, step]
    · rw [if_neg hlast, List.cons_append, hpart.run_eq (ends_of_head (by simp) _) hstate]
      have htokens : ∀ cs, tokens (',' :: cs) = .comma :: tokens cs := fun _ => rfl
      rw [htokens, run_cons]
      have hnext := @ih hlast rest _ _ _ (awaitsValue_afterListComma (d :: done) frames)
      rw [List.reverse_cons, List.append_assoc] at hnext
      exact hnext

/-- The members of an object after those that are read, up to its end. -/
theorem run_members {parts : List (List Char)} {members : List (Key × Draft)}
    (h : List.Forall₂ WritesMember parts members) : parts ≠ [] → ∀ {rest : List Char} {state : Assembly}
    {done : List (Key × Draft)} {frames : List Frame}, state.AwaitsKey done frames →
      run (tokens (commaSeparated parts ++ '\x7d' :: rest)) state =
        run (tokens rest) (deliver (.object (done.reverse ++ members) .closed) frames) := by
  induction h with
  | nil => exact fun hne => absurd rfl hne
  | @cons part m parts members hpart hparts ih =>
    intro _ rest state done frames hstate
    obtain @⟨key, cs, d, hvalue⟩ := hpart
    have hcolon : ∀ cs, tokens (writeString key ++ ':' :: cs) = .text key :: .colon :: tokens cs :=
      fun cs => tokens_writeString key (':' :: cs)
    have hawaits := awaitsValue_value (.object done (.text key) :: frames)
    rw [commaSeparated_cons, List.append_assoc, List.append_assoc, List.cons_append, hcolon, run_cons,
      hstate, run_cons]
    by_cases hlast : parts = []
    · subst hlast
      cases hparts
      rw [if_pos rfl, List.nil_append]
      refine (hvalue.run_eq (ends_of_head (by simp) rest) hawaits).trans ?_
      have htokens : tokens ('\x7d' :: rest) = .endObject :: tokens rest := rfl
      rw [htokens, run_cons]
      simp [deliver, step]
    · rw [if_neg hlast, List.cons_append]
      refine (hvalue.run_eq (ends_of_head (by simp) _) hawaits).trans ?_
      have htokens : ∀ cs, tokens (',' :: cs) = .comma :: tokens cs := fun _ => rfl
      rw [htokens, run_cons]
      have hnext := @ih hlast rest _ _ _ (awaitsKey_afterObjectComma ((.text key, d) :: done) frames)
      rw [List.reverse_cons, List.append_assoc] at hnext
      exact hnext

theorem Writes.list {parts : List (List Char)} {drafts : List Draft}
    (h : List.Forall₂ Writes parts drafts) :
    Writes ('[' :: (commaSeparated parts ++ [']'])) (.list drafts .closed) := by
  refine ⟨fun {rest} _ state frames hstate => ?_⟩
  have htokens : tokens ('[' :: (commaSeparated parts ++ [']']) ++ rest) =
      .beginList :: tokens (commaSeparated parts ++ ']' :: rest) := by
    rw [List.cons_append, List.append_assoc]
    rfl
  rw [htokens, run_cons, hstate _ (by simp)]
  -- a list may end where its first item may start, but not after a comma
  by_cases hparts : parts = []
  · subst hparts
    cases h
    rfl
  · exact run_items h hparts (awaitsValue_listStart frames)

theorem Writes.object {parts : List (List Char)} {members : List (Key × Draft)}
    (h : List.Forall₂ WritesMember parts members) :
    Writes ('\x7b' :: (commaSeparated parts ++ ['\x7d'])) (.object members .closed) := by
  refine ⟨fun {rest} _ state frames hstate => ?_⟩
  have htokens : tokens ('\x7b' :: (commaSeparated parts ++ ['\x7d']) ++ rest) =
      .beginObject :: tokens (commaSeparated parts ++ '\x7d' :: rest) := by
    rw [List.cons_append, List.append_assoc]
    rfl
  rw [htokens, run_cons, hstate _ (by simp)]
  by_cases hparts : parts = []
  · subst hparts
    cases h
    rfl
  · exact run_members h hparts (awaitsKey_objectStart frames)

/-- A whole text is read as the draft, with nothing left over. -/
theorem Writes.ofText {cs : List Char} {d : Draft} (h : Writes cs d) :
    Draft.ofText (String.ofList cs) = (d, false) := by
  have hrun := h.run_eq ends_nil (awaitsValue_value [])
  rw [List.append_nil] at hrun
  rw [Draft.ofText, String.toList_ofList, hrun]
  rfl

/-! ## Values -/

namespace Value

theorem writeItems_eq_map (items : List Value) : writeItems items = items.map write := by
  induction items with
  | nil => rfl
  | cons v items ih => rw [writeItems, ih, List.map_cons]

theorem writeMembers_eq_map (members : Members) :
    writeMembers members = members.map fun m => writeString m.1 ++ ':' :: m.2.write := by
  induction members with
  | nil => rfl
  | cons m members ih => rw [writeMembers, ih, List.map_cons]

theorem draftItems_eq_map (items : List Value) : draftItems items = items.map draft := by
  induction items with
  | nil => rfl
  | cons v items ih => rw [draftItems, ih, List.map_cons]

theorem draftMembers_eq_map (members : Members) :
    draftMembers members = members.map fun m => (.text m.1, m.2.draft) := by
  induction members with
  | nil => rfl
  | cons m members ih => rw [draftMembers, ih, List.map_cons]

/-- The text of a value has the effect of its draft. -/
theorem writes (v : Value) : Writes v.write v.draft := by
  induction v using partInduction with
  | step v ih =>
    cases v with
    | null => exact writes_null
    | bool b =>
      cases b
      · exact .of_token (fun _ _ => rfl) (by simp) fun _ => rfl
      · exact .of_token (fun _ _ => rfl) (by simp) fun _ => rfl
    | number n =>
      refine .of_token (fun _ hrest => tokens_write_number n hrest) (by simp) fun frames => ?_
      have hnumber := n.number_numeral
      rw [draft]
      cases hn : n.numeral with
      | integer | decimal => rfl
      | broken =>
        rw [hn] at hnumber
        cases hnumber
    | string s => exact writes_string s
    | array items =>
      rw [write, draft, writeItems_eq_map, draftItems_eq_map]
      apply Writes.list
      rw [List.forall₂_map_left_iff, List.forall₂_map_right_iff]
      exact List.forall₂_same.2 ih
    | object members =>
      rw [write, draft, writeMembers_eq_map, draftMembers_eq_map]
      apply Writes.object
      rw [List.forall₂_map_left_iff, List.forall₂_map_right_iff]
      exact List.forall₂_same.2 fun m hm => .intro m.1 (ih m.2 (List.mem_map_of_mem hm))

/-- The text of a value is read as its written form, with nothing left over. -/
theorem ofText_text (v : Value) : Draft.ofText v.text = (v.draft, false) := v.writes.ofText

end Value

/-! ## Written forms -/

namespace Value

theorem keepMembers_draftMembers {room : ℕ} {members : Members}
    (h : ∀ m ∈ members, m.2.draft.keep room = .ok m.2) : ∀ {sofar : Members},
      ((sofar ++ members).map Prod.fst).Nodup →
        Draft.keepMembers room sofar (draftMembers members) = .ok (sofar ++ members) := by
  induction members with
  | nil => exact fun {sofar} _ => congrArg Except.ok (List.append_nil sofar).symm
  | cons m members ih =>
    obtain ⟨key, v⟩ := m
    intro sofar hnodup
    obtain ⟨hv, hmembers⟩ := List.forall_mem_cons.1 h
    have hfresh : key ∉ sofar.map Prod.fst := fun hkey => by
      rw [List.map_append, List.nodup_append] at hnodup
      exact hnodup.2.2 key hkey key (List.mem_cons_self ..) rfl
    rw [draftMembers, Draft.keepMembers, hv]
    refine Eq.trans (b := Draft.keepMembers room (sofar.set key v) (draftMembers members)) rfl ?_
    rw [List.append_cons] at hnodup ⊢
    rw [set_of_notMem hfresh, ih hmembers hnodup]

/-- A written form is kept as the value, if it is not too deep and repeats no name. -/
theorem Fits.keep_draft {room : ℕ} {v : Value} (h : v.Fits room) : v.draft.keep room = .ok v := by
  induction h with
  | null | bool | string => rfl
  | number n => rw [draft, Draft.keep, n.number_numeral]; rfl
  | @array room items _ ih =>
    have hitems : Draft.keepItems room (draftItems items) = .ok items := by
      rw [Draft.keepItems_eq_mapM, draftItems_eq_map, mapM_eq_ok, List.forall₂_map_left_iff]
      exact List.forall₂_same.2 ih
    rw [draft, Draft.keep, hitems]
    rfl
  | @object room members hnodup _ ih =>
    have hmembers := @keepMembers_draftMembers _ _ ih [] hnodup
    rw [draft, Draft.keep, hmembers]
    rfl

/-- The written forms of a value and of the same value in order are drafts of the same value. -/
theorem Fits.alike_draft_ordered {room : ℕ} {v : Value} (h : v.Fits room) :
    v.draft.Alike v.ordered.draft := by
  induction h with
  | null | bool | string | number => exact .refl _
  | @array room items _ ih =>
    rw [ordered_array, draft, draft, draftItems_eq_map, draftItems_eq_map]
    refine .list_of_forall₂ ?_ _
    rw [List.map_map, List.forall₂_map_left_iff, List.forall₂_map_right_iff]
    exact List.forall₂_same.2 ih
  | @object room members hnodup _ ih =>
    rw [ordered_object, draft, draft, Members.ordered, orderedMembers_eq_map, orderMembers_map,
      draftMembers_eq_map, draftMembers_eq_map, List.map_map]
    have hapart : (members.map fun m => ((.text m.1 : Key), m.2.draft)).Pairwise Apart := by
      rw [List.pairwise_map]
      refine (List.pairwise_map.1 hnodup).imp ?_
      rintro m n hmn _ ⟨⟩ heq
      exact hmn (Key.text.inj heq).symm
    have hperm := (orderMembers_perm members).symm
    refine .object_of_forall₂ (.inr ⟨hapart, hperm.map _⟩) ?_ _
    rw [List.forall₂_map_left_iff, List.forall₂_map_right_iff]
    exact List.forall₂_same.2 fun m hm => ⟨rfl, ih m (hperm.mem_iff.2 hm)⟩

end Value

end ContractInterface.Json
