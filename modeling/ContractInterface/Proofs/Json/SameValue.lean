/-
Texts of the same JSON value. For texts without repeated names it is enough that they are parsed as
values that are the same but for the order of members (`sameValue_of_parse`); texts need not be parsed
as a whole, though, to be texts of the same value.
-/
import ContractInterface.Proofs.Json.Alike

namespace ContractInterface.Json

namespace Draft

/-! ## Drafts without repeated names -/

theorem skippedFault?_of_number {n : Numeral} {k : Number} (h : n.number = .ok k) :
    n.skippedFault? = none := by
  cases n with
  | integer | decimal => rfl
  | broken => cases h

/-- A draft in which no name is repeated in an object, at any depth. -/
inductive Distinct : Draft → Prop
  | missing (gap : Gap) : Distinct (.missing gap)
  | word (w : Word) : Distinct (.word w)
  | badWord (w : Word) (f : Fault) : Distinct (.badWord w f)
  | numeral (n : Numeral) : Distinct (.numeral n)
  | text (s : String) : Distinct (.text s)
  | badText (kept : Fault) (skipped : Option Fault) : Distinct (.badText kept skipped)
  | list {ds : List Draft} {closing : Closing} : (∀ d ∈ ds, Distinct d) → Distinct (.list ds closing)
  | object {ms : List (Key × Draft)} {closing : Closing} : ms.Pairwise Apart →
      (∀ m ∈ ms, Distinct m.2) → Distinct (.object ms closing)

/-- What a draft without repeated names is kept as, read off its form. -/
inductive Kept : Nat → Draft → Value → Prop
  | null {room : Nat} : Kept room (.word .null) .null
  | bool {room : Nat} (b : Bool) : Kept room (.word (.bool b)) (.bool b)
  | numeral {room : Nat} {n : Numeral} {k : Number} : n.number = .ok k →
      Kept room (.numeral n) (.number k)
  | text {room : Nat} (s : String) : Kept room (.text s) (.string s)
  | list {room : Nat} {ds : List Draft} {vs : List Value} :
      List.Forall₂ (fun d v => d.keep room = .ok v) ds vs →
      Kept (room + 1) (.list ds .closed) (.array vs)
  | object {room : Nat} {ms : List (Key × Draft)} {members : Members} :
      List.Forall₂ (fun m x => m.1 = .text x.1 ∧ m.2.keep room = .ok x.2) ms members →
      Kept (room + 1) (.object ms .closed) (.object members)

theorem throwIf?_listFault {closing : Closing} {u : Unit}
    (h : throwIf? closing.listFault? = .ok u) : closing = .closed := by
  cases closing with
  | closed => rfl
  | endOfText | noComma | trailingComma | endAfterComma => cases h

theorem throwIf?_objectFault {closing : Closing} {u : Unit}
    (h : throwIf? closing.objectFault? = .ok u) : closing = .closed := by
  cases closing with
  | closed => rfl
  | endOfText | noComma | trailingComma | endAfterComma => cases h

/-- Members of different names are kept one after the other. -/
theorem keepMembers_of_apart {room : Nat} {ms : List (Key × Draft)} :
    ∀ {sofar all : Members}, ms.Pairwise Apart →
      (∀ m ∈ ms, ∀ name, m.1 = .text name → name ∉ sofar.map Prod.fst) →
      keepMembers room sofar ms = .ok all →
      ∃ members, all = sofar ++ members ∧
        List.Forall₂ (fun m x => m.1 = .text x.1 ∧ m.2.keep room = .ok x.2) ms members := by
  induction ms with
  | nil => rintro sofar _ - - ⟨⟩; exact ⟨[], (List.append_nil _).symm, .nil⟩
  | cons m ms ih =>
    intro sofar all hapart hfresh h
    rw [keepMembers_eq_foldlM, List.foldlM_cons] at h
    obtain ⟨next, hnext, h⟩ := bind_eq_ok.1 h
    obtain ⟨name, v, hm, hv, rfl⟩ := keepMember_eq_ok.1 hnext
    rw [← keepMembers_eq_foldlM, Value.set_of_notMem (hfresh m (List.mem_cons_self ..) name hm)] at h
    obtain ⟨hfirst, hrest⟩ := List.pairwise_cons.1 hapart
    have hlater : ∀ n ∈ ms, ∀ other, n.1 = .text other →
        other ∉ (sofar ++ [(name, v)]).map Prod.fst := fun n hn other hother hmem => by
      rw [List.map_append, List.mem_append] at hmem
      rcases hmem with hmem | hmem
      · exact hfresh n (List.mem_cons_of_mem _ hn) other hother hmem
      · rw [List.map_singleton, List.mem_singleton] at hmem
        exact hfirst n hn name hm (hother.trans (congrArg _ hmem))
    obtain ⟨members, rfl, hmembers⟩ := ih hrest hlater h
    exact ⟨(name, v) :: members, by simp, .cons ⟨hm, hv⟩ hmembers⟩

theorem Distinct.kept {d : Draft} (hd : d.Distinct) {room : Nat} {v : Value}
    (h : d.keep room = .ok v) : d.Kept room v := by
  cases hd with
  | missing | badWord | badText => cases h
  | word w =>
    cases w with
    | null => cases h; exact .null
    | bool b => cases h; exact .bool b
  | numeral n =>
    obtain ⟨k, hk, rfl⟩ := map_eq_ok.1 h
    exact .numeral hk
  | text s => cases h; exact .text s
  | list _ =>
    cases room with
    | zero => cases h
    | succ room =>
      obtain ⟨vs, hvs, h⟩ := bind_eq_ok.1 h
      obtain ⟨_, hclosing, ⟨⟩⟩ := bind_eq_ok.1 h
      rw [throwIf?_listFault hclosing]
      exact .list (mapM_eq_ok.1 (keepItems_eq_mapM room _ ▸ hvs))
  | object hapart _ =>
    cases room with
    | zero => cases h
    | succ room =>
      obtain ⟨members, hmembers, h⟩ := bind_eq_ok.1 h
      obtain ⟨_, hclosing, ⟨⟩⟩ := bind_eq_ok.1 h
      rw [throwIf?_objectFault hclosing]
      obtain ⟨_, rfl, hmembers⟩ := keepMembers_of_apart hapart (fun _ _ _ _ => by simp) hmembers
      exact .object hmembers

/-- Two lists with values in places that correspond are related as their values are. -/
theorem forall₂_of_values {α β γ δ : Type} {K : α → γ → Prop} {L : β → δ → Prop} {A : γ → δ → Prop}
    {Q : α → β → Prop} (h : ∀ a b x y, K a x → L b y → A x y → Q a b) {as : List α} {bs : List β}
    {xs : List γ} {ys : List δ} (hK : List.Forall₂ K as xs) (hL : List.Forall₂ L bs ys)
    (hA : List.Forall₂ A xs ys) : List.Forall₂ Q as bs := by
  have hleft : List.Forall₂ (fun a y => ∃ x, K a x ∧ A x y) as ys :=
    forall₂_of_forall₂ (R := flip K) (P := A) (fun x a y hK hA => ⟨x, hK, hA⟩) hK.flip hA
  refine forall₂_of_forall₂ (R := flip fun a y => ∃ x, K a x ∧ A x y) (P := flip L) ?_ hleft.flip
    hL.flip
  rintro y a b ⟨x, hK, hA⟩ hL
  exact h a b x y hK hL hA

/-- Members that come to the same in order can be put in one order. -/
theorem exists_perm_of_ordered_eq {members others : Members} (h : members.ordered = others.ordered) :
    ∃ others', others.Perm others' ∧
      List.Forall₂ (fun x y => x.1 = y.1 ∧ x.2.Alike y.2) members others' := by
  have hperm : (members.map fun x => (x.1, x.2.ordered)).Perm
      (others.map fun x => (x.1, x.2.ordered)) := by
    rw [← Value.orderedMembers_eq_map, ← Value.orderedMembers_eq_map]
    have hothers : members.ordered.Perm (Value.orderedMembers others) :=
      h ▸ Value.orderMembers_perm _
    exact (Value.orderMembers_perm _).symm.trans hothers
  have hcomp := List.eq_map_comp_perm (fun x : String × Value => (x.1, x.2.ordered))
  obtain ⟨others', hmap, hothers⟩ := (congrFun (congrFun hcomp _) _).mpr hperm
  refine ⟨others', hothers.symm, ?_⟩
  rw [← List.forall₂_eq_eq_eq, List.forall₂_map_left_iff, List.forall₂_map_right_iff] at hmap
  exact hmap.imp fun x y hxy => Prod.mk.inj hxy

/-- What corresponds to a list in another order. -/
theorem exists_perm_of_forall₂ {α β : Type} {R : α → β → Prop} {xs : List α} {ys ys' : List β}
    (h : List.Forall₂ R xs ys) (hys : ys.Perm ys') : ∃ xs', xs.Perm xs' ∧ List.Forall₂ R xs' ys' := by
  have hpair : Relation.Comp (List.Forall₂ R) List.Perm xs ys' := ⟨ys, h, hys⟩
  rwa [List.forall₂_comp_perm_eq_perm_comp_forall₂] at hpair

/-- Drafts without repeated names that are kept as the same value, up to the order of members, are
drafts of the same value. -/
theorem Distinct.alike {d : Draft} (hd : d.Distinct) : ∀ {e : Draft}, e.Distinct →
    ∀ {room room' : Nat} {v w : Value}, d.keep room = .ok v → e.keep room' = .ok w → v.Alike w →
      d.Alike e := by
  induction hd with
  | missing | badWord | badText =>
    intro e he room room' v w hv
    cases hv
  | word u =>
    intro e he room room' v w hv hw hvw
    have hd := (Distinct.word u).kept hv
    cases he.kept hw <;> cases hd <;> cases hvw
    · exact .refl _
    · exact .refl _
  | text s =>
    intro e he room room' v w hv hw hvw
    have hd := (Distinct.text s).kept hv
    cases he.kept hw <;> cases hd <;> cases hvw
    exact .refl _
  | numeral m =>
    intro e he room room' v w hv hw hvw
    have hd := (Distinct.numeral m).kept hv
    cases he.kept hw with
    | numeral hk =>
      cases hd with
      | numeral hk' =>
        cases hvw
        exact .numeral (hk'.trans hk.symm)
          ((skippedFault?_of_number hk').trans (skippedFault?_of_number hk).symm)
    | null | bool | text | list | object =>
      cases hd
      cases hvw
  | @list ds closing hds ih =>
    intro e he room room' v w hv hw hvw
    cases (Distinct.list hds).kept hv with
    | list hvs =>
      cases he.kept hw with
      | list hws =>
        cases he with
        | list hes =>
          have hitems := hvw
          rw [Value.Alike, Value.ordered_array, Value.ordered_array, Value.array.injEq,
            ← List.forall₂_eq_eq_eq, List.forall₂_map_left_iff, List.forall₂_map_right_iff] at hitems
          refine Alike.list_of_forall₂ (forall₂_of_values ?_ ((List.forall₂_and_left ..).2 ⟨ih, hvs⟩)
            ((List.forall₂_and_left ..).2 ⟨hes, hws⟩) hitems) _
          rintro d e v w ⟨ih, hv⟩ ⟨he, hw⟩ hvw
          exact ih he hv hw hvw
      | null | bool | numeral | text | object => cases hvw
  | @object ms closing hapart hms ih =>
    intro e he room room' v w hv hw hvw
    cases (Distinct.object hapart hms).kept hv with
    | @object room _ members hmembers =>
      cases he.kept hw with
      | @object room' ns others hothers =>
        cases he with
        | object hapart' hns =>
          -- the members on the right are put in the order of those on the left
          obtain ⟨others', hperm, hvalues⟩ := exists_perm_of_ordered_eq (Value.object.inj hvw)
          obtain ⟨ns', hns', hothers⟩ := exists_perm_of_forall₂ hothers hperm
          have hdistinct : ∀ n ∈ ns', Distinct n.2 := fun n hn => hns n (hns'.mem_iff.2 hn)
          refine (Alike.object_of_forall₂ (.inr ⟨hapart', hns'⟩) ?_ _).symm
          refine (forall₂_of_values (Q := fun m n => AlikeMember n m) ?_
            ((List.forall₂_and_left ..).2 ⟨ih, hmembers⟩)
            ((List.forall₂_and_left ..).2 ⟨hdistinct, hothers⟩) hvalues).flip
          rintro m n x y ⟨ih, hmx, hm⟩ ⟨hn, hny, hn'⟩ ⟨hkey, hvalue⟩
          exact ⟨hny.trans ((congrArg _ hkey.symm).trans hmx.symm), (ih hn hm hn' hvalue).symm⟩
      | null | bool | numeral | text | list => cases hvw

end Draft

/-! ## Texts -/

/-- Texts of the same JSON value: they may differ in blanks, in the spelling of strings and numbers
and, where no name is repeated, in the order of members. -/
structure SameValue (t u : String) : Prop where
  draft : (Draft.ofText t).1.Alike (Draft.ofText u).1
  surplus : (Draft.ofText t).2 = (Draft.ofText u).2

theorem SameValue.symm {t u : String} (h : SameValue t u) : SameValue u t :=
  ⟨h.draft.symm, h.surplus.symm⟩

/-- Texts without repeated names are texts of the same value if they are parsed as values that are the
same but for the order of members. -/
theorem sameValue_of_parse {t u : String} {v w : Value} (ht : (Draft.ofText t).1.Distinct)
    (hu : (Draft.ofText u).1.Distinct) (hv : Value.parse t = .ok v) (hw : Value.parse u = .ok w)
    (h : v.Alike w) : SameValue t u := by
  have hparse : ∀ {s : String} {x : Value}, Value.parse s = .ok x →
      (Draft.ofText s).1.keep Draft.depthLimit = .ok x ∧ (Draft.ofText s).2 = false := by
    intro s x hx
    unfold Value.parse at hx
    generalize Draft.ofText s = r at hx ⊢
    obtain ⟨d, surplus⟩ := r
    obtain ⟨y, hy, hx⟩ := bind_eq_ok.1 hx
    cases surplus with
    | true => cases hx
    | false =>
      cases hx
      exact ⟨hy, rfl⟩
  obtain ⟨hkeep, hsurplus⟩ := hparse hv
  obtain ⟨hkeep', hsurplus'⟩ := hparse hw
  exact ⟨ht.alike hu hkeep hkeep' h, hsurplus.trans hsurplus'.symm⟩

end ContractInterface.Json
