/-
Drafts of the same value. They may spell a number in two ways, and where no name is repeated the
members of an object may stand in another order; blanks are no part of a draft. What is kept of one
such draft is kept of the other, up to the order of members (`Draft.Alike.keep`), and what may be
skipped may be skipped (`Draft.Alike.skippedFault?`).
-/
import ContractInterface.Json.Reading
import ContractInterface.Proofs.Json.Order
import ContractInterface.Proofs.Outcomes
import Mathlib.Data.List.Perm.Basic

namespace ContractInterface.Json

/-! ## Drafts of the same value -/

/-- Members whose names are not the same text. -/
def Apart (m n : Key × Draft) : Prop := ∀ name, m.1 = .text name → n.1 ≠ .text name

theorem Apart.symm {m n : Key × Draft} (h : Apart m n) : Apart n m :=
  fun name hn hm => h name hm hn

/-- The same members; in another order only if no name is repeated. -/
def Shuffled (ms ns : List (Key × Draft)) : Prop := ms = ns ∨ ms.Pairwise Apart ∧ ms.Perm ns

theorem Shuffled.perm {ms ns : List (Key × Draft)} (h : Shuffled ms ns) : ms.Perm ns := by
  rcases h with rfl | ⟨-, h⟩
  · exact .refl _
  · exact h

namespace Draft

/-- Drafts of the same value. Names are compared as they are read, so that a name that is written
twice in different ways is a repeated one. -/
inductive Alike : Draft → Draft → Prop
  | refl (d : Draft) : Alike d d
  | numeral {m n : Numeral} : m.number = n.number → m.skippedFault? = n.skippedFault? →
      Alike (.numeral m) (.numeral n)
  | list {ds es : List Draft} {closing : Closing} : ds.length = es.length →
      (∀ p ∈ ds.zip es, Alike p.1 p.2) → Alike (.list ds closing) (.list es closing)
  | object {ms ms' ns : List (Key × Draft)} {closing : Closing} : Shuffled ms ms' →
      ms'.map Prod.fst = ns.map Prod.fst → (∀ p ∈ ms'.zip ns, Alike p.1.2 p.2.2) →
      Alike (.object ms closing) (.object ns closing)

/-- Members of one name with drafts of the same value. -/
structure AlikeMember (m n : Key × Draft) : Prop where
  key : m.1 = n.1
  draft : m.2.Alike n.2

theorem AlikeMember.refl (m : Key × Draft) : AlikeMember m m := ⟨rfl, .refl _⟩

namespace Alike

theorem list_of_forall₂ {ds es : List Draft} (h : List.Forall₂ Alike ds es) (closing : Closing) :
    Alike (.list ds closing) (.list es closing) :=
  .list h.length_eq fun _ hp => List.forall₂_zip h hp

theorem object_of_forall₂ {ms ms' ns : List (Key × Draft)} (hms : Shuffled ms ms')
    (h : List.Forall₂ AlikeMember ms' ns) (closing : Closing) :
    Alike (.object ms closing) (.object ns closing) := by
  refine .object hms ?_ fun p hp => (List.forall₂_zip h hp).draft
  have hkeys : List.Forall₂ (fun m n => Prod.fst m = Prod.fst n) ms' ns := h.imp fun _ _ h => h.key
  rwa [← List.forall₂_eq_eq_eq, List.forall₂_map_left_iff, List.forall₂_map_right_iff]

theorem pairwise_apart_of_forall₂ {ms ns : List (Key × Draft)} (h : ms.Pairwise Apart)
    (hkeys : ms.map Prod.fst = ns.map Prod.fst) : ns.Pairwise Apart := by
  let differ (k l : Key) : Prop := ∀ name, k = .text name → l ≠ .text name
  have hms : (ms.map Prod.fst).Pairwise differ := List.pairwise_map.2 h
  rw [hkeys] at hms
  exact (List.pairwise_map (R := differ)).1 hms

theorem symm {d e : Draft} (h : Alike d e) : Alike e d := by
  induction h with
  | refl d => exact .refl d
  | numeral hnumber hskipped => exact .numeral hnumber.symm hskipped.symm
  | list hlength _ ih =>
    exact list_of_forall₂ (forall₂_of_zip (P := fun d e => Alike e d) hlength ih).flip _
  | @object ms ms' ns closing hms hkeys _ ih =>
    have hmembers : List.Forall₂ (fun n m => AlikeMember n m) ns ms' :=
      ((forall₂_of_keys (P := fun _ d e => Alike e d) hkeys ih).imp
        fun m n h => (⟨h.1.symm, h.2⟩ : AlikeMember n m)).flip
    rcases hms with rfl | ⟨hapart, hperm⟩
    · exact object_of_forall₂ (.inl rfl) hmembers closing
    · -- the order of the left members is taken to the right ones
      have hcomp : Relation.Comp (List.Forall₂ AlikeMember) List.Perm ns ms :=
        ⟨ms', hmembers, hperm.symm⟩
      rw [List.forall₂_comp_perm_eq_perm_comp_forall₂] at hcomp
      obtain ⟨ns', hns, hmembers⟩ := hcomp
      have hapart' : ms'.Pairwise Apart := hapart.perm hperm .symm
      exact object_of_forall₂ (.inr ⟨pairwise_apart_of_forall₂ hapart' hkeys, hns⟩) hmembers closing

/-! ### Parts -/

theorem text {s : String} {e : Draft} (h : Alike (.text s) e) : e = .text s := by
  cases h
  rfl

theorem list_left {ds : List Draft} {closing : Closing} {e : Draft} (h : Alike (.list ds closing) e) :
    ∃ es, e = .list es closing ∧ List.Forall₂ Alike ds es := by
  cases h with
  | refl => exact ⟨ds, rfl, List.forall₂_same.2 fun d _ => .refl d⟩
  | list hlength h => exact ⟨_, rfl, forall₂_of_zip hlength h⟩

theorem object_left {ms : List (Key × Draft)} {closing : Closing} {e : Draft}
    (h : Alike (.object ms closing) e) :
    ∃ ms' ns, e = .object ns closing ∧ Shuffled ms ms' ∧ List.Forall₂ AlikeMember ms' ns := by
  cases h with
  | refl => exact ⟨ms, ms, rfl, .inl rfl, List.forall₂_same.2 fun m _ => .refl m⟩
  | object hms hkeys h =>
    exact ⟨_, _, rfl, hms, (forall₂_of_keys (P := fun _ => Alike) hkeys h).imp
      fun m n h => ⟨h.1, h.2⟩⟩

/-! ## Skipped values -/

private theorem orElse_eq_none {α : Type} {a b : Option α} :
    (a <|> b) = none ↔ a = none ∧ b = none := by
  cases a with
  | none => simp
  | some _ => simp

theorem skippedItemsFault?_eq_none {ds : List Draft} :
    skippedItemsFault? ds = none ↔ ∀ d ∈ ds, d.skippedFault? = none := by
  induction ds with
  | nil => simp [skippedItemsFault?]
  | cons d ds ih =>
    rw [skippedItemsFault?, List.forall_mem_cons, ← ih]
    exact orElse_eq_none

theorem skippedMembersFault?_eq_none {ms : List (Key × Draft)} :
    skippedMembersFault? ms = none ↔
      ∀ m ∈ ms, m.1.skippedFault? = none ∧ m.2.skippedFault? = none := by
  induction ms with
  | nil => simp [skippedMembersFault?]
  | cons m ms ih =>
    rw [skippedMembersFault?, List.forall_mem_cons, ← ih, and_assoc]
    refine orElse_eq_none.trans (and_congr_right' orElse_eq_none)

/-- What may be skipped in one form may be skipped in the other. -/
theorem skippedFault? {d e : Draft} (h : Alike d e) (hd : d.skippedFault? = none) :
    e.skippedFault? = none := by
  induction h with
  | refl => exact hd
  | numeral _ hskipped => exact hskipped.symm.trans hd
  | list hlength _ ih =>
    obtain ⟨hitems, hclosing⟩ := orElse_eq_none.1 hd
    refine orElse_eq_none.2 ⟨skippedItemsFault?_eq_none.2 fun e he => ?_, hclosing⟩
    have hrel := forall₂_of_zip (P := fun d e => d.skippedFault? = none → e.skippedFault? = none)
      hlength ih
    obtain ⟨d, hd, hde⟩ := exists_mem_of_forall₂ hrel.flip e he
    exact hde (skippedItemsFault?_eq_none.1 hitems d hd)
  | object hms hkeys _ ih =>
    obtain ⟨hmembers, hclosing⟩ := orElse_eq_none.1 hd
    refine orElse_eq_none.2 ⟨skippedMembersFault?_eq_none.2 fun n hn => ?_, hclosing⟩
    have hrel := forall₂_of_keys
      (P := fun _ d e => d.skippedFault? = none → e.skippedFault? = none) hkeys ih
    obtain ⟨m, hm, hkey, hmn⟩ := exists_mem_of_forall₂ hrel.flip n hn
    obtain ⟨hname, hdraft⟩ := skippedMembersFault?_eq_none.1 hmembers m (hms.perm.mem_iff.2 hm)
    exact ⟨hkey ▸ hname, hmn hdraft⟩

end Alike

/-! ## Loops over members -/

/-- A loop over the members of drafts of the same value, if the steps of any two members of different
names may change places. -/
theorem follows_foldlM {ε σ : Type} {S : σ → σ → Prop} {P : Draft → Draft → Prop}
    {step : σ → Key × Draft → Except ε σ} (hS : Equivalence S) (hP : ∀ d, P d d)
    (hstep : ∀ {s t m n}, S s t → m.1 = n.1 ∧ P m.2 n.2 → Follows S (step s m) (step t n))
    (hswap : ∀ s {m n}, Apart m n → Follows S (step s m >>= (step · n)) (step s n >>= (step · m)))
    {ms ms' ns : List (Key × Draft)} (hms : Shuffled ms ms')
    (h : List.Forall₂ (fun m n => m.1 = n.1 ∧ P m.2 n.2) ms' ns) {s t : σ} (hst : S s t) :
    Follows S (ms.foldlM step s) (ns.foldlM step t) := by
  have hone : ∀ s t m, S s t → Follows S (step s m) (step t m) := fun s t m hst =>
    hstep hst ⟨rfl, hP m.2⟩
  have htwo : ∀ s t m n, S s t → m.1 = n.1 ∧ P m.2 n.2 → Follows S (step s m) (step t n) :=
    fun s t m n => hstep
  intro s₁ h₁
  obtain ⟨s₂, h₂, h₁₂⟩ : ∃ s₂, ms'.foldlM step s = .ok s₂ ∧ S s₁ s₂ := by
    rcases hms with rfl | ⟨hapart, hperm⟩
    · exact ⟨s₁, h₁, hS.refl s₁⟩
    · exact Follows.foldlM_of_perm hS hone
        (fun s m n => hswap s) (fun _ _ => Apart.symm) hperm hapart (hS.refl s) s₁ h₁
  obtain ⟨s₃, h₃, h₂₃⟩ := Follows.foldlM_of_forall₂ htwo h hst s₂ h₂
  exact ⟨s₃, h₃, hS.trans h₁₂ h₂₃⟩

/-! ## Kept values -/

theorem keepItems_eq_mapM (room : Nat) (ds : List Draft) : keepItems room ds = ds.mapM (keep room) := by
  induction ds with
  | nil => rfl
  | cons d ds ih =>
    rw [List.mapM_cons, keepItems, ih]

/-- Sets the value of one member. -/
def keepMember (room : Nat) (sofar : Members) (m : Key × Draft) : Except Fault Members := do
  let name ← m.1.kept
  let v ← m.2.keep room
  return sofar.set name v

theorem keepMembers_eq_foldlM (room : Nat) (sofar : Members) (ms : List (Key × Draft)) :
    keepMembers room sofar ms = ms.foldlM (keepMember room) sofar := by
  induction ms generalizing sofar with
  | nil => rfl
  | cons m ms ih =>
    rw [List.foldlM_cons, keepMembers, keepMember]
    simp only [ih, bind_assoc, pure_bind]

theorem keepMember_eq_ok {room : Nat} {sofar all : Members} {m : Key × Draft} :
    keepMember room sofar m = .ok all ↔
      ∃ name v, m.1 = .text name ∧ m.2.keep room = .ok v ∧ all = sofar.set name v := by
  obtain ⟨key, d⟩ := m
  simp only [keepMember, bind_eq_ok]
  cases key with
  | text s =>
    constructor
    · rintro ⟨_, ⟨⟩, v, hv, ⟨⟩⟩
      exact ⟨s, v, rfl, hv, rfl⟩
    · rintro ⟨name, v, hname, hv, rfl⟩
      cases hname
      exact ⟨_, rfl, v, hv, rfl⟩
  | badText | notText => simp [Key.kept]

end Draft

/-- Values that are the same but for the order of members. -/
def Value.Alike (v w : Value) : Prop := v.ordered = w.ordered

theorem Value.Alike.refl (v : Value) : v.Alike v := Eq.refl v.ordered

/-- Members that are the same but for their order, and so at any depth. -/
def Members.Alike (a b : Members) : Prop := a.ordered = b.ordered

theorem Members.alike_equivalence : Equivalence Alike := ⟨fun _ => rfl, Eq.symm, Eq.trans⟩

namespace Draft

theorem follows_keepMember {room : Nat} {a b : Members} {m n : Key × Draft} (hab : a.Alike b)
    (hmn : m.1 = n.1 ∧ Follows Value.Alike (m.2.keep room) (n.2.keep room)) :
    Follows Members.Alike (keepMember room a m) (keepMember room b n) := by
  unfold keepMember
  rw [hmn.1]
  refine (Follows.eq n.1.kept).bind fun name _ hname => ?_
  subst hname
  exact hmn.2.bind fun v w hvw => .ok (Members.ordered_set hab name hvw)

/-- Two members of different names may be kept in any order. -/
theorem follows_keepMember_swap {room : Nat} (sofar : Members) {m n : Key × Draft} (h : Apart m n) :
    Follows Members.Alike (keepMember room sofar m >>= (keepMember room · n))
      (keepMember room sofar n >>= (keepMember room · m)) := by
  intro all hall
  obtain ⟨next, hnext, hall⟩ := bind_eq_ok.1 hall
  obtain ⟨name, v, hm, hv, rfl⟩ := keepMember_eq_ok.1 hnext
  obtain ⟨other, w, hn, hw, rfl⟩ := keepMember_eq_ok.1 hall
  refine ⟨(sofar.set other w).set name v, bind_eq_ok.2 ⟨sofar.set other w, ?_, ?_⟩, ?_⟩
  · exact keepMember_eq_ok.2 ⟨other, w, hn, hw, rfl⟩
  · exact keepMember_eq_ok.2 ⟨name, v, hm, hv, rfl⟩
  · exact Members.ordered_set_set sofar (fun heq => h name hm (hn.trans (congrArg _ heq.symm))) v w

theorem follows_keepMembers {room : Nat} {ms ms' ns : List (Key × Draft)} (hms : Shuffled ms ms')
    (h : List.Forall₂ (fun m n => m.1 = n.1 ∧ Follows Value.Alike (m.2.keep room) (n.2.keep room))
      ms' ns) :
    Follows Members.Alike (keepMembers room [] ms) (keepMembers room [] ns) := by
  rw [keepMembers_eq_foldlM, keepMembers_eq_foldlM]
  exact follows_foldlM (P := fun d e => Follows Value.Alike (d.keep room) (e.keep room))
    Members.alike_equivalence (fun d => .refl Value.Alike.refl _) follows_keepMember
    follows_keepMember_swap hms h (Members.alike_equivalence.refl [])

/-- Drafts of the same value are kept as values that are the same but for the order of members. -/
theorem Alike.keep {d e : Draft} (h : Alike d e) :
    ∀ room, Follows Value.Alike (d.keep room) (e.keep room) := by
  induction h with
  | refl d => exact fun room => .refl Value.Alike.refl _
  | numeral hnumber _ =>
    intro room
    simp only [Draft.keep, hnumber]
    exact .refl Value.Alike.refl _
  | list hlength _ ih =>
    intro room
    cases room with
    | zero => exact .error _
    | succ room =>
      simp only [Draft.keep, keepItems_eq_mapM]
      have hitems := forall₂_of_zip
        (P := fun d e => ∀ room, Follows Value.Alike (d.keep room) (e.keep room)) hlength ih
      refine (Follows.mapM (fun d e hde => hde room) hitems).bind fun vs ws hvw => ?_
      refine (Follows.eq _).bind fun _ _ _ => .ok ?_
      have hmap : vs.map Value.ordered = ws.map Value.ordered := by
        rw [← List.forall₂_eq_eq_eq, List.forall₂_map_left_iff, List.forall₂_map_right_iff]
        exact hvw
      rw [Value.Alike, Value.ordered_array, Value.ordered_array, hmap]
  | object hms hkeys _ ih =>
    intro room
    cases room with
    | zero => exact .error _
    | succ room =>
      simp only [Draft.keep]
      -- members of one name may replace each other only if the order is the same on both sides
      have hmembers := forall₂_of_keys
        (P := fun _ d e => ∀ room, Follows Value.Alike (d.keep room) (e.keep room)) hkeys ih
      refine (follows_keepMembers hms (hmembers.imp fun m n h => ⟨h.1, h.2 room⟩)).bind
        fun a b hab => ?_
      refine (Follows.eq _).bind fun _ _ _ => .ok ?_
      exact congrArg Value.object hab

end Draft

end ContractInterface.Json
