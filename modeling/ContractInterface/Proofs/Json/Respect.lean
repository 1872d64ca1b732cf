/-
Decoders do not tell drafts of the same value apart: where such a decoder reads one draft, it reads
every other draft of that value with a related result. The combinators keep this. A record keeps it
if its fields have it and their updates do not depend on each other (`Record.Orderly`), whichever
order the members of an object stand in.
-/
import ContractInterface.Json.Record
import ContractInterface.Proofs.Json.Alike
import Mathlib.Data.List.Pairwise

namespace ContractInterface.Json

variable {α β γ τ : Type}

/-- Reads drafts of the same value with results of the same form. -/
def Decoder.Respects (form : α → γ) (decoder : Decoder α) : Prop :=
  ∀ site {d e : Draft}, d.Alike e →
    Follows (fun a b => form a = form b) (decoder site d) (decoder site e)

namespace Draft

theorem refuse_ne_ok (expected : Expected) (d : Draft) (a : α) : d.refuse expected ≠ .ok a := by
  intro h
  obtain ⟨_, -, h⟩ := bind_eq_ok.1 h
  cases h

theorem follows_refuse {ε : Type} {R : α → β → Prop} (expected : Expected) (d : Draft)
    (y : Except ε β) : Follows R (d.refuse expected) y :=
  fun a ha => absurd ha (refuse_ne_ok expected d a)

end Draft

/-! ## Faults among errors -/

theorem liftM_eq_ok {x : Except Fault α} {a : α} :
    (liftM x : Except DecodeError α) = .ok a ↔ x = .ok a := by
  cases x with
  | ok b =>
    constructor
    · rintro ⟨⟩
      rfl
    · rintro ⟨⟩
      rfl
  | error f => exact ⟨(nomatch ·), (nomatch ·)⟩

theorem follows_liftM {R : α → β → Prop} {x : Except Fault α} {y : Except Fault β}
    (h : Follows R x y) :
    Follows R (liftM x : Except DecodeError α) (liftM y : Except DecodeError β) := by
  intro a ha
  obtain ⟨b, hb, hab⟩ := h a (liftM_eq_ok.1 ha)
  exact ⟨b, liftM_eq_ok.2 hb, hab⟩

theorem throwIf?_eq_ok {fault : Option Fault} {u : Unit} : throwIf? fault = .ok u ↔ fault = none := by
  cases fault with
  | none => exact ⟨fun _ => rfl, fun _ => rfl⟩
  | some f => exact ⟨(nomatch ·), (nomatch ·)⟩

theorem Site.inside_eq_ok {site inner : Site} {isItem : Bool} :
    site.inside isItem = .ok inner ↔
      ∃ room, site.room = room + 1 ∧ inner = { site with room, isItem } := by
  unfold inside
  cases site.room with
  | zero => simp
  | succ room => simp [eq_comm]

namespace Decoder

/-! ## Scalars and values -/

theorem respects_text : text.Respects id := by
  intro site d e h
  cases h with
  | refl => exact .eq _
  | numeral | list | object => exact Draft.follows_refuse _ _ _

theorem respects_value : value.Respects Value.ordered :=
  fun site _ _ h => follows_liftM (h.keep site.room)

theorem respects_nullable {form : α → γ} {decoder : Decoder α} (h : decoder.Respects form) :
    decoder.nullable.Respects (Option.map form) := by
  intro site d e hde
  have hsome : Follows (fun a b => a.map form = b.map form) (some <$> decoder site d)
      (some <$> decoder site e) :=
    (h site hde).map fun _ _ => congrArg some
  cases hde with
  | refl =>
    unfold nullable
    split
    · exact .ok rfl
    · exact .error _
    · exact hsome
  | numeral | list | object => exact hsome

/-! ## Lists and tables -/

theorem respects_listOf {form : α → γ} {decoder : Decoder α} (h : decoder.Respects form) :
    decoder.listOf.Respects (List.map form) := by
  intro site d e hde
  cases d with
  | list ds closing =>
    obtain ⟨es, rfl, hitems⟩ := hde.list_left
    simp only [listOf]
    refine (follows_liftM (.eq _)).bind ?_
    rintro inner _ rfl
    refine (Follows.mapM (fun d e hde => h inner hde) hitems).bind fun as bs hab => ?_
    refine (follows_liftM (.eq _)).bind fun _ _ _ => .ok ?_
    rwa [← List.forall₂_eq_eq_eq, List.forall₂_map_left_iff, List.forall₂_map_right_iff]
  | missing | word | badWord | numeral | text | badText | object => exact Draft.follows_refuse _ _ _

theorem respects_table : table.Respects Members.ordered := by
  intro site d e hde
  cases d with
  | object ms closing =>
    obtain ⟨ms', ns, rfl, hms, hmembers⟩ := hde.object_left
    simp only [table]
    refine (follows_liftM (.eq _)).bind ?_
    rintro inner _ rfl
    have hkept := Draft.follows_keepMembers hms
      (hmembers.imp fun m n h => ⟨h.key, h.draft.keep inner.room⟩)
    refine (follows_liftM hkept).bind fun a b hab => ?_
    refine (follows_liftM (.eq _)).bind fun _ _ _ => .ok ?_
    rw [Members.ordered_orderMembers, Members.ordered_orderMembers]
    exact hab
  | missing | word | badWord | numeral | text | badText | list => exact Draft.follows_refuse _ _ _

/-! ## Alternatives -/

theorem respects_variantName (variants : List (String × τ)) :
    (variantName variants).Respects id := by
  intro site d e h
  cases h with
  | refl => exact .eq _
  | numeral | list | object => exact Draft.follows_refuse _ _ _

theorem variant_object_eq_ok {variants : List (String × τ)} {site : Site}
    {ms : List (Key × Draft)} {closing : Closing} {a : τ}
    (h : variant variants site (.object ms closing) = .ok a) :
    ∃ key, ms = [(key, .word .null)] := by
  obtain ⟨inner, -, h⟩ := bind_eq_ok.1 h
  rcases ms with _ | ⟨⟨key, d⟩, rest⟩
  · cases h
  obtain ⟨a, -, h⟩ := bind_eq_ok.1 h
  obtain ⟨_, hd, h⟩ := bind_eq_ok.1 h
  have hword : d = .word .null := by
    unfold unit at hd
    split at hd
    · rfl
    · exact absurd hd (Draft.refuse_ne_ok _ _ _)
  cases rest with
  | nil => exact ⟨key, by rw [hword]⟩
  | cons => cases h

theorem respects_variant (variants : List (String × τ)) : (variant variants).Respects id := by
  intro site d e hde
  cases d with
  | object ms closing =>
    intro a ha
    obtain ⟨key, rfl⟩ := variant_object_eq_ok ha
    obtain ⟨ms', ns, rfl, hms, hmembers⟩ := hde.object_left
    obtain rfl := List.singleton_perm.1 hms.perm
    obtain ⟨n, rest, hn, hrest, rfl⟩ := List.forall₂_cons_left_iff.1 hmembers
    obtain rfl := List.forall₂_nil_left_iff.1 hrest
    obtain ⟨name, d⟩ := n
    obtain ⟨rfl, hd⟩ := hn
    cases hd
    exact ⟨a, ha, rfl⟩
  | text =>
    rw [hde.text]
    exact .eq _
  | missing | word | badWord | numeral | badText | list => exact .error _

end Decoder

/-! ## Records -/

namespace Field

/-- Updates of the two fields may change places. -/
def Commutes (f g : Field α) : Prop :=
  ∀ site site' {d e u w}, f.update site d = .ok u → g.update site' e = .ok w →
    ∀ a, w (u a) = u (w a)

instance : Std.Symm (Commutes (α := α)) := ⟨fun _ _ h site site' _ _ _ _ hu hw a =>
  (h site' site hw hu a).symm⟩

theorem of_commutes {name other : String} {presence presence' : Presence} {decoder : Decoder β}
    {decoder' : Decoder τ} {set : β → α → α} {set' : τ → α → α}
    (h : ∀ v w a, set' w (set v a) = set v (set' w a)) :
    (Field.of name presence decoder set).Commutes (.of other presence' decoder' set') := by
  intro site site' d e u w hu hw a
  obtain ⟨v, -, rfl⟩ := map_eq_ok.1 hu
  obtain ⟨v', -, rfl⟩ := map_eq_ok.1 hw
  exact h v v' a

/-- Reads drafts of the same value as updates to records of the same form. -/
def Respects (form : α → γ) (f : Field α) : Prop :=
  ∀ site {d e : Draft}, d.Alike e →
    Follows (fun u w => ∀ a b, form a = form b → form (u a) = form (w b))
      (f.update site d) (f.update site e)

/-- A field that shows in the form of the record as its own form. -/
theorem respects_of {form : β → β} {formAll : α → α} {decoder : Decoder β} {name : String}
    {presence : Presence} {set : β → α → α} (h : decoder.Respects form)
    (hset : ∀ v a, formAll (set v a) = set (form v) (formAll a)) :
    (Field.of name presence decoder set).Respects formAll :=
  fun site _ _ hde => (h site hde).map fun v w hvw a b hab => by
    rw [hset, hset, hvw, hab]

end Field

/-- A record whose members may be read in any order, with results of the same form. -/
structure Record.Orderly (form : α → γ) (r : Record α) : Prop where
  fields : ∀ f ∈ r.fields, f.Respects form
  commute : r.fields.Pairwise Field.Commutes
  add : ∀ add ∈ r.addOther, ∀ name v w a b, v.ordered = w.ordered → form a = form b →
    form (add name v a) = form (add name w b)
  add_add : ∀ add ∈ r.addOther, ∀ name other v w a, name ≠ other →
    form (add other w (add name v a)) = form (add name v (add other w a))
  add_field : ∀ add ∈ r.addOther, ∀ f ∈ r.fields, ∀ {site d u}, f.update site d = .ok u →
    ∀ name v a, u (add name v a) = add name v (u a)

namespace Record

variable {r : Record α} {form : α → γ}

/-! ### Members -/

/-- Reads one member. -/
def readMember (r : Record α) (site : Site) (s : List String × α) (m : Key × Draft) :
    Except DecodeError (List String × α) := do
  let name ← m.1.kept
  match r.field? name with
  | none => return (s.1, ← r.readOther site name m.2 s.2)
  | some f =>
    if s.1.contains name then throw (.duplicateField name)
    let update ← f.update site m.2
    return (name :: s.1, update s.2)

theorem readMembers_eq_foldlM (r : Record α) (site : Site) (ms : List (Key × Draft)) :
    ∀ (given : List String) (a : α),
      r.readMembers site given a ms = ms.foldlM (r.readMember site) (given, a) := by
  induction ms with
  | nil => exact fun _ _ => rfl
  | cons m ms ih =>
    intro given a
    rw [List.foldlM_cons, readMembers, readMember]
    simp only [bind_assoc]
    refine bind_congr fun name => ?_
    cases r.field? name with
    | none => simp only [ih, bind_assoc, pure_bind]
    | some f =>
      dsimp only
      by_cases hgiven : given.contains name = true
      · simp only [hgiven, if_true]
        rfl
      · simp only [hgiven, ih, bind_assoc, pure_bind, Bool.false_eq_true, if_false]

/-- What reading a member does to the fields that are set and to the record. -/
inductive Reads (r : Record α) (site : Site) (s : List String × α) :
    Key × Draft → List String × α → Prop
  | field {name : String} {d : Draft} {f : Field α} {u : α → α} : r.field? name = some f →
      name ∉ s.1 → f.update site d = .ok u → Reads r site s (.text name, d) (name :: s.1, u s.2)
  | other {name : String} {d : Draft} {add : String → Value → α → α} {v : Value} :
      r.field? name = none → r.addOther = some add → Decoder.value site d = .ok v →
      Reads r site s (.text name, d) (s.1, add name v s.2)
  | skipped {name : String} {d : Draft} : r.field? name = none → r.addOther = none →
      d.skippedFault? = none → Reads r site s (.text name, d) s

theorem readMember_eq_ok {site : Site} {s t : List String × α} {m : Key × Draft} :
    r.readMember site s m = .ok t ↔ r.Reads site s m t := by
  obtain ⟨key, d⟩ := m
  constructor
  · intro h
    obtain ⟨name, hname, h⟩ := bind_eq_ok.1 h
    obtain rfl : key = .text name := by
      cases key with
      | text s => cases liftM_eq_ok.1 hname; rfl
      | badText | notText => cases hname
    cases hf : r.field? name with
    | none =>
      rw [hf] at h
      obtain ⟨a, ha, ⟨⟩⟩ := bind_eq_ok.1 h
      unfold readOther at ha
      cases hadd : r.addOther with
      | none =>
        rw [hadd] at ha
        obtain ⟨_, hskipped, ⟨⟩⟩ := bind_eq_ok.1 ha
        exact .skipped hf hadd (throwIf?_eq_ok.1 (liftM_eq_ok.1 hskipped))
      | some add =>
        rw [hadd] at ha
        obtain ⟨v, hv, ⟨⟩⟩ := bind_eq_ok.1 ha
        exact .other hf hadd hv
    | some f =>
      rw [hf] at h
      dsimp only at h
      split at h
      · cases h
      · rename_i hgiven
        obtain ⟨u, hu, ⟨⟩⟩ := bind_eq_ok.1 h
        exact .field hf (by simpa using hgiven) hu
  · intro h
    unfold readMember
    cases h with
    | @field name d f u hf hgiven hu =>
      refine bind_eq_ok.2 ⟨name, rfl, ?_⟩
      have hcontains : s.1.contains name = false := by simpa using hgiven
      simp only [hf, hcontains]
      exact bind_eq_ok.2 ⟨u, hu, rfl⟩
    | @other name d add v hf hadd hv =>
      refine bind_eq_ok.2 ⟨name, rfl, ?_⟩
      simp only [hf, readOther, hadd]
      exact bind_eq_ok.2 ⟨_, bind_eq_ok.2 ⟨v, hv, rfl⟩, rfl⟩
    | @skipped name d hf hadd hskipped =>
      refine bind_eq_ok.2 ⟨name, rfl, ?_⟩
      simp only [hf, readOther, hadd]
      refine bind_eq_ok.2 ⟨_, bind_eq_ok.2 ⟨(), ?_, rfl⟩, rfl⟩
      exact liftM_eq_ok.2 (throwIf?_eq_ok.2 hskipped)

/-- The same fields are set, in records of the same form. -/
def Progress (form : α → γ) (s t : List String × α) : Prop :=
  (∀ name, name ∈ s.1 ↔ name ∈ t.1) ∧ form s.2 = form t.2

theorem progress_equivalence (form : α → γ) : Equivalence (Progress form) where
  refl _ := ⟨fun _ => Iff.rfl, rfl⟩
  symm hst := ⟨fun name => (hst.1 name).symm, hst.2.symm⟩
  trans hst htu := ⟨fun name => (hst.1 name).trans (htu.1 name), hst.2.trans htu.2⟩

theorem mem_fields_of_field? {name : String} {f : Field α} (h : r.field? name = some f) :
    f ∈ r.fields ∧ f.name = name :=
  ⟨List.mem_of_find?_eq_some h, by simpa using List.find?_some h⟩

theorem Orderly.field {name : String} {f : Field α} (h : r.Orderly form)
    (hf : r.field? name = some f) : f.Respects form :=
  h.fields f (mem_fields_of_field? hf).1

theorem Orderly.follows_readMember (h : r.Orderly form) {site : Site} {s t : List String × α}
    {m n : Key × Draft} (hst : Progress form s t) (hmn : m.1 = n.1 ∧ m.2.Alike n.2) :
    Follows (Progress form) (r.readMember site s m) (r.readMember site t n) := by
  intro s' hs'
  obtain ⟨key, e⟩ := n
  obtain ⟨hkey, hde⟩ := hmn
  cases readMember_eq_ok.1 hs' with
  | @field name d f u hf hgiven hu =>
    obtain ⟨w, hw, huw⟩ := h.field hf site hde u hu
    refine ⟨(name :: t.1, w t.2), readMember_eq_ok.2 ?_, fun other => ?_, huw _ _ hst.2⟩
    · cases hkey
      exact .field hf (fun hm => hgiven ((hst.1 name).2 hm)) hw
    · simp only [List.mem_cons, hst.1 other]
  | @other name d add v hf hadd hv =>
    obtain ⟨w, hw, hvw⟩ := Decoder.respects_value site hde v hv
    refine ⟨(t.1, add name w t.2), readMember_eq_ok.2 ?_, hst.1, ?_⟩
    · cases hkey
      exact .other hf hadd hw
    · exact h.add add hadd name v w _ _ hvw hst.2
  | skipped hf hadd hskipped =>
    refine ⟨t, readMember_eq_ok.2 ?_, hst⟩
    cases hkey
    exact .skipped hf hadd (hde.skippedFault? hskipped)

/-- Two members of different names may be read in any order. -/
theorem Orderly.follows_readMember_swap (h : r.Orderly form) {site : Site} (s : List String × α)
    {m n : Key × Draft} (hmn : Apart m n) :
    Follows (Progress form) (r.readMember site s m >>= (r.readMember site · n))
      (r.readMember site s n >>= (r.readMember site · m)) := by
  intro s₂ hs₂
  obtain ⟨s₁, hm, hn⟩ := bind_eq_ok.1 hs₂
  rw [readMember_eq_ok] at hm hn
  -- each member does the same when it is read second, so only the outcomes are to be compared
  suffices ∃ t₁ t₂, r.Reads site s n t₁ ∧ r.Reads site t₁ m t₂ ∧ Progress form s₂ t₂ by
    obtain ⟨t₁, t₂, hn, hm, ht⟩ := this
    exact ⟨t₂, bind_eq_ok.2 ⟨t₁, readMember_eq_ok.2 hn, readMember_eq_ok.2 hm⟩, ht⟩
  cases hm with
  | @field name d f u hf hgiven hu =>
    cases hn with
    | @field other e g w hg hother hw =>
      have hne : name ≠ other := fun heq => hmn name rfl (by rw [heq])
      obtain ⟨hmem, hname⟩ := mem_fields_of_field? hf
      obtain ⟨hmem', hname'⟩ := mem_fields_of_field? hg
      refine ⟨_, _, .field hg (fun hm => hother (List.mem_cons_of_mem _ hm)) hw,
        .field hf (fun hm => ?_) hu, fun x => ?_, ?_⟩
      · exact (List.mem_cons.1 hm).elim hne hgiven
      · simp only [List.mem_cons]
        exact or_left_comm
      · have hfg : f ≠ g := fun heq => hne (hname ▸ hname' ▸ congrArg Field.name heq)
        exact congrArg form (h.commute.forall hmem hmem' hfg site site hu hw s.2)
    | @other other e add v hg hadd hv =>
      refine ⟨_, _, .other hg hadd hv, .field hf hgiven hu, fun _ => Iff.rfl, ?_⟩
      exact congrArg form (h.add_field add hadd f (mem_fields_of_field? hf).1 hu other v s.2).symm
    | skipped hg hadd hskipped =>
      exact ⟨_, _, .skipped hg hadd hskipped, .field hf hgiven hu,
        (progress_equivalence form).refl _⟩
  | @other name d add v hf hadd hv =>
    cases hn with
    | @field other e g w hg hother hw =>
      refine ⟨_, _, .field hg hother hw, .other hf hadd hv, fun _ => Iff.rfl, ?_⟩
      exact congrArg form (h.add_field add hadd g (mem_fields_of_field? hg).1 hw name v s.2)
    | @other other e add' w hg hadd' hw =>
      have hne : name ≠ other := fun heq => hmn name rfl (by rw [heq])
      refine ⟨_, _, .other hg hadd' hw, .other hf hadd hv, fun _ => Iff.rfl, ?_⟩
      obtain rfl : add = add' := Option.some.inj (hadd.symm.trans hadd')
      exact h.add_add add hadd name other v w s.2 hne
    | skipped hg hadd' => cases hadd.symm.trans hadd'
  | skipped hf hadd hskipped =>
    cases hn with
    | @field other e g w hg hother hw =>
      exact ⟨_, _, .field hg hother hw, .skipped hf hadd hskipped,
        (progress_equivalence form).refl _⟩
    | @other other e add' w hg hadd' => cases hadd.symm.trans hadd'
    | skipped hg hadd' hskipped' =>
      exact ⟨_, _, .skipped hg hadd' hskipped', .skipped hf hadd hskipped,
        (progress_equivalence form).refl _⟩

/-- No required field is missing if the same fields are set. -/
theorem firstMissing?_congr {given other : List String} (h : ∀ name, name ∈ given ↔ name ∈ other) :
    r.firstMissing? given = r.firstMissing? other := by
  have hcontains : ∀ name, given.contains name = other.contains name := fun name => by
    rw [Bool.eq_iff_iff, List.contains_iff_mem, List.contains_iff_mem, h]
  simp only [firstMissing?, hcontains]

theorem Orderly.follows_ofMembers (h : r.Orderly form) {site : Site} {ms ms' ns : List (Key × Draft)}
    {closing : Closing} (hms : Shuffled ms ms') (hmembers : List.Forall₂ Draft.AlikeMember ms' ns) :
    Follows (fun a b => form a = form b) (r.ofMembers site ms closing) (r.ofMembers site ns closing) := by
  simp only [ofMembers, readMembers_eq_foldlM]
  -- the names of the fields that are set are in another order, but only their presence counts below
  refine (Draft.follows_foldlM (P := Draft.Alike) (progress_equivalence form) .refl
    h.follows_readMember h.follows_readMember_swap hms
    (hmembers.imp fun m n h => ⟨h.key, h.draft⟩)
    ((progress_equivalence form).refl _)).bind ?_
  rintro ⟨given, a⟩ ⟨given', b⟩ ⟨hgiven, hab⟩
  refine (follows_liftM (.eq _)).bind fun _ _ _ => ?_
  simp only [firstMissing?_congr hgiven]
  cases r.firstMissing? given' with
  | none => exact .ok hab
  | some f => exact .error _

/-! ### Lists -/

theorem follows_readItems {site : Site} {closing : Closing} :
    ∀ {fields : List (Field α)}, (∀ f ∈ fields, f.Respects form) → ∀ (index : Nat)
      {ds es : List Draft}, List.Forall₂ Draft.Alike ds es → ∀ {a b : α}, form a = form b →
      Follows (fun s t => form s.2 = form t.2) (r.readItems site closing index fields ds a)
        (r.readItems site closing index fields es b)
  | [], _, _, _, _, _, _, _, hab => .ok hab
  | f :: fields, hf, index, _, _, .nil, a, b, hab => by
    simp only [readItems]
    refine (follows_liftM (.eq _)).bind fun _ _ _ => ?_
    split
    · exact follows_readItems (fun g hg => hf g (List.mem_cons_of_mem _ hg)) _ .nil hab
    · exact .error _
  | f :: fields, hf, index, _, _, .cons hde hrest, a, b, hab => by
    simp only [readItems]
    refine (hf f (List.mem_cons_self ..) site hde).bind fun u w huw => ?_
    exact follows_readItems (fun g hg => hf g (List.mem_cons_of_mem _ hg)) _ hrest (huw a b hab)

theorem Orderly.follows_ofItems (h : r.Orderly form) {site : Site} {ds es : List Draft}
    {closing : Closing} (hitems : List.Forall₂ Draft.Alike ds es) :
    Follows (fun a b => form a = form b) (r.ofItems site ds closing) (r.ofItems site es closing) := by
  simp only [ofItems, hitems.length_eq]
  refine (follows_readItems h.fields 0 hitems (Eq.refl (form r.blank))).bind fun s t hst => ?_
  exact (Follows.eq _).bind fun _ _ _ => .ok hst

/-! ### Decoders -/

theorem Orderly.respects (h : r.Orderly form) : r.decoder.Respects form := by
  intro site d e hde
  cases d with
  | object ms closing =>
    obtain ⟨ms', ns, rfl, hms, hmembers⟩ := hde.object_left
    simp only [decoder]
    refine (follows_liftM (.eq _)).bind ?_
    rintro inner _ rfl
    exact h.follows_ofMembers hms hmembers
  | list ds closing =>
    obtain ⟨es, rfl, hitems⟩ := hde.list_left
    simp only [decoder]
    split
    · exact Draft.follows_refuse _ _ _
    · refine (follows_liftM (.eq _)).bind ?_
      rintro inner _ rfl
      exact h.follows_ofItems hitems
  | missing | word | badWord | numeral | text | badText => exact Draft.follows_refuse _ _ _

end Record

end ContractInterface.Json
