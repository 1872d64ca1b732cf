/-
What decoders give. A value that is kept has no repeated names and is no deeper than its place allows
(`Draft.fits_of_keep`), and putting it in order keeps it so. What is true of a blank record, and stays
true with each field that is read and each other member that is kept, is true of a record that is
given (`Record.holds_of_decoder`).
-/
import ContractInterface.Proofs.Json.TagOrder

namespace ContractInterface.Json

/-! ## Values that fit -/

/-- A value that may stand where `room` more lists and objects can be open: no name is repeated in an
object. -/
inductive Value.Fits : Nat → Value → Prop
  | null {room : Nat} : Fits room .null
  | bool {room : Nat} (b : Bool) : Fits room (.bool b)
  | number {room : Nat} (n : Number) : Fits room (.number n)
  | string {room : Nat} (s : String) : Fits room (.string s)
  | array {room : Nat} {items : List Value} : (∀ v ∈ items, Fits room v) →
      Fits (room + 1) (.array items)
  | object {room : Nat} {members : Members} : (members.map Prod.fst).Nodup →
      (∀ m ∈ members, Fits room m.2) → Fits (room + 1) (.object members)

/-- Members of different names with values that fit. -/
structure Members.Fit (room : Nat) (members : Members) : Prop where
  nodup : (members.map Prod.fst).Nodup
  fits : ∀ m ∈ members, m.2.Fits room

namespace Members

theorem Fit.nil {room : Nat} : Fit room [] := ⟨List.nodup_nil, nofun⟩

theorem mem_set {members : Members} {name : String} {v : Value} {m : String × Value}
    (h : m ∈ members.set name v) : m = (name, v) ∨ m ∈ members := by
  induction members with
  | nil => exact .inl (List.mem_singleton.1 h)
  | cons n members ih =>
    obtain ⟨key, x⟩ := n
    rw [set] at h
    by_cases hkey : key = name
    · rw [if_pos hkey, hkey] at h
      exact (List.mem_cons.1 h).imp_right (List.mem_cons_of_mem _)
    · rw [if_neg hkey] at h
      rcases List.mem_cons.1 h with rfl | h
      · exact .inr (List.mem_cons_self ..)
      · exact (ih h).imp_right (List.mem_cons_of_mem _)

theorem Fit.set {room : Nat} {members : Members} (h : Fit room members) (name : String) {v : Value}
    (hv : v.Fits room) : Fit room (members.set name v) := by
  refine ⟨Value.nodup_keys_set h.nodup name v, fun m hm => ?_⟩
  rcases mem_set hm with rfl | hm
  · exact hv
  · exact h.fits m hm

theorem Fit.orderMembers {room : Nat} {members : Members} (h : Fit room members) :
    Fit room (Value.orderMembers members) :=
  ⟨Value.nodup_keys_orderMembers h.nodup, fun m hm =>
    h.fits m ((Value.orderMembers_perm members).mem_iff.1 hm)⟩

end Members

theorem Value.Fits.ordered {room : Nat} {v : Value} (h : v.Fits room) : v.ordered.Fits room := by
  induction h with
  | null => exact .null
  | bool b => exact .bool b
  | number n => exact .number n
  | string s => exact .string s
  | array _ ih =>
    rw [ordered_array]
    refine .array fun w hw => ?_
    obtain ⟨v, hv, rfl⟩ := List.mem_map.1 hw
    exact ih v hv
  | @object room members hnodup _ ih =>
    have hmembers : Members.Fit room (orderedMembers members) := by
      refine ⟨by rwa [map_fst_orderedMembers], fun m hm => ?_⟩
      rw [orderedMembers_eq_map] at hm
      obtain ⟨n, hn, rfl⟩ := List.mem_map.1 hm
      exact ih n hn
    exact .object hmembers.orderMembers.nodup hmembers.orderMembers.fits

theorem Value.Fits.nodup {room : Nat} {members : Members} (h : Value.Fits room (.object members)) :
    (members.map Prod.fst).Nodup := by
  cases h
  assumption

/-! ## Kept values -/

namespace Draft

mutual

theorem fits_of_keep : ∀ {d : Draft} {room : Nat} {v : Value}, d.keep room = .ok v → v.Fits room
  | .missing _, _, _, h => nomatch h
  | .word .null, _, _, h => by cases h; exact .null
  | .word (.bool b), _, _, h => by cases h; exact .bool b
  | .badWord _ _, _, _, h => nomatch h
  | .numeral n, _, _, h => by
    obtain ⟨k, -, rfl⟩ := map_eq_ok.1 h
    exact .number k
  | .text s, _, _, h => by cases h; exact .string s
  | .badText _ _, _, _, h => nomatch h
  | .list _ _, 0, _, h => nomatch h
  | .list _ _, room + 1, _, h => by
    obtain ⟨vs, hvs, h⟩ := bind_eq_ok.1 h
    obtain ⟨_, -, ⟨⟩⟩ := bind_eq_ok.1 h
    exact .array (fits_of_keepItems hvs)
  | .object _ _, 0, _, h => nomatch h
  | .object _ _, room + 1, _, h => by
    obtain ⟨members, hmembers, h⟩ := bind_eq_ok.1 h
    obtain ⟨_, -, ⟨⟩⟩ := bind_eq_ok.1 h
    have hfit := fit_of_keepMembers .nil hmembers
    exact .object hfit.nodup hfit.fits

theorem fits_of_keepItems : ∀ {ds : List Draft} {room : Nat} {vs : List Value},
    keepItems room ds = .ok vs → ∀ v ∈ vs, v.Fits room
  | [], _, _, h => by cases h; nofun
  | _ :: _, _, _, h => by
    obtain ⟨v, hv, h⟩ := bind_eq_ok.1 h
    obtain ⟨vs, hvs, ⟨⟩⟩ := bind_eq_ok.1 h
    exact List.forall_mem_cons.2 ⟨fits_of_keep hv, fits_of_keepItems hvs⟩

theorem fit_of_keepMembers : ∀ {ms : List (Key × Draft)} {room : Nat} {sofar all : Members},
    sofar.Fit room → keepMembers room sofar ms = .ok all → all.Fit room
  | [], _, _, _, hsofar, h => by cases h; exact hsofar
  | _ :: _, _, _, _, hsofar, h => by
    obtain ⟨name, -, h⟩ := bind_eq_ok.1 h
    obtain ⟨v, hv, h⟩ := bind_eq_ok.1 h
    exact fit_of_keepMembers (hsofar.set name (fits_of_keep hv)) h

end

end Draft

/-! ## Decoders -/

variable {α β τ : Type}

/-- Gives nothing but what has the property, where `room` more lists and objects may be open. -/
def Decoder.Gives (room : Nat) (P : α → Prop) (decoder : Decoder α) : Prop :=
  ∀ site {d a}, site.room = room → decoder site d = .ok a → P a

namespace Decoder

theorem gives_value {room : Nat} : value.Gives room (Value.Fits room) := by
  intro site d v hroom h
  rw [← hroom]
  exact Draft.fits_of_keep (liftM_eq_ok.1 h)

theorem Gives.nullable {room : Nat} {P : α → Prop} {decoder : Decoder α} (h : decoder.Gives room P) :
    decoder.nullable.Gives room fun a => ∀ x ∈ a, P x := by
  intro site d a hroom ha
  unfold Decoder.nullable at ha
  split at ha
  · cases ha
    nofun
  · cases ha
  · obtain ⟨x, hx, rfl⟩ := map_eq_ok.1 ha
    rintro _ ⟨⟩
    exact h site hroom hx

theorem Gives.listOf {room : Nat} {P : α → Prop} {decoder : Decoder α} (h : decoder.Gives room P) :
    decoder.listOf.Gives (room + 1) fun as => ∀ a ∈ as, P a := by
  intro site d as hroom has a ha
  unfold Decoder.listOf at has
  split at has
  · obtain ⟨inner, hinner, has⟩ := bind_eq_ok.1 has
    obtain ⟨bs, hbs, has⟩ := bind_eq_ok.1 has
    obtain ⟨_, -, ⟨⟩⟩ := bind_eq_ok.1 has
    obtain ⟨room', hroom', rfl⟩ := Site.inside_eq_ok.1 (liftM_eq_ok.1 hinner)
    obtain ⟨d, -, hd⟩ := exists_mem_of_forall₂ (mapM_eq_ok.1 hbs).flip a ha
    exact h _ (by simpa using hroom'.symm.trans hroom) hd
  · exact absurd has (Draft.refuse_ne_ok _ _ _)

theorem gives_table {room : Nat} : table.Gives (room + 1) fun members =>
    members.Fit room ∧ Value.orderMembers members = members := by
  intro site d members hroom h
  unfold table at h
  split at h
  · obtain ⟨inner, hinner, h⟩ := bind_eq_ok.1 h
    obtain ⟨values, hvalues, h⟩ := bind_eq_ok.1 h
    obtain ⟨_, -, ⟨⟩⟩ := bind_eq_ok.1 h
    obtain ⟨room', hroom', rfl⟩ := Site.inside_eq_ok.1 (liftM_eq_ok.1 hinner)
    obtain rfl : room' = room := by simpa using hroom'.symm.trans hroom
    have hfit := Draft.fit_of_keepMembers .nil (liftM_eq_ok.1 hvalues)
    exact ⟨hfit.orderMembers, Value.orderMembers_orderMembers values⟩
  · exact absurd h (Draft.refuse_ne_ok _ _ _)

end Decoder

/-! ## Records -/

/-- Reading the field keeps a property of the record. -/
def Field.Preserves (room : Nat) (P : α → Prop) (f : Field α) : Prop :=
  ∀ site {d u a}, site.room = room → f.update site d = .ok u → P a → P (u a)

theorem Field.of_preserves {room : Nat} {P : α → Prop} {Q : β → Prop} {decoder : Decoder β}
    (h : decoder.Gives room Q) (name : String) (presence : Presence) {set : β → α → α}
    (hset : ∀ v a, Q v → P a → P (set v a)) :
    (Field.of name presence decoder set).Preserves room P := by
  intro site d u a hroom hu ha
  obtain ⟨v, hv, rfl⟩ := map_eq_ok.1 hu
  exact hset v a (h site hroom hv) ha

namespace Record

variable {r : Record α} {room : Nat} {P : α → Prop}

theorem holds_of_ofMembers (hblank : P r.blank) (hfields : ∀ f ∈ r.fields, f.Preserves room P)
    (hadd : ∀ add ∈ r.addOther, ∀ name v a, r.field? name = none → v.Fits room → P a →
      P (add name v a)) {site : Site} (hroom : site.room = room) {ms : List (Key × Draft)}
    {closing : Closing} {a : α} (h : r.ofMembers site ms closing = .ok a) : P a := by
  have hloop : ∀ {ms : List (Key × Draft)} {s t : List String × α}, P s.2 →
      ms.foldlM (r.readMember site) s = .ok t → P t.2 := fun {ms} => by
    induction ms with
    | nil => rintro s _ hs ⟨⟩; exact hs
    | cons m ms ih =>
      intro s t hs ht
      obtain ⟨s', hs', ht⟩ := bind_eq_ok.1 ht
      refine ih ?_ ht
      cases readMember_eq_ok.1 hs' with
      | field hf _ hu => exact hfields _ (mem_fields_of_field? hf).1 site hroom hu hs
      | other hf hadd' hv => exact hadd _ hadd' _ _ _ hf (Decoder.gives_value site hroom hv) hs
      | skipped => exact hs
  obtain ⟨⟨given, b⟩, hb, h⟩ := bind_eq_ok.1 h
  rw [readMembers_eq_foldlM] at hb
  obtain ⟨_, -, h⟩ := bind_eq_ok.1 h
  split at h
  · cases h
  · cases h
    exact hloop hblank hb

theorem holds_of_ofItems (hblank : P r.blank) (hfields : ∀ f ∈ r.fields, f.Preserves room P)
    {site : Site} (hroom : site.room = room) {ds : List Draft} {closing : Closing} {a : α}
    (h : r.ofItems site ds closing = .ok a) : P a := by
  have hloop : ∀ {fields : List (Field α)}, (∀ f ∈ fields, f.Preserves room P) →
      ∀ {index : Nat} {ds : List Draft} {a : α} {t : List Draft × α}, P a →
      r.readItems site closing index fields ds a = .ok t → P t.2 := fun {fields} => by
    induction fields with
    | nil => rintro - index ds a _ ha ⟨⟩; exact ha
    | cons f fields ih =>
      intro hf index ds a t ha ht
      obtain ⟨hfirst, hrest⟩ := List.forall_mem_cons.1 hf
      cases ds with
      | nil =>
        obtain ⟨_, -, ht⟩ := bind_eq_ok.1 ht
        split at ht
        · exact ih hrest ha ht
        · cases ht
      | cons d ds =>
        obtain ⟨u, hu, ht⟩ := bind_eq_ok.1 ht
        exact ih hrest (hfirst site hroom hu ha) ht
  obtain ⟨⟨rest, b⟩, hb, h⟩ := bind_eq_ok.1 h
  obtain ⟨_, -, ⟨⟩⟩ := bind_eq_ok.1 h
  exact hloop hfields hblank hb

/-- What holds of the blank record, and stays true with each member that is read, holds of a record
that is given. -/
theorem holds_of_decoder (hblank : P r.blank) (hfields : ∀ f ∈ r.fields, f.Preserves room P)
    (hadd : ∀ add ∈ r.addOther, ∀ name v a, r.field? name = none → v.Fits room → P a →
      P (add name v a)) : r.decoder.Gives (room + 1) P := by
  intro site d a hroom h
  unfold decoder at h
  split at h
  · obtain ⟨inner, hinner, h⟩ := bind_eq_ok.1 h
    obtain ⟨room', hroom', rfl⟩ := Site.inside_eq_ok.1 (liftM_eq_ok.1 hinner)
    exact holds_of_ofMembers hblank hfields hadd (by simpa using hroom'.symm.trans hroom) h
  · split at h
    · exact absurd h (Draft.refuse_ne_ok _ _ _)
    · obtain ⟨inner, hinner, h⟩ := bind_eq_ok.1 h
      obtain ⟨room', hroom', rfl⟩ := Site.inside_eq_ok.1 (liftM_eq_ok.1 hinner)
      exact holds_of_ofItems hblank hfields (by simpa using hroom'.symm.trans hroom) h
  · exact absurd h (Draft.refuse_ne_ok _ _ _)

end Record

theorem Block.holds_of_decoder {b : Block τ α} {room : Nat} {P : α → Prop} (hblank : P b.record.blank)
    (hfields : ∀ f ∈ b.record.fields, f.Preserves room P) (hadd : b.record.addOther = none) :
    b.decoder.Gives (room + 1) fun x => P x.2 := by
  intro site d x hroom h
  have hnone : ∀ add ∈ b.record.addOther, ∀ name v a, b.record.field? name = none → v.Fits room →
      P a → P (add name v a) := by
    rw [hadd]
    nofun
  unfold decoder at h
  split at h
  · obtain ⟨inner, hinner, h⟩ := bind_eq_ok.1 h
    obtain ⟨room', hroom', rfl⟩ := Site.inside_eq_ok.1 (liftM_eq_ok.1 hinner)
    obtain ⟨⟨tag, others⟩, -, h⟩ := bind_eq_ok.1 h
    obtain ⟨_, -, h⟩ := bind_eq_ok.1 h
    cases tag with
    | none => cases h
    | some t =>
      obtain ⟨a, ha, ⟨⟩⟩ := bind_eq_ok.1 h
      exact Record.holds_of_ofMembers hblank hfields hnone (by simpa using hroom'.symm.trans hroom) ha
  · obtain ⟨inner, hinner, h⟩ := bind_eq_ok.1 h
    obtain ⟨room', hroom', rfl⟩ := Site.inside_eq_ok.1 (liftM_eq_ok.1 hinner)
    dsimp only at h
    split at h
    · obtain ⟨_, -, h⟩ := bind_eq_ok.1 h
      cases h
    · obtain ⟨t, -, h⟩ := bind_eq_ok.1 h
      obtain ⟨_, -, h⟩ := bind_eq_ok.1 h
      obtain ⟨_, -, h⟩ := bind_eq_ok.1 h
      obtain ⟨a, ha, ⟨⟩⟩ := bind_eq_ok.1 h
      exact Record.holds_of_ofItems hblank hfields (by simpa using hroom'.symm.trans hroom) ha
  · exact absurd h (Draft.refuse_ne_ok _ _ _)

end ContractInterface.Json
