/-
Decoders that read what is encoded as it was. The combinators keep this; a record keeps it if its
members, read one after the other, turn the blank record into the one that is encoded
(`Record.Takes.ofMembers`), and so does a block with its tag in front (`Block.inverts`).
-/
import ContractInterface.Proofs.Json.RoundTrip

namespace ContractInterface.Json

variable {α β τ : Type}

/-- Reads what is encoded as it was, if it has the property, where `room` more lists and objects may be
open. -/
def Decoder.Inverts (room : ℕ) (P : α → Prop) (encode : α → Value) (decoder : Decoder α) : Prop :=
  ∀ site a, site.room = room → P a → decoder site (encode a).draft = .ok a

namespace Decoder

variable {room : ℕ} {P : α → Prop} {encode : α → Value} {decoder : Decoder α}

/-! ## Scalars and values -/

theorem inverts_text : text.Inverts room (fun _ => True) .string :=
  fun _ _ _ _ => rfl

theorem inverts_value : value.Inverts room (Value.Fits room) id := by
  intro site v hroom hv
  rw [← hroom] at hv
  exact liftM_eq_ok.2 hv.keep_draft

/-- A name is read as its alternative. -/
theorem inverts_variant {variants : List (String × τ)} {name : τ → String}
    (h : ∀ t, variants.lookup (name t) = some t) :
    (variant variants).Inverts room (fun _ => True) fun t => .string (name t) := by
  intro site t _ _
  rw [Value.draft]
  simp only [variant, select, h]

theorem nullable_draft {v : Value} (hv : v ≠ .null) (decoder : Decoder α) (site : Site) :
    decoder.nullable site v.draft = some <$> decoder site v.draft := by
  cases v with
  | null => exact absurd rfl hv
  | bool | number | string | array | object => rfl

/-! ## Lists and tables -/

theorem inside_eq {site : Site} (h : site.room = room + 1) (isItem : Bool) :
    (liftM (site.inside isItem) : Except DecodeError Site) = .ok { site with room, isItem } :=
  liftM_eq_ok.2 (Site.inside_eq_ok.2 ⟨room, h, rfl⟩)

theorem Inverts.listOf (h : decoder.Inverts room P encode) :
    decoder.listOf.Inverts (room + 1) (fun as => ∀ a ∈ as, P a) fun as => .array (as.map encode) := by
  intro site as hroom has
  have hitems : ((as.map encode).map Value.draft).mapM (decoder { site with room, isItem := true }) =
      .ok as := by
    rw [mapM_eq_ok, List.map_map, List.forall₂_map_left_iff]
    exact List.forall₂_same.2 fun a ha => h _ a rfl (has a ha)
  rw [Value.draft, Value.draftItems_eq_map]
  simp only [Decoder.listOf, inside_eq hroom, hitems, bind, Except.bind]
  rfl

theorem inverts_table : table.Inverts (room + 1)
    (fun members => members.Fit room ∧ Value.orderMembers members = members) .object := by
  rintro site members hroom ⟨hfit, hordered⟩
  have hkept : Draft.keepMembers room [] (Value.draftMembers members) = .ok members :=
    Value.keepMembers_draftMembers (fun m hm => (hfit.fits m hm).keep_draft) hfit.nodup
  rw [Value.draft]
  simp only [table, inside_eq hroom, hkept, bind, Except.bind]
  exact congrArg Except.ok hordered

end Decoder

/-! ## Records -/

namespace Record

variable {r : Record α} {site : Site} {a b c : α}

theorem field?_eq_none_iff {name : String} :
    r.field? name = none ↔ name ∉ r.fields.map Field.name := by
  rw [field?, List.find?_eq_none, List.mem_map]
  simp

/-- Members that turn one record into the other, read in their order. -/
inductive Takes (r : Record α) (site : Site) : Members → α → α → Prop
  | nil (a : α) : Takes r site [] a a
  | field {name : String} {v : Value} {f : Field α} {u : α → α} {members : Members} {a b : α} :
      r.field? name = some f → f.update site v.draft = .ok u → Takes r site members (u a) b →
      Takes r site ((name, v) :: members) a b
  | other {name : String} {v : Value} {add : String → Value → α → α} {members : Members} {a b : α} :
      r.field? name = none → r.addOther = some add → v.Fits site.room →
      Takes r site members (add name v a) b → Takes r site ((name, v) :: members) a b

theorem Takes.append {ms ns : Members} (h : r.Takes site ms a b) (k : r.Takes site ns b c) :
    r.Takes site (ms ++ ns) a c := by
  induction h with
  | nil => exact k
  | field hf hu _ ih => exact .field hf hu (ih k)
  | other hf hadd hv _ ih => exact .other hf hadd hv (ih k)

/-- Members of different names are read, and set the fields of these names. -/
theorem Takes.readMembers {members : Members} (h : r.Takes site members a b) :
    (members.map Prod.fst).Nodup → ∀ {given : List String}, (∀ m ∈ members, m.1 ∉ given) →
      ∃ given', r.readMembers site given a (Value.draftMembers members) = .ok (given', b) ∧
        given ⊆ given' ∧ ∀ m ∈ members, (r.field? m.1).isSome → m.1 ∈ given' := by
  induction h with
  | nil a => exact fun _ given _ => ⟨given, rfl, List.Subset.refl _, nofun⟩
  | @field name v f u members a b hf hu _ ih =>
    intro hnodup given hgiven
    obtain ⟨hname, hnodup⟩ := List.nodup_cons.1 hnodup
    obtain ⟨hfirst, hrest⟩ := List.forall_mem_cons.1 hgiven
    have hfresh : ∀ m ∈ members, m.1 ∉ name :: given := fun m hm hmem =>
      (List.mem_cons.1 hmem).elim (fun heq => hname (List.mem_map.2 ⟨m, hm, heq⟩)) (hrest m hm)
    obtain ⟨given', hread, hsub, hset⟩ := ih hnodup hfresh
    have hmember := readMember_eq_ok.2 (Reads.field (s := (given, a)) hf hfirst hu)
    refine ⟨given', ?_, fun x hx => hsub (List.mem_cons_of_mem _ hx),
      List.forall_mem_cons.2 ⟨fun _ => hsub (List.mem_cons_self ..), hset⟩⟩
    rw [readMembers_eq_foldlM] at hread ⊢
    exact bind_eq_ok.2 ⟨_, hmember, hread⟩
  | @other name v add members a b hf hadd hv _ ih =>
    intro hnodup given hgiven
    obtain ⟨given', hread, hsub, hset⟩ := ih (List.nodup_cons.1 hnodup).2
      (List.forall_mem_cons.1 hgiven).2
    have hmember := readMember_eq_ok.2 (Reads.other (s := (given, a)) hf hadd
      (Decoder.inverts_value site v rfl hv))
    refine ⟨given', ?_, hsub, List.forall_mem_cons.2 ⟨fun hsome => ?_, hset⟩⟩
    · rw [readMembers_eq_foldlM] at hread ⊢
      exact bind_eq_ok.2 ⟨_, hmember, hread⟩
    · rw [hf] at hsome
      cases hsome

/-- Members of different names, the required ones among them, make up a record. -/
theorem Takes.ofMembers {members : Members} (h : r.Takes site members r.blank a)
    (hnodup : (members.map Prod.fst).Nodup)
    (hrequired : ∀ f ∈ r.fields, f.presence = .required → f.name ∈ members.map Prod.fst) :
    r.ofMembers site (Value.draftMembers members) .closed = .ok a := by
  obtain ⟨given, hread, -, hset⟩ := @Takes.readMembers _ _ _ _ _ _ h hnodup [] (by simp)
  have hcomplete : r.firstMissing? given = none := by
    refine List.find?_eq_none.2 fun f hf => ?_
    by_cases hpresence : f.presence = .required
    · obtain ⟨m, hm, hname⟩ := List.mem_map.1 (hrequired f hf hpresence)
      have hsome : (r.field? m.1).isSome := by
        rw [Option.isSome_iff_ne_none, ne_eq, field?_eq_none_iff, hname, not_not]
        exact List.mem_map_of_mem hf
      simp [← hname, hset m hm hsome]
    · simp [hpresence]
  simp only [Record.ofMembers, hread, hcomplete, bind, Except.bind]
  rfl

/-- Records that are encoded as an object of members that make them up. -/
theorem inverts {room : ℕ} {P : α → Prop} {members : α → Members}
    (htakes : ∀ site a, site.room = room → P a → r.Takes site (members a) r.blank a)
    (hnodup : ∀ a, P a → ((members a).map Prod.fst).Nodup)
    (hrequired : ∀ a, ∀ f ∈ r.fields, f.presence = .required → f.name ∈ (members a).map Prod.fst) :
    r.decoder.Inverts (room + 1) P fun a => .object (members a) := by
  intro site a hroom ha
  rw [Value.draft]
  simp only [decoder, Decoder.inside_eq hroom, bind, Except.bind]
  exact (htakes _ a rfl ha).ofMembers (hnodup a ha) (hrequired a)

theorem takes_field (name : String) {presence : Presence} {decoder : Decoder β} {set : β → α → α}
    (hf : r.field? name = some (.of name presence decoder set)) {v : Value} {x : β}
    (h : decoder site v.draft = .ok x) (a : α) : r.Takes site [(name, v)] a (set x a) :=
  .field hf (map_eq_ok.2 ⟨x, h, rfl⟩) (.nil _)

/-- Other members stand for themselves. -/
theorem takes_others {add : String → Value → α → α} (put : Members → α)
    (hadd : r.addOther = some add) (hput : ∀ name v ms, add name v (put ms) = put (ms.set name v))
    {members : Members} (hother : ∀ m ∈ members, r.field? m.1 = none)
    (hfits : ∀ m ∈ members, m.2.Fits site.room) : ∀ (sofar : Members),
      ((sofar ++ members).map Prod.fst).Nodup →
        r.Takes site members (put sofar) (put (sofar ++ members)) := by
  induction members with
  | nil => exact fun sofar _ => (List.append_nil sofar).symm ▸ .nil _
  | cons m members ih =>
    intro sofar hnodup
    have hfresh : m.1 ∉ sofar.map Prod.fst := fun hkey => by
      rw [List.map_append, List.nodup_append] at hnodup
      exact hnodup.2.2 m.1 hkey m.1 (List.mem_cons_self ..) rfl
    rw [List.append_cons] at hnodup ⊢
    obtain ⟨hf, hother⟩ := List.forall_mem_cons.1 hother
    obtain ⟨hv, hfits⟩ := List.forall_mem_cons.1 hfits
    refine .other hf hadd hv ?_
    rw [hput, Value.set_of_notMem hfresh]
    exact ih hother hfits _ hnodup

end Record

/-! ## Blocks -/

namespace Block

variable {b : Block τ α} {site : Site}

/-- Members beside the tag are kept for later. -/
theorem readTag_draftMembers {t : Option τ} {members : Members}
    (h : ∀ m ∈ members, m.1 ≠ b.tagName ∧ m.2.Fits site.room) : ∀ {others : List (Key × Draft)},
      b.readTag site t others (Value.draftMembers members) =
        .ok (t, others.reverse ++ Value.draftMembers members) := by
  induction members with
  | nil => exact fun {others} => by rw [Value.draftMembers, readTag, List.append_nil]
  | cons m members ih =>
    intro others
    obtain ⟨⟨hname, hv⟩, hmembers⟩ := List.forall_mem_cons.1 h
    have hkept : (liftM (m.2.draft.keep site.room) : Except DecodeError Value) = .ok m.2 :=
      liftM_eq_ok.2 hv.keep_draft
    obtain ⟨key, v⟩ := m
    rw [Value.draftMembers, readTag]
    refine bind_eq_ok.2 ⟨key, rfl, ?_⟩
    rw [if_neg hname]
    refine bind_eq_ok.2 ⟨v, hkept, ?_⟩
    rw [ih hmembers, List.reverse_cons, List.append_assoc, List.singleton_append]

/-- Blocks that are encoded as an object with the name of their alternative first. -/
theorem inverts {room : ℕ} {P : α → Prop} (tagName : τ → String) (members : α → Members)
    (htags : ∀ t, b.tags.lookup (tagName t) = some t)
    (hmembers : ∀ a, P a → ∀ m ∈ members a, m.1 ≠ b.tagName ∧ m.2.Fits room)
    (hrecord : ∀ site a, site.room = room → P a →
      b.record.ofMembers site (Value.draftMembers (members a)) .closed = .ok a) :
    b.decoder.Inverts (room + 1) (fun x => P x.2) fun x =>
      .object ((b.tagName, .string (tagName x.1)) :: members x.2) := by
  rintro site ⟨t, a⟩ hroom ha
  let inner : Site := { site with room, isItem := false }
  -- the tag stands first, and all others are kept for the record
  have htag : b.readTag inner none [] (Value.draftMembers
      ((b.tagName, .string (tagName t)) :: members a)) =
      .ok (some t, Value.draftMembers (members a)) := by
    rw [Value.draftMembers, readTag]
    refine bind_eq_ok.2 ⟨b.tagName, rfl, ?_⟩
    rw [if_pos rfl]
    refine bind_eq_ok.2 ⟨t, ?_, ?_⟩
    · rw [Value.draft]
      simp only [Decoder.variantName, Decoder.select, htags]
    · rw [readTag_draftMembers (hmembers a ha)]
      rfl
  have hother := hrecord { inner with origin := .block } a rfl ha
  rw [Value.draft]
  simp only [decoder, Decoder.inside_eq hroom]
  refine bind_eq_ok.2 ⟨inner, rfl, bind_eq_ok.2 ⟨_, htag, bind_eq_ok.2 ⟨(), rfl, ?_⟩⟩⟩
  exact bind_eq_ok.2 ⟨a, hother, rfl⟩

end Block

end ContractInterface.Json
