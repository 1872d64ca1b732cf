/-
The outline of a document against its text. A field that a record must have stands in the raw value of
every object that is read as the record (`Record.exists_lookup_of_required`). So the value of a text that
is loaded has a version that is a text, and a body with a list of functions and a root schema. The
metadata may be left out, though, and records may be written as lists of their fields; this is what
keeps such a value from having the outline of a document (`Document.looksLikeDocument_iff_of_parse`).
-/
import Mathlib
import ContractInterface.Proofs.Document.Fits

namespace ContractInterface

namespace Json

variable {α β : Type}

/-! ## Raw values of what is read -/

/-- The raw values of drafts that the decoder reads have the property. -/
def Decoder.Shows (P : Value → Prop) (decoder : Decoder α) : Prop :=
  ∀ site {d : Draft} {a : α} {room : Nat} {v : Value},
    decoder site d = .ok a → d.keep room = .ok v → P v

namespace Decoder

theorem shows_text : text.Shows fun v => ∃ s, v = .string s := by
  intro site d a room v hread hkeep
  cases d with
  | text s =>
    cases hkeep
    exact ⟨s, rfl⟩
  | missing | word | badWord | numeral | badText | list | object =>
    exact absurd hread (Draft.refuse_ne_ok _ _ _)

theorem shows_listOf (decoder : Decoder α) :
    (listOf decoder).Shows fun v => ∃ items, v = .array items := by
  intro site d a room v hread hkeep
  cases d with
  | list items closing =>
    cases room with
    | zero => cases hkeep
    | succ room =>
      obtain ⟨values, -, hkeep⟩ := bind_eq_ok.1 hkeep
      obtain ⟨_, -, ⟨⟩⟩ := bind_eq_ok.1 hkeep
      exact ⟨values, rfl⟩
  | missing | word | badWord | numeral | text | badText | object =>
    exact absurd hread (Draft.refuse_ne_ok _ _ _)

theorem Shows.field {P : Value → Prop} {decoder : Decoder β} (h : decoder.Shows P) {name : String}
    {presence : Presence} {set : β → α → α} :
    (Field.of name presence decoder set).update.Shows P := by
  intro site d u room v hread hkeep
  obtain ⟨b, hb, -⟩ := map_eq_ok.1 hread
  exact h site hb hkeep

end Decoder

/-! ## Members -/

namespace Draft

variable {room : Nat} {ms : List (Key × Draft)} {all : Members}

/-- An object is kept of an object alone. -/
theorem exists_keepMembers_of_keep {d : Draft} (h : d.keep room = .ok (.object all)) :
    ∃ ms closing inner, d = .object ms closing ∧ keepMembers inner [] ms = .ok all := by
  cases d with
  | object ms closing =>
    cases room with
    | zero => cases h
    | succ room =>
      obtain ⟨_, hkept, h⟩ := bind_eq_ok.1 h
      obtain ⟨_, -, ⟨⟩⟩ := bind_eq_ok.1 h
      exact ⟨ms, closing, room, rfl, hkept⟩
  | list items closing =>
    cases room with
    | zero => cases h
    | succ room =>
      obtain ⟨_, -, h⟩ := bind_eq_ok.1 h
      obtain ⟨_, -, h⟩ := bind_eq_ok.1 h
      cases h
  | word w => cases w <;> cases h
  | numeral n =>
    obtain ⟨_, -, h⟩ := map_eq_ok.1 h
    cases h
  | missing | badWord | text | badText => cases h

/-- The value that is kept under a name is that of a member of this name. -/
theorem exists_of_mem_keepMembers : ∀ {sofar : Members}, keepMembers room sofar ms = .ok all →
    ∀ x ∈ all, x ∈ sofar ∨ ∃ d, (.text x.1, d) ∈ ms ∧ d.keep room = .ok x.2 := by
  induction ms with
  | nil =>
    rintro sofar ⟨⟩ x hx
    exact .inl hx
  | cons m ms ih =>
    intro sofar h x hx
    rw [keepMembers_eq_foldlM, List.foldlM_cons] at h
    obtain ⟨next, hnext, h⟩ := bind_eq_ok.1 h
    obtain ⟨name, v, hname, hv, rfl⟩ := keepMember_eq_ok.1 hnext
    rcases ih (keepMembers_eq_foldlM .. ▸ h) x hx with hx | ⟨d, hd, hkeep⟩
    · rcases Members.mem_set hx with rfl | hx
      · exact .inr ⟨m.2, List.mem_cons.2 (.inl (Prod.ext hname.symm rfl)), hv⟩
      · exact .inl hx
    · exact .inr ⟨d, List.mem_cons_of_mem _ hd, hkeep⟩

theorem mem_keys_of_keepMembers {name : String} : ∀ {sofar : Members},
    keepMembers room sofar ms = .ok all →
      name ∈ sofar.map Prod.fst ∨ (∃ d, (.text name, d) ∈ ms) → name ∈ all.map Prod.fst := by
  induction ms with
  | nil =>
    rintro sofar ⟨⟩ h
    exact h.elim id nofun
  | cons m ms ih =>
    intro sofar h hname
    rw [keepMembers_eq_foldlM, List.foldlM_cons] at h
    obtain ⟨next, hnext, h⟩ := bind_eq_ok.1 h
    obtain ⟨key, v, hkey, -, rfl⟩ := keepMember_eq_ok.1 hnext
    refine ih (keepMembers_eq_foldlM .. ▸ h) ?_
    rw [Value.mem_keys_set]
    rcases hname with hname | ⟨d, hd⟩
    · exact .inl (.inr hname)
    · rcases List.mem_cons.1 hd with rfl | hd
      · exact .inl (.inl (Key.text.inj hkey))
      · exact .inr ⟨d, hd⟩

end Draft

namespace Record

variable {r : Record α} {site : Site} {ms : List (Key × Draft)}

/-- A member of the name of a field is read by this field. -/
theorem exists_update_of_foldlM {t : List String × α} : ∀ {s : List String × α},
    ms.foldlM (r.readMember site) s = .ok t → ∀ {name : String} {d : Draft} {f : Field α},
      (.text name, d) ∈ ms → r.field? name = some f → ∃ u, f.update site d = .ok u := by
  induction ms with
  | nil => nofun
  | cons m ms ih =>
    intro s h name d f hd hf
    obtain ⟨next, hnext, h⟩ := bind_eq_ok.1 h
    rcases List.mem_cons.1 hd with rfl | hd
    · cases readMember_eq_ok.1 hnext with
      | field hf' _ hu =>
        obtain rfl := Option.some.inj (hf.symm.trans hf')
        exact ⟨_, hu⟩
      | other hf' | skipped hf' => cases hf.symm.trans hf'
    · exact ih h hd hf

/-- No field is set without a member of its name. -/
theorem exists_of_mem_given {t : List String × α} : ∀ {s : List String × α},
    ms.foldlM (r.readMember site) s = .ok t →
      ∀ name ∈ t.1, name ∈ s.1 ∨ ∃ d, (.text name, d) ∈ ms := by
  induction ms with
  | nil =>
    rintro s ⟨⟩ name hname
    exact .inl hname
  | cons m ms ih =>
    intro s h name hname
    obtain ⟨next, hnext, h⟩ := bind_eq_ok.1 h
    rcases ih h name hname with hname | ⟨d, hd⟩
    · cases readMember_eq_ok.1 hnext with
      | field =>
        rcases List.mem_cons.1 hname with rfl | hname
        · exact .inr ⟨_, List.mem_cons_self ..⟩
        · exact .inl hname
      | other | skipped => exact .inl hname
    · exact .inr ⟨d, List.mem_cons_of_mem _ hd⟩

/-- All fields that must be there are set when an object has been read. -/
theorem exists_given_of_ofMembers {closing : Closing} {a : α} (h : r.ofMembers site ms closing = .ok a) :
    ∃ t, ms.foldlM (r.readMember site) ([], r.blank) = .ok t ∧
      ∀ f ∈ r.fields, f.presence = .required → f.name ∈ t.1 := by
  obtain ⟨⟨given, b⟩, hmembers, h⟩ := bind_eq_ok.1 h
  obtain ⟨_, -, h⟩ := bind_eq_ok.1 h
  rw [readMembers_eq_foldlM] at hmembers
  refine ⟨(given, b), hmembers, fun f hf hrequired => ?_⟩
  split at h
  · cases h
  · rename_i hmissing
    simpa [hrequired] using List.find?_eq_none.1 hmissing f hf

/-- A field that must be there stands in the raw value of every object that is read, with the value of
a draft that the field reads. -/
theorem exists_lookup_of_required (name : String) {f : Field α} (hf : r.field? name = some f)
    (hrequired : f.presence = .required) {P : Value → Prop} (hP : f.update.Shows P) {d : Draft}
    {a : α} (hread : r.decoder site d = .ok a) {room : Nat} {members : Members}
    (hkeep : d.keep room = .ok (.object members)) : ∃ w, members.lookup name = some w ∧ P w := by
  obtain ⟨hfield, rfl⟩ := mem_fields_of_field? hf
  obtain ⟨ms, closing, room, rfl, hkept⟩ := Draft.exists_keepMembers_of_keep hkeep
  obtain ⟨inner, -, hread⟩ := bind_eq_ok.1 hread
  obtain ⟨t, hmembers, hgiven⟩ := exists_given_of_ofMembers hread
  have hwritten : ∃ d, (.text f.name, d) ∈ ms :=
    (exists_of_mem_given hmembers _ (hgiven f hfield hrequired)).resolve_left List.not_mem_nil
  obtain ⟨w, hlookup⟩ : ∃ w, members.lookup f.name = some w := by
    rw [← Option.isSome_iff_exists, List.lookup_isSome_iff]
    obtain ⟨m, hm, hkey⟩ := List.mem_map.1 (Draft.mem_keys_of_keepMembers hkept (.inr hwritten))
    exact ⟨m, hm, beq_iff_eq.2 hkey.symm⟩
  -- it need not be the member that was found above, but every member of the name is read
  obtain ⟨d, hd, hkeep⟩ := (Draft.exists_of_mem_keepMembers hkept _
    (mem_of_lookup_eq_some hlookup)).resolve_left List.not_mem_nil
  obtain ⟨u, hu⟩ := exists_update_of_foldlM hmembers hd hf
  exact ⟨w, hlookup, hP _ hu hkeep⟩

end Record

end Json

open Json

/-! ## Bodies and documents -/

theorem Body.shows_decoder : record.decoder.Shows fun v => ∀ members, v = .object members →
    (∃ items, members.lookup "functions" = some (.array items)) ∧
      (members.lookup "root_schema").isSome = true := by
  rintro site d b room _ hread hkeep members rfl
  constructor
  · obtain ⟨_, hfunctions, items, rfl⟩ := Record.exists_lookup_of_required (r := record) "functions"
      rfl rfl (Decoder.shows_listOf _).field hread hkeep
    exact ⟨items, hfunctions⟩
  · have hany : RootSchema.record.decoder.Shows fun _ => True := fun _ _ _ _ _ _ _ => trivial
    obtain ⟨_, hschema, -⟩ := Record.exists_lookup_of_required (r := record) "root_schema" rfl rfl
      hany.field hread hkeep
    exact Option.isSome_of_eq_some hschema

namespace Document

theorem shows_decoder : record.decoder.Shows fun v => ∀ members, v = .object members →
    (∃ s, members.lookup "schema_version" = some (.string s)) ∧
      ∃ body, members.lookup "body" = some body ∧ ∀ parts, body = .object parts →
        (∃ items, parts.lookup "functions" = some (.array items)) ∧
          (parts.lookup "root_schema").isSome = true := by
  rintro site d b room _ hread hkeep members rfl
  constructor
  · obtain ⟨_, hversion, s, rfl⟩ := Record.exists_lookup_of_required (r := record) "schema_version"
      rfl rfl Decoder.shows_text.field hread hkeep
    exact ⟨s, hversion⟩
  · exact Record.exists_lookup_of_required (r := record) "body" rfl rfl Body.shows_decoder.field
      hread hkeep

/-- A text is parsed as the value of the draft that it is read from. -/
theorem exists_draft_of_parse {text : String} {d : Document} {v : Value} (h : parse text = .ok d)
    (hv : Value.parse text = .ok v) :
    ∃ draft, record.decoder (.whole .text) draft = .ok d ∧ draft.keep Draft.depthLimit = .ok v := by
  obtain ⟨hread, -⟩ := parse_eq_ok.1 h
  unfold ofText Decoder.ofText at hread
  unfold Value.parse at hv
  generalize Draft.ofText text = x at hread hv
  obtain ⟨draft, surplus⟩ := x
  obtain ⟨a, ha, hread⟩ := bind_eq_ok.1 hread
  obtain ⟨w, hw, hv⟩ := bind_eq_ok.1 hv
  cases surplus with
  | true => cases hread
  | false =>
    cases hread
    cases hv
    exact ⟨draft, ha, hw⟩

/-- The raw value of a text that is loaded has the outline of a document if the metadata are written
and the body is an object, and only then. -/
theorem looksLikeDocument_iff_of_parse {text : String} {d : Document} {v : Value}
    (h : parse text = .ok d) (hv : Value.parse text = .ok v) : looksLikeDocument v = true ↔
      (v.get? "metadata").isSome = true ∧ ∃ members, v.get? "body" = some (.object members) := by
  obtain ⟨draft, hread, hkeep⟩ := exists_draft_of_parse h hv
  cases v with
  | object members =>
    obtain ⟨⟨s, hversion⟩, body, hbody, hparts⟩ := shows_decoder _ hread hkeep members rfl
    have hlooks : looksLikeDocument (.object members) = ((members.lookup "metadata").isSome &&
        (((body.get? "functions").bind Value.asArray?).isSome &&
          (body.get? "root_schema").isSome)) := by
      simp only [looksLikeDocument, Value.get?, hversion, hbody]
      rfl
    rw [hlooks, Bool.and_eq_true]
    refine and_congr_right fun _ => ?_
    rw [Value.get?, hbody]
    cases body with
    | object parts =>
      obtain ⟨⟨items, hfunctions⟩, hschema⟩ := hparts parts rfl
      simp [Value.get?, hfunctions, hschema, Value.asArray?]
    | null | bool | number | string | array => simp [Value.get?]
  | null | bool | number | string | array => simp [looksLikeDocument, Value.get?]

theorem parse_of_draft {text : String} {draft : Draft} {d : Document} {v : Value}
    (hdraft : Draft.ofText text = (draft, false))
    (hread : record.decoder (.whole .text) draft = .ok d) (hcheck : d.check = .ok ())
    (hkeep : draft.keep Draft.depthLimit = .ok v) :
    parse text = .ok d ∧ Value.parse text = .ok v := by
  constructor
  · rw [parse_eq_ok, ofText, Decoder.ofText, hdraft]
    exact ⟨bind_eq_ok.2 ⟨d, hread, rfl⟩, hcheck⟩
  · rw [Value.parse, hdraft]
    exact bind_eq_ok.2 ⟨v, hkeep, rfl⟩

set_option maxRecDepth 10000 in
/-- The smallest document with its metadata. -/
theorem looksLikeDocument_iff_of_parse_smallest :
    let text := "\x7b\"schema_version\":\"0.4.0\",\"metadata\":\x7b\x7d," ++
      "\"body\":\x7b\"functions\":[],\"root_schema\":\x7b\x7d\x7d\x7d"
    let v : Value := .object [("schema_version", .string "0.4.0"), ("metadata", .object []),
      ("body", .object [("functions", .array []), ("root_schema", .object [])])]
    parse text = .ok ⟨"0.4.0", .blank, ⟨[], .blank⟩⟩ ∧ Value.parse text = .ok v ∧
      (looksLikeDocument v = true ↔
        (v.get? "metadata").isSome = true ∧ ∃ members, v.get? "body" = some (.object members)) := by
  intro text v
  have hdraft : Draft.ofText text = (.object [(.text "schema_version", .text "0.4.0"),
    (.text "metadata", .object [] .closed), (.text "body", .object [(.text "functions",
      .list [] .closed), (.text "root_schema", .object [] .closed)] .closed)] .closed, false) := by cbv
  obtain ⟨hd, hv⟩ := parse_of_draft (d := ⟨"0.4.0", .blank, ⟨[], .blank⟩⟩) (v := v) hdraft (by cbv)
    rfl rfl
  exact ⟨hd, hv, looksLikeDocument_iff_of_parse hd hv⟩

set_option maxRecDepth 10000 in
/-- Two texts that are loaded, without the outline of a document in their values: in one there are
no metadata, and in the other the body is the list of its fields. -/
theorem parse_without_outline :
    let bare := "\x7b\"schema_version\":\"0.4.0\"," ++
      "\"body\":\x7b\"functions\":[],\"root_schema\":\x7b\x7d\x7d\x7d"
    let listed := "\x7b\"schema_version\":\"0.4.0\",\"metadata\":\x7b\x7d," ++
      "\"body\":[[],\x7b\x7d]\x7d"
    (∃ d v, parse bare = .ok d ∧ Value.parse bare = .ok v ∧ looksLikeDocument v = false) ∧
      ∃ d v, parse listed = .ok d ∧ Value.parse listed = .ok v ∧ looksLikeDocument v = false := by
  intro bare listed
  have hbare : Draft.ofText bare = (.object [(.text "schema_version", .text "0.4.0"), (.text "body",
    .object [(.text "functions", .list [] .closed), (.text "root_schema", .object [] .closed)]
      .closed)] .closed, false) := by cbv
  have hlisted : Draft.ofText listed = (.object [(.text "schema_version", .text "0.4.0"),
    (.text "metadata", .object [] .closed), (.text "body",
      .list [.list [] .closed, .object [] .closed] .closed)] .closed, false) := by cbv
  have hcheck : check ⟨"0.4.0", .blank, ⟨[], .blank⟩⟩ = .ok () := rfl
  constructor
  · let v : Value := .object [("schema_version", .string "0.4.0"),
      ("body", .object [("functions", .array []), ("root_schema", .object [])])]
    obtain ⟨hd, hv⟩ := parse_of_draft (v := v) hbare rfl hcheck rfl
    exact ⟨_, v, hd, hv, rfl⟩
  · let v : Value := .object [("schema_version", .string "0.4.0"), ("metadata", .object []),
      ("body", .array [.array [], .object []])]
    obtain ⟨hd, hv⟩ := parse_of_draft (v := v) hlisted (by cbv) hcheck rfl
    exact ⟨_, v, hd, hv, rfl⟩

end Document

end ContractInterface
