/-
A document is read back from its canonical text. Encoding leaves out what decoding fills in, so the
written form of a document is decoded as the document itself (`Document.inverts_decoder`); the
canonical text differs from it in the order of members only.
-/
import Mathlib
import ContractInterface.Proofs.Document.Equality
import ContractInterface.Proofs.Document.Reordering
import ContractInterface.Proofs.Json.Inverse

namespace ContractInterface

open Json

/-! ## Members -/

namespace Json.Record

variable {α β : Type} {r : Record α} {site : Site} {presence : Presence}
  {decoder : Decoder β} {encode : β → Value} {P : β → Prop} {room : ℕ}

/-- A member that is left out stands for null. -/
theorem takes_memberIf? (name : String) {set : Option β → α → α} (o : Option β)
    (hf : r.field? name = some (.of name presence decoder.nullable set))
    (h : decoder.Inverts room P encode) (hroom : site.room = room) (ho : ∀ x ∈ o, P x)
    (hnull : ∀ x, encode x ≠ .null) {a : α} (ha : set none a = a) :
    r.Takes site (memberIf? name encode o) a (set o a) := by
  cases o with
  | none => exact ha.symm ▸ .nil a
  | some x =>
    refine takes_field name hf ?_ a
    rw [Decoder.nullable_draft (hnull x), h site x hroom (ho x rfl)]
    rfl

/-- A list member that is left out stands for the empty list. -/
theorem takes_memberUnlessEmpty (name : String) {set : List β → α → α} (items : List β)
    (hf : r.field? name = some (.of name presence decoder.listOf set))
    (h : decoder.Inverts room P encode) (hroom : site.room = room + 1) (hitems : ∀ x ∈ items, P x)
    {a : α} (ha : set [] a = a) :
    r.Takes site (memberUnlessEmpty name encode items) a (set items a) := by
  cases items with
  | nil => exact ha.symm ▸ .nil a
  | cons x items => exact takes_field name hf (h.listOf site _ hroom hitems) a

end Json.Record

/-! ## Functions -/

variable {room : ℕ}

theorem Format.lookup_name (f : Format) : variants.lookup f.name = some f := by
  cases f <;> decide

theorem Modifier.lookup_name (m : Modifier) : variants.lookup m.name = some m := by
  cases m <;> decide

theorem Parameter.inverts_decoder :
    record.decoder.Inverts (room + 1) (Parameter.Fits room) Parameter.toValue := by
  refine Record.inverts (fun site p hroom hp => ?_) (fun _ hp => hp.toValue.nodup)
    fun _ => by simp [record, Field.of]
  have hname := Record.takes_field (r := record) "name" rfl
    (Decoder.inverts_text site p.name rfl trivial) record.blank
  have hschema := Record.takes_field (r := record) "type_schema" rfl
    (Decoder.inverts_value site p.schema hroom hp) ⟨p.name, .null⟩
  exact hname.append hschema

theorem ParameterBlock.inverts_decoder :
    decoder.Inverts (room + 3) (ParameterBlock.Fits room) ParameterBlock.toValue := by
  rintro site ⟨format, ps⟩ hroom hps
  let members (ps : List Parameter) : Members := [("args", .array (ps.map Parameter.toValue))]
  have hmembers : ∀ ps : List Parameter, (∀ p ∈ ps, p.Fits room) → ∀ m ∈ members ps,
      m.1 ≠ "serialization_type" ∧ m.2.Fits (room + 2) := fun ps hps => by
    refine List.forall_mem_singleton.2 ⟨by simp, .array fun v hv => ?_⟩
    obtain ⟨p, hp, rfl⟩ := List.mem_map.1 hv
    exact (hps p hp).toValue
  have hrecord : ∀ site (ps : List Parameter), site.room = room + 2 → (∀ p ∈ ps, p.Fits room) →
      Parameter.listRecord.ofMembers site (Value.draftMembers (members ps)) .closed = .ok ps :=
    fun site ps hroom hps => by
    have hargs := Parameter.inverts_decoder.listOf site ps hroom hps
    refine Record.Takes.ofMembers ?_ (List.nodup_singleton _)
      (by simp [Parameter.listRecord, Field.of])
    exact Record.takes_field (r := Parameter.listRecord) "args" rfl hargs _
  have hblock := Block.inverts (b := ⟨"AbiParameters", "serialization_type", Format.variants,
    Parameter.listRecord⟩) Format.name members Format.lookup_name hmembers hrecord site (format, ps)
    hroom hps
  exact bind_eq_ok.2 ⟨(format, ps), hblock, rfl⟩

theorem ResultBlock.inverts_decoder :
    decoder.Inverts (room + 1) (ResultBlock.Fits room) ResultBlock.toValue := by
  rintro site ⟨format, v⟩ hroom hv
  let members (v : Value) : Members := [("type_schema", v)]
  have hmembers : ∀ v : Value, v.Fits room → ∀ m ∈ members v,
      m.1 ≠ "serialization_type" ∧ m.2.Fits room := fun v hv =>
    List.forall_mem_singleton.2 ⟨by simp, hv⟩
  have hrecord : ∀ site (v : Value), site.room = room → v.Fits room →
      schemaRecord.ofMembers site (Value.draftMembers (members v)) .closed = .ok v :=
    fun site v hroom hv => by
    refine Record.Takes.ofMembers ?_ (List.nodup_singleton _) (by simp [schemaRecord, Field.of])
    exact Record.takes_field (r := schemaRecord) "type_schema" rfl
      (Decoder.inverts_value site v hroom hv) _
  have hblock := Block.inverts (b := ⟨"AbiType", "serialization_type", Format.variants, schemaRecord⟩)
    Format.name members Format.lookup_name hmembers hrecord site (format, v) hroom hv
  exact bind_eq_ok.2 ⟨(format, v), hblock, rfl⟩

theorem Kind.inverts_decoder : decoder.Inverts room (fun _ => True) fun k => .string k.tag :=
  fun _ _ _ _ => rfl

theorem Function.inverts_decoder :
    record.decoder.Inverts (room + 4) (Function.Fits room) Function.toValue := by
  refine Record.inverts (fun site f hroom hf => ?_) (fun _ hf => hf.toValue.nodup)
    fun _ => by simp [record, Field.of]
  have hname := Record.takes_field (r := record) "name" rfl
    (Decoder.inverts_text site f.name rfl trivial) record.blank
  have hmembers := ((((((hname.append
    (Record.takes_memberIf? "doc" f.doc rfl Decoder.inverts_text hroom (by simp) (by simp)
      rfl)).append
    (Record.takes_memberIf? "kind" f.kind rfl Kind.inverts_decoder hroom (by simp) (by simp)
      rfl)).append
    (Record.takes_memberUnlessEmpty "modifiers" f.modifiers rfl
      (Decoder.inverts_variant Modifier.lookup_name) hroom (by simp) rfl)).append
    (Record.takes_memberIf? "params" f.params rfl ParameterBlock.inverts_decoder hroom hf.params
      (by simp [ParameterBlock.toValue]) rfl)).append
    (Record.takes_memberUnlessEmpty "callbacks" f.callbacks rfl Decoder.inverts_value hroom
      hf.callbacks rfl)).append
    (Record.takes_memberIf? "result" f.result rfl ResultBlock.inverts_decoder hroom hf.result
      (by simp [ResultBlock.toValue]) rfl))
  exact hmembers

/-! ## Documents -/

theorem BuildInfo.inverts_decoder :
    record.decoder.Inverts (room + 1) (fun _ => True) BuildInfo.toValue := by
  refine Record.inverts (fun site b hroom _ => ?_) (fun b _ => (@BuildInfo.fits_toValue room b).nodup)
    fun _ => by simp [record, Field.of]
  have htext : Decoder.text.Inverts room (fun _ => True) .string := Decoder.inverts_text
  have hmembers := ((Record.takes_memberIf? (r := record) (a := record.blank) "compiler" b.compiler rfl
    htext hroom (by simp) (by simp) rfl).append
    (Record.takes_memberIf? "builder" b.builder rfl htext hroom (by simp) (by simp) rfl)).append
    (Record.takes_memberIf? "image" b.image rfl htext hroom (by simp) (by simp) rfl)
  exact hmembers

theorem Metadata.inverts_decoder :
    decoder.Inverts (room + 2) (Metadata.Fits room) Metadata.toValue := by
  intro site m hroom hm
  have hrecord : record.decoder.Inverts (room + 2) (Metadata.Fits room) Metadata.toValue := by
    refine Record.inverts (fun site m hroom hm => ?_) (fun _ hm => hm.toValue.nodup)
      fun _ => by simp [record, Field.of]
    have htext : Decoder.text.Inverts (room + 1) (fun _ => True) .string := Decoder.inverts_text
    have hothers := Record.takes_others (r := record)
      (fun other => { m with other }) rfl (fun _ _ _ => rfl) hm.names
      (fun x hx => (hroom ▸ hm.other.fits x hx : x.2.Fits site.room)) [] hm.other.nodup
    have hmembers := (((((Record.takes_memberIf? (r := record) (a := record.blank) "name" m.name rfl
      htext hroom (by simp) (by simp) rfl).append
      (Record.takes_memberIf? "version" m.version rfl htext hroom (by simp) (by simp) rfl)).append
      (Record.takes_memberUnlessEmpty "authors" m.authors rfl Decoder.inverts_text hroom (by simp)
        rfl)).append
      (Record.takes_memberIf? "build" m.build rfl BuildInfo.inverts_decoder hroom (by simp)
        (by simp [BuildInfo.toValue]) rfl)).append
      (Record.takes_memberIf? "wasm_hash" m.wasmHash rfl htext hroom (by simp) (by simp) rfl)).append
      hothers
    exact hmembers
  refine bind_eq_ok.2 ⟨m, hrecord site m hroom hm, ?_⟩
  rw [hm.ordered]
  rfl

theorem RootSchema.inverts_decoder :
    record.decoder.Inverts (room + 2) (RootSchema.Fits room) RootSchema.toValue := by
  refine Record.inverts (fun site r hroom hr => ?_) (fun _ hr => hr.toValue.nodup)
    fun _ => by simp [record, Field.of]
  have htext : Decoder.text.Inverts (room + 1) (fun _ => True) .string := Decoder.inverts_text
  have hdefinitions := Record.takes_field (r := record) "definitions" rfl
    (Decoder.inverts_table site r.definitions hroom hr.definitions)
    ⟨r.dialect, r.title, [], [], []⟩
  have hlocal : record.Takes site
      (if r.localDefinitions.isEmpty then [] else [("$defs", .object r.localDefinitions)])
      ⟨r.dialect, r.title, r.definitions, [], []⟩
      ⟨r.dialect, r.title, r.definitions, r.localDefinitions, []⟩ := by
    split
    · rename_i hempty
      rw [List.isEmpty_iff.1 hempty]
      exact .nil _
    · exact Record.takes_field (r := record) "$defs" rfl
        (Decoder.inverts_table site r.localDefinitions hroom hr.localDefinitions) _
  have hothers := Record.takes_others (r := record) (fun extra => { r with extra }) rfl
    (fun _ _ _ => rfl) hr.names
    (fun x hx => (hroom ▸ hr.extra.fits x hx : x.2.Fits site.room)) [] hr.extra.nodup
  have hmembers := ((((Record.takes_memberIf? (r := record) (a := record.blank) "$schema" r.dialect rfl
    htext hroom (by simp) (by simp) rfl).append
    (Record.takes_memberIf? "title" r.title rfl htext hroom (by simp) (by simp) rfl)).append
    hdefinitions).append hlocal).append hothers
  exact hmembers

theorem Body.inverts_decoder :
    record.decoder.Inverts (room + 6) (Body.Fits room) Body.toValue := by
  refine Record.inverts (fun site b hroom hb => ?_) (fun _ hb => hb.toValue.nodup)
    fun _ => by simp [record, Field.of]
  have hfunctions := Record.takes_field (r := record) "functions" rfl
    (Function.inverts_decoder.listOf site b.functions hroom hb.functions) record.blank
  have hroot := Record.takes_field (r := record) "root_schema" rfl
    (RootSchema.inverts_decoder site b.rootSchema hroom hb.rootSchema) ⟨b.functions, .blank⟩
  exact hfunctions.append hroot

namespace Document

/-- The written form of a document is decoded as the document. -/
theorem inverts_decoder :
    record.decoder.Inverts (room + 7) (Document.Fits room) Document.toValue := by
  refine Record.inverts (fun site d hroom hd => ?_) (fun _ hd => hd.toValue.nodup)
    fun _ => by simp [record, Field.of]
  have hversion := Record.takes_field (r := record) "schema_version" rfl
    (Decoder.inverts_text site d.schemaVersion rfl trivial) record.blank
  have hmetadata := Record.takes_field (r := record) "metadata" rfl
    (Metadata.inverts_decoder site d.metadata hroom hd.metadata)
    ⟨d.schemaVersion, .blank, ⟨[], .blank⟩⟩
  have hbody := Record.takes_field (r := record) "body" rfl
    (Body.inverts_decoder site d.body hroom hd.body) ⟨d.schemaVersion, d.metadata, ⟨[], .blank⟩⟩
  exact (hversion.append hmetadata).append hbody

/-! ## Canonical texts -/

/-- A document is read back from its text with the fields in their order. -/
theorem Fits.ofText_serialized {d : Document} (h : d.Fits 120) : ofText d.serialized = .ok d := by
  unfold ofText Decoder.ofText
  rw [serialized, Value.ofText_text]
  exact bind_eq_ok.2 ⟨d, inverts_decoder _ d rfl h, rfl⟩

/-- The canonical text of a document is a text of the same document. -/
theorem Fits.ofText_canonicalText {d : Document} (h : d.Fits 120) :
    ∃ e, ofText d.canonicalText = .ok e ∧ e.ordered = d.ordered := by
  have hread := inverts_decoder (.whole .text) d rfl h
  obtain ⟨e, he, hde⟩ := orderly.respects (.whole .text) h.toValue.alike_draft_ordered d hread
  refine ⟨e, ?_, hde.symm⟩
  unfold ofText Decoder.ofText
  rw [canonicalText, Value.ofText_text]
  exact bind_eq_ok.2 ⟨e, he, rfl⟩

/-- A document is read back from its canonical text, up to the order of members in raw values. -/
theorem parse_canonicalText {t : String} {d : Document} (h : parse t = .ok d) :
    ∃ e, parse d.canonicalText = .ok e ∧ e.ordered = d.ordered := by
  obtain ⟨-, hcheck⟩ := parse_eq_ok.1 h
  obtain ⟨e, he, hde⟩ := (fits_of_parse h).ofText_canonicalText
  exact ⟨e, parse_eq_ok.2 ⟨he, check_congr hde ▸ hcheck⟩, hde⟩

/-! ## Canonical bytes -/

theorem toList_loop (bytes : ByteArray) (i : ℕ) (sofar : List UInt8) :
    ByteArray.toList.loop bytes i sofar = sofar.reverse ++ bytes.data.toList.drop i := by
  fun_induction ByteArray.toList.loop bytes i sofar with
  | case1 i sofar h ih =>
    have hi : i < bytes.data.toList.length := h
    have hget : bytes.get! i = bytes.data.toList[i] := by
      rw [ByteArray.get!, Array.getElem_toList]
      exact getElem!_pos bytes.data i h
    rw [ih, List.drop_eq_getElem_cons hi, hget, List.reverse_cons, List.append_assoc,
      List.singleton_append]
  | case2 i sofar h =>
    have hi : bytes.data.toList.length ≤ i := Nat.le_of_not_lt h
    rw [List.drop_eq_nil_of_le hi, List.append_nil]

theorem canonicalText_eq_of_canonicalBytes_eq {d e : Document}
    (h : d.canonicalBytes = e.canonicalBytes) : d.canonicalText = e.canonicalText := by
  have hbytes : d.canonicalText.toUTF8.data.toList = e.canonicalText.toUTF8.data.toList := by
    unfold canonicalBytes ByteArray.toList at h
    simpa only [toList_loop, List.reverse_nil, List.nil_append, List.drop_zero] using h
  exact String.toByteArray_inj.1 (ByteArray.ext (Array.toList_inj.1 hbytes))

/-- Documents with the same canonical bytes are the same, up to the order of members in raw values. -/
theorem ordered_eq_of_canonicalBytes_eq {t u : String} {d e : Document} (hd : parse t = .ok d)
    (he : parse u = .ok e) (h : d.canonicalBytes = e.canonicalBytes) : d.ordered = e.ordered := by
  obtain ⟨d', hd', hdd⟩ := parse_canonicalText hd
  obtain ⟨e', he', hee⟩ := parse_canonicalText he
  rw [canonicalText_eq_of_canonicalBytes_eq h] at hd'
  obtain rfl : d' = e' := Except.ok.inj (hd'.symm.trans he')
  exact hdd.symm.trans hee

/-! ## Pins -/

theorem splitAtColon_append (algorithm digest : List Char) (h : ':' ∉ algorithm) :
    splitAtColon (algorithm ++ ':' :: digest) = some (algorithm, digest) := by
  induction algorithm with
  | nil => rfl
  | cons c algorithm ih =>
    obtain ⟨hc, hrest⟩ := not_or.1 (mt List.mem_cons.2 h)
    rw [List.cons_append, splitAtColon, ih hrest]
    · rfl
    · exact fun heq => hc heq.symm

/-- Content passes its fingerprint. -/
theorem checkPin_fingerprintOf (content : List UInt8) :
    checkPin content (fingerprintOf content) = .ok () := by
  have hsplit : splitAtColon (fingerprintOf content).toList =
      some ("sha256".toList, (sha256Hex content).toList) := by
    rw [fingerprintOf, String.toList_append]
    exact splitAtColon_append "sha256".toList _ (by decide)
  unfold checkPin
  rw [hsplit]
  simp only [String.ofList_toList, if_true]
  have hsame : sameIgnoringCase (sha256Hex content) (sha256Hex content) = true := beq_self_eq_true _
  rw [if_pos hsame]

/-! ## Documents from their canonical texts -/

/-- A pin covers the whole document. The canonical text of a document is read as an equal document,
with the same canonical text; documents with the same canonical bytes are equal; and the canonical text
passes the fingerprint. -/
theorem canonicalText_roundTrip {t : String} {d : Document} (h : parse t = .ok d) :
    (∃ e, parse d.canonicalText = .ok e ∧ e.same d = true ∧ e.ordered = d.ordered ∧
        e.canonicalText = d.canonicalText) ∧
      (∀ u e, parse u = .ok e → e.canonicalBytes = d.canonicalBytes →
        e.same d = true ∧ e.ordered = d.ordered) ∧
      ∃ e, parsePinned d.canonicalText d.fingerprint = .ok e := by
  have hsame : ∀ {u : String} {e : Document}, parse u = .ok e → e.ordered = d.ordered →
      e.same d = true := fun he => (fits_of_parse he).same_of_ordered_eq (fits_of_parse h)
  obtain ⟨e, he, hed⟩ := parse_canonicalText h
  refine ⟨⟨e, he, hsame he hed, hed, ?_⟩, fun u e he hbytes => ?_, e, ?_⟩
  · rw [← canonicalText_ordered, hed, canonicalText_ordered]
  · have hordered := ordered_eq_of_canonicalBytes_eq he h hbytes
    exact ⟨hsame he hordered, hordered⟩
  · refine bind_eq_ok.2 ⟨e, he, bind_eq_ok.2 ⟨(), mapError_eq_ok.2 ?_, rfl⟩⟩
    rw [canonicalBytes_congr hed]
    exact checkPin_fingerprintOf _

set_option maxRecDepth 10000 in
/-- A text with a function whose result has a schema, not in the order of its names. -/
theorem canonicalText_roundTrip_get :
    let t := "\x7b\"schema_version\":\"0.4.0\",\"metadata\":\x7b\x7d,\"body\":\x7b\"functions\":[" ++
      "\x7b\"name\":\"get\",\"kind\":\"view\",\"result\":\x7b\"serialization_type\":\"json\"," ++
      "\"type_schema\":\x7b\"type\":\"string\",\"enum\":[\"a\"]\x7d\x7d\x7d]," ++
      "\"root_schema\":\x7b\"definitions\":\x7b\x7d\x7d\x7d\x7d"
    let get : Function := ⟨"get", none, some .view, [], none, [], some ⟨.json,
      .object [("type", .string "string"), ("enum", .array [.string "a"])]⟩⟩
    let d : Document := ⟨"0.4.0", .blank, ⟨[get], .blank⟩⟩
    parse t = .ok d ∧
      (∃ e, parse d.canonicalText = .ok e ∧ e.same d = true ∧ e.ordered = d.ordered ∧
        e.canonicalText = d.canonicalText) ∧
      (∀ u e, parse u = .ok e → e.canonicalBytes = d.canonicalBytes →
        e.same d = true ∧ e.ordered = d.ordered) ∧
      ∃ e, parsePinned d.canonicalText d.fingerprint = .ok e := by
  intro t get d
  have ht : d.serialized = t := by cbv
  have hfits : d.Fits 120 := by
    refine ⟨Metadata.fits_blank, List.forall_mem_singleton.2 ⟨by simp, List.forall_mem_nil _, ?_⟩,
      RootSchema.fits_blank⟩
    rintro _ ⟨⟩
    refine .object (by decide) (List.forall_mem_cons.2 ⟨.string _, List.forall_mem_singleton.2 ?_⟩)
    exact .array (List.forall_mem_singleton.2 (.string _))
  have hcheck : d.check = .ok () := by cbv
  have hparse : parse t = .ok d := parse_eq_ok.2 ⟨ht ▸ hfits.ofText_serialized, hcheck⟩
  exact ⟨hparse, canonicalText_roundTrip hparse⟩

end Document

end ContractInterface
