/-
Texts of the same value are texts of the same document. Where one of two such texts is read, so is the
other, and their documents differ at most in the order of members in raw values
(`Document.follows_parse`). So their canonical texts are the same, and they pass the same pins
(`Document.parse_of_sameValue`).
-/
import Mathlib
import ContractInterface.Document.Decoding
import ContractInterface.Proofs.Document.Order
import ContractInterface.Proofs.Json.SameValue
import ContractInterface.Proofs.Json.TagOrder

namespace ContractInterface

open Json

/-! ## Functions -/

/-- A record without other members is orderly if its fields are. -/
theorem Json.Record.Orderly.of_fields {α γ : Type} {r : Record α} {form : α → γ}
    (hadd : r.addOther = none) (hfields : ∀ f ∈ r.fields, f.Respects form)
    (hcommute : r.fields.Pairwise Field.Commutes) : r.Orderly form where
  fields := hfields
  commute := hcommute
  add := by
    rw [hadd]
    rintro _ ⟨⟩
  add_add := by
    rw [hadd]
    rintro _ ⟨⟩
  add_field := by
    rw [hadd]
    rintro _ ⟨⟩

theorem Parameter.orderly : record.Orderly Parameter.ordered := by
  refine .of_fields rfl ?_ ?_
  · simp only [record, List.forall_mem_cons]
    refine ⟨Field.respects_of Decoder.respects_text fun _ _ => rfl,
      Field.respects_of Decoder.respects_value fun _ _ => rfl, List.forall_mem_nil _⟩
  · simp only [record, List.pairwise_cons, List.forall_mem_cons]
    exact ⟨⟨Field.of_commutes fun _ _ _ => rfl, List.forall_mem_nil _⟩, List.forall_mem_nil _,
      .nil⟩

theorem Parameter.orderly_list : listRecord.Orderly (List.map Parameter.ordered) := by
  refine .of_fields rfl ?_ (List.pairwise_singleton ..)
  simp only [listRecord, List.forall_mem_cons]
  exact ⟨Field.respects_of (Decoder.respects_listOf Parameter.orderly.respects) fun _ _ => rfl,
    List.forall_mem_nil _⟩

theorem ParameterBlock.respects_decoder : decoder.Respects ParameterBlock.ordered := by
  intro site d e hde
  refine (Block.respects Parameter.orderly_list site hde).bind ?_
  rintro ⟨format, ps⟩ ⟨format', qs⟩ h
  obtain ⟨rfl, hps⟩ := Prod.mk.inj h
  exact .ok (congrArg (ParameterBlock.mk format) hps)

theorem ResultBlock.orderly : schemaRecord.Orderly Value.ordered := by
  refine .of_fields rfl ?_ (List.pairwise_singleton ..)
  simp only [schemaRecord, List.forall_mem_cons]
  exact ⟨Field.respects_of Decoder.respects_value fun _ _ => rfl, List.forall_mem_nil _⟩

theorem ResultBlock.respects_decoder : decoder.Respects ResultBlock.ordered := by
  intro site d e hde
  refine (Block.respects ResultBlock.orderly site hde).bind ?_
  rintro ⟨format, v⟩ ⟨format', w⟩ h
  obtain ⟨rfl, hvw⟩ := Prod.mk.inj h
  exact .ok (congrArg (ResultBlock.mk format) hvw)

theorem Kind.respects_decoder : decoder.Respects id := fun site _ _ hde =>
  (Decoder.respects_text site hde).map fun _ _ => congrArg Kind.mk

theorem Function.orderly : record.Orderly Function.ordered := by
  refine .of_fields rfl ?_ ?_
  · simp only [record, List.forall_mem_cons]
    refine ⟨Field.respects_of Decoder.respects_text fun _ _ => rfl,
      Field.respects_of (Decoder.respects_nullable Decoder.respects_text) fun _ _ => ?_,
      Field.respects_of (Decoder.respects_nullable Kind.respects_decoder) fun _ _ => ?_,
      Field.respects_of (Decoder.respects_listOf (Decoder.respects_variant _)) fun _ _ => ?_,
      Field.respects_of (Decoder.respects_nullable ParameterBlock.respects_decoder) fun _ _ => rfl,
      Field.respects_of (Decoder.respects_listOf Decoder.respects_value) fun _ _ => rfl,
      Field.respects_of (Decoder.respects_nullable ResultBlock.respects_decoder) fun _ _ => rfl,
      List.forall_mem_nil _⟩
    all_goals simp [Function.ordered]
  · simp only [record, List.pairwise_cons, List.forall_mem_cons]
    and_intros
    all_goals first | exact Field.of_commutes fun _ _ _ => rfl | simp

/-! ## Documents -/

theorem BuildInfo.orderly : record.Orderly id := by
  have htext := Decoder.respects_nullable Decoder.respects_text
  rw [Option.map_id] at htext
  refine .of_fields rfl ?_ ?_
  · simp only [record, List.forall_mem_cons]
    exact ⟨Field.respects_of htext fun _ _ => rfl, Field.respects_of htext fun _ _ => rfl,
      Field.respects_of htext fun _ _ => rfl, List.forall_mem_nil _⟩
  · simp only [record, List.pairwise_cons, List.forall_mem_cons]
    and_intros
    all_goals first | exact Field.of_commutes fun _ _ _ => rfl | simp

theorem Metadata.orderly : record.Orderly Metadata.ordered where
  fields := by
    have htext := Decoder.respects_nullable Decoder.respects_text
    have htexts := Decoder.respects_listOf Decoder.respects_text
    have hbuild := Decoder.respects_nullable BuildInfo.orderly.respects
    rw [Option.map_id] at htext hbuild
    rw [List.map_id_fun] at htexts
    simp only [record, List.forall_mem_cons]
    exact ⟨Field.respects_of htext fun _ _ => rfl, Field.respects_of htext fun _ _ => rfl,
      Field.respects_of htexts fun _ _ => rfl, Field.respects_of hbuild fun _ _ => rfl,
      Field.respects_of htext fun _ _ => rfl, List.forall_mem_nil _⟩
  commute := by
    simp only [record, List.pairwise_cons, List.forall_mem_cons]
    and_intros
    all_goals first | exact Field.of_commutes fun _ _ _ => rfl | simp
  add := by
    rintro _ ⟨⟩ name v w m n hvw hmn
    have hother : m.other.ordered = n.other.ordered := congrArg Metadata.other hmn
    have hset := Members.ordered_set hother name hvw
    exact congrArg₂ (fun m other => { m with other }) hmn hset
  add_add := by
    rintro _ ⟨⟩ name other v w m hne
    exact congrArg (fun other => { m with other }) (Members.ordered_set_set m.other hne v w)
  add_field := by
    rintro _ ⟨⟩ f hf site d u hu name v m
    simp only [record, List.mem_cons, List.not_mem_nil, or_false] at hf
    rcases hf with rfl | rfl | rfl | rfl | rfl
    all_goals
      obtain ⟨_, -, rfl⟩ := map_eq_ok.1 hu
      rfl

theorem Metadata.respects_decoder : decoder.Respects Metadata.ordered := fun site _ _ hde =>
  (Metadata.orderly.respects site hde).map fun m n hmn => by
    simp only [Metadata.ordered, Members.ordered_orderMembers]
    exact hmn

theorem RootSchema.orderly : record.Orderly RootSchema.ordered where
  fields := by
    have htext := Decoder.respects_nullable Decoder.respects_text
    rw [Option.map_id] at htext
    simp only [record, List.forall_mem_cons]
    exact ⟨Field.respects_of htext fun _ _ => rfl, Field.respects_of htext fun _ _ => rfl,
      Field.respects_of Decoder.respects_table fun _ _ => rfl,
      Field.respects_of Decoder.respects_table fun _ _ => rfl, List.forall_mem_nil _⟩
  commute := by
    simp only [record, List.pairwise_cons, List.forall_mem_cons]
    and_intros
    all_goals first | exact Field.of_commutes fun _ _ _ => rfl | simp
  add := by
    rintro _ ⟨⟩ name v w r s hvw hrs
    have hextra : r.extra.ordered = s.extra.ordered := congrArg RootSchema.extra hrs
    have hset := Members.ordered_set hextra name hvw
    exact congrArg₂ (fun r extra => { r with extra }) hrs hset
  add_add := by
    rintro _ ⟨⟩ name other v w r hne
    exact congrArg (fun extra => { r.ordered with extra }) (Members.ordered_set_set r.extra hne v w)
  add_field := by
    rintro _ ⟨⟩ f hf site d u hu name v r
    simp only [record, List.mem_cons, List.not_mem_nil, or_false] at hf
    rcases hf with rfl | rfl | rfl | rfl
    all_goals
      obtain ⟨_, -, rfl⟩ := map_eq_ok.1 hu
      rfl

theorem Body.orderly : record.Orderly Body.ordered := by
  refine .of_fields rfl ?_ ?_
  · simp only [record, List.forall_mem_cons]
    exact ⟨Field.respects_of (Decoder.respects_listOf Function.orderly.respects) fun _ _ => rfl,
      Field.respects_of RootSchema.orderly.respects fun _ _ => rfl, List.forall_mem_nil _⟩
  · simp only [record, List.pairwise_cons, List.forall_mem_cons]
    exact ⟨⟨Field.of_commutes fun _ _ _ => rfl, List.forall_mem_nil _⟩, List.forall_mem_nil _, .nil⟩

namespace Document

theorem orderly : record.Orderly Document.ordered := by
  refine .of_fields rfl ?_ ?_
  · simp only [record, List.forall_mem_cons]
    exact ⟨Field.respects_of Decoder.respects_text fun _ _ => rfl,
      Field.respects_of Metadata.respects_decoder fun _ _ => rfl,
      Field.respects_of Body.orderly.respects fun _ _ => rfl, List.forall_mem_nil _⟩
  · simp only [record, List.pairwise_cons, List.forall_mem_cons]
    and_intros
    all_goals first | exact Field.of_commutes fun _ _ _ => rfl | simp

/-! ## Texts -/

variable {t u : String}

theorem follows_ofText (h : SameValue t u) :
    Follows (fun d e => d.ordered = e.ordered) (ofText t) (ofText u) := by
  obtain ⟨hdraft, hsurplus⟩ := h
  unfold ofText Decoder.ofText
  generalize Draft.ofText t = x at hdraft hsurplus ⊢
  generalize Draft.ofText u = y at hdraft hsurplus ⊢
  obtain ⟨d, surplus⟩ := x
  obtain ⟨e, surplus'⟩ := y
  obtain rfl : surplus = surplus' := hsurplus
  refine (orderly.respects _ hdraft).bind fun d e hde => ?_
  cases surplus with
  | true => exact .error _
  | false => exact .ok hde

theorem check_congr {d e : Document} (h : d.ordered = e.ordered) : d.check = e.check := by
  rw [← check_ordered, h, check_ordered]

theorem canonicalBytes_congr {d e : Document} (h : d.ordered = e.ordered) :
    d.canonicalBytes = e.canonicalBytes := by
  rw [canonicalBytes, ← canonicalText_ordered, h, canonicalText_ordered, canonicalBytes]

/-- Where one text of a value is a document, so is every other. -/
theorem follows_parse (h : SameValue t u) :
    Follows (fun d e => d.ordered = e.ordered) (parse t) (parse u) := by
  have hread : Follows (fun d e => d.ordered = e.ordered) ((ofText t).mapError Failure.document)
      ((ofText u).mapError Failure.document) := by
    intro d hd
    obtain ⟨e, he, hde⟩ := follows_ofText h d (mapError_eq_ok.1 hd)
    exact ⟨e, mapError_eq_ok.2 he, hde⟩
  refine hread.bind fun d e hde => ?_
  rw [check_congr hde]
  exact (Follows.eq _).bind fun _ _ _ => .ok hde

theorem follows_parsePinned (h : SameValue t u) (pin : String) :
    Follows (fun d e => d.ordered = e.ordered) (parsePinned t pin) (parsePinned u pin) := by
  refine (follows_parse h).bind fun d e hde => ?_
  rw [canonicalBytes_congr hde]
  exact (Follows.eq _).bind fun _ _ _ => .ok hde

/-- Neither blanks nor the order of keys make a difference. Texts without repeated names that are parsed as
values with the same members, in whatever order, are texts of the same value; and texts of the same value
are both documents, with the same canonical bytes, or neither is, and they pass the same pins. -/
theorem parse_of_sameValue (t u : String) :
    (∀ v w, (Draft.ofText t).1.Distinct → (Draft.ofText u).1.Distinct → Value.parse t = .ok v →
        Value.parse u = .ok w → v.ordered = w.ordered → SameValue t u) ∧
      (SameValue t u →
        ((∃ d e, parse t = .ok d ∧ parse u = .ok e ∧ d.canonicalBytes = e.canonicalBytes) ∨
          ∃ f g, parse t = .error f ∧ parse u = .error g) ∧
        ∀ pin, (∃ d, parsePinned t pin = .ok d) ↔ ∃ e, parsePinned u pin = .ok e) := by
  refine ⟨fun v w => sameValue_of_parse, fun h => ⟨?_, fun pin => ?_⟩⟩
  · cases ht : parse t with
    | ok d =>
      obtain ⟨e, he, hde⟩ := follows_parse h d ht
      exact .inl ⟨d, e, rfl, he, canonicalBytes_congr hde⟩
    | error f =>
      cases hu : parse u with
      | ok e =>
        obtain ⟨d, hd, -⟩ := follows_parse h.symm e hu
        cases ht.symm.trans hd
      | error g => exact .inr ⟨f, g, rfl, rfl⟩
  · constructor
    · rintro ⟨d, hd⟩
      obtain ⟨e, he, -⟩ := follows_parsePinned h pin d hd
      exact ⟨e, he⟩
    · rintro ⟨e, he⟩
      obtain ⟨d, hd, -⟩ := follows_parsePinned h.symm pin e he
      exact ⟨d, hd⟩

set_option maxRecDepth 10000 in
/-- A document, and the same with blanks and with its members the other way round. -/
theorem parse_of_sameValue_swap :
    let t := "\x7b\"schema_version\":\"0.4.0\",\"body\":\x7b\"functions\":[]," ++
      "\"root_schema\":\x7b\x7d\x7d\x7d"
    let u := "\x7b \"body\": \x7b\"root_schema\":\x7b\x7d,\"functions\":[]\x7d," ++
      "\"schema_version\":\"0.4.0\" \x7d"
    SameValue t u ∧
      ((∃ d e, parse t = .ok d ∧ parse u = .ok e ∧ d.canonicalBytes = e.canonicalBytes) ∨
        ∃ f g, parse t = .error f ∧ parse u = .error g) ∧
      ∀ pin, (∃ d, parsePinned t pin = .ok d) ↔ ∃ e, parsePinned u pin = .ok e := by
  intro t u
  let body : Value := .object [("functions", .array []), ("root_schema", .object [])]
  let body' : Value := .object [("root_schema", .object []), ("functions", .array [])]
  have hdt : Draft.ofText t = (.object [(.text "schema_version", .text "0.4.0"), (.text "body",
    .object [(.text "functions", .list [] .closed), (.text "root_schema", .object [] .closed)]
      .closed)] .closed, false) := by cbv
  have hdu : Draft.ofText u = (.object [(.text "body", .object [(.text "root_schema",
    .object [] .closed), (.text "functions", .list [] .closed)] .closed),
      (.text "schema_version", .text "0.4.0")] .closed, false) := by cbv
  have ht : Value.parse t = .ok (.object [("schema_version", .string "0.4.0"), ("body", body)]) := by
    unfold Value.parse
    rw [hdt]
    rfl
  have hu : Value.parse u = .ok (.object [("body", body'), ("schema_version", .string "0.4.0")]) := by
    unfold Value.parse
    rw [hdu]
    rfl
  have hdistinct : ∀ {k l : String} {d e : Draft}, k ≠ l → d.Distinct → e.Distinct →
      (Draft.object [(.text k, d), (.text l, e)] .closed).Distinct := by
    intro k l d e hkl hd he
    refine .object (List.pairwise_pair.2 ?_) (List.forall_mem_cons.2 ⟨hd, ?_⟩)
    · rintro _ ⟨⟩ ⟨⟩
      exact hkl rfl
    · exact List.forall_mem_singleton.2 he
  have hlist : (Draft.list [] .closed).Distinct := .list (List.forall_mem_nil _)
  have hobject : (Draft.object [] .closed).Distinct := .object .nil (List.forall_mem_nil _)
  have hleft : (Draft.ofText t).1.Distinct := by
    rw [hdt]
    exact hdistinct (by decide) (.text _) (hdistinct (by decide) hlist hobject)
  have hright : (Draft.ofText u).1.Distinct := by
    rw [hdu]
    exact hdistinct (by decide) (hdistinct (by decide) hobject hlist) (.text _)
  have hswap : ∀ {k l : String} {v v' w w' : Value}, k ≠ l → v.ordered = v'.ordered →
      w.ordered = w'.ordered →
      (Value.object [(k, v), (l, w)]).ordered = (Value.object [(l, w'), (k, v')]).ordered := by
    intro k l v v' w w' hkl hv hw
    simp only [Value.ordered_object, Members.ordered, Value.orderedMembers, hv, hw]
    rw [Value.orderMembers_eq_of_perm (.swap ..) (by simpa using hkl)]
  have hsame : SameValue t u := (parse_of_sameValue t u).1 _ _ hleft hright ht hu
    (hswap (by decide) rfl (hswap (by decide) rfl rfl))
  exact ⟨hsame, (parse_of_sameValue t u).2 hsame⟩

end Document

end ContractInterface
