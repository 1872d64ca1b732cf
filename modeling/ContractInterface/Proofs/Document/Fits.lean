/-
Documents that are read have raw values without repeated names, no deeper than their places allow,
tables in the order of their names and no field among the other members (`Document.fits_of_parse`).
Such a document is encoded as a value of which the same holds (`Document.Fits.toValue`).
-/
import ContractInterface.Document.Decoding
import ContractInterface.Document.Loading
import ContractInterface.Proofs.Json.Fits

namespace ContractInterface

open Json

/-! ## Members -/

/-- Members with some of the names, in their order, and with values that fit. -/
structure Json.Members.Among (room : Nat) (names : List String) (members : Members) : Prop where
  keys : (members.map Prod.fst).Sublist names
  fits : ∀ m ∈ members, m.2.Fits room

namespace Json.Members.Among

variable {room : Nat} {names others : List String} {ms ns : Members}

theorem append (h : ms.Among room names) (k : ns.Among room others) :
    Among room (names ++ others) (ms ++ ns) := by
  refine ⟨?_, fun m hm => (List.mem_append.1 hm).elim (h.fits m) (k.fits m)⟩
  rw [List.map_append]
  exact h.keys.append k.keys

theorem single {name : String} {v : Value} (h : v.Fits room) : Among room [name] [(name, v)] :=
  ⟨.refl _, List.forall_mem_singleton.2 h⟩

theorem memberIf? {α : Type} {name : String} {encode : α → Value} {a : Option α}
    (h : ∀ x ∈ a, (encode x).Fits room) : Among room [name] (memberIf? name encode a) := by
  cases a with
  | none => exact ⟨List.nil_sublist _, nofun⟩
  | some x => exact single (h x rfl)

theorem memberUnlessEmpty {α : Type} {name : String} {encode : α → Value} {items : List α}
    (h : ∀ x ∈ items, (encode x).Fits room) :
    Among (room + 1) [name] (memberUnlessEmpty name encode items) := by
  cases items with
  | nil => exact ⟨List.nil_sublist _, nofun⟩
  | cons x items =>
    refine single (.array fun v hv => ?_)
    obtain ⟨y, hy, rfl⟩ := List.mem_map.1 hv
    exact h y hy

theorem of_fit (h : ms.Fit room) : Among room (ms.map Prod.fst) ms := ⟨.refl _, h.fits⟩

theorem fit (h : ms.Among room names) (hnames : names.Nodup) : ms.Fit room :=
  ⟨hnames.sublist h.keys, h.fits⟩

theorem fits_object (h : ms.Among room names) (hnames : names.Nodup) :
    Value.Fits (room + 1) (.object ms) :=
  .object (h.fit hnames).nodup h.fits

end Json.Members.Among

theorem Json.Decoder.gives_true {α : Type} (room : Nat) (decoder : Decoder α) :
    decoder.Gives room fun _ => True :=
  fun _ _ _ _ _ => trivial

/-- The names of other members and those of the fields are different. -/
theorem nodup_field_names {α : Type} {r : Record α} {others : Members}
    (hfields : (r.fields.map Field.name).Nodup) (hothers : (others.map Prod.fst).Nodup)
    (h : ∀ m ∈ others, r.field? m.1 = none) :
    (r.fields.map Field.name ++ others.map Prod.fst).Nodup := by
  refine List.nodup_append.2 ⟨hfields, hothers, ?_⟩
  rintro name hname _ hother rfl
  obtain ⟨m, hm, rfl⟩ := List.mem_map.1 hother
  obtain ⟨f, hf, heq⟩ := List.mem_map.1 hname
  have hnone := List.find?_eq_none.1 (h m hm) f hf
  exact hnone (beq_iff_eq.2 heq)

/-! ## Functions -/

variable {room : Nat}

def Parameter.Fits (room : Nat) (p : Parameter) : Prop := p.schema.Fits room

theorem Parameter.gives_decoder : record.decoder.Gives (room + 1) (Parameter.Fits room) := by
  refine Record.holds_of_decoder .null ?_ nofun
  simp only [record, List.forall_mem_cons]
  exact ⟨Field.of_preserves (Decoder.gives_true _ _) _ _ fun _ _ _ h => h,
    Field.of_preserves Decoder.gives_value _ _ fun _ _ h _ => h, nofun⟩

theorem Parameter.Fits.toValue {p : Parameter} (h : p.Fits room) : p.toValue.Fits (room + 1) :=
  ((Members.Among.single (.string p.name)).append (.single h)).fits_object (by decide)

def ParameterBlock.Fits (room : Nat) (b : ParameterBlock) : Prop := ∀ p ∈ b.parameters, p.Fits room

theorem ParameterBlock.gives_decoder : decoder.Gives (room + 3) (ParameterBlock.Fits room) := by
  intro site d b hroom h
  obtain ⟨⟨format, ps⟩, hps, ⟨⟩⟩ := bind_eq_ok.1 h
  refine Block.holds_of_decoder (P := fun ps => ∀ p ∈ ps, Parameter.Fits room p)
    (List.forall_mem_nil _) ?_ rfl site hroom hps
  simp only [Parameter.listRecord, List.forall_mem_cons]
  exact ⟨Field.of_preserves Parameter.gives_decoder.listOf _ _ fun _ _ h _ => h, nofun⟩

theorem ParameterBlock.Fits.toValue {b : ParameterBlock} (h : b.Fits room) :
    b.toValue.Fits (room + 3) := by
  refine ((Members.Among.single (.string b.format.name)).append (.single ?_)).fits_object (by decide)
  refine .array fun v hv => ?_
  obtain ⟨p, hp, rfl⟩ := List.mem_map.1 hv
  exact (h p hp).toValue

def ResultBlock.Fits (room : Nat) (b : ResultBlock) : Prop := b.schema.Fits room

theorem ResultBlock.gives_decoder : decoder.Gives (room + 1) (ResultBlock.Fits room) := by
  intro site d b hroom h
  obtain ⟨⟨format, v⟩, hv, ⟨⟩⟩ := bind_eq_ok.1 h
  refine Block.holds_of_decoder (P := Value.Fits room) .null ?_ rfl site hroom hv
  simp only [schemaRecord, List.forall_mem_cons]
  exact ⟨Field.of_preserves Decoder.gives_value _ _ fun _ _ h _ => h, nofun⟩

theorem ResultBlock.Fits.toValue {b : ResultBlock} (h : b.Fits room) : b.toValue.Fits (room + 1) :=
  ((Members.Among.single (.string b.format.name)).append (.single h)).fits_object (by decide)

structure Function.Fits (room : Nat) (f : Function) : Prop where
  params : ∀ b ∈ f.params, b.Fits room
  callbacks : ∀ v ∈ f.callbacks, v.Fits (room + 2)
  result : ∀ b ∈ f.result, b.Fits (room + 2)

theorem Function.gives_decoder : record.decoder.Gives (room + 4) (Function.Fits room) := by
  have hany := fun {α : Type} (decoder : Decoder α) => Decoder.gives_true (room + 3) decoder
  refine Record.holds_of_decoder ⟨nofun, nofun, nofun⟩ ?_ nofun
  simp only [record, List.forall_mem_cons]
  refine ⟨Field.of_preserves (hany _) _ _ ?_, Field.of_preserves (hany _) _ _ ?_,
    Field.of_preserves (hany _) _ _ ?_, Field.of_preserves (hany _) _ _ ?_,
    Field.of_preserves ParameterBlock.gives_decoder.nullable _ _ fun _ _ h k => ⟨h, k.2, k.3⟩,
    Field.of_preserves Decoder.gives_value.listOf _ _ fun _ _ h k => ⟨k.1, h, k.3⟩,
    Field.of_preserves ResultBlock.gives_decoder.nullable _ _ fun _ _ h k => ⟨k.1, k.2, h⟩, nofun⟩
  all_goals exact fun _ _ _ k => ⟨k.1, k.2, k.3⟩

theorem Function.Fits.toValue {f : Function} (h : f.Fits room) : f.toValue.Fits (room + 4) := by
  refine Members.Among.fits_object (((((((Members.Among.single (.string f.name)).append
    (.memberIf? fun s _ => .string s)).append (.memberIf? fun k _ => .string k.tag)).append
    (.memberUnlessEmpty fun m _ => .string m.name)).append
    (.memberIf? fun b hb => (h.params b hb).toValue)).append
    (.memberUnlessEmpty fun v hv => h.callbacks v hv)).append
    (.memberIf? fun b hb => (h.result b hb).toValue)) (by decide)

/-! ## Documents -/

theorem BuildInfo.fits_toValue (b : BuildInfo) : b.toValue.Fits (room + 1) :=
  Members.Among.fits_object (((Members.Among.memberIf? fun s _ => .string s).append
    (.memberIf? fun s _ => .string s)).append (.memberIf? fun s _ => .string s)) (by decide)

structure Metadata.Fits (room : Nat) (m : Metadata) : Prop where
  other : m.other.Fit (room + 1)
  ordered : Value.orderMembers m.other = m.other
  names : ∀ x ∈ m.other, Metadata.record.field? x.1 = none

theorem Metadata.fits_blank : Metadata.blank.Fits room :=
  ⟨.nil, Value.orderMembers_nil, List.forall_mem_nil _⟩

theorem Metadata.gives_decoder : decoder.Gives (room + 2) (Metadata.Fits room) := by
  intro site d m hroom h
  obtain ⟨n, hn, ⟨⟩⟩ := bind_eq_ok.1 h
  have hrecord : n.other.Fit (room + 1) ∧ ∀ x ∈ n.other, record.field? x.1 = none := by
    refine Record.holds_of_decoder (P := fun n : Metadata => n.other.Fit (room + 1) ∧
      ∀ x ∈ n.other, record.field? x.1 = none) ⟨.nil, List.forall_mem_nil _⟩ ?_ ?_ site hroom hn
    · simp only [record, List.forall_mem_cons]
      and_intros
      all_goals first
        | exact Field.of_preserves (Decoder.gives_true _ _) _ _ fun _ _ _ k => k
        | nofun
    · rintro _ ⟨⟩ name v n hname hv ⟨hfit, hnames⟩
      refine ⟨hfit.set name hv, fun x hx => ?_⟩
      rcases Members.mem_set hx with rfl | hx
      · exact hname
      · exact hnames x hx
  obtain ⟨hfit, hnames⟩ := hrecord
  exact ⟨hfit.orderMembers, Value.orderMembers_orderMembers _, fun x hx =>
    hnames x ((Value.orderMembers_perm _).mem_iff.1 hx)⟩

theorem Metadata.Fits.toValue {m : Metadata} (h : m.Fits room) : m.toValue.Fits (room + 2) := by
  have hnames := nodup_field_names (r := Metadata.record) (by decide) h.other.nodup h.names
  exact Members.Among.fits_object ((((((Members.Among.memberIf? fun s _ => .string s).append
    (.memberIf? fun s _ => .string s)).append (.memberUnlessEmpty fun s _ => .string s)).append
    (.memberIf? fun b _ => b.fits_toValue)).append (.memberIf? fun s _ => .string s)).append
    (.of_fit h.other)) hnames

structure RootSchema.Fits (room : Nat) (r : RootSchema) : Prop where
  definitions : r.definitions.Fit room ∧ Value.orderMembers r.definitions = r.definitions
  localDefinitions : r.localDefinitions.Fit room ∧
    Value.orderMembers r.localDefinitions = r.localDefinitions
  extra : r.extra.Fit (room + 1)
  names : ∀ x ∈ r.extra, RootSchema.record.field? x.1 = none

theorem RootSchema.fits_blank : RootSchema.blank.Fits room :=
  ⟨⟨.nil, Value.orderMembers_nil⟩, ⟨.nil, Value.orderMembers_nil⟩, .nil, List.forall_mem_nil _⟩

theorem RootSchema.gives_decoder : record.decoder.Gives (room + 2) (RootSchema.Fits room) := by
  have hany := fun {α : Type} (decoder : Decoder α) => Decoder.gives_true (room + 1) decoder
  refine Record.holds_of_decoder fits_blank ?_ ?_
  · simp only [record, List.forall_mem_cons]
    exact ⟨Field.of_preserves (hany _) _ _ fun _ _ _ k => ⟨k.1, k.2, k.3, k.4⟩,
      Field.of_preserves (hany _) _ _ fun _ _ _ k => ⟨k.1, k.2, k.3, k.4⟩,
      Field.of_preserves Decoder.gives_table _ _ fun _ _ h k => ⟨h, k.2, k.3, k.4⟩,
      Field.of_preserves Decoder.gives_table _ _ fun _ _ h k => ⟨k.1, h, k.3, k.4⟩, nofun⟩
  · rintro _ ⟨⟩ name v r hname hv h
    refine ⟨h.1, h.2, h.extra.set name hv, fun x hx => ?_⟩
    rcases Members.mem_set hx with rfl | hx
    · exact hname
    · exact h.names x hx

theorem RootSchema.Fits.toValue {r : RootSchema} (h : r.Fits room) : r.toValue.Fits (room + 2) := by
  have hnames := nodup_field_names (r := RootSchema.record) (by decide) h.extra.nodup h.names
  have htable : ∀ {members : Members}, members.Fit room → Value.Fits (room + 1) (.object members) :=
    fun hfit => .object hfit.nodup hfit.fits
  have hlocal : Members.Among (room + 1) ["$defs"] (if r.localDefinitions.isEmpty then []
      else [("$defs", .object r.localDefinitions)]) := by
    split
    · exact ⟨List.nil_sublist _, nofun⟩
    · exact .single (htable h.localDefinitions.1)
  exact Members.Among.fits_object (((((Members.Among.memberIf? fun s _ => .string s).append
    (.memberIf? fun s _ => .string s)).append (.single (htable h.definitions.1))).append
    hlocal).append (.of_fit h.extra)) hnames

structure Body.Fits (room : Nat) (b : Body) : Prop where
  functions : ∀ f ∈ b.functions, f.Fits room
  rootSchema : b.rootSchema.Fits (room + 3)

theorem Body.gives_decoder : record.decoder.Gives (room + 6) (Body.Fits room) := by
  refine Record.holds_of_decoder ⟨List.forall_mem_nil _, RootSchema.fits_blank⟩ ?_ nofun
  simp only [record, List.forall_mem_cons]
  exact ⟨Field.of_preserves Function.gives_decoder.listOf _ _ fun _ _ h k => ⟨h, k.2⟩,
    Field.of_preserves RootSchema.gives_decoder _ _ fun _ _ h k => ⟨k.1, h⟩, nofun⟩

theorem Body.Fits.toValue {b : Body} (h : b.Fits room) : b.toValue.Fits (room + 6) := by
  refine ((Members.Among.single ?_).append (.single h.rootSchema.toValue)).fits_object (by decide)
  refine .array fun v hv => ?_
  obtain ⟨f, hf, rfl⟩ := List.mem_map.1 hv
  exact (h.functions f hf).toValue

namespace Document

structure Fits (room : Nat) (d : Document) : Prop where
  metadata : d.metadata.Fits (room + 4)
  body : d.body.Fits room

theorem gives_decoder : record.decoder.Gives (room + 7) (Document.Fits room) := by
  have hbody : Body.Fits room ⟨[], .blank⟩ := ⟨List.forall_mem_nil _, RootSchema.fits_blank⟩
  refine Record.holds_of_decoder ⟨Metadata.fits_blank, hbody⟩ ?_ nofun
  simp only [record, List.forall_mem_cons]
  exact ⟨Field.of_preserves (Decoder.gives_true _ _) _ _ fun _ _ _ k => ⟨k.1, k.2⟩,
    Field.of_preserves Metadata.gives_decoder _ _ fun _ _ h k => ⟨h, k.2⟩,
    Field.of_preserves Body.gives_decoder _ _ fun _ _ h k => ⟨k.1, h⟩, nofun⟩

theorem Fits.toValue {d : Document} (h : d.Fits room) : d.toValue.Fits (room + 7) :=
  (((Members.Among.single (.string d.schemaVersion)).append (.single h.metadata.toValue)).append
    (.single h.body.toValue)).fits_object (by decide)

theorem parse_eq_ok {t : String} {d : Document} :
    parse t = .ok d ↔ ofText t = .ok d ∧ d.check = .ok () := by
  unfold parse
  constructor
  · intro h
    obtain ⟨e, he, h⟩ := bind_eq_ok.1 h
    obtain ⟨_, hcheck, ⟨⟩⟩ := bind_eq_ok.1 h
    exact ⟨mapError_eq_ok.1 he, hcheck⟩
  · rintro ⟨hread, hcheck⟩
    exact bind_eq_ok.2 ⟨d, mapError_eq_ok.2 hread, bind_eq_ok.2 ⟨(), hcheck, rfl⟩⟩

/-- Seven lists and objects are open around a schema of a parameter. -/
theorem fits_of_parse {t : String} {d : Document} (h : parse t = .ok d) : d.Fits 120 := by
  obtain ⟨hread, -⟩ := parse_eq_ok.1 h
  unfold ofText Decoder.ofText at hread
  generalize Draft.ofText t = x at hread
  obtain ⟨draft, surplus⟩ := x
  obtain ⟨a, ha, hread⟩ := bind_eq_ok.1 hread
  cases surplus with
  | true => cases hread
  | false =>
    cases hread
    exact gives_decoder _ rfl ha

end Document

end ContractInterface
