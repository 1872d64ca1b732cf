/-
Contracts of documents with the same canonical bytes. Such documents differ in the order of members of
raw schemas only (`Document.reordered_of_canonicalBytes_eq`), so both of them have contracts or neither
does, and each invocation has the same answer or fails alike, and sends the same call
(`Document.Dispatches.exists_alike`).
-/
import Mathlib
import ContractInterface.Proofs.Call.Construction
import ContractInterface.Proofs.Call.Run
import ContractInterface.Proofs.Document.RoundTrip
import ContractInterface.Proofs.Shape.Reordering

namespace ContractInterface

open Json

/-! ## Documents -/

/-- The same name, and schemas that differ in the order of members only. -/
structure Parameter.Reordered (p q : Parameter) : Prop where
  name : p.name = q.name
  schema : p.schema.Reordered q.schema

structure ParameterBlock.Reordered (a b : ParameterBlock) : Prop where
  format : a.format = b.format
  parameters : List.Forall₂ Parameter.Reordered a.parameters b.parameters

structure ResultBlock.Reordered (a b : ResultBlock) : Prop where
  format : a.format = b.format
  schema : a.schema.Reordered b.schema

/-- Functions of one name and kind whose schemas differ in the order of members only. -/
structure Function.Reordered (f g : Function) : Prop where
  name : f.name = g.name
  kind : f.kind = g.kind
  params : Option.Rel ParameterBlock.Reordered f.params g.params
  result : Option.Rel ResultBlock.Reordered f.result g.result

/-- Documents whose schemas differ in the order of members only. -/
structure Document.Reordered (d e : Document) : Prop where
  schemaVersion : d.schemaVersion = e.schemaVersion
  functions : List.Forall₂ Function.Reordered d.body.functions e.body.functions
  definitions : d.body.rootSchema.definitions.Reordered e.body.rootSchema.definitions
  localDefinitions : d.body.rootSchema.localDefinitions.Reordered e.body.rootSchema.localDefinitions

theorem rel_of_map_eq {α β : Type} {form : α → β} {R : α → α → Prop} {a b : Option α}
    (h : a.map form = b.map form) (hR : ∀ x ∈ a, ∀ y ∈ b, form x = form y → R x y) :
    Option.Rel R a b := by
  cases a with
  | none =>
    cases b with
    | none => exact .none
    | some y => cases h
  | some x =>
    cases b with
    | none => cases h
    | some y => exact .some (hR x rfl y rfl (Option.some.inj h))

section Fits

variable {room : Nat}

theorem Function.Fits.reordered {f g : Function} (hf : f.Fits room) (hg : g.Fits room)
    (h : f.ordered = g.ordered) : f.Reordered g := by
  obtain ⟨hname, -, hkind, -, hparams, -, hresult⟩ := Function.mk.inj h
  refine ⟨hname, hkind, rel_of_map_eq hparams fun a ha b hb hab => ?_,
    rel_of_map_eq hresult fun a ha b hb hab => ?_⟩
  · obtain ⟨hformat, hparameters⟩ := ParameterBlock.mk.inj hab
    refine ⟨hformat, forall₂_of_map_eq hparameters fun p hp q hq hpq => ?_⟩
    obtain ⟨hname, hschema⟩ := Parameter.mk.inj hpq
    exact ⟨hname, ⟨room, hf.params a ha p hp⟩, ⟨room, hg.params b hb q hq⟩, hschema⟩
  · obtain ⟨hformat, hschema⟩ := ResultBlock.mk.inj hab
    exact ⟨hformat, ⟨_, hf.result a ha⟩, ⟨_, hg.result b hb⟩, hschema⟩

theorem Document.Fits.reordered {d e : Document} (hd : d.Fits room) (he : e.Fits room)
    (h : d.ordered = e.ordered) : d.Reordered e := by
  obtain ⟨hversion, -, hbody⟩ := Document.mk.inj h
  obtain ⟨hfunctions, hroot⟩ := Body.mk.inj hbody
  obtain ⟨-, -, hdefinitions, hlocal, -⟩ := RootSchema.mk.inj hroot
  have hdroot := hd.body.rootSchema
  have heroot := he.body.rootSchema
  refine ⟨hversion, forall₂_of_map_eq hfunctions fun f hf g hg hfg => ?_, ?_, ?_⟩
  · exact (hd.body.functions f hf).reordered (he.body.functions g hg) hfg
  · exact ⟨⟨_, hdroot.definitions.1⟩, ⟨_, heroot.definitions.1⟩, hdefinitions⟩
  · exact ⟨⟨_, hdroot.localDefinitions.1⟩, ⟨_, heroot.localDefinitions.1⟩, hlocal⟩

end Fits

/-- Nothing but the order of members in raw schemas is left open by the canonical bytes. -/
theorem Document.reordered_of_canonicalBytes_eq {t u : String} {d e : Document}
    (hd : parse t = .ok d) (he : parse u = .ok e) (h : d.canonicalBytes = e.canonicalBytes) :
    d.Reordered e :=
  (fits_of_parse hd).reordered (fits_of_parse he) (ordered_eq_of_canonicalBytes_eq hd he h)

/-! ## Shapes -/

namespace Function.Reordered

variable {f g : Function} (h : f.Reordered g)

include h

theorem schemas : List.Forall₂ Value.Reordered f.schemas g.schemas := by
  unfold Function.schemas
  refine List.rel_append ?_ ?_
  · rcases rel_cases h.params with ⟨ha, hb⟩ | ⟨⟨a, ps⟩, ⟨b, qs⟩, ha, hb, hab⟩
    · rw [ha, hb]
      exact .nil
    · obtain rfl : a = b := hab.format
      rw [ha, hb]
      cases a with
      | json =>
        exact List.forall₂_map_left_iff.2 (List.forall₂_map_right_iff.2
          (hab.parameters.imp fun _ _ hpq => hpq.schema))
      | borsh => exact .nil
  · rcases rel_cases h.result with ⟨ha, hb⟩ | ⟨⟨a, v⟩, ⟨b, w⟩, ha, hb, hab⟩
    · rw [ha, hb]
      exact .nil
    · obtain rfl : a = b := hab.format
      rw [ha, hb]
      cases a with
      | json => exact .cons hab.schema .nil
      | borsh => exact .nil

theorem parameters_eq_nil_iff : f.parameters = [] ↔ g.parameters = [] := by
  unfold Function.parameters
  rcases rel_cases h.params with ⟨ha, hb⟩ | ⟨a, b, ha, hb, hab⟩
  · rw [ha, hb]
  · rw [ha, hb]
    simp only [← List.length_eq_zero_iff, hab.parameters.length_eq]

theorem path_eq : f.path = g.path := by
  funext options
  unfold Function.path
  rw [h.kind]

end Function.Reordered

namespace Document.Reordered

variable {d e : Document} (h : d.Reordered e)

include h

theorem table_alike : d.table.Alike e.table :=
  Definitions.alike_of_lookup d.get?_table e.get?_table fun name =>
    rel_or (h.definitions.lookup name) (h.localDefinitions.lookup name)

theorem follows_shapeOf {v w : Value} (hvw : v.Reordered w) :
    Follows Shape.Alike (d.shapeOf v) (e.shapeOf w) :=
  h.table_alike.follows_resolve (Node.alike_ofValue hvw)

theorem follows_argumentsShape {f g : Function} (hfg : f.Reordered g) :
    Follows Shape.Equivalent (f.argumentsShape d) (g.argumentsShape e) := by
  unfold Function.argumentsShape
  rcases rel_cases hfg.params with ⟨ha, hb⟩ | ⟨⟨a, ps⟩, ⟨b, qs⟩, ha, hb, hab⟩
  · rw [ha, hb]
    exact .ok (.refl _)
  obtain rfl : a = b := hab.format
  rw [ha, hb]
  cases a with
  | borsh => exact .ok (.refl _)
  | json =>
    refine (Follows.mapM (R := Property.Rel Shape.Equivalent) (fun p q hpq => ?_) hab.parameters).bind
      fun ss ts hst => .ok (.object_of_forall₂ hst .forbidden)
    exact (h.follows_shapeOf hpq.schema).bind fun s t hst => .ok ⟨hpq.name, rfl, hst.equivalent⟩

theorem follows_resultShape {f g : Function} (hfg : f.Reordered g) :
    Follows (Option.Rel Shape.Equivalent) (f.resultShape d) (g.resultShape e) := by
  unfold Function.resultShape
  rcases rel_cases hfg.result with ⟨ha, hb⟩ | ⟨⟨a, v⟩, ⟨b, w⟩, ha, hb, hab⟩
  · rw [ha, hb]
    exact .ok .none
  obtain rfl : a = b := hab.format
  rw [ha, hb]
  cases a with
  | json => exact (h.follows_shapeOf hab.schema).bind fun s t hst => .ok (.some hst.equivalent)
  | borsh => exact .ok (.some (.refl _))

theorem function?_rel (name : String) :
    Option.Rel Function.Reordered (d.function? name) (e.function? name) :=
  rel_find? (fun f g hfg => by rw [hfg.name]) h.functions

/-! ## Contracts -/

theorem schemas : List.Forall₂ Value.Reordered d.schemas e.schemas :=
  List.rel_flatMap h.functions fun _ _ hfg => hfg.schemas

theorem exists_build {id : String} {config : Config} (hd : ∃ c, Contract.build d id config = .ok c) :
    ∃ c, Contract.build e id config = .ok c := by
  rw [Contract.exists_build_iff] at hd ⊢
  obtain ⟨hversion, hnames, hschemas⟩ := hd
  have hnames_eq : d.functionNames = e.functionNames := by
    unfold Document.functionNames
    rw [← List.forall₂_eq_eq_eq, List.forall₂_map_left_iff, List.forall₂_map_right_iff]
    exact h.functions.imp fun _ _ hfg => hfg.name
  refine ⟨h.schemaVersion ▸ hversion, hnames_eq ▸ hnames, fun w hw => ?_⟩
  obtain ⟨v, hv, hvw⟩ := exists_mem_of_forall₂ h.schemas.flip w hw
  obtain ⟨s, hs⟩ := hschemas v hv
  obtain ⟨t, ht, -⟩ := h.follows_shapeOf hvw s hs
  exact ⟨t, ht⟩

end Document.Reordered

/-! ## Invocations -/

/-- Failures of one kind with the same causes, but for what is wrong with arguments. -/
inductive Failure.Alike : Failure → Failure → Prop
  | refl (f : Failure) : Alike f f
  | invalidArguments (function : String) (m n : Mismatch) :
      Alike (.invalidArguments function m) (.invalidArguments function n)

/-- The same answer, or failures of one kind. -/
inductive AlikeOutcome : Except Failure Value → Except Failure Value → Prop
  | ok (v : Value) : AlikeOutcome (.ok v) (.ok v)
  | error {f g : Failure} : f.Alike g → AlikeOutcome (.error f) (.error g)

/-- Outcomes that are alike, and the same calls. -/
structure Effect.Alike (a b : Effect) : Prop where
  outcome : AlikeOutcome a.outcome b.outcome
  calls : a.calls = b.calls

theorem Effect.Alike.failure (f : Failure) : (Effect.failure f).Alike (Effect.failure f) :=
  ⟨.error (.refl f), rfl⟩

/-- An invocation does alike for documents whose schemas differ in the order of members only. -/
theorem Document.Dispatches.exists_alike {d e : Document} (hde : d.Reordered e) {id : String}
    {config : Config} {answer : String → Response} {i : Invocation} {a : Effect}
    (h : d.Dispatches id config answer i a) :
    ∃ b, e.Dispatches id config answer i b ∧ a.Alike b := by
  have hfunction : ∀ {f : Function}, d.function? i.name = some f →
      ∃ g, e.function? i.name = some g ∧ f.Reordered g := fun {f} hf => by
    rcases rel_cases (hde.function?_rel i.name) with ⟨hnone, -⟩ | ⟨f', g, hf', hg, hfg⟩
    · cases hf.symm.trans hnone
    · obtain rfl := Option.some.inj (hf.symm.trans hf')
      exact ⟨g, hg, hfg⟩
  cases h with
  | unknown hf =>
    rcases rel_cases (hde.function?_rel i.name) with ⟨-, hg⟩ | ⟨f, g, hf', -, -⟩
    · exact ⟨_, .unknown hg, .failure _⟩
    · cases hf.symm.trans hf'
  | missing hf hr hp =>
    obtain ⟨g, hg, hfg⟩ := hfunction hf
    exact ⟨_, .missing hg hr (mt hfg.parameters_eq_nil_iff.2 hp), .failure _⟩
  | invalid hf hr hchecks hshape hcheck =>
    obtain ⟨g, hg, hfg⟩ := hfunction hf
    obtain ⟨shape', hshape', hequiv⟩ := hde.follows_argumentsShape hfg _ hshape
    -- both shapes reject the arguments, perhaps not for the same reason
    cases hcheck' : shape'.check i.request.value with
    | ok =>
      have haccepts := hequiv.refined i.request.value (by simp [Shape.accepts, hcheck', Check.passes])
      simp [Shape.accepts, hcheck, Check.passes] at haccepts
    | error mismatch' =>
      refine ⟨_, .invalid hg (fun hb => hfg.parameters_eq_nil_iff.1 (hr hb)) hchecks hshape' hcheck',
        .error (.invalidArguments i.name _ _), rfl⟩
  | failed hf hr hshape haccepts hanswer =>
    obtain ⟨g, hg, hfg⟩ := hfunction hf
    obtain ⟨shape', hshape', hequiv⟩ := hde.follows_argumentsShape hfg _ hshape
    refine ⟨_, .failed hg (fun hb => hfg.parameters_eq_nil_iff.1 (hr hb)) hshape'
      (fun hc => hequiv.refines _ (haccepts hc)) hanswer, .error (.refl _), ?_⟩
    rw [hfg.path_eq]
  | answered hf hr hshape haccepts hresult hanswer =>
    obtain ⟨g, hg, hfg⟩ := hfunction hf
    obtain ⟨shape', hshape', hequiv⟩ := hde.follows_argumentsShape hfg _ hshape
    obtain ⟨result', hresult', -⟩ := hde.follows_resultShape hfg _ hresult
    refine ⟨_, .answered hg (fun hb => hfg.parameters_eq_nil_iff.1 (hr hb)) hshape'
      (fun hc => hequiv.refines _ (haccepts hc)) hresult' hanswer, .ok _, ?_⟩
    rw [hfg.path_eq]

/-! ## Runs -/

namespace Contract

theorem exists_synthesize_iff {d : Document} {id : String} {config : Config} {s : Session} :
    (∃ c s', s.perform (synthesize d id config) = (.ok c, s')) ↔ ∃ c, build d id config = .ok c := by
  unfold synthesize
  rw [perform_bind, perform_lift]
  cases build d id config with
  | error failure => simp
  | ok c => exact ⟨fun _ => ⟨c, rfl⟩, fun _ => ⟨c, _, rfl⟩⟩

/-- Both documents have contracts in a session with these responses, or neither does; and any invocations
in turn have the same answers from both contracts, or fail in the same way, and send the same calls. -/
structure SameBehaviour (d e : Document) (id : String) (config : Config)
    (responses : List (String × Response)) : Prop where
  exists_iff : (∃ c s, (Session.start responses).perform (synthesize d id config) = (.ok c, s)) ↔
    ∃ c s, (Session.start responses).perform (synthesize e id config) = (.ok c, s)
  run : ∀ c s c' s', (Session.start responses).perform (synthesize d id config) = (.ok c, s) →
    (Session.start responses).perform (synthesize e id config) = (.ok c', s') →
    ∀ is : List Invocation, List.Forall₂ AlikeOutcome (c.run is s).1 (c'.run is s').1 ∧
      (c.run is s).2.calls = (c'.run is s').2.calls

theorem sameBehaviour_of_reordered {d e : Document} (h : d.Reordered e) (h' : e.Reordered d)
    (id : String) (config : Config) (responses : List (String × Response)) :
    SameBehaviour d e id config responses := by
  constructor
  · rw [exists_synthesize_iff, exists_synthesize_iff]
    exact ⟨h.exists_build, h'.exists_build⟩
  · intro c s c' s' hc hc' is
    obtain ⟨hserves, rfl⟩ := perform_synthesize hc
    obtain ⟨hserves', rfl⟩ := perform_synthesize hc'
    -- what each invocation does for the first document, and what it does for the second one
    choose effect heffect using @exists_dispatches d id config (answers responses) c hserves
    choose effect' heffect' using fun i => (heffect i).exists_alike h
    have hs : ((Session.start responses).adding [] [.synthesized]).answer = answers responses :=
      answer_start responses
    rw [run_eq hserves heffect is _ hs, run_eq hserves' (fun i => (heffect' i).1) is _ hs]
    constructor
    · rw [List.forall₂_map_left_iff, List.forall₂_map_right_iff, List.forall₂_same]
      exact fun i _ => (heffect' i).2.outcome
    · have hcalls : (fun i => (effect i).calls) = fun i => (effect' i).calls :=
        funext fun i => (heffect' i).2.calls
      rw [hcalls]
      rfl

/-- Equal canonical bytes make for equal behaviour, with any account, switches and responses. In
particular, the order of members in schemas and in the tables that they point into decides neither
whether a schema resolves nor what values it accepts. -/
theorem sameBehaviour_of_canonicalBytes_eq {t u : String} {d e : Document}
    (hd : Document.parse t = .ok d) (he : Document.parse u = .ok e)
    (h : d.canonicalBytes = e.canonicalBytes) :
    (∀ id config responses, SameBehaviour d e id config responses) ∧
      ∀ (ms ns : Members) (v w : Value), ms.Reordered ns → v.Reordered w →
        ResolveAlike (resolve (.ofRaw ms) (.ofValue v)) (resolve (.ofRaw ns) (.ofValue w)) := by
  have hde := Document.reordered_of_canonicalBytes_eq hd he h
  have hed := Document.reordered_of_canonicalBytes_eq he hd h.symm
  exact ⟨sameBehaviour_of_reordered hde hed, fun ms ns v w => resolveAlike_of_reordered⟩

set_option maxRecDepth 10000 in
/-- A transaction whose parameter has two properties, in either order. -/
theorem sameBehaviour_of_canonicalBytes_eq_put :
    let schema : Members → Value := fun properties => .object [("properties", .object properties)]
    let a := ("a", Value.object [("type", .string "string")])
    let b := ("b", Value.object [("type", .string "integer")])
    let document : Value → Document := fun v => ⟨"0.4.0", .blank,
      ⟨[⟨"put", none, some .call, [], some ⟨.json, [⟨"x", v⟩]⟩, [], none⟩], .blank⟩⟩
    let d := document (schema [a, b])
    let e := document (schema [b, a])
    (schema [a, b]).Reordered (schema [b, a]) ∧
      Document.parse d.serialized = .ok d ∧ Document.parse e.serialized = .ok e ∧
      d.canonicalBytes = e.canonicalBytes ∧
      (∃ c, build d "pair.testnet" .default = .ok c) ∧
      (∀ id config responses, SameBehaviour d e id config responses) ∧
      ResolveAlike (resolve (.ofRaw []) (.ofValue (schema [a, b])))
        (resolve (.ofRaw []) (.ofValue (schema [b, a]))) := by
  intro schema a b document d e
  have hfits : ∀ m ∈ [a, b], ∀ n ∈ [a, b], m.1 ≠ n.1 → (schema [m, n]).Fits 120 := by
    intro m hm n hn hmn
    have hmember : ∀ x ∈ [a, b], x.2.Fits 118 := by
      refine List.forall_mem_cons.2 ⟨?_, List.forall_mem_singleton.2 ?_⟩
      · exact .object (by decide) (List.forall_mem_singleton.2 (.string _))
      · exact .object (by decide) (List.forall_mem_singleton.2 (.string _))
    refine .object (List.nodup_singleton _) (List.forall_mem_singleton.2 (.object ?_ ?_))
    · simpa using hmn
    · exact List.forall_mem_cons.2 ⟨hmember m hm, List.forall_mem_singleton.2 (hmember n hn)⟩
  have hab := hfits a (by simp) b (by simp) (by decide)
  have hba := hfits b (by simp) a (by simp) (by decide)
  have hordered : (schema [a, b]).ordered = (schema [b, a]).ordered := by
    have hproperties : Members.ordered [a, b] = Members.ordered [b, a] :=
      Value.orderMembers_eq_of_perm (.swap ..) (by decide)
    simp only [schema, Value.ordered_object, Members.ordered, Value.orderedMembers] at hproperties ⊢
    rw [hproperties]
  have hdocument : ∀ v w : Value, v.ordered = w.ordered →
      (document v).ordered = (document w).ordered := fun v w h => by
    simp only [document, Document.ordered, Body.ordered, Function.ordered, ParameterBlock.ordered,
      Parameter.ordered, List.map_cons, Option.map_some, h]
  have hparse : ∀ v : Value, v.Fits 120 →
      Document.parse (document v).serialized = .ok (document v) := by
    intro v hv
    have hfits : (document v).Fits 120 := by
      refine ⟨Metadata.fits_blank, List.forall_mem_singleton.2 ⟨?_, List.forall_mem_nil _, by simp⟩,
        RootSchema.fits_blank⟩
      rintro _ ⟨⟩
      exact List.forall_mem_singleton.2 hv
    have hcheck : (document .null).check = .ok () := by cbv
    exact Document.parse_eq_ok.2 ⟨hfits.ofText_serialized, hcheck⟩
  have hbuild : ∃ c, build d "pair.testnet" .default = .ok c := by
    refine exists_build_iff.2 ⟨by cbv, by decide, List.forall_mem_singleton.2 ⟨?_, ?_⟩⟩
    · exact .object [⟨"a", true, .string .empty⟩, ⟨"b", true, .number .empty⟩] .untyped
    · exact Resolver.resolve_eq_expand _ _
  have hbytes := Document.canonicalBytes_congr (hdocument _ _ hordered)
  have hschemas : (schema [a, b]).Reordered (schema [b, a]) := ⟨⟨_, hab⟩, ⟨_, hba⟩, hordered⟩
  obtain ⟨hsame, hresolve⟩ :=
    sameBehaviour_of_canonicalBytes_eq (hparse _ hab) (hparse _ hba) hbytes
  exact ⟨hschemas, hparse _ hab, hparse _ hba, hbytes, hbuild, hsame,
    hresolve [] [] _ _ ⟨⟨120, .nil⟩, ⟨120, .nil⟩, rfl⟩ hschemas⟩

end Contract

end ContractInterface
