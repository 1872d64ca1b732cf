/-
Calls that conform. Where arguments are checked, the arguments that are sent to a function whose
parameters are written as JSON are an object that holds exactly the parameters, each with a value of its
shape (`Entry.Takes`). All arguments of this form are sent, and arguments of any other form are refused
before anything is sent.
-/
import ContractInterface.Proofs.Call.Construction
import ContractInterface.Proofs.Call.Run
import ContractInterface.Proofs.Shape.Acceptance

namespace ContractInterface

open Json

/-! ## Arguments that conform -/

/-- The parameters are written as JSON, or there are none. -/
def Function.TakesJson (f : Function) : Prop := ∀ block ∈ f.params, block.format = .json

/-- The arguments are an object whose keys are exactly the names of the parameters. What stands under a
name is accepted by the shape of each parameter of that name. -/
def Entry.Takes (e : Entry) (args : Value) : Prop :=
  ∃ members, args = .object members ∧
    (∀ key, key ∈ members.map Prod.fst ↔ key ∈ e.function.parameters.map (·.name)) ∧
    ∀ p ∈ e.params, ∃ v, members.lookup p.1 = some v ∧ p.2.accepts v = true

namespace Entry

variable {d : Document} {e : Entry}

/-- The shapes of an entry stand under the names of the parameters. -/
theorem map_fst_params (h : Holds d e.function e) :
    e.params.map Prod.fst = e.function.parameters.map (·.name) := by
  have hparams := h.params
  unfold Function.parameters
  rcases hf : e.function.params with _ | block
  · rw [hf] at hparams
    simp [show e.params = [] from hparams]
  · rw [hf] at hparams
    rw [← List.forall₂_eq_eq_eq, List.forall₂_map_left_iff, List.forall₂_map_right_iff]
    exact List.Forall₂.flip (hparams.imp fun p q hpq => hpq.1)

theorem argumentsShape_of_takesJson (hf : e.function.TakesJson) : e.argumentsShape =
    .object (e.params.map fun p => ⟨p.1, true, p.2⟩) .forbidden := by
  unfold argumentsShape
  split
  · rename_i parameters hparams
    cases hf _ hparams
  · rfl

/-- The closed object of all parameters accepts what conforms to the entry. -/
theorem accepts_argumentsShape_iff (h : Holds d e.function e) (hf : e.function.TakesJson)
    {args : Value} : e.argumentsShape.accepts args = true ↔ e.Takes args := by
  rw [argumentsShape_of_takesJson hf, Shape.accepts_object_iff]
  refine exists_congr fun members => and_congr_right fun _ => ?_
  have hnames : (e.params.map fun p => (⟨p.1, true, p.2⟩ : Property Shape)).map (·.name) =
      e.function.parameters.map (·.name) := by
    rw [← map_fst_params h, List.map_map]
    rfl
  constructor
  · intro hholds
    -- every parameter is required, so its name is found
    have hvalues : ∀ p ∈ e.params, ∃ v, members.lookup p.1 = some v ∧ p.2.accepts v = true := by
      intro p hp
      have hmem := List.mem_map_of_mem (f := fun p => (⟨p.1, true, p.2⟩ : Property Shape)) hp
      cases hv : members.lookup p.1 with
      | none => exact absurd (hholds.absent _ hmem hv) (by simp)
      | some v => exact ⟨v, rfl, hholds.present _ hmem v hv⟩
    refine ⟨fun key => ⟨fun hkey => ?_, fun hkey => ?_⟩, hvalues⟩
    · obtain ⟨m, hm, rfl⟩ := List.mem_map.1 hkey
      by_contra hn
      exact hholds.allowed m hm (hnames ▸ hn) rfl
    · obtain ⟨p, hp, rfl⟩ := List.mem_map.1 (map_fst_params h ▸ hkey)
      obtain ⟨v, hv, -⟩ := hvalues p hp
      exact List.mem_map_of_mem (mem_of_lookup_eq_some hv)
  · rintro ⟨hkeys, hvalues⟩
    have hdeclared : ∀ m ∈ members, m.1 ∈ e.function.parameters.map (·.name) := fun m hm =>
      (hkeys m.1).1 (List.mem_map_of_mem hm)
    refine ⟨List.forall_mem_map.2 fun p hp v hv => ?_, List.forall_mem_map.2 fun p hp hv => ?_,
      fun m hm hn => absurd (hdeclared m hm) (hnames ▸ hn),
      fun m hm hn => absurd (hdeclared m hm) (hnames ▸ hn)⟩
    · obtain ⟨w, hw, hp⟩ := hvalues p hp
      obtain rfl := Option.some.inj (hv.symm.trans hw)
      exact hp
    · obtain ⟨w, hw, -⟩ := hvalues p hp
      cases hv.symm.trans hw

/-- Without parameters an empty object conforms. -/
theorem takes_nil (h : Holds d e.function e) (hf : e.function.parameters = []) :
    e.Takes (.object []) := by
  have hparams : e.params = [] := List.map_eq_nil_iff.1 ((map_fst_params h).trans (by simp [hf]))
  exact ⟨[], rfl, by simp [hf], by simp [hparams]⟩

/-- With parameters it does not. -/
theorem not_takes_nil (hf : e.function.parameters ≠ []) : ¬ e.Takes (.object []) := by
  rintro ⟨members, hmembers, hkeys, -⟩
  cases hmembers
  obtain ⟨p, hp⟩ := List.exists_mem_of_ne_nil _ hf
  exact absurd ((hkeys p.name).2 (List.mem_map_of_mem hp)) (by simp)

end Entry

/-! ## Calls -/

namespace Contract

variable {d : Document} {id : String} {config : Config} {c : Contract} {e : Entry} {i : Invocation}

theorem function_name_eq {name : String} (he : c.entry? name = some e) : e.function.name = name := by
  have hname := List.find?_some he
  exact beq_iff_eq.1 hname

theorem Serves.holds (hc : c.Serves d id config) (he : c.entry? i.name = some e) :
    Entry.Holds d e.function e := by
  obtain ⟨f, -, hfe⟩ := exists_mem_of_forall₂ hc.entries.flip e (List.mem_of_find?_eq_some he)
  rw [Entry.Serves.function_eq hfe]
  exact Entry.holds_of_serves hfe

section Checked

variable (hc : c.Serves d id config) (hchecks : config.checksArguments = true)
  (he : c.entry? i.name = some e) (hf : e.function.TakesJson)

include hc he hf

/-- Arguments that conform are sent, whatever is answered. -/
theorem perform_call_of_takes (s : Session) (hargs : e.Takes i.request.value) :
    ∃ lines, s.perform (c.call i.name i.request) = ((s.answer i.name).mapError .transport,
      s.adding [⟨e.function.path i.request.options, c.id, i.name, i.request.value⟩] lines) := by
  have hholds := hc.holds he
  have hname := function_name_eq he
  have hgiven : i.request.Blank → e.function.parameters = [] := fun hblank => by
    by_contra hp
    exact Entry.not_takes_nil hp (Request.value_of_blank hblank ▸ hargs)
  have haccepts := (Entry.accepts_argumentsShape_iff hholds hf).2 hargs
  have harguments : e.arguments c.config i.request.args = .ok i.request.value :=
    Entry.arguments_of_accepts hgiven fun _ => haccepts
  exact ⟨_, hname ▸ perform_call_of_arguments s he harguments⟩

include hchecks

/-- Arguments that do not conform are refused: as missing if there are none, as invalid otherwise. -/
theorem perform_call_of_not_takes (s : Session) (hargs : ¬ e.Takes i.request.value) :
    ∃ failure, s.perform (c.call i.name i.request) = (.error failure, s) ∧
      (i.request.Blank → failure = .missingArguments i.name) ∧
      (¬ i.request.Blank → ∃ mismatch, failure = .invalidArguments i.name mismatch) := by
  have hholds := hc.holds he
  have hname := function_name_eq he
  by_cases hblank : i.request.Blank
  · have hparams : e.function.parameters ≠ [] := fun hp =>
      hargs (Request.value_of_blank hblank ▸ Entry.takes_nil hholds hp)
    refine ⟨_, perform_call_of_arguments_error s he (Entry.arguments_of_missing hblank hparams), ?_⟩
    exact ⟨fun _ => by rw [hname], fun h => absurd hblank h⟩
  · have hrejects := mt (Entry.accepts_argumentsShape_iff hholds hf).1 hargs
    cases hcheck : e.argumentsShape.check i.request.value with
    | ok => exact absurd (by simp [Shape.accepts, hcheck, Check.passes]) hrejects
    | error mismatch =>
      have harguments := Entry.arguments_of_mismatch (fun h => absurd h hblank)
        (hc.config_eq ▸ hchecks) hcheck
      refine ⟨_, perform_call_of_arguments_error s he harguments, fun h => absurd h hblank, ?_⟩
      exact fun _ => ⟨mismatch, by rw [hname]⟩

end Checked

/-! ## Runs -/

/-- What is recorded conforms, where the function is one that takes JSON. -/
def Records (c : Contract) (call : RecordedCall) : Prop :=
  ∃ e, c.entry? call.method = some e ∧ (e.function.TakesJson → e.Takes call.args)

/-- A call adds nothing to what is recorded but a call that conforms. -/
theorem records_perform_call (hc : c.Serves d id config) (hchecks : config.checksArguments = true)
    {s : Session} (hs : ∀ call ∈ s.calls, c.Records call) (i : Invocation) :
    ∀ call ∈ (s.perform (c.call i.name i.request)).2.calls, c.Records call := by
  have hadds : ∀ {new : RecordedCall}, c.Records new → ∀ call ∈ s.calls ++ [new], c.Records call := by
    intro new hnew call hcall
    rcases List.mem_append.1 hcall with hcall | hcall
    · exact hs call hcall
    · exact List.mem_singleton.1 hcall ▸ hnew
  cases he : c.entry? i.name with
  | none =>
    unfold Contract.call
    rw [he]
    exact hs
  | some e =>
    by_cases hf : e.function.TakesJson
    · by_cases hargs : e.Takes i.request.value
      · obtain ⟨lines, hperform⟩ := perform_call_of_takes hc he hf s hargs
        rw [hperform]
        exact hadds ⟨e, he, fun _ => hargs⟩
      · obtain ⟨failure, hperform, -⟩ := perform_call_of_not_takes hc hchecks he hf s hargs
        rw [hperform]
        exact hs
    · -- nothing is asked of what is sent here, if anything is
      cases harguments : e.arguments c.config i.request.args with
      | error failure =>
        rw [perform_call_of_arguments_error s he harguments]
        exact hs
      | ok args =>
        rw [perform_call_of_arguments s he harguments]
        exact hadds ⟨e, (function_name_eq he).symm ▸ he, fun h => absurd h hf⟩

theorem records_run (hc : c.Serves d id config) (hchecks : config.checksArguments = true) :
    ∀ (is : List Invocation) {s : Session}, (∀ call ∈ s.calls, c.Records call) →
      ∀ call ∈ (c.run is s).2.calls, c.Records call
  | [], _, hs => hs
  | i :: is, _, hs => records_run hc hchecks is (records_perform_call hc hchecks hs i)

/-- Where arguments are checked, what is sent to functions that take JSON is what conforms. Every call
that a run has recorded conforms to the entry of its method. After any run, a call is sent with the
arguments that are given if they conform; if they do not, it fails for them, as missing if none are
given, and the session is left as it was. -/
theorem records_iff_takes {responses : List (String × Response)} {s : Session}
    (h : (Session.start responses).perform (synthesize d id config) = (.ok c, s))
    (hchecks : config.checksArguments = true) (is : List Invocation) :
    let t := (c.run is s).2
    (∀ call ∈ t.calls, c.Records call) ∧
    ∀ (i : Invocation) (e : Entry), c.entry? i.name = some e → e.function.TakesJson →
      (e.Takes i.request.value → ∃ lines, t.perform (c.call i.name i.request) =
        ((t.answer i.name).mapError .transport,
          t.adding [⟨e.function.path i.request.options, id, i.name, i.request.value⟩] lines)) ∧
      (¬ e.Takes i.request.value → ∃ failure, t.perform (c.call i.name i.request) = (.error failure, t) ∧
        (i.request.Blank → failure = .missingArguments i.name) ∧
        (¬ i.request.Blank → ∃ mismatch, failure = .invalidArguments i.name mismatch)) := by
  obtain ⟨hc, rfl⟩ := perform_synthesize h
  refine ⟨records_run hc hchecks is (by simp [Session.adding, Session.start]), fun i e he hf => ⟨?_, ?_⟩⟩
  · exact hc.id_eq ▸ perform_call_of_takes hc he hf _
  · exact perform_call_of_not_takes hc hchecks he hf _

/-- Two parameters of one name: what is given under it must be accepted by the shapes of both, which an
integer is and null is not. -/
theorem records_iff_takes_twice :
    let wide : Parameter := ⟨"x", .object [("type", .array [.string "integer", .string "null"])]⟩
    let narrow : Parameter := ⟨"x", .object [("$ref", .string "#/definitions/Amount")]⟩
    let put : Function := ⟨"put", none, some .call, [], some ⟨.json, [wide, narrow]⟩, [], none⟩
    let root : RootSchema :=
      ⟨none, none, [("Amount", .object [("type", .string "integer")])], [], []⟩
    let d : Document := ⟨"0.4.0", ⟨none, none, [], none, none, []⟩, ⟨[put], root⟩⟩
    let e : Entry :=
      ⟨put, [("x", .union [.number .empty, .null]), ("x", .number .empty)], none⟩
    let c : Contract := ⟨"pair.testnet", .default, [e]⟩
    let s : Session := ⟨[], [], [.synthesized]⟩
    let three : Request := ⟨some (.object [("x", .number (.natural 3))]), .empty⟩
    let null : Request := ⟨some (.object [("x", .null)]), .empty⟩
    (Session.start []).perform (synthesize d "pair.testnet" .default) = (.ok c, s) ∧
      e.Takes three.value ∧ ¬ e.Takes null.value ∧
      (∃ lines, s.perform (c.call "put" three) = (.ok .null,
        s.adding [⟨.call .empty, "pair.testnet", "put", three.value⟩] lines)) ∧
      ∃ mismatch, s.perform (c.call "put" null) = (.error (.invalidArguments "put" mismatch), s) := by
  intro wide narrow put root d e c s three null
  have h : (Session.start []).perform (synthesize d "pair.testnet" .default) = (.ok c, s) := by
    simp only [wide, narrow, put, root, d, e, c, s]
    cbv
  have hf : e.function.TakesJson := by
    rintro block ⟨⟩
    rfl
  have hthree : e.Takes three.value :=
    ⟨_, rfl, by simp [e, put, wide, narrow, Function.parameters], by
      simp only [e, List.forall_mem_cons]
      exact ⟨⟨_, rfl, rfl⟩, ⟨_, rfl, rfl⟩, List.forall_mem_nil _⟩⟩
  have hnull : ¬ e.Takes null.value := by
    rintro ⟨members, ⟨⟩, -, hvalues⟩
    obtain ⟨v, ⟨⟩, hv⟩ := hvalues ("x", .number .empty) (by simp [e])
    exact absurd hv (by decide)
  obtain ⟨-, hcall⟩ := records_iff_takes h rfl []
  obtain ⟨failure, hperform, -, hfailure⟩ := (hcall ⟨"put", null⟩ e rfl hf).2 hnull
  obtain ⟨mismatch, rfl⟩ := hfailure (by simp [Request.Blank, null])
  exact ⟨h, hthree, hnull, (hcall ⟨"put", three⟩ e rfl hf).1 hthree, mismatch, hperform⟩

end Contract

end ContractInterface
