/-
Runs of calls. What a call answers, sends and logs is settled by the document, the responses and the
call itself (`Document.Dispatches`); nothing that came before has a part in it. A run therefore does
what its calls do one by one (`Contract.run_eq`).
-/
import Mathlib
import ContractInterface.Proofs.Call.Effects
import ContractInterface.Proofs.Call.Synthesis

namespace ContractInterface

open Json

/-! ## Effects -/

/-- A call of a run. -/
structure Invocation where
  name : String
  request : Request

/-- What an invocation answers, and what it adds to the calls and to the log. -/
structure Effect where
  outcome : Except Failure Value
  calls : List RecordedCall
  lines : List LogLine

namespace Effect

/-- Nothing but a failure. -/
def failure (f : Failure) : Effect := ⟨.error f, [], []⟩

end Effect

/-! ## The law of a call -/

/-- The answers of methods. A response replaces an earlier one to the same method; without one the
answer is null. -/
def answers (responses : List (String × Response)) : String → Response :=
  responses.foldl (fun answer p method => if method = p.1 then p.2 else answer method)
    fun _ => .ok .null

theorem answer_start (responses : List (String × Response)) :
    (Session.start responses).answer = answers responses := by
  -- looking up goes from the last response to the first one, and so does the fold
  have hlookup : ∀ (rs : List (String × Response)) (method : String),
      (rs.lookup method).getD (.ok .null) =
        rs.foldr (fun p answer method => if method = p.1 then p.2 else answer method)
          (fun _ => .ok .null) method := fun rs method => by
    induction rs with
    | nil => rfl
    | cons p rs ih =>
      rw [List.lookup_cons, List.foldr_cons]
      by_cases h : method = p.1
      · simp [h]
      · simpa [h, beq_eq_false_iff_ne.2 h] using ih
  funext method
  unfold answers
  rw [List.foldl_eq_foldr_reverse, ← hlookup]
  rfl

/-- What an invocation does, for a contract of the document. -/
inductive Document.Dispatches (d : Document) (id : String) (config : Config)
    (answer : String → Response) : Invocation → Effect → Prop
  | unknown {i : Invocation} : d.function? i.name = none →
      Dispatches d id config answer i (.failure (.unknownFunction i.name))
  | missing {i : Invocation} {f : Function} : d.function? i.name = some f → i.request.Blank →
      f.parameters ≠ [] → Dispatches d id config answer i (.failure (.missingArguments i.name))
  | invalid {i : Invocation} {f : Function} {shape : Shape} {mismatch : Mismatch} :
      d.function? i.name = some f → (i.request.Blank → f.parameters = []) →
      config.checksArguments = true → f.argumentsShape d = .ok shape →
      shape.check i.request.value = .error mismatch →
      Dispatches d id config answer i (.failure (.invalidArguments i.name mismatch))
  | failed {i : Invocation} {f : Function} {shape : Shape} {message : String} :
      d.function? i.name = some f → (i.request.Blank → f.parameters = []) →
      f.argumentsShape d = .ok shape →
      (config.checksArguments = true → shape.accepts i.request.value = true) →
      answer i.name = .error message →
      Dispatches d id config answer i
        ⟨.error (.transport message), [⟨f.path i.request.options, id, i.name, i.request.value⟩],
          f.announcement i.request.options⟩
  | answered {i : Invocation} {f : Function} {shape : Shape} {result : Option Shape} {v : Value} :
      d.function? i.name = some f → (i.request.Blank → f.parameters = []) →
      f.argumentsShape d = .ok shape →
      (config.checksArguments = true → shape.accepts i.request.value = true) →
      f.resultShape d = .ok result → answer i.name = .ok v →
      Dispatches d id config answer i
        ⟨.ok v, [⟨f.path i.request.options, id, i.name, i.request.value⟩],
          f.announcement i.request.options ++ if config.checksResults then remarks result v else []⟩

namespace Contract

variable {d : Document} {id : String} {config : Config} {answer : String → Response} {c : Contract}

/-- The entry of a function of the document. -/
theorem Serves.exists_entry (hc : c.Serves d id config) {name : String} {f : Function}
    (hf : d.function? name = some f) :
    ∃ e, c.entry? name = some e ∧ Entry.Serves d f e ∧ e.function = f ∧ f.name = name := by
  have hrel := hc.entry?_rel name
  have hname := List.find?_some hf
  rw [hf] at hrel
  cases he : c.entry? name with
  | none =>
    rw [he] at hrel
    cases hrel
  | some e =>
    rw [he] at hrel
    cases hrel with
    | some hfe => exact ⟨e, rfl, hfe, hfe.function_eq, beq_iff_eq.1 hname⟩

theorem Serves.entry?_eq_none (hc : c.Serves d id config) {name : String}
    (hf : d.function? name = none) : c.entry? name = none := by
  have hrel := hc.entry?_rel name
  rw [hf] at hrel
  cases he : c.entry? name with
  | none => rfl
  | some e =>
    rw [he] at hrel
    cases hrel

/-- A call does what the law says, whatever the session holds. -/
theorem perform_call (hc : c.Serves d id config) {s : Session} (hs : s.answer = answer)
    {i : Invocation} {e : Effect} (h : d.Dispatches id config answer i e) :
    s.perform (c.call i.name i.request) = (e.outcome, s.adding e.calls e.lines) := by
  obtain ⟨name, r⟩ := i
  cases h with
  | unknown hf =>
    unfold Contract.call
    rw [hc.entry?_eq_none hf]
    simp [Effect.failure, perform_throw]
  | missing hf hr hp =>
    obtain ⟨e, he, -, rfl, rfl⟩ := hc.exists_entry hf
    rw [perform_call_of_arguments_error s he (Entry.arguments_of_missing hr hp)]
    simp [Effect.failure]
  | invalid hf hr hchecks hshape hcheck =>
    obtain ⟨e, he, hfe, rfl, rfl⟩ := hc.exists_entry hf
    obtain rfl := Except.ok.inj (hshape.symm.trans hfe.arguments)
    rw [← hc.config_eq] at hchecks
    rw [perform_call_of_arguments_error s he (Entry.arguments_of_mismatch hr hchecks hcheck)]
    simp [Effect.failure]
  | failed hf hr hshape haccepts hanswer =>
    obtain ⟨e, he, hfe, rfl, rfl⟩ := hc.exists_entry hf
    obtain rfl := Except.ok.inj (hshape.symm.trans hfe.arguments)
    rw [← hc.config_eq] at haccepts
    rw [perform_call_of_arguments s he (Entry.arguments_of_accepts hr haccepts), hs, hanswer,
      hc.id_eq]
    exact congrArg (fun lines => (_, s.adding _ lines)) (List.append_nil _)
  | answered hf hr hshape haccepts hresult hanswer =>
    obtain ⟨e, he, hfe, rfl, rfl⟩ := hc.exists_entry hf
    obtain rfl := Except.ok.inj (hshape.symm.trans hfe.arguments)
    obtain rfl := Except.ok.inj (hresult.symm.trans hfe.result)
    rw [← hc.config_eq] at haccepts ⊢
    rw [perform_call_of_arguments s he (Entry.arguments_of_accepts hr haccepts), hs, hanswer,
      hc.id_eq]
    rfl

/-- There is something that each invocation does. -/
theorem exists_dispatches (hc : c.Serves d id config) (i : Invocation) :
    ∃ e, d.Dispatches id config answer i e := by
  cases hf : d.function? i.name with
  | none => exact ⟨_, .unknown hf⟩
  | some f =>
    obtain ⟨entry, -, hfe, -, -⟩ := hc.exists_entry hf
    by_cases hmissing : i.request.Blank ∧ f.parameters ≠ []
    · exact ⟨_, .missing hf hmissing.1 hmissing.2⟩
    have hgiven : i.request.Blank → f.parameters = [] := fun hr =>
      Classical.not_not.1 fun hp => hmissing ⟨hr, hp⟩
    by_cases haccepts : config.checksArguments = true →
        entry.argumentsShape.accepts i.request.value = true
    · cases hanswer : answer i.name with
      | error message => exact ⟨_, .failed hf hgiven hfe.arguments haccepts hanswer⟩
      | ok v => exact ⟨_, .answered hf hgiven hfe.arguments haccepts hfe.result hanswer⟩
    · obtain ⟨hchecks, hrejects⟩ := Classical.not_imp.1 haccepts
      cases hcheck : entry.argumentsShape.check i.request.value with
      | ok => exact absurd (by simp [Shape.accepts, hcheck, Check.passes]) hrejects
      | error mismatch => exact ⟨_, .invalid hf hgiven hchecks hfe.arguments hcheck⟩

/-- Nothing but the invocation decides what it does. -/
theorem dispatches_unique (hc : c.Serves d id config) {s : Session} (hs : s.answer = answer)
    {i : Invocation} {e e' : Effect} (h : d.Dispatches id config answer i e)
    (h' : d.Dispatches id config answer i e') : e = e' := by
  -- both are what the call does in one session, so they add the same to it
  have heq := (perform_call hc hs h).symm.trans (perform_call hc hs h')
  cases e
  cases e'
  simpa [Session.adding] using heq

/-! ## Runs -/

/-- Invocations in turn, each whether or not the ones before it have succeeded. -/
def run (c : Contract) : List Invocation → Session → List (Except Failure Value) × Session
  | [], s => ([], s)
  | i :: rest, s =>
    let (outcome, s) := s.perform (c.call i.name i.request)
    let (outcomes, s) := run c rest s
    (outcome :: outcomes, s)

/-- A run does what its invocations do, in their order. -/
theorem run_eq (hc : c.Serves d id config) {effect : Invocation → Effect}
    (heffect : ∀ i, d.Dispatches id config answer i (effect i)) :
    ∀ (is : List Invocation) (s : Session), s.answer = answer →
      c.run is s = (is.map fun i => (effect i).outcome,
        s.adding (is.flatMap fun i => (effect i).calls) (is.flatMap fun i => (effect i).lines))
  | [], s, _ => by simp [run]
  | i :: is, s, hs => by
    have hrest := run_eq hc heffect is (s.adding (effect i).calls (effect i).lines) hs
    simp only [run, perform_call hc hs (heffect i), hrest, Session.adding_adding, List.map_cons,
      List.flatMap_cons]

theorem perform_synthesize {s s' : Session}
    (h : s.perform (synthesize d id config) = (.ok c, s')) :
    c.Serves d id config ∧ s' = s.adding [] [.synthesized] := by
  unfold synthesize at h
  rw [perform_bind, perform_lift] at h
  cases hbuild : build d id config with
  | error failure =>
    rw [hbuild] at h
    cases h
  | ok built =>
    rw [hbuild] at h
    simp only [perform_bind, perform_log, perform_pure, Prod.mk.injEq, Except.ok.injEq] at h
    obtain ⟨rfl, rfl⟩ := h
    exact ⟨serves_of_build hbuild, rfl⟩

/-- For a contract that is built against canned responses there is one thing that each invocation
does, as the law says, and a run does these things in turn: its answers, its calls and its lines are
those of its invocations, whatever comes before each of them. The log has the lines of contracts only;
the patterns that building skips come before all of them (`Contract.trace_eq`), and calls read no
schemas. -/
theorem run_of_synthesize {responses : List (String × Response)} {s : Session}
    (h : (Session.start responses).perform (synthesize d id config) = (.ok c, s)) :
    ∃ effect : Invocation → Effect,
      (∀ i e, d.Dispatches id config (answers responses) i e ↔ e = effect i) ∧
      ∀ is : List Invocation, (c.run is s).1 = (is.map fun i => (effect i).outcome) ∧
        (c.run is s).2.calls = (is.flatMap fun i => (effect i).calls) ∧
        (c.run is s).2.log = .synthesized :: is.flatMap fun i => (effect i).lines := by
  obtain ⟨hc, rfl⟩ := perform_synthesize h
  have hs : ((Session.start responses).adding [] [.synthesized]).answer = answers responses :=
    answer_start responses
  choose effect heffect using @exists_dispatches d id config (answers responses) c hc
  refine ⟨effect, fun i e => ⟨fun he => ?_, ?_⟩, fun is => ?_⟩
  · exact dispatches_unique hc hs he (heffect i)
  · rintro rfl
    exact heffect i
  · rw [run_eq hc heffect is _ hs]
    simp [Session.adding, Session.start]

/-- A contract with a transaction, whose parameter refers to a definition, that is known to fail. -/
theorem run_of_synthesize_pay :
    let amount : Parameter := ⟨"amount", .object [("$ref", .string "#/definitions/Amount")]⟩
    let pay : Function := ⟨"pay", none, some .call, [], some ⟨.json, [amount]⟩, [], none⟩
    let root : RootSchema :=
      ⟨none, none, [("Amount", .object [("type", .string "integer")])], [], []⟩
    let d : Document := ⟨"0.4.0", ⟨none, none, [], none, none, []⟩, ⟨[pay], root⟩⟩
    let c : Contract := ⟨"pair.testnet", .default, [⟨pay, [("amount", .number .empty)], none⟩]⟩
    let s : Session := ⟨[("pay", .error "rpc timeout")], [], [.synthesized]⟩
    (Session.start [("pay", .error "rpc timeout")]).perform
        (synthesize d "pair.testnet" .default) = (.ok c, s) ∧
      ∃ effect : Invocation → Effect,
        (∀ i e, d.Dispatches "pair.testnet" .default (answers [("pay", .error "rpc timeout")]) i e ↔
          e = effect i) ∧
        ∀ is : List Invocation, (c.run is s).1 = (is.map fun i => (effect i).outcome) ∧
          (c.run is s).2.calls = (is.flatMap fun i => (effect i).calls) ∧
          (c.run is s).2.log = .synthesized :: is.flatMap fun i => (effect i).lines := by
  intro amount pay root d c s
  have h : (Session.start [("pay", .error "rpc timeout")]).perform
      (synthesize d "pair.testnet" .default) = (.ok c, s) := by
    simp only [amount, pay, root, d, c, s]
    cbv
  exact ⟨h, run_of_synthesize h⟩

end Contract

end ContractInterface
