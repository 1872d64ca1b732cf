/-
What the switches of a contract are for. A contract is built alike under all of them, and each invocation
of a run does what it does by itself (`Contract.effect`, `Contract.run_eq_effects`), so a switch can be
judged by single invocations: checking results only notes those that do not conform
(`Document.OnlyNotes`), and checking arguments only stops calls whose arguments do not
(`Document.OnlyStops`).
-/
import ContractInterface.Proofs.Call.Run

namespace ContractInterface

open Json

/-! ## Single invocations -/

namespace Contract

/-- What an invocation does in a session: its answer, and what it adds to the calls and to the log. -/
def effect (c : Contract) (s : Session) (i : Invocation) : Effect :=
  let (outcome, after) := s.perform (c.call i.name i.request)
  ⟨outcome, after.calls.drop s.calls.length, after.log.drop s.log.length⟩

section Effect

variable {d : Document} {id : String} {config : Config} {answer : String → Response} {c : Contract}
  {s : Session} (hc : c.Serves d id config) (hs : s.answer = answer)

include hc hs

theorem effect_of_dispatches {i : Invocation} {e : Effect} (h : d.Dispatches id config answer i e) :
    c.effect s i = e := by
  unfold effect
  rw [perform_call hc hs h]
  simp [Session.adding]

theorem dispatches_effect (i : Invocation) : d.Dispatches id config answer i (c.effect s i) := by
  obtain ⟨e, he⟩ : ∃ e, d.Dispatches id config answer i e := exists_dispatches hc i
  rwa [effect_of_dispatches hc hs he]

/-- Each invocation of a run does what it would do as the first one. -/
theorem run_eq_effects (is : List Invocation) :
    c.run is s = (is.map fun i => (c.effect s i).outcome,
      s.adding (is.flatMap fun i => (c.effect s i).calls)
        (is.flatMap fun i => (c.effect s i).lines)) :=
  run_eq hc (dispatches_effect hc hs) is s hs

end Effect

/-! ## Other switches -/

/-- The contract with other switches. -/
def withConfig (c : Contract) (config : Config) : Contract := { c with config := config }

variable {d : Document} {id : String}

theorem build_withConfig (config config' : Config) :
    build d id config' = (·.withConfig config') <$> build d id config := by
  rw [build_eq, build_eq]
  cases d.check with
  | error e => rfl
  | ok => cases (d.body.functions.mapM (Entry.resolveWith d.shapeOf)).mapError Failure.schema <;> rfl

/-- Switches have no part in building a contract. -/
theorem perform_synthesize_withConfig (s : Session) (config config' : Config) :
    s.perform (synthesize d id config') =
      ((·.withConfig config') <$> (s.perform (synthesize d id config)).1,
        (s.perform (synthesize d id config)).2) := by
  unfold synthesize
  rw [perform_bind, perform_bind, perform_lift, perform_lift, build_withConfig config config']
  cases build d id config <;> rfl

end Contract

/-! ## Checks -/

/-- A warning is what the log says of a result that does not conform. -/
def LogLine.IsWarning (line : LogLine) : Prop := ∃ mismatch, line = .resultMismatch mismatch

theorem Function.not_isWarning_of_mem_announcement {f : Function} {options : TransactionOptions} :
    ∀ line ∈ f.announcement options, ¬ line.IsWarning := by
  unfold Function.announcement
  split
  · split <;> simp [LogLine.IsWarning]
  · simp [LogLine.IsWarning]

namespace Document

/-- The invocation is answered with a value that the shape of the declared result rejects. -/
def Mismatches (d : Document) (i : Invocation) (outcome : Except Failure Value)
    (mismatch : Mismatch) : Prop :=
  ∃ f shape v, d.function? i.name = some f ∧ f.resultShape d = .ok (some shape) ∧ outcome = .ok v ∧
    shape.check v = .error mismatch

/-- The effects of an invocation without a check of results and with it: the check adds a warning to the
log if the answer is not of the declared shape, and that is all. -/
structure OnlyNotes (d : Document) (i : Invocation) (off on : Effect) : Prop where
  outcome_eq : on.outcome = off.outcome
  calls_eq : on.calls = off.calls
  unwarned : ∀ line ∈ off.lines, ¬ line.IsWarning
  warned : ∀ mismatch, d.Mismatches i off.outcome mismatch →
    on.lines = off.lines ++ [.resultMismatch mismatch]
  lines_eq : (∀ mismatch, ¬ d.Mismatches i off.outcome mismatch) → on.lines = off.lines

/-- The effects of an invocation without a check of arguments and with it: where the check fails, the
arguments would be sent as they are given, and otherwise there is no difference. -/
structure OnlyStops (d : Document) (id : String) (i : Invocation) (off on : Effect) : Prop where
  sent : ∀ name mismatch, on.outcome = .error (.invalidArguments name mismatch) →
    ∃ f args, d.function? i.name = some f ∧ i.request.args = some args ∧
      off.calls = [⟨f.path i.request.options, id, i.name, args⟩]
  eq : (∀ name mismatch, on.outcome ≠ .error (.invalidArguments name mismatch)) → on = off

variable {d : Document} {id : String} {config : Config} {answer : String → Response} {i : Invocation}

theorem remarks_eq_nil {f : Function} (hf : d.function? i.name = some f) {result : Option Shape}
    (hresult : f.resultShape d = .ok result) {v : Value}
    (h : ∀ mismatch, ¬ d.Mismatches i (.ok v) mismatch) : remarks result v = [] := by
  unfold remarks
  cases result with
  | none => rfl
  | some shape =>
    dsimp only
    cases hcheck : shape.check v with
    | ok => rfl
    | error mismatch => exact absurd ⟨f, shape, v, hf, hresult, rfl, hcheck⟩ (h mismatch)

theorem remarks_eq_singleton {f : Function} (hf : d.function? i.name = some f) {result : Option Shape}
    (hresult : f.resultShape d = .ok result) {v : Value} {mismatch : Mismatch}
    (h : d.Mismatches i (.ok v) mismatch) : remarks result v = [.resultMismatch mismatch] := by
  obtain ⟨f', shape, v', hf', hshape, hv, hcheck⟩ := h
  obtain rfl := Option.some.inj (hf.symm.trans hf')
  obtain rfl := Except.ok.inj (hresult.symm.trans hshape)
  obtain rfl := Except.ok.inj hv
  simp [remarks, hcheck]

/-- What fails sends no value back that could be noted. -/
theorem OnlyNotes.of_error {failure : Failure} {calls : List RecordedCall} {lines : List LogLine}
    (hlines : ∀ line ∈ lines, ¬ line.IsWarning) :
    d.OnlyNotes i ⟨.error failure, calls, lines⟩ ⟨.error failure, calls, lines⟩ where
  outcome_eq := rfl
  calls_eq := rfl
  unwarned := hlines
  warned := by
    rintro _ ⟨_, _, _, _, _, ⟨⟩, _⟩
  lines_eq _ := rfl

/-- The check of results, case by case of what the invocation does without it. -/
theorem exists_onlyNotes {off : Effect}
    (h : d.Dispatches id { config with checksResults := false } answer i off) :
    ∃ on, d.Dispatches id { config with checksResults := true } answer i on ∧ d.OnlyNotes i off on := by
  cases h with
  | unknown hf => exact ⟨_, .unknown hf, .of_error nofun⟩
  | missing hf hr hp => exact ⟨_, .missing hf hr hp, .of_error nofun⟩
  | invalid hf hr hchecks hshape hcheck =>
    exact ⟨_, .invalid hf hr hchecks hshape hcheck, .of_error nofun⟩
  | failed hf hr hshape haccepts hanswer =>
    exact ⟨_, .failed hf hr hshape haccepts hanswer,
      .of_error Function.not_isWarning_of_mem_announcement⟩
  | answered hf hr hshape haccepts hresult hanswer =>
    refine ⟨_, .answered hf hr hshape haccepts hresult hanswer, rfl, rfl, ?_, ?_, ?_⟩
    · exact fun line hline => Function.not_isWarning_of_mem_announcement line (by simpa using hline)
    · intro mismatch h
      simp [remarks_eq_singleton hf hresult h]
    · intro h
      simp [remarks_eq_nil hf hresult h]

/-- A function without parameters takes an empty object. -/
theorem check_nil_of_parameters {f : Function} (hp : f.parameters = []) {shape : Shape}
    (hshape : f.argumentsShape d = .ok shape) : shape.check (.object []) = .ok () := by
  unfold Function.parameters at hp
  unfold Function.argumentsShape at hshape
  rcases hf : f.params with _ | ⟨_ | _, parameters⟩
  · rw [hf] at hshape
    cases hshape
    rfl
  · rw [hf] at hp hshape
    obtain rfl : parameters = [] := hp
    cases hshape
    rfl
  · rw [hf] at hshape
    cases hshape
    rfl

/-- Arguments that are checked and do not conform are given, and are sent as they are. -/
theorem exists_args_of_mismatch {f : Function} (hr : i.request.Blank → f.parameters = [])
    {shape : Shape} (hshape : f.argumentsShape d = .ok shape) {mismatch : Mismatch}
    (hcheck : shape.check i.request.value = .error mismatch) :
    i.request.args = some i.request.value := by
  have hgiven : ¬ i.request.Blank := fun hblank => by
    rw [Request.value_of_blank hblank, check_nil_of_parameters (hr hblank) hshape] at hcheck
    cases hcheck
  rw [Request.value_of_not_blank hgiven]
  cases hargs : i.request.args with
  | none => exact absurd (.inl hargs) hgiven
  | some args => rfl

theorem OnlyStops.of_eq {e : Effect}
    (h : ∀ name mismatch, e.outcome ≠ .error (.invalidArguments name mismatch)) :
    d.OnlyStops id i e e where
  sent name mismatch heq := absurd heq (h name mismatch)
  eq _ := rfl

/-- The check of arguments, case by case of what the invocation does with it. -/
theorem exists_onlyStops {c : Contract} (hc : c.Serves d id config) {on : Effect}
    (h : d.Dispatches id { config with checksArguments := true } answer i on) :
    ∃ off, d.Dispatches id { config with checksArguments := false } answer i off ∧
      d.OnlyStops id i off on := by
  cases h with
  | unknown hf => exact ⟨_, .unknown hf, .of_eq (by simp [Effect.failure])⟩
  | missing hf hr hp => exact ⟨_, .missing hf hr hp, .of_eq (by simp [Effect.failure])⟩
  | @invalid f shape mismatch hf hr _ hshape hcheck =>
    obtain ⟨e, -, hfe, -, -⟩ := hc.exists_entry hf
    have hargs := exists_args_of_mismatch hr hshape hcheck
    have hstops : ∀ off : Effect, off.calls = [⟨f.path i.request.options, id, i.name, i.request.value⟩] →
        d.OnlyStops id i off (.failure (.invalidArguments i.name mismatch)) := fun off hcalls =>
      ⟨fun _ _ _ => ⟨f, _, hf, hargs, hcalls⟩, fun h => absurd rfl (h i.name mismatch)⟩
    cases hanswer : answer i.name with
    | error message => exact ⟨_, .failed hf hr hshape (by simp) hanswer, hstops _ rfl⟩
    | ok v => exact ⟨_, .answered hf hr hshape (by simp) hfe.result hanswer, hstops _ rfl⟩
  | failed hf hr hshape _ hanswer =>
    exact ⟨_, .failed hf hr hshape (by simp) hanswer, .of_eq (by simp)⟩
  | answered hf hr hshape _ hresult hanswer =>
    exact ⟨_, .answered hf hr hshape (by simp) hresult hanswer, .of_eq (by simp)⟩

end Document

/-! ## Switches -/

namespace Contract

variable {d : Document} {id : String}

theorem Serves.withConfig {config : Config} {c : Contract} (hc : c.Serves d id config)
    (config' : Config) : (c.withConfig config').Serves d id config' :=
  ⟨hc.id_eq, rfl, hc.entries⟩

/-- Switches do not leak. A contract is built, or fails to be built, alike under all of them. Under any,
a run does what its invocations do, one by one, in the session in which the contract was built. What an
invocation does differs by a check of results in a warning only, and by a check of arguments only where
that fails. -/
theorem switches_of_synthesize (d : Document) (id : String) (responses : List (String × Response)) :
    let built config := (Session.start responses).perform (synthesize d id config)
    (∀ config config', built config' = ((·.withConfig config') <$> (built config).1, (built config).2)) ∧
      ∀ config c s, built config = (.ok c, s) →
        (∀ config is, (c.withConfig config).run is s =
          (is.map fun i => ((c.withConfig config).effect s i).outcome,
            s.adding (is.flatMap fun i => ((c.withConfig config).effect s i).calls)
              (is.flatMap fun i => ((c.withConfig config).effect s i).lines))) ∧
        ∀ (config : Config) i,
          d.OnlyNotes i ((c.withConfig { config with checksResults := false }).effect s i)
            ((c.withConfig { config with checksResults := true }).effect s i) ∧
          d.OnlyStops id i ((c.withConfig { config with checksArguments := false }).effect s i)
            ((c.withConfig { config with checksArguments := true }).effect s i) := by
  intro built
  refine ⟨perform_synthesize_withConfig _, fun config c s h => ?_⟩
  obtain ⟨hc, rfl⟩ := perform_synthesize h
  have hs : ((Session.start responses).adding [] [.synthesized]).answer = answers responses :=
    answer_start responses
  refine ⟨fun config' => run_eq_effects (hc.withConfig config') hs, fun config' i => ⟨?_, ?_⟩⟩
  · have hoff := dispatches_effect (hc.withConfig { config' with checksResults := false }) hs i
    obtain ⟨on, hon, hnotes⟩ := Document.exists_onlyNotes hoff
    rwa [effect_of_dispatches (hc.withConfig _) hs hon]
  · have hon := dispatches_effect (hc.withConfig { config' with checksArguments := true }) hs i
    obtain ⟨off, hoff, hstops⟩ := Document.exists_onlyStops (hc.withConfig config') hon
    rwa [effect_of_dispatches (hc.withConfig _) hs hoff]

/-- A function of which neither the argument nor the answer is of the declared type: with a check of
arguments it is not called, without it the argument is sent, and a check of results notes the answer. -/
theorem switches_of_synthesize_memo :
    let text : Value := .object [("type", .string "string")]
    let memo : Function :=
      ⟨"memo", none, some .call, [], some ⟨.json, [⟨"text", text⟩]⟩, [], some ⟨.json, text⟩⟩
    let d : Document :=
      ⟨"0.4.0", ⟨none, none, [], none, none, []⟩, ⟨[memo], ⟨none, none, [], [], []⟩⟩⟩
    let c : Contract := ⟨"pair.testnet", .default,
      [⟨memo, [("text", .string .empty)], some (.string .empty)⟩]⟩
    let s : Session := ⟨[], [], [.synthesized]⟩
    let args : Value := .object [("text", .null)]
    let i : Invocation := ⟨"memo", ⟨some args, .empty⟩⟩
    let effect checksArguments checksResults :=
      (c.withConfig ⟨checksArguments, checksResults⟩).effect s i
    let mismatch (steps : List Step) : Mismatch := ⟨steps, .kind "string" .null⟩
    (Session.start []).perform (synthesize d "pair.testnet" .default) = (.ok c, s) ∧
      (effect true false).outcome = .error (.invalidArguments "memo" (mismatch [.key "text"])) ∧
      (effect false false).calls = [⟨.call .empty, "pair.testnet", "memo", args⟩] ∧
      (effect false true).lines = (effect false false).lines ++ [.resultMismatch (mismatch [])] := by
  intro text memo d c s args i effect mismatch
  have h : (Session.start []).perform (synthesize d "pair.testnet" .default) = (.ok c, s) := by
    simp only [text, memo, d, c, s]
    cbv
  have hstopped : (effect true false).outcome =
      .error (.invalidArguments "memo" (mismatch [.key "text"])) := rfl
  have hmismatch : d.Mismatches i (effect false false).outcome (mismatch []) := by
    refine ⟨memo, .string .empty, .null, ?_, ?_, rfl, rfl⟩
    · rfl
    · simp only [text, memo, d]
      cbv
  obtain ⟨-, hswitches⟩ := switches_of_synthesize d "pair.testnet" []
  obtain ⟨-, hsingle⟩ := hswitches .default c s h
  obtain ⟨hnotes, hstops⟩ := hsingle ⟨false, false⟩ i
  obtain ⟨f, given, hf, hgiven, hcalls⟩ := hstops.sent _ _ hstopped
  obtain rfl := Option.some.inj hf
  obtain rfl := Option.some.inj hgiven
  exact ⟨h, hstopped, hcalls, hnotes.warned _ hmismatch⟩

end Contract

end ContractInterface
