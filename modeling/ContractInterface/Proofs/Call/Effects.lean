/-
What a single call does to a session. Computations in a session are run part by part; each adds to the
calls and to the log and leaves the rest as it is (`Session.adding`). A call fails before it has sent
anything, or it sends its arguments and gives the answer back (`perform_call_of_arguments`).
-/
import ContractInterface.Call.Dispatch

namespace ContractInterface

open Json

/-! ## Sessions -/

namespace Session

/-- The session with more calls and lines. -/
def adding (s : Session) (calls : List RecordedCall) (lines : List LogLine) : Session :=
  { s with calls := s.calls ++ calls, log := s.log ++ lines }

/-- What a computation answers in a session, and the session as it leaves it. -/
def perform {α : Type} (s : Session) (x : SessionM α) : Except Failure α × Session := x.run.run s

@[simp] theorem adding_adding (s : Session) (calls calls' : List RecordedCall)
    (lines lines' : List LogLine) :
    (s.adding calls lines).adding calls' lines' = s.adding (calls ++ calls') (lines ++ lines') := by
  simp [adding]

@[simp] theorem adding_nil (s : Session) : s.adding [] [] = s := by
  simp [adding]

@[simp] theorem answer_adding (s : Session) (calls : List RecordedCall) (lines : List LogLine) :
    (s.adding calls lines).answer = s.answer := rfl

end Session

section Perform

variable (s : Session) {α β : Type}

theorem perform_pure (a : α) : s.perform (pure a) = (.ok a, s) := rfl

theorem perform_throw (e : Failure) : s.perform (throw e : SessionM α) = (.error e, s) := rfl

theorem perform_bind (x : SessionM α) (f : α → SessionM β) :
    s.perform (x >>= f) = match s.perform x with
      | (.ok a, s) => s.perform (f a)
      | (.error e, s) => (.error e, s) := by
  unfold Session.perform ExceptT.run StateT.run
  simp only [bind, ExceptT.bind, ExceptT.mk, StateT.bind, ExceptT.bindCont]
  cases x s with
  | mk result s' => cases result <;> rfl

theorem perform_lift (x : Except Failure α) : s.perform (liftM x : SessionM α) = (x, s) := by
  cases x <;> rfl

theorem perform_get : s.perform get = (.ok s, s) := rfl

theorem perform_modify (f : Session → Session) : s.perform (modify f) = (.ok (), f s) := rfl

theorem perform_log (line : LogLine) : s.perform (log line) = (.ok (), s.adding [] [line]) := by
  show (_, s.note line) = _
  simp [Session.note, Session.adding]

/-- A call is recorded whether or not it succeeds. -/
theorem perform_send (call : RecordedCall) : s.perform (send call) =
    ((s.answer call.method).mapError .transport, s.adding [call] []) := by
  have hcalls : { s with calls := s.calls ++ [call] } = s.adding [call] [] := by
    simp [Session.adding]
  simp only [send, perform_bind, perform_modify, perform_get, hcalls, Session.answer_adding]
  cases s.answer call.method <;> rfl

end Perform

/-! ## Arguments -/

namespace Request

/-- No arguments are given. -/
def Blank (r : Request) : Prop := r.args = none ∨ r.args = some .null

/-- The arguments that are sent: an empty object if none are given. -/
def value (r : Request) : Value :=
  match r.args with
  | none | some .null => .object []
  | some v => v

theorem all_isNull_iff {r : Request} : r.args.all Value.isNull = true ↔ r.Blank := by
  unfold Blank
  rcases r.args with _ | v
  · simp
  · cases v <;> simp [Value.isNull]

theorem value_of_blank {r : Request} (h : r.Blank) : r.value = .object [] := by
  unfold value
  rcases h with h | h <;> rw [h]

theorem value_of_not_blank {r : Request} (h : ¬ r.Blank) : r.value = r.args.getD .null := by
  unfold Blank at h
  unfold value
  rcases hargs : r.args with _ | v
  · simp [hargs] at h
  · cases v <;> simp [hargs] at h ⊢

end Request

namespace Entry

variable {e : Entry} {config : Config} {r : Request}

theorem requiresArgs_iff {f : Function} : f.requiresArgs = true ↔ f.parameters ≠ [] := by
  simp [Function.requiresArgs]

theorem arguments_of_missing (hr : r.Blank) (hp : e.function.parameters ≠ []) :
    e.arguments config r.args = .error (.missingArguments e.function.name) := by
  unfold arguments
  rw [if_pos (Request.all_isNull_iff.2 hr), if_pos (requiresArgs_iff.2 hp)]
  rfl

/-- Arguments that are not missing are sent unless they are checked and do not conform. -/
theorem arguments_of_given (hr : r.Blank → e.function.parameters = []) :
    e.arguments config r.args =
      if config.checksArguments then
        ((e.argumentsShape.check r.value).mapError (.invalidArguments e.function.name)).map
          fun _ => r.value
      else .ok r.value := by
  have hrequires : r.args.all Value.isNull = true → e.function.requiresArgs = false := fun h => by
    simp [Function.requiresArgs, hr (Request.all_isNull_iff.1 h)]
  unfold arguments
  -- either way the arguments are settled before they are checked, and the check does not change them
  by_cases hblank : r.Blank
  · rw [Request.value_of_blank hblank]
    simp only [Request.all_isNull_iff.2 hblank, hrequires, if_true, Bool.false_eq_true, if_false,
      pure_bind]
    cases config.checksArguments
    · rfl
    · cases e.argumentsShape.check (.object []) <;> rfl
  · rw [Request.value_of_not_blank hblank]
    simp only [mt Request.all_isNull_iff.1 hblank, Bool.false_eq_true, if_false, pure_bind]
    cases config.checksArguments
    · rfl
    · cases e.argumentsShape.check (r.args.getD .null) <;> rfl

theorem arguments_of_mismatch (hr : r.Blank → e.function.parameters = [])
    (hchecks : config.checksArguments = true) {mismatch : Mismatch}
    (h : e.argumentsShape.check r.value = .error mismatch) :
    e.arguments config r.args = .error (.invalidArguments e.function.name mismatch) := by
  rw [arguments_of_given hr, if_pos hchecks, h]
  rfl

theorem arguments_of_accepts (hr : r.Blank → e.function.parameters = [])
    (h : config.checksArguments = true → e.argumentsShape.accepts r.value = true) :
    e.arguments config r.args = .ok r.value := by
  rw [arguments_of_given hr]
  split
  · rename_i hchecks
    have haccepts : (e.argumentsShape.check r.value).passes = true := h hchecks
    cases hcheck : e.argumentsShape.check r.value with
    | ok => rfl
    | error mismatch =>
      rw [hcheck] at haccepts
      cases haccepts
  · rfl

end Entry

/-! ## Sending -/

namespace Function

/-- The way of a call of the function: a query, for which no options are known, or a transaction with
the options as they are given. -/
def path (f : Function) (options : TransactionOptions) : CallPath :=
  if f.kind = some .view then .view else .call options

/-- What the log says of a call that is sent. -/
def announcement (f : Function) (options : TransactionOptions) : List LogLine :=
  if f.kind = some .view then
    if options = .empty then [.view] else [.optionsIgnored, .view]
  else [.call]

end Function

/-- What the log says of a result that is checked. -/
def remarks (shape : Option Shape) (result : Value) : List LogLine :=
  match shape with
  | none => []
  | some shape =>
    match shape.check result with
    | .ok _ => []
    | .error mismatch => [.resultMismatch mismatch]

theorem perform_dispatch (s : Session) (e : Entry) (id : String) (args : Value)
    (options : TransactionOptions) : s.perform (e.dispatch id args options) =
      ((s.answer e.function.name).mapError .transport,
        s.adding [⟨e.function.path options, id, e.function.name, args⟩]
          (e.function.announcement options)) := by
  unfold Entry.dispatch Function.path Function.announcement Function.isView
  by_cases hview : e.function.kind = some .view
  · by_cases hoptions : options = .empty
    · simp [hview, hoptions, perform_bind, perform_log, perform_send]
    · simp [hview, hoptions, perform_bind, perform_log, perform_send]
  · simp [hview, perform_bind, perform_log, perform_send]

theorem perform_checkResult (s : Session) (e : Entry) (result : Value) :
    s.perform (e.checkResult result) = (.ok (), s.adding [] (remarks e.result result)) := by
  unfold Entry.checkResult remarks
  rcases e.result with _ | shape
  · simp [perform_pure]
  · cases h : shape.check result with
    | ok => simp [h, perform_pure]
    | error mismatch => simp [h, perform_log]

/-- A call whose arguments are sent. Its answer is given back as it is; a check of the result adds
nothing but lines. -/
theorem perform_call_of_arguments (s : Session) {c : Contract} {name : String} {r : Request}
    {e : Entry} {args : Value} (he : c.entry? name = some e)
    (hargs : e.arguments c.config r.args = .ok args) :
    s.perform (c.call name r) = ((s.answer e.function.name).mapError .transport,
      s.adding [⟨e.function.path r.options, c.id, e.function.name, args⟩]
        (e.function.announcement r.options ++
          match s.answer e.function.name with
          | .ok v => if c.config.checksResults then remarks e.result v else []
          | .error _ => [])) := by
  unfold Contract.call
  simp only [he, perform_bind, perform_lift, hargs, perform_dispatch]
  cases s.answer e.function.name with
  | error message =>
    rw [List.append_nil]
    rfl
  | ok v =>
    show Session.perform _ (if c.config.checksResults then _ else _) =
      (.ok v, s.adding _ (_ ++ if c.config.checksResults then remarks e.result v else []))
    split
    · simp only [perform_bind, perform_checkResult, perform_pure, Session.adding_adding,
        List.append_nil]
    · rw [List.append_nil]
      rfl

/-- Nothing is sent before the arguments are there. -/
theorem perform_call_of_arguments_error (s : Session) {c : Contract} {name : String} {r : Request}
    {e : Entry} {failure : Failure} (he : c.entry? name = some e)
    (hargs : e.arguments c.config r.args = .error failure) :
    s.perform (c.call name r) = (.error failure, s) := by
  unfold Contract.call
  simp only [he, perform_bind, perform_lift, hargs]

end ContractInterface
