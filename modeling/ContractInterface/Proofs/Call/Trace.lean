/-
What building a contract logs. A computation that resolves schemas reads some schemas in turn
(`TraceM.Reads`), and stops at the first that has no shape; so what it logs is what reading these notes.
Building reads all definitions, and then the schemas of the functions up to the first that has no shape
(`Document.readings`, `Contract.trace_eq`). A session has of all this the lines of contracts
(`Contract.perform_synthesize_eq_trace`).
-/
import ContractInterface.Call.Trace
import ContractInterface.Proofs.Call.Construction
import ContractInterface.Proofs.Call.Effects

namespace ContractInterface

open Json

/-! ## Up to the first failure -/

section UntilFailure

variable {ε α β : Type} {f : α → Except ε β} {as bs : List α}

/-- The elements up to the first one that fails, with that one. -/
def untilFailure (f : α → Except ε β) : List α → List α
  | [] => []
  | a :: as =>
    match f a with
    | .ok _ => a :: untilFailure f as
    | .error _ => [a]

theorem failure?_mapM_cons (f : α → Except ε β) (a : α) (as : List α) :
    failure? ((a :: as).mapM f) = (failure? (f a)).or (failure? (as.mapM f)) := by
  rw [List.mapM_cons]
  cases f a with
  | error e => rfl
  | ok b => exact failure?_bind_pure ..

theorem untilFailure_append_of_ok (h : failure? (as.mapM f) = none) (bs : List α) :
    untilFailure f (as ++ bs) = as ++ untilFailure f bs := by
  induction as with
  | nil => rfl
  | cons a as ih =>
    rw [failure?_mapM_cons, Option.or_eq_none_iff] at h
    obtain ⟨b, hb⟩ := failure?_eq_none_iff.1 h.1
    simp only [List.cons_append, untilFailure, hb, ih h.2]

/-- What stands behind a failure does not matter. -/
theorem untilFailure_append_of_error {e : ε} (h : failure? (as.mapM f) = some e) (bs : List α) :
    untilFailure f (as ++ bs) = untilFailure f as := by
  induction as with
  | nil => cases h
  | cons a as ih =>
    rw [failure?_mapM_cons] at h
    rw [List.cons_append, untilFailure, untilFailure]
    cases ha : f a with
    | error => rfl
    | ok b =>
      rw [ha] at h
      exact congrArg (a :: ·) (ih h)

theorem untilFailure_of_ok (h : failure? (as.mapM f) = none) : untilFailure f as = as := by
  simpa [untilFailure] using untilFailure_append_of_ok h []

end UntilFailure

/-! ## Reading in turn -/

namespace TraceM

theorem outcome_bind {α β : Type} (x : TraceM α) (f : α → TraceM β) (s : Resolver × List Event) :
    outcome (x >>= f) s = match outcome x s with
      | (.ok a, s) => outcome (f a) s
      | (.error e, s) => (.error e, s) := by
  simp only [outcome, bind, EStateM.bind]
  cases x s <;> rfl

theorem outcome_readAndResolve (d : Definitions) (schema : Value) (r : Resolver)
    (events : List Event) : outcome (readAndResolve d schema) (r, events) =
      let answer := Resolver.outcome (Resolver.resolve d (Node.ofValue schema)) r
      (answer.1, answer.2, events ++ Event.ofReading schema) := by
  simp only [outcome, Resolver.outcome, readAndResolve]
  cases Resolver.resolve d (Node.ofValue schema) r <;> rfl

/-- The computation answers as `plain` does, which fails as the first of the schemas without a shape does,
and notes what reading the schemas up to that one notes. -/
structure Reads (d : Document) {α : Type} (x : TraceM α) (plain : Except ResolveError α)
    (schemas : List Value) : Prop where
  failure_eq : failure? plain = failure? (schemas.mapM d.shapeOf)
  outcome_eq : ∀ r events, Resolver.Sound d.table r → r.visiting = [] →
    ∃ left, Resolver.Sound d.table left ∧ left.visiting = [] ∧ outcome x (r, events) =
      (plain, left, events ++ (untilFailure d.shapeOf schemas).flatMap Event.ofReading)

namespace Reads

variable {d : Document} {α β : Type} {x : TraceM α} {y : Except ResolveError α}
  {schemas later : List Value}

theorem pure (a : α) : Reads d (pure a) (.ok a) [] where
  failure_eq := rfl
  outcome_eq r events hr hv := ⟨r, hr, hv, by rw [untilFailure, List.flatMap_nil, List.append_nil]; rfl⟩

theorem bind {f : α → TraceM β} {g : α → Except ResolveError β} (hx : Reads d x y schemas)
    (hf : ∀ a, Reads d (f a) (g a) later) : Reads d (x >>= f) (y >>= g) (schemas ++ later) := by
  have hfailure := hx.failure_eq
  cases y with
  | error e =>
    -- the first part fails, so the second one reads nothing
    refine ⟨?_, fun r events hr hv => ?_⟩
    · rw [failure?_mapM_append, ← hfailure]
      rfl
    · obtain ⟨left, hleft, hvleft, hout⟩ := hx.outcome_eq r events hr hv
      rw [outcome_bind, hout, untilFailure_append_of_error hfailure.symm]
      exact ⟨left, hleft, hvleft, rfl⟩
  | ok a =>
    refine ⟨?_, fun r events hr hv => ?_⟩
    · rw [failure?_mapM_append, ← hfailure]
      exact (hf a).failure_eq
    · obtain ⟨mid, hmid, hvmid, hout⟩ := hx.outcome_eq r events hr hv
      rw [untilFailure_of_ok hfailure.symm] at hout
      obtain ⟨left, hleft, hvleft, hout'⟩ := (hf a).outcome_eq mid _ hmid hvmid
      refine ⟨left, hleft, hvleft, ?_⟩
      rw [outcome_bind, hout, untilFailure_append_of_ok hfailure.symm, List.flatMap_append,
        ← List.append_assoc]
      exact hout'

theorem map (g : α → β) (hx : Reads d x y schemas) :
    Reads d (x >>= fun a => Pure.pure (g a)) (y >>= fun a => .ok (g a)) schemas := by
  simpa using hx.bind fun a => pure (g a)

theorem read (d : Document) (schema : Value) :
    Reads d (readAndResolve d.table schema) (d.shapeOf schema) [schema] where
  failure_eq := by
    rw [List.mapM_cons, List.mapM_nil]
    exact (failure?_bind_pure ..).symm
  outcome_eq r events hr hv := by
    obtain ⟨hanswer, hsound, hvisiting⟩ := Resolver.outcome_resolve (Node.ofValue schema) hr hv
    rw [← Resolver.resolve_eq_expand] at hanswer
    have hread : (untilFailure d.shapeOf [schema]) = [schema] := by
      unfold untilFailure
      cases d.shapeOf schema <;> rfl
    refine ⟨_, hsound, hvisiting, ?_⟩
    rw [hread, List.flatMap_singleton, Document.shapeOf, ← hanswer, outcome_readAndResolve]

theorem mapM {σ : Type} {f : σ → TraceM α} {g : σ → Except ResolveError α} {schemas : σ → List Value}
    (h : ∀ a, Reads d (f a) (g a) (schemas a)) (as : List σ) :
    Reads d (as.mapM f) (as.mapM g) (as.flatMap schemas) := by
  induction as with
  | nil => exact pure []
  | cons a as ih =>
    rw [List.mapM_cons, List.mapM_cons, List.flatMap_cons]
    exact (h a).bind fun b => ih.map (b :: ·)

end Reads

end TraceM

/-! ## Functions -/

namespace Entry

open TraceM

theorem resolveParams_reads (d : Document) (f : Function) :
    Reads d (resolveParams (readAndResolve d.table) f) (resolveParams d.shapeOf f)
      (match f.params with
        | some ⟨.json, parameters⟩ => parameters.map Parameter.schema
        | some ⟨.borsh, _⟩ | none => []) := by
  unfold resolveParams
  rcases f.params with _ | ⟨_ | _, parameters⟩
  · exact .pure _
  · have hall := Reads.mapM (fun p : Parameter => (Reads.read d p.schema).map (p.name, ·)) parameters
    rwa [← List.map_eq_flatMap] at hall
  · exact .pure _

theorem resolveResult_reads (d : Document) (f : Function) :
    Reads d (resolveResult (readAndResolve d.table) f) (resolveResult d.shapeOf f)
      (match f.result with
        | some ⟨.json, schema⟩ => [schema]
        | some ⟨.borsh, _⟩ | none => []) := by
  unfold resolveResult
  rcases f.result with _ | ⟨_ | _, schema⟩
  · exact .pure _
  · exact (Reads.read d schema).map some
  · exact .pure _

theorem resolveWith_reads (d : Document) (f : Function) :
    Reads d (resolveWith (readAndResolve d.table) f) (resolveWith d.shapeOf f) f.schemas :=
  (resolveParams_reads d f).bind fun _ => (resolveResult_reads d f).map _

end Entry

/-! ## Building -/

/-- The raw schemas that are read when a contract is built, in their order: the definitions, and those of
the functions up to the first that has no shape. A document that is not in order is not read. -/
def Document.readings (d : Document) : List Value :=
  match d.check with
  | .error _ => []
  | .ok () => d.body.rootSchema.rawDefinitions.map Prod.snd ++ untilFailure d.shapeOf d.schemas

namespace Contract

variable {d : Document} {id : String} {config : Config}

theorem readings_of_build {c : Contract} (h : build d id config = .ok c) :
    d.readings = d.body.rootSchema.rawDefinitions.map Prod.snd ++ d.schemas := by
  obtain ⟨hcheck, entries, hentries, -⟩ := build_eq_ok_iff.1 h
  have hshapes : failure? (d.schemas.mapM d.shapeOf) = none := by
    unfold Document.schemas
    rw [← Entry.failure?_mapM_resolveWith, hentries]
    rfl
  unfold Document.readings
  rw [hcheck, untilFailure_of_ok hshapes]

/-- Building a contract logs what reading the schemas notes, and then that the contract is built, if it
is. -/
theorem trace_eq (d : Document) (id : String) (config : Config) : trace d id config =
    (build d id config, d.readings.flatMap Event.ofReading ++
      match build d id config with
      | .ok _ => [.contract .synthesized]
      | .error _ => []) := by
  have hreads := TraceM.Reads.mapM (Entry.resolveWith_reads d) d.body.functions
  obtain ⟨left, -, -, hout⟩ := hreads.outcome_eq .empty d.tableEvents (.empty _) rfl
  have htable : d.tableEvents =
      (d.body.rootSchema.rawDefinitions.map Prod.snd).flatMap Event.ofReading := by
    rw [List.flatMap_map]
    rfl
  unfold trace Document.readings
  dsimp only
  rw [hout, build_eq, htable, ← List.flatMap_append]
  cases d.check with
  | error failure => rfl
  | ok =>
    cases d.body.functions.mapM (Entry.resolveWith d.shapeOf) with
    | error e => exact Prod.ext rfl (List.append_nil _).symm
    | ok entries => rfl

/-- Of all that is logged, a session has the lines of contracts. -/
theorem perform_synthesize_eq_trace (s : Session) (d : Document) (id : String) (config : Config) :
    s.perform (synthesize d id config) = ((trace d id config).1,
      s.adding [] ((trace d id config).2.filterMap Event.line?)) := by
  have hreading : (d.readings.flatMap Event.ofReading).filterMap Event.line? = [] := by
    refine List.filterMap_eq_nil_iff.2 fun event hevent => ?_
    obtain ⟨schema, -, hevent⟩ := List.mem_flatMap.1 hevent
    obtain ⟨source, -, rfl⟩ := List.mem_map.1 hevent
    rfl
  rw [trace_eq, List.filterMap_append, hreading]
  unfold synthesize
  rw [perform_bind, perform_lift]
  cases build d id config with
  | error failure => exact congrArg (_, ·) s.adding_nil.symm
  | ok c =>
    simp only [perform_bind, perform_log, perform_pure]
    rfl

end Contract

end ContractInterface
