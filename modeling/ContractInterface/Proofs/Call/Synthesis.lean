/-
What building a contract comes to. One resolver serves all schemas of a document, and yet each of them
gets the shape that a resolver of its own would give (`Contract.build_eq`): whether a contract can be
built, and what its entries hold, is a matter of the single schemas and not of their order.
-/
import ContractInterface.Call.Dispatch
import ContractInterface.Proofs.Shape.Memo

namespace ContractInterface

open Json

/-! ## Shapes of a document -/

/-- The shape of a schema of the document. -/
def Document.shapeOf (d : Document) (schema : Value) : Except ResolveError Shape :=
  ContractInterface.resolve d.table (Node.ofValue schema)

namespace Function

/-- The shape of all arguments of a function together: exactly its parameters, if they are written as
JSON. -/
def argumentsShape (f : Function) (d : Document) : Except ResolveError Shape :=
  match f.params with
  | some ⟨.json, parameters⟩ => do
    let properties ← parameters.mapM fun p => do return ⟨p.name, true, ← d.shapeOf p.schema⟩
    return .object properties .forbidden
  | some ⟨.borsh, _⟩ => return .any
  | none => return .object [] .forbidden

/-- The shape of the result, if the function declares one. -/
def resultShape (f : Function) (d : Document) : Except ResolveError (Option Shape) :=
  match f.result with
  | some ⟨.json, schema⟩ => do return some (← d.shapeOf schema)
  | some ⟨.borsh, _⟩ => return some .any
  | none => return none

end Function

/-! ## Entries -/

namespace Entry

section Related

variable {m₁ m₂ : Type → Type} [Monad m₁] [Monad m₂] (R : MonadRelation m₁ m₂)
  {g₁ : Value → m₁ Shape} {g₂ : Value → m₂ Shape} (h : ∀ schema, R.Rel (g₁ schema) (g₂ schema))

include h

theorem resolveParams_related (f : Function) : R.Rel (resolveParams g₁ f) (resolveParams g₂ f) := by
  unfold resolveParams
  split
  · exact R.mapM (fun (p : Parameter) => R.bind (h p.schema) fun s => R.pure _) _
  · exact R.pure _
  · exact R.pure _

theorem resolveResult_related (f : Function) : R.Rel (resolveResult g₁ f) (resolveResult g₂ f) := by
  unfold resolveResult
  split
  · exact R.bind (h _) fun s => R.pure _
  · exact R.pure _
  · exact R.pure _

theorem resolveWith_related (f : Function) : R.Rel (resolveWith g₁ f) (resolveWith g₂ f) :=
  R.bind (resolveParams_related R h f) fun _ => R.bind (resolveResult_related R h f) fun _ => R.pure _

end Related

/-- The entry of a function of the document, with a resolver of its own for each schema. -/
def Serves (d : Document) (f : Function) (e : Entry) : Prop := resolveWith d.shapeOf f = .ok e

section Serves

variable {d : Document} {f : Function} {e : Entry} (h : Serves d f e)

include h

theorem Serves.function_eq : e.function = f := by
  obtain ⟨params, -, h⟩ := bind_eq_ok.1 h
  obtain ⟨result, -, ⟨⟩⟩ := bind_eq_ok.1 h
  rfl

theorem Serves.result : f.resultShape d = .ok e.result := by
  obtain ⟨params, -, h⟩ := bind_eq_ok.1 h
  obtain ⟨result, hresult, ⟨⟩⟩ := bind_eq_ok.1 h
  unfold resolveResult at hresult
  exact hresult

theorem Serves.arguments : f.argumentsShape d = .ok e.argumentsShape := by
  obtain ⟨params, hparams, h⟩ := bind_eq_ok.1 h
  obtain ⟨result, -, ⟨⟩⟩ := bind_eq_ok.1 h
  unfold resolveParams at hparams
  unfold Function.argumentsShape argumentsShape
  rcases hf : f.params with _ | ⟨_ | _, parameters⟩
  · rw [hf] at hparams
    cases hparams
    rfl
  · simp only [hf] at hparams
    refine bind_eq_ok.2 ⟨_, mapM_eq_ok.2 (List.forall₂_map_right_iff.2 ?_), rfl⟩
    refine (mapM_eq_ok.1 hparams).imp fun p q hq => ?_
    obtain ⟨s, hs, ⟨⟩⟩ := bind_eq_ok.1 hq
    exact bind_eq_ok.2 ⟨s, hs, rfl⟩
  · rfl

end Serves

end Entry

/-! ## Contracts -/

namespace Contract

/-- One resolver finds the entries that resolvers of their own would find. -/
theorem mapM_resolve_eq (d : Document) (fs : List Function) :
    (Resolver.outcome (fs.mapM (Entry.resolve d.table)) .empty).1 =
      fs.mapM (Entry.resolveWith d.shapeOf) := by
  -- from the resolver with its memo to the plain one, and from there to one resolver for each schema
  have hagrees : Resolver.Agrees d.table [] (fs.mapM (Entry.resolve d.table))
      (fs.mapM (Entry.resolveWith fun schema =>
        (Node.ofValue schema).resolveWith (Resolver.plain d.table))) :=
    (Resolver.agreement d.table []).mapM
      (Entry.resolveWith_related _ fun schema => Resolver.resolve_agrees _ _) fs
  have hplain : (Resolver.atStack []).Rel (fs.mapM (Entry.resolveWith fun schema =>
      (Node.ofValue schema).resolveWith (Resolver.plain d.table)))
      (fs.mapM (Entry.resolveWith d.shapeOf)) :=
    (Resolver.atStack []).mapM (Entry.resolveWith_related _ fun schema =>
      (Resolver.resolveWith_plain ..).trans (Resolver.resolve_eq_expand ..).symm) fs
  exact (hagrees.outcome_eq (Resolver.Sound.empty d.table) rfl).trans hplain

theorem build_eq (d : Document) (id : String) (config : Config) : build d id config = do
    d.check
    let entries ← (d.body.functions.mapM (Entry.resolveWith d.shapeOf)).mapError .schema
    return ⟨id, config, entries⟩ := by
  rw [← mapM_resolve_eq]
  unfold build Resolver.outcome
  congr 1
  funext _
  cases d.body.functions.mapM (Entry.resolve d.table) Resolver.empty <;> rfl

/-- A contract that serves the document has an entry for each function, in their order. -/
structure Serves (d : Document) (id : String) (config : Config) (c : Contract) : Prop where
  id_eq : c.id = id
  config_eq : c.config = config
  entries : List.Forall₂ (Entry.Serves d) d.body.functions c.entries

theorem serves_of_build {d : Document} {id : String} {config : Config} {c : Contract}
    (h : build d id config = .ok c) : Serves d id config c := by
  rw [build_eq] at h
  obtain ⟨-, -, h⟩ := bind_eq_ok.1 h
  obtain ⟨entries, hentries, ⟨⟩⟩ := bind_eq_ok.1 h
  refine ⟨rfl, rfl, mapM_eq_ok.1 ?_⟩
  cases hmap : d.body.functions.mapM (Entry.resolveWith d.shapeOf) with
  | ok es =>
    rw [hmap] at hentries
    cases hentries
    rfl
  | error e =>
    rw [hmap] at hentries
    cases hentries

/-- A contract has an entry under the names of the functions of its document, and under no others. -/
theorem Serves.entry?_rel {d : Document} {id : String} {config : Config} {c : Contract}
    (h : Serves d id config c) (name : String) :
    Option.Rel (Entry.Serves d) (d.function? name) (c.entry? name) :=
  rel_find? (fun f e h => by rw [h.function_eq]) h.entries

end Contract

end ContractInterface
