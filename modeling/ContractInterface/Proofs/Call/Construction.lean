/-
When a contract can be built, what stands in its way otherwise, and what it holds
(`Contract.build_exact`). Each condition is on the document alone: its version, the names of its
functions, and each schema by itself, against a table in which a name stands for its entry in
`definitions` or, without one, for its local entry.
-/
import ContractInterface.Proofs.Call.Synthesis
import ContractInterface.Proofs.Json.Order

namespace ContractInterface

open Json

/-! ## The table of a document -/

theorem RootSchema.lookup_rawDefinitions (root : RootSchema) (name : String) :
    root.rawDefinitions.lookup name =
      (root.definitions.lookup name).or (root.localDefinitions.lookup name) := by
  have hlocal := Value.lookup_filter_keys (fun name => (root.definitions.lookup name).isNone)
    root.localDefinitions name
  unfold rawDefinitions
  rw [Value.lookup_orderMembers, List.lookup_append]
  refine (congrArg _ hlocal).trans ?_
  cases root.definitions.lookup name <;> rfl

/-- A name stands for its entry in `definitions`, or for its local one if there is none. -/
theorem Document.get?_table (d : Document) (name : String) : d.table.get? name =
    ((d.body.rootSchema.definitions.lookup name).or
      (d.body.rootSchema.localDefinitions.lookup name)).map Node.ofValue := by
  unfold table
  rw [Definitions.get?_ofRaw, RootSchema.lookup_rawDefinitions]

/-! ## What a document asks for -/

/-- The schemas of a function that must have shapes, in their order: those of its parameters and that of
its result, where these are written as JSON. -/
def Function.schemas (f : Function) : List Value :=
  (match f.params with
    | some ⟨.json, parameters⟩ => parameters.map Parameter.schema
    | some ⟨.borsh, _⟩ | none => []) ++
  match f.result with
  | some ⟨.json, schema⟩ => [schema]
  | some ⟨.borsh, _⟩ | none => []

namespace Document

/-- The schemas of a document that must have shapes, in their order. -/
def schemas (d : Document) : List Value := d.body.functions.flatMap Function.schemas

/-- Why no contract can be built of the document: the first of its version, the names of its functions
and its schemas that is not in order. -/
inductive Refuses (d : Document) : Failure → Prop
  | version {cause : SupportError} : checkVersion d.schemaVersion = .error cause →
      Refuses d (.version cause)
  | duplicate {before after : List Function} {f : Function} :
      checkVersion d.schemaVersion = .ok () → d.body.functions = before ++ f :: after →
      (before.map (·.name)).Nodup → f.name ∈ before.map (·.name) →
      Refuses d (.duplicateFunction f.name)
  | schema {before after : List Value} {schema : Value} {e : ResolveError} :
      checkVersion d.schemaVersion = .ok () → d.functionNames.Nodup →
      d.schemas = before ++ schema :: after → (∀ other ∈ before, ∃ s, d.shapeOf other = .ok s) →
      d.shapeOf schema = .error e → Refuses d (.schema e)

/-- A schema of a block has the shape. What is not written as JSON has the one that permits
everything. -/
def Gives (d : Document) (format : Format) (schema : Value) (s : Shape) : Prop :=
  match format with
  | .json => d.shapeOf schema = .ok s
  | .borsh => s = .any

end Document

/-- An entry that holds the function as it is declared, and the shapes of its parameters, in their
order, and of its result. -/
structure Entry.Holds (d : Document) (f : Function) (e : Entry) : Prop where
  function : e.function = f
  params : match f.params with
    | some block => List.Forall₂ (fun p q => q.1 = p.name ∧ d.Gives block.format p.schema q.2)
        block.parameters e.params
    | none => e.params = []
  result : match f.result with
    | some block => ∃ s, e.result = some s ∧ d.Gives block.format block.schema s
    | none => e.result = none

namespace Entry

variable {d : Document} {f : Function} {e : Entry}

theorem holds_of_serves (h : Serves d f e) : Holds d f e := by
  have hfunction := h.function_eq
  obtain ⟨params, hparams, h⟩ := bind_eq_ok.1 h
  obtain ⟨result, hresult, ⟨⟩⟩ := bind_eq_ok.1 h
  unfold resolveParams at hparams
  unfold resolveResult at hresult
  refine ⟨hfunction, ?_, ?_⟩
  · rcases hf : f.params with _ | ⟨_ | _, parameters⟩
    · rw [hf] at hparams
      cases hparams
      rfl
    · simp only [hf] at hparams
      refine (mapM_eq_ok.1 hparams).imp fun p q hq => ?_
      obtain ⟨s, hs, ⟨⟩⟩ := bind_eq_ok.1 hq
      exact ⟨rfl, hs⟩
    · rw [hf] at hparams
      cases hparams
      refine List.forall₂_map_right_iff.2 (List.forall₂_same.2 fun p _ => ⟨rfl, rfl⟩)
  · rcases hf : f.result with _ | ⟨_ | _, schema⟩
    · rw [hf] at hresult
      cases hresult
      rfl
    · simp only [hf] at hresult
      obtain ⟨s, hs, ⟨⟩⟩ := bind_eq_ok.1 hresult
      exact ⟨s, rfl, hs⟩
    · rw [hf] at hresult
      cases hresult
      exact ⟨.any, rfl, rfl⟩

/-- The entry of a function fails as its schemas do. -/
theorem failure?_resolveWith (d : Document) (f : Function) :
    failure? (resolveWith d.shapeOf f) = failure? (f.schemas.mapM d.shapeOf) := by
  have hparams : failure? (resolveParams d.shapeOf f) = failure? ((match f.params with
      | some ⟨.json, parameters⟩ => parameters.map Parameter.schema
      | some ⟨.borsh, _⟩ | none => []).mapM d.shapeOf) := by
    unfold resolveParams
    rcases f.params with _ | ⟨_ | _, parameters⟩
    · rfl
    · induction parameters with
      | nil => rfl
      | cons p parameters ih =>
        simp only [List.mapM_cons, List.map_cons]
        cases d.shapeOf p.schema with
        | error e => rfl
        | ok s =>
          exact (failure?_bind_pure ..).trans (ih.trans (failure?_bind_pure ..).symm)
    · rfl
  have hresult : failure? (resolveResult d.shapeOf f) = failure? ((match f.result with
      | some ⟨.json, schema⟩ => [schema]
      | some ⟨.borsh, _⟩ | none => []).mapM d.shapeOf) := by
    unfold resolveResult
    rcases f.result with _ | ⟨_ | _, schema⟩
    · rfl
    · simp only [List.mapM_cons, List.mapM_nil]
      cases d.shapeOf schema <;> rfl
    · rfl
  unfold Function.schemas resolveWith
  rw [failure?_mapM_append, ← hparams, ← hresult]
  cases resolveParams d.shapeOf f with
  | error e => rfl
  | ok params => exact failure?_bind_pure ..

theorem failure?_mapM_resolveWith (d : Document) (fs : List Function) :
    failure? (fs.mapM (resolveWith d.shapeOf)) =
      failure? ((fs.flatMap Function.schemas).mapM d.shapeOf) := by
  induction fs with
  | nil => rfl
  | cons f fs ih =>
    rw [List.mapM_cons, List.flatMap_cons, failure?_mapM_append, ← ih, ← failure?_resolveWith]
    cases resolveWith d.shapeOf f with
    | error e => rfl
    | ok entry => exact failure?_bind_pure ..

end Entry

/-! ## Names -/

namespace Document

theorem firstRepeated?_eq_none_iff : ∀ {seen names : List String},
    firstRepeated? seen names = none ↔ names.Nodup ∧ ∀ name ∈ names, name ∉ seen
  | seen, [] => by simp [firstRepeated?]
  | seen, name :: names => by
    have ih := @firstRepeated?_eq_none_iff (name :: seen) names
    unfold firstRepeated?
    by_cases hseen : name ∈ seen
    · simp [hseen]
    · simp only [List.contains_iff_mem, hseen, if_false, ih, List.nodup_cons, List.mem_cons, not_or]
      constructor
      · rintro ⟨hnames, hnew⟩
        refine ⟨⟨fun h => (hnew name h).1 rfl, hnames⟩, ?_⟩
        rintro other (rfl | h)
        · exact hseen
        · exact (hnew other h).2
      · rintro ⟨⟨hname, hnames⟩, hnew⟩
        exact ⟨hnames, fun other h => ⟨fun heq => hname (heq ▸ h), hnew other (.inr h)⟩⟩

/-- The first name that stands earlier too. -/
theorem firstRepeated?_eq_some_iff {repeated : String} : ∀ {seen names : List String},
    firstRepeated? seen names = some repeated ↔ ∃ before after, names = before ++ repeated :: after ∧
      (before.Nodup ∧ ∀ name ∈ before, name ∉ seen) ∧ (repeated ∈ before ∨ repeated ∈ seen)
  | seen, [] => by simp [firstRepeated?]
  | seen, name :: names => by
    have ih := @firstRepeated?_eq_some_iff repeated (name :: seen) names
    unfold firstRepeated?
    by_cases hseen : name ∈ seen
    -- a name that is seen is the first repeated one: nothing before the repeated one is seen
    · simp only [List.contains_iff_mem, hseen, if_true, Option.some.injEq]
      constructor
      · rintro rfl
        exact ⟨[], names, rfl, by simp, .inr hseen⟩
      · rintro ⟨before, after, h, ⟨-, hnew⟩, -⟩
        cases before with
        | nil => exact (List.cons.inj h).1
        | cons other before =>
          obtain ⟨rfl, -⟩ := List.cons.inj h
          exact absurd hseen (hnew name (List.mem_cons_self ..))
    · simp only [List.contains_iff_mem, hseen, if_false, ih]
      constructor
      · rintro ⟨before, after, rfl, ⟨hbefore, hnew⟩, hrepeated⟩
        refine ⟨name :: before, after, rfl, ⟨?_, ?_⟩, ?_⟩
        · exact List.nodup_cons.2 ⟨fun h => hnew name h (List.mem_cons_self ..), hbefore⟩
        · refine List.forall_mem_cons.2 ⟨hseen, fun other h hs => hnew other h ?_⟩
          exact List.mem_cons_of_mem _ hs
        · rcases hrepeated with h | h
          · exact .inl (List.mem_cons_of_mem _ h)
          · rcases List.mem_cons.1 h with rfl | h
            · exact .inl (List.mem_cons_self ..)
            · exact .inr h
      · rintro ⟨before, after, h, ⟨hbefore, hnew⟩, hrepeated⟩
        cases before with
        | nil =>
          obtain ⟨rfl, -⟩ := List.cons.inj h
          exact absurd (hrepeated.resolve_left (by simp)) hseen
        | cons other before =>
          obtain ⟨rfl, rfl⟩ := List.cons.inj h
          obtain ⟨hother, hbefore⟩ := List.nodup_cons.1 hbefore
          refine ⟨before, after, rfl, ⟨hbefore, fun x hx hs => ?_⟩, ?_⟩
          · rcases List.mem_cons.1 hs with rfl | hs
            · exact hother hx
            · exact hnew x (List.mem_cons_of_mem _ hx) hs
          · rcases hrepeated with h | h
            · rcases List.mem_cons.1 h with rfl | h
              · exact .inr (List.mem_cons_self ..)
              · exact .inl h
            · exact .inr (List.mem_cons_of_mem _ h)

end Document

/-! ## Building -/

namespace Contract

variable {d : Document} {id : String} {config : Config}

theorem check_eq_ok_iff :
    d.check = .ok () ↔ checkVersion d.schemaVersion = .ok () ∧ d.functionNames.Nodup := by
  have hnodup := @Document.firstRepeated?_eq_none_iff [] d.functionNames
  simp only [List.not_mem_nil, not_false_eq_true, implies_true, and_true] at hnodup
  rw [← hnodup]
  unfold Document.check
  cases checkVersion d.schemaVersion with
  | error cause => simp [Except.mapError, bind, Except.bind]
  | ok =>
    cases Document.firstRepeated? [] d.functionNames with
    | none => exact ⟨fun _ => ⟨rfl, rfl⟩, fun _ => rfl⟩
    | some name => simp [Except.mapError, bind, Except.bind, throw, throwThe, MonadExceptOf.throw]

theorem check_eq_error_iff {failure : Failure} : d.check = .error failure ↔
    (∃ cause, failure = .version cause ∧ checkVersion d.schemaVersion = .error cause) ∨
      checkVersion d.schemaVersion = .ok () ∧ ∃ name, failure = .duplicateFunction name ∧
        Document.firstRepeated? [] d.functionNames = some name := by
  unfold Document.check
  cases checkVersion d.schemaVersion with
  | error cause =>
    simp [Except.mapError, bind, Except.bind, eq_comm]
  | ok =>
    cases Document.firstRepeated? [] d.functionNames with
    | none => simp [Except.mapError, bind, Except.bind, pure, Except.pure]
    | some name =>
      simp [Except.mapError, bind, Except.bind, throw, throwThe, MonadExceptOf.throw, eq_comm]

theorem build_eq_ok_iff {c : Contract} : build d id config = .ok c ↔ d.check = .ok () ∧
    ∃ entries, d.body.functions.mapM (Entry.resolveWith d.shapeOf) = .ok entries ∧
      c = ⟨id, config, entries⟩ := by
  rw [build_eq]
  cases d.check with
  | error failure => simp [bind, Except.bind]
  | ok =>
    cases d.body.functions.mapM (Entry.resolveWith d.shapeOf) with
    | error e => simp [bind, Except.bind, Except.mapError]
    | ok entries => simp [bind, Except.bind, Except.mapError, pure, Except.pure, eq_comm]

theorem build_eq_error_iff {failure : Failure} : build d id config = .error failure ↔
    d.check = .error failure ∨ d.check = .ok () ∧ ∃ e, failure = .schema e ∧
      d.body.functions.mapM (Entry.resolveWith d.shapeOf) = .error e := by
  rw [build_eq]
  cases d.check with
  | error failure' => simp [bind, Except.bind]
  | ok =>
    cases d.body.functions.mapM (Entry.resolveWith d.shapeOf) with
    | error e => simp [bind, Except.bind, Except.mapError, eq_comm]
    | ok entries => simp [bind, Except.bind, Except.mapError, pure, Except.pure]

theorem exists_build_iff : (∃ c, build d id config = .ok c) ↔
    checkVersion d.schemaVersion = .ok () ∧ d.functionNames.Nodup ∧
      ∀ schema ∈ d.schemas, ∃ s, d.shapeOf schema = .ok s := by
  have hschemas : (∃ entries, d.body.functions.mapM (Entry.resolveWith d.shapeOf) = .ok entries) ↔
      ∀ schema ∈ d.schemas, ∃ s, d.shapeOf schema = .ok s := by
    rw [← failure?_eq_none_iff, Entry.failure?_mapM_resolveWith, failure?_eq_none_iff, exists_mapM_iff]
    rfl
  rw [← hschemas, ← and_assoc, ← check_eq_ok_iff]
  constructor
  · rintro ⟨c, h⟩
    obtain ⟨hcheck, entries, hentries, -⟩ := build_eq_ok_iff.1 h
    exact ⟨hcheck, entries, hentries⟩
  · rintro ⟨hcheck, entries, hentries⟩
    exact ⟨_, build_eq_ok_iff.2 ⟨hcheck, entries, hentries, rfl⟩⟩

theorem build_eq_error_iff_refuses {failure : Failure} :
    build d id config = .error failure ↔ d.Refuses failure := by
  rw [build_eq_error_iff, check_eq_error_iff]
  constructor
  · rintro ((⟨cause, rfl, hversion⟩ | ⟨hversion, name, rfl, hname⟩) | ⟨hcheck, e, rfl, he⟩)
    · exact .version hversion
    · obtain ⟨before, after, hsplit, ⟨hbefore, -⟩, hrepeated⟩ :=
        Document.firstRepeated?_eq_some_iff.1 hname
      -- the names before the repeated one are those of the functions before its function
      obtain ⟨fs, rest, hfs, rfl, hrest⟩ := List.map_eq_append_iff.1 hsplit
      obtain ⟨f, rest, rfl, rfl, -⟩ := List.map_eq_cons_iff.1 hrest
      exact .duplicate hversion hfs hbefore (hrepeated.resolve_right (by simp))
    · rw [← failure?_eq_some_iff, Entry.failure?_mapM_resolveWith, failure?_eq_some_iff] at he
      obtain ⟨before, schema, after, hsplit, hbefore, hschema⟩ := mapM_eq_error_iff.1 he
      obtain ⟨hversion, hnames⟩ := check_eq_ok_iff.1 hcheck
      exact .schema hversion hnames hsplit hbefore hschema
  · intro h
    cases h with
    | version hversion => exact .inl (.inl ⟨_, rfl, hversion⟩)
    | @duplicate before after f hversion hsplit hbefore hname =>
      refine .inl (.inr ⟨hversion, f.name, rfl, Document.firstRepeated?_eq_some_iff.2
        ⟨before.map (·.name), after.map (·.name), ?_, ⟨hbefore, by simp⟩, .inl hname⟩⟩)
      unfold Document.functionNames
      rw [hsplit, List.map_append, List.map_cons]
    | schema hversion hnames hsplit hbefore hschema =>
      refine .inr ⟨check_eq_ok_iff.2 ⟨hversion, hnames⟩, _, rfl, ?_⟩
      rw [← failure?_eq_some_iff, Entry.failure?_mapM_resolveWith, failure?_eq_some_iff]
      exact mapM_eq_error_iff.2 ⟨_, _, _, hsplit, hbefore, hschema⟩

theorem Serves.functionNames_eq {c : Contract} (h : Serves d id config c) :
    c.functionNames = d.functionNames := by
  unfold functionNames Document.functionNames
  rw [← List.forall₂_eq_eq_eq, List.forall₂_map_left_iff, List.forall₂_map_right_iff]
  refine h.entries.flip.imp fun e f hfe => ?_
  rw [Entry.Serves.function_eq hfe]

/-- A contract has one entry under the name of each function of its document, and no others. -/
theorem Serves.entry?_eq_some_iff {c : Contract} (h : Serves d id config c)
    (hnames : d.functionNames.Nodup) {name : String} {e : Entry} : c.entry? name = some e ↔
      e ∈ c.entries ∧ e.function.name = name := by
  constructor
  · intro he
    have hname := List.find?_some he
    exact ⟨List.mem_of_find?_eq_some he, beq_iff_eq.1 hname⟩
  · rintro ⟨he, rfl⟩
    cases hfind : c.entry? e.function.name with
    | none =>
      have := List.find?_eq_none.1 hfind e he
      simp at this
    | some e' =>
      have hname := List.find?_some hfind
      have hnodup : c.functionNames.Nodup := h.functionNames_eq ▸ hnames
      rw [List.inj_on_of_nodup_map hnodup (List.mem_of_find?_eq_some hfind) he (beq_iff_eq.1 hname)]

/-- What building a contract comes to. It succeeds exactly if the version is supported, the names of the
functions differ, and each schema has a shape by itself; what it fails with is that of the first of these
that is not so (`Document.Refuses`). A contract that is built has the names of the document in their
order, and under each name the function with the shapes that its schemas have by themselves. -/
theorem build_exact (d : Document) (id : String) (config : Config) :
    (∀ name, d.table.get? name = ((d.body.rootSchema.definitions.lookup name).or
      (d.body.rootSchema.localDefinitions.lookup name)).map Node.ofValue) ∧
    ((∃ c, build d id config = .ok c) ↔ checkVersion d.schemaVersion = .ok () ∧
      d.functionNames.Nodup ∧ ∀ schema ∈ d.schemas, ∃ s, d.shapeOf schema = .ok s) ∧
    (∀ failure, build d id config = .error failure ↔ d.Refuses failure) ∧
    ∀ c, build d id config = .ok c → c.id = id ∧ c.config = config ∧
      c.functionNames = d.functionNames ∧
      (∀ name f, (∃ e, c.entry? name = some e ∧ e.function = f) ↔
        f ∈ d.body.functions ∧ f.name = name) ∧
      ∀ name e, c.entry? name = some e → Entry.Holds d e.function e := by
  refine ⟨d.get?_table, exists_build_iff, fun failure => build_eq_error_iff_refuses, fun c h => ?_⟩
  have hc := serves_of_build h
  have hnames := (check_eq_ok_iff.1 (build_eq_ok_iff.1 h).1).2
  refine ⟨hc.id_eq, hc.config_eq, hc.functionNames_eq, fun name f => ⟨?_, ?_⟩, fun name e he => ?_⟩
  · rintro ⟨e, he, rfl⟩
    obtain ⟨hmem, hname⟩ := (hc.entry?_eq_some_iff hnames).1 he
    obtain ⟨f, hf, hfe⟩ := exists_mem_of_forall₂ hc.entries.flip e hmem
    exact ⟨Entry.Serves.function_eq hfe ▸ hf, hname⟩
  · rintro ⟨hf, rfl⟩
    obtain ⟨e, he, hfe⟩ := exists_mem_of_forall₂ hc.entries f hf
    have hfunction := Entry.Serves.function_eq hfe
    exact ⟨e, (hc.entry?_eq_some_iff hnames).2 ⟨he, by rw [hfunction]⟩, hfunction⟩
  · obtain ⟨f, -, hfe⟩ := exists_mem_of_forall₂ hc.entries.flip e
      ((hc.entry?_eq_some_iff hnames).1 he).1
    rw [Entry.Serves.function_eq hfe]
    exact Entry.holds_of_serves hfe

end Contract

end ContractInterface
