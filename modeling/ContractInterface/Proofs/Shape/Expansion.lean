/-
The plain resolver: it knows the table and the names that are being expanded, outermost first, and
follows every reference anew. It needs no bound on its depth, since each name that it opens was not
open before and there are finitely many of them.

A node has a shape if and only if every reference that it reaches leads to a definition and no name
that it reaches refers back to itself (`Definitions.expands_nil_iff`); every failure is to be blamed on
one or the other (`Definitions.Blames`). The open names refer to each other in turn, so that the names of
an error lead once round a cycle (`Definitions.explains_of_expand`).
-/
import ContractInterface.Proofs.Shape.Traversal

namespace ContractInterface

open Json

namespace Definitions

variable {d : Definitions}

/-! ## Open names -/

/-- The number of entries whose names are not open. -/
def unopened (d : Definitions) (stack : List String) : Nat :=
  (d.names.filter fun name => !stack.contains name).length

theorem mem_names_of_get? {name : String} {n : Node} (h : d.get? name = some n) : name ∈ d.names :=
  List.mem_map.2 ⟨(name, n), mem_of_lookup_eq_some h, rfl⟩

/-- Opening a name of the table that is not open leaves fewer to open. -/
theorem unopened_append_lt {stack : List String} {name : String} {n : Node}
    (hn : d.get? name = some n) (hs : name ∉ stack) :
    d.unopened (stack ++ [name]) < d.unopened stack := by
  have hsub : d.names.filter (fun other => !(stack ++ [name]).contains other) =
      (d.names.filter fun other => !stack.contains other).filter (· ≠ name) := by
    rw [List.filter_filter]
    congr 1
    funext other
    by_cases h : other = name <;> simp [h]
  unfold unopened
  rw [hsub]
  refine List.length_filter_lt_length_iff_exists.2 ⟨name, ?_, by simp⟩
  simp [List.mem_filter, mem_names_of_get? hn, hs]

/-! ## The plain resolver -/

/-- The shape of a pointer while the names of the stack are being expanded. -/
def expandPointer (d : Definitions) (stack : List String) (pointer : String) :
    Except ResolveError Shape :=
  match definitionName? pointer with
  | none => .error (.unresolved pointer)
  | some name =>
    match _h : d.get? name with
    | none => .error (.unresolved pointer)
    | some target =>
      if _hs : name ∈ stack then .error (.cyclic (stack.dropWhile (· ≠ name) ++ [name]))
      else target.resolveWith fun p => expandPointer d (stack ++ [name]) p
termination_by d.unopened stack
decreasing_by exact unopened_append_lt _h _hs

/-- The shape of a node while the names of the stack are being expanded. -/
def expand (d : Definitions) (stack : List String) (n : Node) : Except ResolveError Shape :=
  n.resolveWith (d.expandPointer stack)

/-! ## One step -/

theorem expandPointer_of_not_leads {stack : List String} {pointer : String}
    (h : ¬ d.Leads pointer) : d.expandPointer stack pointer = .error (.unresolved pointer) := by
  rw [expandPointer]
  split
  · rfl
  · rename_i name hname
    split
    · rfl
    · rename_i target htarget
      exact absurd ⟨name, target, hname, htarget⟩ h

section Leads

variable {stack : List String} {pointer name : String} {target : Node}
  (hname : definitionName? pointer = some name) (htarget : d.get? name = some target)

include hname htarget

/-- What a pointer gives depends on the name alone. -/
theorem expandPointer_of_leads : d.expandPointer stack pointer =
    if name ∈ stack then .error (.cyclic (stack.dropWhile (· ≠ name) ++ [name]))
    else d.expand (stack ++ [name]) target := by
  rw [expandPointer]
  simp only [hname]
  split
  · rename_i h
    rw [htarget] at h
    cases h
  · rename_i h
    rw [htarget] at h
    cases h
    rfl

end Leads

/-! ## Failure -/

/-- What an error says of the node: a reference that is reached leads nowhere, or a name that is
reached refers back to itself. -/
def Blames (d : Definitions) (n : Node) : ResolveError → Prop
  | .unresolved pointer => d.Reaches n (.reference pointer) ∧ ¬ d.Leads pointer
  | .cyclic _ => ∃ name, d.ReachesName n name ∧ Relation.TransGen d.Refers name name

/-- The names that are open while what a node reaches is resolved: it reaches them all, and none is
open twice. -/
structure Trail (d : Definitions) (n : Node) (stack : List String) : Prop where
  nodup : stack.Nodup
  defined : ∀ name ∈ stack, d.contains name = true
  reached : ∀ name ∈ stack, d.ReachesName n name

theorem Trail.nil (n : Node) : d.Trail n [] := ⟨List.nodup_nil, nofun, nofun⟩

theorem Trail.enter {n target : Node} {stack : List String} {name : String} (h : d.Trail n stack)
    (htarget : d.get? name = some target) (hs : name ∉ stack) (hname : d.ReachesName n name) :
    d.Trail n (stack ++ [name]) where
  nodup := List.nodup_append.2 ⟨h.nodup, List.nodup_singleton name, by
    rintro outer ho other hother rfl
    exact hs (List.mem_singleton.1 hother ▸ ho)⟩
  defined outer ho := by
    rcases List.mem_append.1 ho with ho | ho
    · exact h.defined outer ho
    · rw [List.mem_singleton.1 ho, contains, htarget]
      rfl
  reached outer ho := by
    rcases List.mem_append.1 ho with ho | ho
    · exact h.reached outer ho
    · exact List.mem_singleton.1 ho ▸ hname

/-- What an error tells of the node: which pointer it reaches leads nowhere, or round which cycle that it
reaches the names of the error lead. -/
def Explains (d : Definitions) (n : Node) : ResolveError → Prop
  | .unresolved pointer => d.Reaches n (.reference pointer) ∧ ¬ d.Leads pointer
  | .cyclic chain => ∃ first rest, chain = first :: rest ++ [first] ∧ d.IsCycle first rest ∧
      d.ReachesName n first

theorem Explains.blames {n : Node} {e : ResolveError} (h : d.Explains n e) : d.Blames n e := by
  cases e with
  | unresolved pointer => exact h
  | cyclic chain =>
    obtain ⟨first, rest, -, hcycle, hfirst⟩ := h
    exact ⟨first, hfirst, hcycle.transGen⟩

/-- The invariant of the open names: they refer to each other in turn, and the last of them to the name
of the pointer. -/
theorem explains_of_expandPointer {n : Node} (stack : List String) (pointer : String)
    {e : ResolveError} (hstack : d.Trail n stack) (hp : d.Reaches n (.reference pointer))
    (hrefers : ∀ name, definitionName? pointer = some name → (stack ++ [name]).IsChain d.Refers)
    (h : d.expandPointer stack pointer = .error e) : d.Explains n e := by
  by_cases hl : d.Leads pointer
  · obtain ⟨name, target, hname, htarget⟩ := hl
    rw [expandPointer_of_leads hname htarget] at h
    split at h
    · rename_i hs
      cases h
      obtain ⟨rest, hrest, hcycle⟩ :=
        exists_isCycle hstack.nodup hstack.defined (hrefers name hname) hs
      exact ⟨name, rest, by rw [hrest], hcycle, hstack.reached name hs⟩
    · rename_i hs
      -- the failing reference stands in the definition, whose name is now open too
      obtain ⟨inner, hinner, h⟩ := Node.exists_follow_of_resolveWith_error h
      have hdecreases := unopened_append_lt htarget hs
      refine explains_of_expandPointer (stack ++ [name]) inner
        (hstack.enter htarget hs ⟨pointer, hp, hname⟩)
        (hp.trans (.of_reference hname htarget hinner)) (fun next hnext => ?_) h
      have hlast : ([name] ++ [next]).IsChain d.Refers :=
        List.isChain_pair.2 ⟨target, inner, htarget, hinner, hnext⟩
      exact (hrefers name hname).append_overlap hlast (List.cons_ne_nil name [])
  · rw [expandPointer_of_not_leads hl] at h
    cases h
    exact ⟨hp, hl⟩
termination_by d.unopened stack

theorem explains_of_expand {n : Node} {e : ResolveError} (h : d.expand [] n = .error e) :
    d.Explains n e := by
  obtain ⟨pointer, hp, h⟩ := Node.exists_follow_of_resolveWith_error h
  exact explains_of_expandPointer [] pointer (.nil n) (.of_contains hp)
    (fun name _ => List.isChain_singleton name) h

theorem blames_of_expand {n : Node} {e : ResolveError} (h : d.expand [] n = .error e) :
    d.Blames n e := (explains_of_expand h).blames

/-! ## Success -/

/-- The node has a shape while some names are being expanded. -/
def Expands (d : Definitions) (stack : List String) (n : Node) : Prop :=
  ∃ s, d.expand stack n = .ok s

theorem Expands.of_contains {stack : List String} {n m : Node} (h : d.Expands stack n)
    (hm : n.Contains m) : d.Expands stack m := by
  obtain ⟨s, hs⟩ := h
  exact Node.exists_resolveWith_of_contains hs hm

theorem Expands.leads {stack : List String} {pointer : String}
    (h : d.Expands stack (.reference pointer)) : d.Leads pointer := by
  by_contra hl
  obtain ⟨s, hs⟩ := h
  have herror : d.expand stack (.reference pointer) = _ := expandPointer_of_not_leads hl
  cases hs.symm.trans herror

theorem expands_reference_iff {stack : List String} {pointer name : String} {target : Node}
    (hname : definitionName? pointer = some name) (htarget : d.get? name = some target) :
    d.Expands stack (.reference pointer) ↔ name ∉ stack ∧ d.Expands (stack ++ [name]) target := by
  have heq : d.expand stack (.reference pointer) = _ := expandPointer_of_leads hname htarget
  unfold Expands
  rw [heq]
  split <;> simp [*]

theorem Expands.of_reaches {stack : List String} {n m : Node} (h : d.Expands stack n)
    (hm : d.Reaches n m) : ∃ inner, d.Expands inner m := by
  induction hm with
  | refl => exact ⟨stack, h⟩
  | tail _ hstep ih =>
    obtain ⟨inner, h⟩ := ih
    cases hstep with
    | child hc => exact ⟨inner, h.of_contains (.of_child hc (.refl _))⟩
    | follow hname htarget => exact ⟨_, ((expands_reference_iff hname htarget).1 h).2⟩

/-- A pointer with a shape leads along references to pointers with shapes, expanded while its own
name is open. -/
theorem Expands.of_refers {stack : List String} {pointer a b : String}
    (h : d.Expands stack (.reference pointer)) (ha : definitionName? pointer = some a)
    (hab : Relation.TransGen d.Refers a b) :
    ∃ inner next, a ∈ inner ∧ definitionName? next = some b ∧ d.Expands inner (.reference next) := by
  have step : ∀ {stack pointer x y}, d.Expands stack (.reference pointer) →
      definitionName? pointer = some x → d.Refers x y →
      ∃ next, definitionName? next = some y ∧ d.Expands (stack ++ [x]) (.reference next) := by
    rintro stack pointer x y h hx ⟨n, next, hn, hc, hy⟩
    exact ⟨next, hy, ((expands_reference_iff hx hn).1 h).2.of_contains hc⟩
  induction hab with
  | single hr =>
    obtain ⟨next, hnext, h⟩ := step h ha hr
    exact ⟨_, next, by simp, hnext, h⟩
  | tail _ hr ih =>
    obtain ⟨inner, next, hmem, hnext, h⟩ := ih
    obtain ⟨next', hnext', h'⟩ := step h hnext hr
    exact ⟨_, next', List.mem_append_left _ hmem, hnext', h'⟩

/-- A node has a shape exactly when every reference that is reached from it leads to a definition,
and no name that is reached refers back to itself. -/
theorem expands_nil_iff {n : Node} : d.Expands [] n ↔
    (∀ pointer, d.Reaches n (.reference pointer) → d.Leads pointer) ∧
      ∀ name, d.ReachesName n name → ¬ Relation.TransGen d.Refers name name := by
  constructor
  · intro h
    refine ⟨fun pointer hp => ?_, ?_⟩
    · obtain ⟨inner, h⟩ := h.of_reaches hp
      exact h.leads
    · rintro name ⟨pointer, hp, hname⟩ hcycle
      obtain ⟨stack, h⟩ := h.of_reaches hp
      obtain ⟨inner, next, hmem, hnext, h⟩ := h.of_refers hname hcycle
      obtain ⟨other, target, hother, htarget⟩ := h.leads
      obtain rfl : name = other := Option.some.inj (hnext.symm.trans hother)
      exact ((expands_reference_iff hnext htarget).1 h).1 hmem
  · rintro ⟨hleads, hacyclic⟩
    cases h : d.expand [] n with
    | ok s => exact ⟨s, h⟩
    | error e =>
      exfalso
      have hb := blames_of_expand h
      cases e with
      | unresolved pointer => exact hb.2 (hleads pointer hb.1)
      | cyclic chain =>
        obtain ⟨name, hname, hcycle⟩ := hb
        exact hacyclic name hname hcycle

/-! ### Definitions with shapes -/

theorem ReachesName.of_refers {n : Node} {a b : String} (h : d.ReachesName n a)
    (hab : Relation.ReflTransGen d.Refers a b) : d.ReachesName n b := by
  induction hab with
  | refl => exact h
  | tail _ hr ih =>
    obtain ⟨pointer, hp, hname⟩ := ih
    obtain ⟨target, next, htarget, hnext, hb⟩ := hr
    exact ⟨next, hp.trans (.of_reference hname htarget hnext), hb⟩

section Target

variable {pointer name : String} {target : Node} (hname : definitionName? pointer = some name)
  (htarget : d.get? name = some target)

include hname htarget

theorem Reaches.reference_cases {m : Node} (h : d.Reaches (.reference pointer) m) :
    .reference pointer = m ∨ d.Reaches target m := by
  rcases Relation.ReflTransGen.cases_head h with heq | ⟨k, hstep, hm⟩
  · exact .inl heq
  · cases hstep with
    | child hc => cases hc
    | follow hname' htarget' =>
      obtain rfl := Option.some.inj (hname.symm.trans hname')
      obtain rfl := Option.some.inj (htarget.symm.trans htarget')
      exact .inr hm

/-- A definition that has a shape has it for references too: it does not refer to itself. -/
theorem Expands.of_target (h : d.Expands [] target) : d.Expands [] (.reference pointer) := by
  obtain ⟨hleads, hacyclic⟩ := expands_nil_iff.1 h
  refine expands_nil_iff.2 ⟨fun next hnext => ?_, ?_⟩
  · rcases hnext.reference_cases hname htarget with heq | hnext
    · cases heq
      exact ⟨name, target, hname, htarget⟩
    · exact hleads next hnext
  · rintro other ⟨next, hnext, hother⟩ hcycle
    rcases hnext.reference_cases hname htarget with heq | hnext
    · -- the cycle would lead from the definition to its own name
      cases heq
      obtain rfl := Option.some.inj (hname.symm.trans hother)
      obtain ⟨b, ⟨target', next, htarget', hnext, hb⟩, hback⟩ :=
        Relation.TransGen.head'_iff.1 hcycle
      obtain rfl := Option.some.inj (htarget.symm.trans htarget')
      exact hacyclic name (.of_refers ⟨next, .of_contains hnext, hb⟩ hback) hcycle
    · exact hacyclic other ⟨next, hnext, hother⟩ hcycle

end Target

end Definitions

end ContractInterface
