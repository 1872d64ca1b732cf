/-
The scope of a node is what it reaches. An error of resolution tells of nothing else: its names lead once
round a cycle of definitions in the scope, or its pointer stands there and leads nowhere
(`error_of_resolve`). And resolution reads nothing else: tables that agree on the names in the scope give
the same shape or the same error, whatever they hold beside (`resolve_of_agree`).
-/
import Mathlib
import ContractInterface.Proofs.Shape.Memo

namespace ContractInterface

namespace Definitions

variable {d e : Definitions} {n : Node}

/-! ## Agreement -/

/-- The tables hold the same under every name that the node reaches in the first: one node, or none. -/
def AgreeOn (n : Node) (d e : Definitions) : Prop :=
  ∀ name, d.ReachesName n name → d.get? name = e.get? name

theorem AgreeOn.of_reaches {m : Node} (h : AgreeOn n d e) (hm : d.Reaches n m) : AgreeOn m d e :=
  fun name hname => h name (.of_reaches hm hname)

/-- The node reaches the same in both. -/
theorem AgreeOn.reaches_iff {m : Node} (h : AgreeOn n d e) : d.Reaches n m ↔ e.Reaches n m := by
  constructor
  · intro hm
    induction hm with
    | refl => exact .refl n
    | tail hn hstep ih =>
      cases hstep with
      | child hc => exact .tail ih (.child hc)
      | follow hname htarget =>
        exact .tail ih (.follow hname (h _ ⟨_, hn, hname⟩ ▸ htarget))
  · intro hm
    induction hm with
    | refl => exact .refl n
    | tail _ hstep ih =>
      cases hstep with
      | child hc => exact .tail ih (.child hc)
      | follow hname htarget =>
        exact .tail ih (.follow hname ((h _ ⟨_, ih, hname⟩).trans htarget))

theorem AgreeOn.leads_iff {pointer : String} (h : AgreeOn (.reference pointer) d e) :
    d.Leads pointer ↔ e.Leads pointer := by
  have hget : ∀ {name}, definitionName? pointer = some name → d.get? name = e.get? name :=
    fun hname => h _ ⟨pointer, .refl _, hname⟩
  constructor
  · rintro ⟨name, target, hname, htarget⟩
    exact ⟨name, target, hname, hget hname ▸ htarget⟩
  · rintro ⟨name, target, hname, htarget⟩
    exact ⟨name, target, hname, (hget hname).trans htarget⟩

/-- Whatever names are open, the definition that is followed is the same in both, and what it reaches is
in the scope of the pointer. -/
theorem expandPointer_congr (stack : List String) (pointer : String)
    (h : AgreeOn (.reference pointer) d e) : d.expandPointer stack pointer = e.expandPointer stack pointer := by
  by_cases hl : d.Leads pointer
  · obtain ⟨name, target, hname, htarget⟩ := hl
    have htarget' : e.get? name = some target := h name ⟨pointer, .refl _, hname⟩ ▸ htarget
    rw [expandPointer_of_leads hname htarget, expandPointer_of_leads hname htarget']
    by_cases hs : name ∈ stack
    · rw [if_pos hs, if_pos hs]
    · rw [if_neg hs, if_neg hs]
      have hdecreases := unopened_append_lt htarget hs
      exact target.resolveWith_congr fun inner hinner =>
        expandPointer_congr (stack ++ [name]) inner (h.of_reaches (.of_reference hname htarget hinner))
  · rw [expandPointer_of_not_leads hl, expandPointer_of_not_leads (mt h.leads_iff.2 hl)]
termination_by d.unopened stack

theorem expand_congr (stack : List String) (h : AgreeOn n d e) : d.expand stack n = e.expand stack n :=
  n.resolveWith_congr fun pointer hp => expandPointer_congr stack pointer (h.of_reaches (.of_contains hp))

end Definitions

/-! ## Resolution -/

/-- Resolution is a matter of the scope. Tables that agree on the names that the node reaches give it the
same shape or the same error, and it reaches the same in both. So a definition that is not reached may be
added, left out or replaced by any other. -/
theorem resolve_of_agree (d : Definitions) (n : Node) :
    (∀ e : Definitions, (∀ name, d.ReachesName n name → d.get? name = e.get? name) →
      resolve d n = resolve e n ∧ ∀ m, d.Reaches n m ↔ e.Reaches n m) ∧
    ∀ name, ¬ d.ReachesName n name → ∀ e : Definitions,
      (∀ other, other ≠ name → d.get? other = e.get? other) → resolve d n = resolve e n := by
  have hagree : ∀ {e : Definitions}, Definitions.AgreeOn n d e → resolve d n = resolve e n := by
    intro e h
    rw [Resolver.resolve_eq_expand, Resolver.resolve_eq_expand]
    exact Definitions.expand_congr [] h
  refine ⟨fun e h => ⟨hagree h, fun m => Definitions.AgreeOn.reaches_iff h⟩, fun name hname e h => ?_⟩
  exact hagree fun other hother => h other fun heq => hname (heq ▸ hother)

/-- A definition that refers to itself is added beside the one in use. -/
theorem resolve_of_agree_loop :
    let n : Node := .list (some (.reference "#/definitions/Id")) .empty
    let d : Definitions := ⟨[("Id", .primitive .string .empty)]⟩
    let e : Definitions :=
      ⟨[("Id", .primitive .string .empty), ("Loop", .reference "#/definitions/Loop")]⟩
    (∀ name, d.ReachesName n name → d.get? name = e.get? name) ∧ ¬ d.ReachesName n "Loop" ∧
      (∀ other, other ≠ "Loop" → d.get? other = e.get? other) ∧
      resolve d n = .ok (.list (.string .empty) .empty) ∧
      resolve e n = .ok (.list (.string .empty) .empty) ∧
      resolve e (.reference "#/definitions/Loop") = .error (.cyclic ["Loop", "Loop"]) := by
  intro n d e
  have hid : definitionName? "#/definitions/Id" = some "Id" := by cbv
  have hscope : ∀ m, d.Reaches n m → m = .list (some (.reference "#/definitions/Id")) .empty ∨
      m = .reference "#/definitions/Id" ∨ m = .primitive .string .empty := by
    intro m hm
    induction hm with
    | refl => exact .inl rfl
    | tail _ hstep ih =>
      rcases ih with rfl | rfl | rfl
      · cases hstep with
        | child hc => exact .inr (.inl (List.mem_singleton.1 hc))
      · cases hstep with
        | child hc => cases hc
        | follow hname htarget =>
          obtain rfl := Option.some.inj (hid.symm.trans hname)
          exact .inr (.inr (Option.some.inj htarget).symm)
      · cases hstep with
        | child hc => cases hc
  have hnames : ∀ name, d.ReachesName n name → name = "Id" := by
    rintro name ⟨pointer, hp, hname⟩
    rcases hscope _ hp with h | h | h <;> cases h
    exact Option.some.inj (hname.symm.trans hid)
  have hagree : ∀ name, d.ReachesName n name → d.get? name = e.get? name := fun name hname => by
    rw [hnames name hname]
    rfl
  have hloop : ¬ d.ReachesName n "Loop" := fun h => absurd (hnames _ h) (by simp)
  have hothers : ∀ other, other ≠ "Loop" → d.get? other = e.get? other := fun other h => by
    simp [d, e, Definitions.get?, List.lookup_cons, beq_eq_false_iff_ne.2 h]
  have hresolve : resolve d n = .ok (.list (.string .empty) .empty) := by
    simp only [n, d]
    cbv
  have hcyclic : resolve e (.reference "#/definitions/Loop") = .error (.cyclic ["Loop", "Loop"]) := by
    simp only [e]
    cbv
  obtain ⟨hsame, hframe⟩ := resolve_of_agree d n
  obtain ⟨hn, -⟩ := hsame e hagree
  exact ⟨hagree, hloop, hothers, (hframe "Loop" hloop e hothers).trans (hn ▸ hresolve),
    hn ▸ hresolve, hcyclic⟩

/-- What an error says of a node is so. Names that are reported lead once round a cycle: the first one is
reached from the node and stands at the end again, none between them is repeated, each has a definition,
and that refers to the next. A pointer that is reported stands as it is written in the node or in a
definition that the node reaches, and no definition has its name, if it has one. -/
theorem error_of_resolve (d : Definitions) (n : Node) :
    (∀ chain, resolve d n = .error (.cyclic chain) →
      (ResolveError.cyclic chain).message = "cyclic reference: " ++ " -> ".intercalate chain ∧
        ∃ first rest, chain = first :: rest ++ [first] ∧ (first :: rest).Nodup ∧
          (∀ name ∈ chain, d.contains name = true) ∧ chain.IsChain d.Refers ∧
            d.ReachesName n first) ∧
    ∀ pointer, resolve d n = .error (.unresolved pointer) →
      (ResolveError.unresolved pointer).message =
          "unresolved reference: '" ++ pointer ++ "' not found in definitions" ∧
        (n.Contains (.reference pointer) ∨ ∃ name target, d.ReachesName n name ∧
          d.get? name = some target ∧ target.Contains (.reference pointer)) ∧
            ∀ name, definitionName? pointer = some name → d.get? name = none := by
  refine ⟨fun chain h => ⟨rfl, ?_⟩, fun pointer h => ⟨rfl, ?_⟩⟩
  · rw [Resolver.resolve_eq_expand] at h
    obtain ⟨first, rest, rfl, hcycle, hfirst⟩ := Definitions.explains_of_expand h
    refine ⟨first, rest, rfl, hcycle.nodup, fun name hname => ?_, hcycle.refers, hfirst⟩
    rcases List.mem_append.1 hname with hname | hname
    · exact hcycle.defined name hname
    · exact List.mem_singleton.1 hname ▸ hcycle.defined first (List.mem_cons_self ..)
  · rw [Resolver.resolve_eq_expand] at h
    obtain ⟨hreaches, hleads⟩ := Definitions.explains_of_expand h
    refine ⟨Definitions.reaches_iff.1 hreaches, fun name hname => ?_⟩
    exact Option.eq_none_iff_forall_ne_some.2 fun target htarget => hleads ⟨name, target, hname, htarget⟩

/-- A cycle that is entered from without, and a pointer beside it that names nothing. -/
theorem error_of_resolve_ring :
    let d : Definitions := ⟨[("A", .list (some (.reference "#/definitions/B")) .empty),
      ("B", .tuple [.unknown, .reference "#/$defs/A"]), ("Entry", .reference "#/definitions/B")]⟩
    let n : Node := .union [.reference "#/definitions/Entry"]
    let m : Node := .tuple [.reference "other.json"]
    resolve d n = .error (.cyclic ["B", "A", "B"]) ∧
      resolve d m = .error (.unresolved "other.json") ∧
      (∃ first rest, ["B", "A", "B"] = first :: rest ++ [first] ∧ (first :: rest).Nodup ∧
        (∀ name ∈ ["B", "A", "B"], d.contains name = true) ∧ ["B", "A", "B"].IsChain d.Refers ∧
          d.ReachesName n first) ∧
      (m.Contains (.reference "other.json") ∨ ∃ name target, d.ReachesName m name ∧
        d.get? name = some target ∧ target.Contains (.reference "other.json")) := by
  intro d n m
  have hcyclic : resolve d n = .error (.cyclic ["B", "A", "B"]) := by
    simp only [d, n]
    cbv
  have hunresolved : resolve d m = .error (.unresolved "other.json") := by
    simp only [d, m]
    cbv
  obtain ⟨-, hring⟩ := (error_of_resolve d n).1 _ hcyclic
  obtain ⟨-, hpointer, -⟩ := (error_of_resolve d m).2 _ hunresolved
  exact ⟨hcyclic, hunresolved, hring, hpointer⟩

end ContractInterface
