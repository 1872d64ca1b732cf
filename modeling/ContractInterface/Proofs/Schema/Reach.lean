/-
The graph of schema nodes. A node contains the nodes that stand in it at any depth; it reaches those
and, through references, the definitions that they name. Names refer to each other when the
definition of one contains a reference to the other; those that do so in turn, and come round, are a
cycle (`Definitions.IsCycle`).

Nodes are taken apart by their children here, so that an argument about all kinds of node is one
induction (`Node.childInduction`).
-/
import ContractInterface.Proofs.Json.Order
import ContractInterface.Schema.Definitions
import Mathlib.Data.List.Chain
import Mathlib.Logic.Relation

namespace ContractInterface

open Json

/-! ## Children -/

def Additional.toList {α : Type} : Additional α → List α
  | .typed a => [a]
  | .forbidden | .untyped => []

/-- Policies of one kind, whose parts are related. -/
inductive Additional.Rel {α β : Type} (R : α → β → Prop) : Additional α → Additional β → Prop
  | forbidden : Rel R .forbidden .forbidden
  | typed {a : α} {b : β} : R a b → Rel R (.typed a) (.typed b)
  | untyped : Rel R .untyped .untyped

theorem Additional.Rel.flip {α β : Type} {R : α → β → Prop} {a : Additional α} {b : Additional β}
    (h : Additional.Rel R a b) : Additional.Rel (fun y x => R x y) b a := by
  cases h with
  | forbidden => exact .forbidden
  | typed h => exact .typed h
  | untyped => exact .untyped

namespace Node

/-- The nodes that stand directly in a node. -/
def children : Node → List Node
  | .intersection ns | .typeList ns | .tuple ns | .union ns => ns
  | .object properties _ additional => properties.map Prod.snd ++ additional.toList
  | .list items _ => items.toList
  | .reference _ | .constant _ | .enumeration _ | .primitive _ _ | .unknown => []

theorem sizeOf_lt_of_mem_properties {ps : List (String × Node)} {n : Node}
    (h : n ∈ ps.map Prod.snd) : sizeOf n < sizeOf ps := by
  obtain ⟨⟨name, m⟩, hm, rfl⟩ := List.mem_map.1 h
  have := List.sizeOf_lt_of_mem hm
  simp only [Prod.mk.sizeOf_spec] at this ⊢
  omega

theorem sizeOf_lt_of_mem_additional {a : Additional Node} {n : Node} (h : n ∈ a.toList) :
    sizeOf n < sizeOf a := by
  cases a with
  | typed m =>
    obtain rfl := List.mem_singleton.1 h
    simp
  | forbidden | untyped => cases h

theorem sizeOf_lt_of_mem_children {n m : Node} (h : m ∈ n.children) : sizeOf m < sizeOf n := by
  cases n with
  | intersection ns | typeList ns | tuple ns | union ns =>
    have : sizeOf m < sizeOf ns := List.sizeOf_lt_of_mem h
    simp only [intersection.sizeOf_spec, typeList.sizeOf_spec, tuple.sizeOf_spec, union.sizeOf_spec]
    omega
  | object ps required additional =>
    simp only [object.sizeOf_spec]
    rcases List.mem_append.1 h with h | h
    · have := sizeOf_lt_of_mem_properties h
      omega
    · have := sizeOf_lt_of_mem_additional h
      omega
  | list items c =>
    cases items with
    | none => cases h
    | some item =>
      obtain rfl := List.mem_singleton.1 h
      simp only [list.sizeOf_spec, Option.some.sizeOf_spec]
      omega
  | reference | constant | enumeration | primitive | unknown => cases h

/-- What holds of a node once it holds of its children holds of every node. -/
@[elab_as_elim]
theorem childInduction {P : Node → Prop} (step : ∀ n : Node, (∀ m ∈ n.children, P m) → P n)
    (n : Node) : P n :=
  step n fun m _ => childInduction step m
termination_by sizeOf n
decreasing_by exact sizeOf_lt_of_mem_children ‹_›

/-! ## Containment -/

/-- The node `m` stands in `n` at some depth, or is `n`. -/
def Contains (n m : Node) : Prop := Relation.ReflTransGen (fun a b => b ∈ a.children) n m

theorem Contains.refl (n : Node) : n.Contains n := Relation.ReflTransGen.refl

theorem Contains.of_child {n m k : Node} (h : m ∈ n.children) (hk : m.Contains k) : n.Contains k :=
  .head h hk

theorem contains_iff {n m : Node} : n.Contains m ↔ n = m ∨ ∃ k ∈ n.children, k.Contains m :=
  Relation.ReflTransGen.cases_head_iff

end Node

/-! ## Tables -/

namespace Definitions

theorem get?_ofRaw (raw : Members) (name : String) :
    (ofRaw raw).get? name = (raw.lookup name).map Node.ofValue :=
  (lookup_map_snd _ _ name).trans (congrArg _ (Value.lookup_orderMembers raw name))

/-! ## Reach -/

variable {d : Definitions}

/-- One step from a node: to a child, or from a reference to the definition that it names. -/
inductive Step (d : Definitions) : Node → Node → Prop
  | child {n m : Node} : m ∈ n.children → Step d n m
  | follow {pointer name : String} {target : Node} :
      definitionName? pointer = some name → d.get? name = some target →
      Step d (.reference pointer) target

/-- The node `m` is met on the way from `n`. -/
def Reaches (d : Definitions) : Node → Node → Prop := Relation.ReflTransGen d.Step

/-- The pointer leads to a definition. -/
def Leads (d : Definitions) (pointer : String) : Prop :=
  ∃ name target, definitionName? pointer = some name ∧ d.get? name = some target

/-- A reference that is reached from a node has the name. -/
def ReachesName (d : Definitions) (n : Node) (name : String) : Prop :=
  ∃ pointer, d.Reaches n (.reference pointer) ∧ definitionName? pointer = some name

/-- The definition of `a` contains a reference to `b`. -/
def Refers (d : Definitions) (a b : String) : Prop :=
  ∃ n pointer, d.get? a = some n ∧ n.Contains (.reference pointer) ∧ definitionName? pointer = some b

theorem Reaches.refl (n : Node) : d.Reaches n n := Relation.ReflTransGen.refl

theorem Reaches.trans {n m k : Node} (h : d.Reaches n m) (hk : d.Reaches m k) : d.Reaches n k :=
  Relation.ReflTransGen.trans h hk

theorem Reaches.of_contains {n m : Node} (h : n.Contains m) : d.Reaches n m := by
  induction h with
  | refl => exact refl n
  | tail _ hc ih => exact Relation.ReflTransGen.tail ih (.child hc)

/-- A reference reaches what the definition that it names contains. -/
theorem Reaches.of_reference {pointer name : String} {target m : Node}
    (hn : definitionName? pointer = some name) (ht : d.get? name = some target)
    (hm : target.Contains m) : d.Reaches (.reference pointer) m :=
  .head (.follow hn ht) (of_contains hm)

theorem ReachesName.of_reaches {n m : Node} {name : String} (h : d.Reaches n m)
    (hname : d.ReachesName m name) : d.ReachesName n name := by
  obtain ⟨pointer, hp, hname⟩ := hname
  exact ⟨pointer, h.trans hp, hname⟩

/-- What is reached stands in the node itself or in a definition that it reaches. -/
theorem reaches_iff {n m : Node} : d.Reaches n m ↔ n.Contains m ∨
    ∃ name target, d.ReachesName n name ∧ d.get? name = some target ∧ target.Contains m := by
  constructor
  · intro h
    induction h with
    | refl => exact .inl (.refl n)
    | tail hn hstep ih =>
      cases hstep with
      | child hc =>
        rcases ih with h | ⟨name, target, hname, htarget, h⟩
        · exact .inl (.tail h hc)
        · exact .inr ⟨name, target, hname, htarget, .tail h hc⟩
      | follow hname htarget => exact .inr ⟨_, _, ⟨_, hn, hname⟩, htarget, .refl _⟩
  · rintro (h | ⟨name, target, ⟨pointer, hp, hname⟩, htarget, h⟩)
    · exact .of_contains h
    · exact hp.trans (.of_reference hname htarget h)

theorem Reaches.contains {n m : Node} (h : d.Reaches n m) :
    n.Contains m ∨ ∃ name target, d.get? name = some target ∧ target.Contains m :=
  (reaches_iff.1 h).imp_right fun ⟨name, target, _, htarget, h⟩ => ⟨name, target, htarget, h⟩

/-! ## Cycles -/

/-- Each name refers to the next and the last to the first. None is repeated, and all have
definitions. -/
structure IsCycle (d : Definitions) (first : String) (rest : List String) : Prop where
  nodup : (first :: rest).Nodup
  defined : ∀ name ∈ first :: rest, d.contains name = true
  refers : (first :: rest ++ [first]).IsChain d.Refers

theorem IsCycle.transGen {first : String} {rest : List String} (h : d.IsCycle first rest) :
    Relation.TransGen d.Refers first first := by
  have hchain := h.refers
  cases hrest : rest ++ [first] with
  | nil => simp at hrest
  | cons next others =>
    rw [List.cons_append, hrest] at hchain
    have hlast : (next :: others).getLast (List.cons_ne_nil _ _) = first := by simp [← hrest]
    exact .head' hchain.rel (List.relationReflTransGen_of_exists_isChain_cons others hchain.tail hlast)

/-- Names that refer to each other in turn come round when one of them is met again. -/
theorem exists_isCycle {names : List String} {name : String} (hnodup : names.Nodup)
    (hdefined : ∀ outer ∈ names, d.contains outer = true)
    (hrefers : (names ++ [name]).IsChain d.Refers) (hname : name ∈ names) :
    ∃ rest, names.dropWhile (· ≠ name) = name :: rest ∧ d.IsCycle name rest := by
  obtain ⟨before, rest, rfl, hbefore⟩ := List.eq_append_cons_of_mem hname
  refine ⟨rest, ?_, (List.nodup_append.1 hnodup).2.1, fun outer ho => ?_, ?_⟩
  · rw [List.dropWhile_append_of_pos, List.dropWhile_cons_of_neg (by simp)]
    intro outer ho
    simpa using fun heq : outer = name => hbefore (heq ▸ ho)
  · exact hdefined outer (List.mem_append_right _ ho)
  · rw [List.append_assoc] at hrefers
    exact hrefers.right_of_append

end Definitions

end ContractInterface
