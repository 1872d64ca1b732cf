/-
Resolvers of nodes that differ in how their pointers are spelled. What is followed, remembered and found to be
a cycle is the name, so both go through the same states, and they answer the same but for the text of a
pointer that leads nowhere (`Resolver.resolveEach_sameOutcome`). Against tables that hold the same under every
name, their answers do not differ at all (`Resolver.resolveEach_congr`).
-/
import ContractInterface.Proofs.Schema.Pointers
import ContractInterface.Proofs.Shape.Memo

namespace ContractInterface

/-! ## Answers -/

/-- The same error, but for the spelling of a pointer that leads nowhere. -/
inductive SameError : ResolveError → ResolveError → Prop
  | unresolved {p q : String} : SamePointer p q → SameError (.unresolved p) (.unresolved q)
  | cyclic (chain : List String) : SameError (.cyclic chain) (.cyclic chain)

/-- The same result, or the same error. -/
inductive SameAnswer {α : Type} : Except ResolveError α → Except ResolveError α → Prop
  | ok (a : α) : SameAnswer (.ok a) (.ok a)
  | error {e e' : ResolveError} : SameError e e' → SameAnswer (.error e) (.error e')

namespace Resolver

/-- The same answer, and the resolver left in the same state. -/
structure SameOutcome {α : Type} (x y : Except ResolveError α × Resolver) : Prop where
  answer : SameAnswer x.1 y.1
  left : x.2 = y.2

theorem SameOutcome.cases {α : Type} {x y : Except ResolveError α × Resolver} (h : SameOutcome x y) :
    (∃ a r, x = (.ok a, r) ∧ y = (.ok a, r)) ∨
      ∃ e e' r, SameError e e' ∧ x = (.error e, r) ∧ y = (.error e', r) := by
  obtain ⟨result, r⟩ := x
  obtain ⟨result', r'⟩ := y
  obtain ⟨hanswer, hleft⟩ := h
  obtain rfl : r = r' := hleft
  cases hanswer with
  | ok a => exact .inl ⟨a, r, rfl, rfl⟩
  | error he => exact .inr ⟨_, _, r, he, rfl, rfl⟩

/-- Computations with the same outcome from every resolver. -/
def sameOutcomes : MonadRelation ResolveM ResolveM where
  Rel x y := ∀ r : Resolver, SameOutcome (outcome x r) (outcome y r)
  pure a _ := ⟨.ok a, rfl⟩
  bind {_ _ x y f g} hx hf r := by
    rw [outcome_bind, outcome_bind]
    rcases (hx r).cases with ⟨a, left, hxa, hya⟩ | ⟨e, e', left, he, hxe, hye⟩
    · rw [hxa, hya]
      exact hf a left
    · rw [hxe, hye]
      exact ⟨.error he, rfl⟩

end Resolver

/-! ## Nodes -/

namespace Node

/-- What follows references does so alike for both spellings of a pointer. -/
def FollowedSame (f g : String → ResolveM Shape) : Prop :=
  ∀ p q, SamePointer p q → Resolver.sameOutcomes.Rel (f p) (g q)

/-- Nodes that differ in the spelling of pointers: resolving them gives the same answer. -/
structure Respelled (n m : Node) : Prop where
  sameOutcomes : ∀ {f g : String → ResolveM Shape}, FollowedSame f g →
    Resolver.sameOutcomes.Rel (n.resolveWith f) (m.resolveWith g)

section Parts

open Resolver (sameOutcomes)

variable {f g : String → ResolveM Shape} (hfg : FollowedSame f g)

include hfg

theorem resolveAll_respelled {ns ms : List Node} (h : List.Forall₂ Respelled ns ms) :
    sameOutcomes.Rel (resolveAll f ns) (resolveAll g ms) := by
  induction h with
  | nil => exact sameOutcomes.pure _
  | cons hnm _ ih =>
    exact sameOutcomes.bind (hnm.sameOutcomes hfg) fun s => sameOutcomes.bind ih fun ss => sameOutcomes.pure _

theorem resolveProperties_respelled (required : Option (List String)) {ps qs : List (String × Node)}
    (h : List.Forall₂ (fun p q => p.1 = q.1 ∧ p.2.Respelled q.2) ps qs) :
    sameOutcomes.Rel (resolveProperties f required ps) (resolveProperties g required qs) := by
  induction h with
  | nil => exact sameOutcomes.pure _
  | @cons p q ps qs hpq _ ih =>
    obtain ⟨name, n⟩ := p
    obtain ⟨_, m⟩ := q
    obtain ⟨rfl, hnm⟩ := hpq
    exact sameOutcomes.bind (hnm.sameOutcomes hfg) fun s => sameOutcomes.bind ih fun qs => sameOutcomes.pure _

theorem resolveAdditional_respelled {a b : Additional Node} (h : Additional.Rel Respelled a b) :
    sameOutcomes.Rel (resolveAdditional f a) (resolveAdditional g b) := by
  cases h with
  | forbidden => exact sameOutcomes.pure _
  | untyped => exact sameOutcomes.pure _
  | typed h => exact sameOutcomes.bind (h.sameOutcomes hfg) fun s => sameOutcomes.pure _

end Parts

theorem Respelled.reference {p q : String} (h : SamePointer p q) : Respelled (.reference p) (.reference q) :=
  ⟨fun hfg => hfg p q h⟩

theorem congruence_respelled : Congruence Respelled where
  refl n := ⟨fun hfg => n.resolveWith_related _ fun pointer _ => hfg pointer pointer (.refl pointer)⟩
  intersection h := ⟨fun hfg => Resolver.sameOutcomes.bind (resolveAll_respelled hfg h) fun _ =>
    Resolver.sameOutcomes.pure _⟩
  typeList h := ⟨fun hfg => Resolver.sameOutcomes.bind (resolveAll_respelled hfg h) fun _ =>
    Resolver.sameOutcomes.pure _⟩
  object required a b hps hab := ⟨fun hfg =>
    Resolver.sameOutcomes.bind (resolveProperties_respelled hfg required hps) fun _ =>
    Resolver.sameOutcomes.bind (resolveAdditional_respelled hfg hab) fun _ => Resolver.sameOutcomes.pure _⟩
  tuple h := ⟨fun hfg => Resolver.sameOutcomes.bind (resolveAll_respelled hfg h) fun _ =>
    Resolver.sameOutcomes.pure _⟩
  list c h := by
    refine ⟨fun hfg => ?_⟩
    cases h with
    | none => exact Resolver.sameOutcomes.pure _
    | some h => exact Resolver.sameOutcomes.bind (h.sameOutcomes hfg) fun _ => Resolver.sameOutcomes.pure _
  union h := ⟨fun hfg => Resolver.sameOutcomes.bind (resolveAll_respelled hfg h) fun _ =>
    Resolver.sameOutcomes.pure _⟩

theorem respelled_ofValue {v w : Json.Value} (h : Schema.Respelled .schema v w) :
    (ofValue v).Respelled (ofValue w) :=
  (h.readsAs congruence_respelled fun _ _ => .reference).node rfl

end Node

/-! ## Resolvers -/

namespace Resolver

variable {d e : Definitions}

/-- At no depth left, a name that is new is taken for a cycle. -/
theorem outcome_follow_zero {pointer name : String} {target : Node} {r : Resolver}
    (hname : definitionName? pointer = some name) (htarget : d.get? name = some target)
    (hs : r.resolved.lookup name = none) :
    outcome (follow d 0 pointer) r = (.error (.cyclic (r.cycle name)), r) := by
  unfold outcome follow
  simp only [hname, htarget, hs, ite_self]

theorem leads_of_respelled (h : ∀ name, Option.Rel Node.Respelled (d.get? name) (e.get? name)) {p q : String}
    (hpq : SamePointer p q) (hl : e.Leads q) : d.Leads p := by
  obtain ⟨name, target, hname, htarget⟩ := hl
  rcases rel_cases (h name) with ⟨-, hnone⟩ | ⟨n, m, hn, -, -⟩
  · cases htarget.symm.trans hnone
  · exact ⟨name, n, hpq.definitionName?_eq.trans hname, hn⟩

/-- The induction is on the depth: below a name that is new, both go on from the same state. -/
theorem follow_sameOutcome (h : ∀ name, Option.Rel Node.Respelled (d.get? name) (e.get? name)) :
    ∀ depth, Node.FollowedSame (follow d depth) (follow e depth) := by
  intro depth p q hpq r
  by_cases hl : d.Leads p
  · obtain ⟨name, target, hname, htarget⟩ := hl
    have hname' : definitionName? q = some name := hpq.definitionName?_eq.symm.trans hname
    rcases rel_cases (h name) with ⟨hnone, -⟩ | ⟨n, m, hn, hm, hnm⟩
    · cases htarget.symm.trans hnone
    cases hs : r.resolved.lookup name with
    | some s =>
      rw [outcome_follow_of_resolved hname hn hs, outcome_follow_of_resolved hname' hm hs]
      exact ⟨.ok s, rfl⟩
    | none =>
      by_cases hv : name ∈ r.visiting
      · rw [outcome_follow_of_visiting hname hn hs hv, outcome_follow_of_visiting hname' hm hs hv]
        exact ⟨.error (.cyclic _), rfl⟩
      cases depth with
      | zero =>
        rw [outcome_follow_zero hname hn hs, outcome_follow_zero hname' hm hs]
        exact ⟨.error (.cyclic _), rfl⟩
      | succ depth =>
        have hinner := hnm.sameOutcomes (follow_sameOutcome h depth) (r.enter name)
        rw [outcome_follow_of_new hname hn hs hv, outcome_follow_of_new hname' hm hs hv]
        rcases hinner.cases with ⟨s, left, hns, hms⟩ | ⟨e, e', left, he, hne, hme⟩
        · rw [hns, hms]
          exact ⟨.ok s, rfl⟩
        · rw [hne, hme]
          exact ⟨.error he, rfl⟩
  · have hl' : ¬ e.Leads q := fun hq => hl (leads_of_respelled h hpq hq)
    rw [outcome_follow_of_not_leads hl, outcome_follow_of_not_leads hl']
    exact ⟨.error (.unresolved hpq), rfl⟩

/-- One resolver that answers nodes in turn goes through the same states as one that answers them with their
pointers respelled, against definitions that are respelled themselves. -/
theorem resolveEach_sameOutcome (h : ∀ name, Option.Rel Node.Respelled (d.get? name) (e.get? name))
    {ns ms : List Node} (hnm : List.Forall₂ Node.Respelled ns ms) {r : Resolver} (hr : r.visiting = []) :
    List.Forall₂ SameOutcome (resolveEach d ns r) (resolveEach e ms r) := by
  induction hnm generalizing r with
  | nil => exact .nil
  | @cons n m ns ms hnm _ ih =>
    -- the tables need not have one size, so both are given the greater depth of the two
    let depth := max d.size e.size
    have hsame := hnm.sameOutcomes (follow_sameOutcome h depth) r
    obtain ⟨hd, hvisiting⟩ := resolve_sameFrom n (Nat.le_max_left d.size e.size) r hr
    obtain ⟨he, -⟩ := resolve_sameFrom m (Nat.le_max_right d.size e.size) r hr
    rw [hd] at hvisiting
    rw [hd, he] at hsame
    refine .cons hsame ?_
    rw [← hsame.left]
    exact ih hvisiting

/-! ## Tables that hold the same -/

theorem follow_congr (h : ∀ name, d.get? name = e.get? name) : ∀ depth, follow d depth = follow e depth := by
  intro depth
  induction depth with
  | zero =>
    funext pointer r
    unfold follow
    simp only [h]
  | succ depth ih =>
    funext pointer r
    unfold follow
    simp only [h, ih]

theorem resolveEach_congr (h : ∀ name, d.get? name = e.get? name) (ns : List Node) {r : Resolver}
    (hr : r.visiting = []) : resolveEach d ns r = resolveEach e ns r := by
  induction ns generalizing r with
  | nil => rfl
  | cons n ns ih =>
    have hd := resolve_sameFrom n (Nat.le_max_left d.size e.size) r hr
    have he := resolve_sameFrom n (Nat.le_max_right d.size e.size) r hr
    rw [follow_congr h] at hd
    have hanswer : outcome (resolve d n) r = outcome (resolve e n) r := hd.1.symm.trans he.1
    unfold resolveEach
    dsimp only
    rw [hanswer, ih (he.1 ▸ he.2)]

end Resolver

end ContractInterface
