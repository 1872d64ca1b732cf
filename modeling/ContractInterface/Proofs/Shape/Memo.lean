/-
The resolver against the plain one. Whatever a resolver remembers, it answers a node as the plain
resolver does with the names that are being followed open: the same shape, or the same error with the
same pointer or chain (`Resolver.follow_agrees`). The invariant is `Resolver.Sound`: names that are
being followed are not remembered, and a remembered shape is what the plain resolver finds, whichever
names are open that are not remembered themselves. Hence no name that is remembered can reach one
that is being followed, and the memo may be asked before the stack is.

The depth at which the resolver gives up is never met (`Resolver.follow_depth`).
-/
import ContractInterface.Proofs.Shape.Expansion

namespace ContractInterface

open Json

namespace Resolver

variable {d : Definitions} {r : Resolver}

/-! ## Following one pointer -/

/-- What a computation answers, and the resolver as it leaves it. -/
def outcome {α : Type} (x : ResolveM α) (r : Resolver) : Except ResolveError α × Resolver :=
  match x r with
  | .ok a r => (.ok a, r)
  | .error e r => (.error e, r)

theorem outcome_bind {α β : Type} (x : ResolveM α) (f : α → ResolveM β) (r : Resolver) :
    outcome (x >>= f) r = match outcome x r with
      | (.ok a, r) => outcome (f a) r
      | (.error e, r) => (.error e, r) := by
  simp only [outcome, bind, EStateM.bind]
  cases x r <;> rfl

theorem outcome_follow_of_not_leads {depth : Nat} {pointer : String} (h : ¬ d.Leads pointer) :
    outcome (follow d depth pointer) r = (.error (.unresolved pointer), r) := by
  unfold outcome follow
  cases hname : definitionName? pointer with
  | none => rfl
  | some name =>
    cases htarget : d.get? name with
    | none => simp only [htarget]
    | some target => exact absurd ⟨name, target, hname, htarget⟩ h

section Leads

variable {depth : Nat} {pointer name : String} {target : Node}
  (hname : definitionName? pointer = some name) (htarget : d.get? name = some target)

include hname htarget

theorem outcome_follow_of_resolved {s : Shape} (hs : r.resolved.lookup name = some s) :
    outcome (follow d depth pointer) r = (.ok s, r) := by
  unfold outcome follow
  simp only [hname, htarget, hs]

theorem outcome_follow_of_visiting (hs : r.resolved.lookup name = none) (hv : name ∈ r.visiting) :
    outcome (follow d depth pointer) r = (.error (.cyclic (r.cycle name)), r) := by
  unfold outcome follow
  simp only [hname, htarget, hs, List.contains_iff_mem, hv, if_true]

/-- A name met for the first time is followed one level deeper. -/
theorem outcome_follow_of_new (hs : r.resolved.lookup name = none) (hv : name ∉ r.visiting) :
    outcome (follow d (depth + 1) pointer) r =
      match outcome (target.resolveWith (follow d depth)) (r.enter name) with
      | (.ok s, r) => (.ok s, r.leave.remember name s)
      | (.error e, r) => (.error e, r.leave) := by
  unfold outcome
  rw [follow]
  simp only [hname, htarget, hs, List.contains_iff_mem, hv, if_false]
  cases target.resolveWith (follow d depth) (r.enter name) <;> rfl

end Leads

/-! ## The invariant -/

/-- The names whose shapes are remembered. -/
def remembered (r : Resolver) : List String := r.resolved.map Prod.fst

theorem lookup_resolved_eq_none {name : String} :
    r.resolved.lookup name = none ↔ name ∉ r.remembered := by
  simp only [remembered, List.lookup_eq_none_iff, List.mem_map, bne_iff_ne]
  constructor
  · rintro h ⟨p, hp, rfl⟩
    exact h p hp rfl
  · rintro h p hp rfl
    exact h ⟨p, hp, rfl⟩

/-- What holds of a resolver between any two steps: no name is both followed and remembered, and a
remembered shape is that of the definition, whichever names are open, the name itself or names that
are not remembered. -/
structure Sound (d : Definitions) (r : Resolver) : Prop where
  apart : ∀ name ∈ r.visiting, name ∉ r.remembered
  shapes : ∀ name s, (name, s) ∈ r.resolved → ∃ target, d.get? name = some target ∧
    ∀ stack, (∀ outer ∈ stack, outer = name ∨ outer ∉ r.remembered) → d.expand stack target = .ok s

theorem Sound.empty (d : Definitions) : Sound d .empty :=
  ⟨by simp [Resolver.empty], by simp [Resolver.empty]⟩

theorem Sound.enter (h : Sound d r) {name : String} (hn : name ∉ r.remembered) :
    Sound d (r.enter name) where
  apart outer ho := by
    rcases List.mem_append.1 ho with ho | ho
    · exact h.apart outer ho
    · obtain rfl := List.mem_singleton.1 ho
      exact hn
  shapes := h.shapes

theorem Sound.leave (h : Sound d r) : Sound d r.leave where
  apart name hn := h.apart name (List.dropLast_subset _ hn)
  shapes := h.shapes

theorem visiting_leave {stack : List String} {name : String} (h : r.visiting = stack ++ [name]) :
    r.leave.visiting = stack := by
  show r.visiting.dropLast = stack
  rw [h, List.dropLast_concat]

theorem Sound.remember (h : Sound d r) {name : String} {s : Shape} {target : Node}
    (htarget : d.get? name = some target) (hv : name ∉ r.visiting)
    (hs : ∀ stack, (∀ outer ∈ stack, outer ∉ r.remembered) → d.expand stack target = .ok s)
    (hn : name ∉ r.remembered) : Sound d (r.remember name s) where
  apart outer ho hr := by
    rcases List.mem_cons.1 hr with rfl | hr
    · exact hv ho
    · exact h.apart outer ho hr
  shapes other t ht := by
    have hopen : ∀ {stack : List String},
        (∀ outer ∈ stack, outer = other ∨ outer ∉ (r.remember name s).remembered) →
        ∀ outer ∈ stack, outer = other ∨ outer ∉ r.remembered := fun hstack outer ho =>
      (hstack outer ho).imp_right fun hr hm => hr (List.mem_cons_of_mem _ hm)
    rcases List.mem_cons.1 ht with ht | ht
    · cases ht
      refine ⟨target, htarget, fun stack hstack => hs stack fun outer ho => ?_⟩
      rcases hopen hstack outer ho with rfl | hr
      · exact hn
      · exact hr
    · obtain ⟨target, htarget, hs⟩ := h.shapes other t ht
      exact ⟨target, htarget, fun stack hstack => hs stack (hopen hstack)⟩

/-! ## Agreement with the plain resolver -/

/-- A computation of the plain resolver: it reads the open names. -/
abbrev PlainM := ReaderT (List String) (Except ResolveError)

/-- From a sound resolver that follows the names of the stack, an outcome that leaves a sound resolver
that follows the same names and has forgotten nothing; a shape is what the plain computation gives
whichever names are open that are not remembered now, and an error is the one that it gives on the
stack. -/
structure Agreement (d : Definitions) (stack : List String) {α : Type} (r : Resolver)
    (result : Except ResolveError α × Resolver) (plain : PlainM α) : Prop where
  sound : Sound d result.2
  visiting : result.2.visiting = stack
  grows : r.resolved <:+ result.2.resolved
  ok : ∀ a, result.1 = .ok a →
    ∀ inner, (∀ outer ∈ inner, outer ∉ result.2.remembered) → plain inner = .ok a
  error : ∀ e, result.1 = .error e → plain stack = .error e

def Agrees (d : Definitions) (stack : List String) {α : Type} (x : ResolveM α) (plain : PlainM α) :
    Prop :=
  ∀ r, Sound d r → r.visiting = stack → Agreement d stack r (outcome x r) plain

theorem remembered_subset {r' : Resolver} (h : r.resolved <:+ r'.resolved) :
    r.remembered ⊆ r'.remembered := List.map_subset _ h.subset

theorem Agrees.pure {stack : List String} {α : Type} (a : α) :
    Agrees d stack (pure a : ResolveM α) (pure a : PlainM α) := fun _ hr hv =>
  { sound := hr
    visiting := hv
    grows := List.suffix_refl _
    ok := fun _ h _ _ => h
    error := fun _ h => nomatch h }

theorem Agrees.bind {stack : List String} {α β : Type} {x : ResolveM α} {y : PlainM α}
    {f : α → ResolveM β} {g : α → PlainM β} (hx : Agrees d stack x y)
    (hf : ∀ a, Agrees d stack (f a) (g a)) : Agrees d stack (x >>= f) (y >>= g) := by
  intro r hr hv
  have hplain : ∀ inner, (y >>= g) inner = y inner >>= fun a => g a inner := fun _ => rfl
  obtain ⟨hsound, hvisiting, hgrows, hok, herror⟩ := hx r hr hv
  rw [outcome_bind]
  cases h : outcome x r with
  | mk result r₁ =>
    rw [h] at hsound hvisiting hgrows hok herror
    cases result with
    | error e =>
      refine ⟨hsound, hvisiting, hgrows, (fun _ h => nomatch h), fun e' h => ?_⟩
      rw [hplain, herror e rfl]
      exact h
    | ok a =>
      obtain ⟨hsound₂, hvisiting₂, hgrows₂, hok₂, herror₂⟩ := hf a r₁ hsound hvisiting
      refine ⟨hsound₂, hvisiting₂, hgrows.trans hgrows₂, fun b hb inner hinner => ?_, fun e he => ?_⟩
      · rw [hplain, hok a rfl inner fun outer ho hm => hinner outer ho (remembered_subset hgrows₂ hm)]
        exact hok₂ b hb inner hinner
      · -- the names that are followed are not remembered, so the first part gives its shape here too
        have hstack : ∀ outer ∈ stack, outer ∉ r₁.remembered := by
          rw [← hvisiting]
          exact hsound.apart
        rw [hplain, hok a rfl stack hstack]
        exact herror₂ e he

def agreement (d : Definitions) (stack : List String) : MonadRelation ResolveM PlainM where
  Rel x y := Agrees d stack x y
  pure := Agrees.pure
  bind := Agrees.bind

/-- The plain resolver, reading the open names. -/
def plain (d : Definitions) (pointer : String) : PlainM Shape := fun stack =>
  d.expandPointer stack pointer

/-- What a plain computation gives while the names of the stack are open. -/
def atStack (stack : List String) : MonadRelation PlainM (Except ResolveError) where
  Rel x y := x stack = y
  pure _ := rfl
  bind {_ _ x _ f g} hx hf := by
    subst hx
    show (x stack >>= fun a => f a stack) = x stack >>= g
    congr 1
    funext a
    exact hf a

theorem resolveWith_plain (d : Definitions) (n : Node) (stack : List String) :
    n.resolveWith (plain d) stack = d.expand stack n :=
  n.resolveWith_related (atStack stack) fun _ _ => rfl

section Leads

variable {depth : Nat} {stack : List String} {pointer name : String} {target : Node}
  (hname : definitionName? pointer = some name) (htarget : d.get? name = some target)

include hname htarget

theorem plain_of_leads (inner : List String) : plain d pointer inner =
    if name ∈ inner then .error (.cyclic (inner.dropWhile (· ≠ name) ++ [name]))
    else d.expand (inner ++ [name]) target :=
  Definitions.expandPointer_of_leads hname htarget

theorem agreement_of_resolved (hr : Sound d r) (hv : r.visiting = stack) {s : Shape}
    (hs : r.resolved.lookup name = some s) :
    Agreement d stack r (outcome (follow d depth pointer) r) (plain d pointer) := by
  rw [outcome_follow_of_resolved hname htarget hs]
  refine ⟨hr, hv, List.suffix_refl _, fun t ht inner hinner => ?_, fun _ h => nomatch h⟩
  cases ht
  have hmem : (name, s) ∈ r.resolved := mem_of_lookup_eq_some hs
  obtain ⟨target', htarget', hshape⟩ := hr.shapes name s hmem
  obtain rfl : target = target' := Option.some.inj (htarget.symm.trans htarget')
  have hn : name ∉ inner := fun h => hinner name h (List.mem_map.2 ⟨_, hmem, rfl⟩)
  rw [plain_of_leads hname htarget, if_neg hn]
  refine hshape _ fun outer ho => ?_
  rcases List.mem_append.1 ho with ho | ho
  · exact .inr (hinner outer ho)
  · exact .inl (List.mem_singleton.1 ho)

/-- A definition that is followed in agreement is remembered in agreement. -/
theorem agreement_of_new (hr : Sound d r) (hv : r.visiting = stack)
    (hs : r.resolved.lookup name = none) (hnew : name ∉ r.visiting)
    (hinner : Agrees d (stack ++ [name]) (target.resolveWith (follow d depth))
      (target.resolveWith (plain d))) :
    Agreement d stack r (outcome (follow d (depth + 1) pointer) r) (plain d pointer) := by
  rw [outcome_follow_of_new hname htarget hs hnew]
  obtain ⟨hsound, hvisiting, hgrows, hok, herror⟩ :=
    hinner (r.enter name) (hr.enter (lookup_resolved_eq_none.1 hs)) (by rw [← hv]; rfl)
  simp only [resolveWith_plain] at hok herror
  cases h : outcome (target.resolveWith (follow d depth)) (r.enter name) with
  | mk result r₁ =>
    rw [h] at hsound hvisiting hgrows hok herror
    have hleave := visiting_leave hvisiting
    have hstack : name ∉ stack := hv ▸ hnew
    cases result with
    | error e =>
      refine ⟨hsound.leave, hleave, hgrows, (fun _ h => nomatch h), fun e' he => ?_⟩
      rw [plain_of_leads hname htarget, if_neg hstack, herror e rfl]
      exact he
    | ok s =>
      -- the name is followed up to here, so nothing below can have remembered it
      have hn : name ∉ r₁.remembered := hsound.apart name (by rw [hvisiting]; simp)
      refine ⟨hsound.leave.remember htarget (by rw [hleave]; exact hstack) (hok s rfl) hn, hleave,
        hgrows.trans (List.suffix_cons _ _), fun t ht inner hopen => ?_, fun _ h => nomatch h⟩
      cases ht
      have hne : name ∉ inner := fun h => hopen name h (List.mem_cons_self ..)
      rw [plain_of_leads hname htarget, if_neg hne]
      refine hok s rfl _ fun outer ho => ?_
      rcases List.mem_append.1 ho with ho | ho
      · exact fun hm => hopen outer ho (List.mem_cons_of_mem _ hm)
      · exact List.mem_singleton.1 ho ▸ hn

end Leads

/-- With enough depth for the names that are not open, following a pointer agrees with the plain
resolver. -/
theorem follow_agrees : ∀ (depth : Nat) (stack : List String) (pointer : String),
    d.unopened stack ≤ depth → Agrees d stack (follow d depth pointer) (plain d pointer) := by
  intro depth stack pointer hdepth r hr hv
  by_cases hl : d.Leads pointer
  · obtain ⟨name, target, hname, htarget⟩ := hl
    cases hs : r.resolved.lookup name with
    | some s => exact agreement_of_resolved hname htarget hr hv hs
    | none =>
      by_cases hvisiting : name ∈ r.visiting
      · rw [outcome_follow_of_visiting hname htarget hs hvisiting]
        refine ⟨hr, hv, List.suffix_refl _, (fun _ h => nomatch h), fun e he => ?_⟩
        cases he
        rw [plain_of_leads hname htarget, ← hv, if_pos hvisiting]
        rfl
      · -- one name more is open below, so one step less is enough there
        have hlt := Definitions.unopened_append_lt htarget (hv ▸ hvisiting)
        cases depth with
        | zero => omega
        | succ depth =>
          refine agreement_of_new hname htarget hr hv hs hvisiting ?_
          exact target.resolveWith_related (agreement d (stack ++ [name])) fun p _ =>
            follow_agrees depth (stack ++ [name]) p (by omega)
  · rw [outcome_follow_of_not_leads hl]
    refine ⟨hr, hv, List.suffix_refl _, (fun _ h => nomatch h), fun e he => ?_⟩
    cases he
    exact Definitions.expandPointer_of_not_leads hl

/-! ## Resolving nodes in turn -/

theorem unopened_nil (d : Definitions) : d.unopened [] = d.size := by
  simp [Definitions.unopened, Definitions.names, Definitions.size]

theorem resolve_agrees (d : Definitions) (n : Node) :
    Agrees d [] (resolve d n) (n.resolveWith (plain d)) :=
  n.resolveWith_related (agreement d []) fun pointer _ =>
    follow_agrees d.size [] pointer (Nat.le_of_eq (unopened_nil d))

/-- While no name is followed, agreement is equality. -/
theorem Agrees.outcome_eq {α : Type} {x : ResolveM α} {y : PlainM α} (h : Agrees d [] x y)
    (hr : Sound d r) (hv : r.visiting = []) : (outcome x r).1 = y [] := by
  obtain ⟨-, -, -, hok, herror⟩ := h r hr hv
  cases hx : (outcome x r).1 with
  | ok a => exact (hok a hx [] (by simp)).symm
  | error e => exact (herror e hx).symm

/-- A resolver between two calls follows nothing and is sound. -/
theorem outcome_resolve (n : Node) (hr : Sound d r) (hv : r.visiting = []) :
    (outcome (resolve d n) r).1 = d.expand [] n ∧ Sound d (outcome (resolve d n) r).2 ∧
      (outcome (resolve d n) r).2.visiting = [] := by
  have h := resolve_agrees d n
  rw [← resolveWith_plain]
  exact ⟨h.outcome_eq hr hv, (h r hr hv).sound, (h r hr hv).visiting⟩

theorem resolve_eq_expand (d : Definitions) (n : Node) :
    ContractInterface.resolve d n = d.expand [] n := by
  rw [← (outcome_resolve n (Sound.empty d) rfl).1]
  unfold ContractInterface.resolve outcome
  cases resolve d n .empty <;> rfl

/-- What one resolver answers to nodes in turn, each answer with the resolver as it is left. -/
def resolveEach (d : Definitions) : List Node → Resolver → List (Except ResolveError Shape × Resolver)
  | [], _ => []
  | n :: ns, r =>
    let answer := outcome (resolve d n) r
    answer :: resolveEach d ns answer.2

theorem resolveEach_sound : ∀ (ns : List Node) (r : Resolver), Sound d r → r.visiting = [] →
    (resolveEach d ns r).map Prod.fst = ns.map (d.expand []) ∧
      ∀ left ∈ (resolveEach d ns r).map Prod.snd, Sound d left ∧ left.visiting = []
  | [], _, _, _ => by simp [resolveEach]
  | n :: ns, r, hr, hv => by
    obtain ⟨hanswer, hr', hv'⟩ := outcome_resolve n hr hv
    obtain ⟨hrest, hleft⟩ := resolveEach_sound ns _ hr' hv'
    simp only [resolveEach, List.map_cons, hanswer, hrest, List.mem_cons, forall_eq_or_imp, true_and]
    exact ⟨⟨hr', hv'⟩, hleft⟩

/-- The memo cannot be seen: whatever nodes a resolver has answered before, and whether or not it
found shapes for them, it answers the next as the plain resolver does with no name open. After each
answer it follows nothing, and each shape that it has kept is the one that the plain resolver finds
for the definition and for every pointer to it. -/
theorem resolveEach_eq_expand (d : Definitions) (ns : List Node) :
    (resolveEach d ns .empty).map Prod.fst = ns.map (d.expand []) ∧
      ∀ left ∈ (resolveEach d ns .empty).map Prod.snd, left.visiting = [] ∧
        ∀ name s, (name, s) ∈ left.resolved →
          (∃ target, d.get? name = some target ∧ d.expand [] target = .ok s) ∧
            ∀ pointer, definitionName? pointer = some name →
              d.expand [] (.reference pointer) = .ok s := by
  obtain ⟨hanswers, hleft⟩ := resolveEach_sound ns .empty (Sound.empty d) rfl
  refine ⟨hanswers, fun left hl => ?_⟩
  obtain ⟨hsound, hvisiting⟩ := hleft left hl
  refine ⟨hvisiting, fun name s hs => ?_⟩
  obtain ⟨target, htarget, hshape⟩ := hsound.shapes name s hs
  refine ⟨⟨target, htarget, hshape [] (by simp)⟩, fun pointer hname => ?_⟩
  have hpointer : d.expand [] (.reference pointer) = _ :=
    Definitions.expandPointer_of_leads hname htarget
  rw [hpointer, if_neg (by simp)]
  exact hshape [name] (by simp)

/-! ## Depth -/

/-- Computations of resolvers that follow the names of the stack with equal outcomes, after which the
same names are followed. -/
def sameFrom (stack : List String) : MonadRelation ResolveM ResolveM where
  Rel x y := ∀ r : Resolver, r.visiting = stack →
    outcome x r = outcome y r ∧ (outcome x r).2.visiting = stack
  pure _ _ hv := ⟨rfl, hv⟩
  bind {_ _ x y f g} hx hf r hv := by
    obtain ⟨heq, hvisiting⟩ := hx r hv
    rw [outcome_bind, outcome_bind, ← heq]
    cases h : outcome x r with
    | mk result r₁ =>
      rw [h] at hvisiting
      cases result with
      | error e => exact ⟨rfl, hvisiting⟩
      | ok a => exact hf a r₁ hvisiting

/-- Any depth is enough that is at least the number of names that are not open. -/
theorem follow_depth : ∀ (k l : Nat) (stack : List String) (pointer : String),
    d.unopened stack ≤ k → d.unopened stack ≤ l →
    (sameFrom stack).Rel (follow d k pointer) (follow d l pointer) := by
  intro k l stack pointer hk hl r hv
  by_cases hleads : d.Leads pointer
  · obtain ⟨name, target, hname, htarget⟩ := hleads
    cases hs : r.resolved.lookup name with
    | some s =>
      rw [outcome_follow_of_resolved hname htarget hs, outcome_follow_of_resolved hname htarget hs]
      exact ⟨rfl, hv⟩
    | none =>
      by_cases hvisiting : name ∈ r.visiting
      · rw [outcome_follow_of_visiting hname htarget hs hvisiting,
          outcome_follow_of_visiting hname htarget hs hvisiting]
        exact ⟨rfl, hv⟩
      · have hlt := Definitions.unopened_append_lt htarget (hv ▸ hvisiting)
        cases k with
        | zero => omega
        | succ k =>
          cases l with
          | zero => omega
          | succ l =>
            have hinner := target.resolveWith_related (sameFrom (stack ++ [name]))
              (fun p _ => follow_depth k l (stack ++ [name]) p (by omega) (by omega))
              (r.enter name) (by rw [← hv]; rfl)
            rw [outcome_follow_of_new hname htarget hs hvisiting,
              outcome_follow_of_new hname htarget hs hvisiting, ← hinner.1]
            refine ⟨rfl, ?_⟩
            cases h : outcome (target.resolveWith (follow d k)) (r.enter name) with
            | mk result r₁ =>
              rw [h] at hinner
              cases result <;> exact visiting_leave hinner.2
  · rw [outcome_follow_of_not_leads hleads, outcome_follow_of_not_leads hleads]
    exact ⟨rfl, hv⟩

/-- The size of the table is as good as any greater depth, whatever a resolver remembers. -/
theorem resolve_sameFrom (n : Node) {depth : Nat} (h : d.size ≤ depth) :
    (sameFrom []).Rel (n.resolveWith (follow d depth)) (resolve d n) := by
  refine n.resolveWith_related (sameFrom []) fun pointer _ => ?_
  have hsize := Nat.le_of_eq (unopened_nil d)
  exact follow_depth depth d.size [] pointer (Nat.le_trans hsize h) hsize

theorem resolve_depth (n : Node) {depth : Nat} (h : d.size ≤ depth) :
    outcome (n.resolveWith (follow d depth)) .empty = outcome (resolve d n) .empty :=
  (resolve_sameFrom n h .empty rfl).1

end Resolver

/-! ## When a node has a shape -/

/-- A node has a shape exactly when every reference that is reached from it leads to a definition and
no name that is reached refers back to itself. An error names a pointer that leads nowhere, or comes
of a name that refers back to itself. None of this hangs on the depth that resolvers are given: a
greater one changes nothing, so following ends on its own. -/
theorem resolve_ok_iff (d : Definitions) (n : Node) :
    ((∃ s, resolve d n = .ok s) ↔
      (∀ pointer, d.Reaches n (.reference pointer) → d.Leads pointer) ∧
        ∀ name, d.ReachesName n name → ¬ Relation.TransGen d.Refers name name) ∧
    (∀ e, resolve d n = .error e →
      (∃ pointer, e = .unresolved pointer ∧ d.Reaches n (.reference pointer) ∧
        ¬ d.Leads pointer) ∨
      ∃ chain, e = .cyclic chain ∧
        ∃ name, d.ReachesName n name ∧ Relation.TransGen d.Refers name name) ∧
    ∀ depth, d.size ≤ depth → Resolver.outcome (n.resolveWith (Resolver.follow d depth)) .empty =
      Resolver.outcome (Resolver.resolve d n) .empty := by
  refine ⟨?_, fun e he => ?_, fun depth => Resolver.resolve_depth n⟩
  · rw [Resolver.resolve_eq_expand]
    exact Definitions.expands_nil_iff
  · rw [Resolver.resolve_eq_expand] at he
    have hb := Definitions.blames_of_expand he
    cases e with
    | unresolved pointer => exact .inl ⟨pointer, rfl, hb⟩
    | cyclic chain => exact .inr ⟨chain, rfl, hb⟩

end ContractInterface
