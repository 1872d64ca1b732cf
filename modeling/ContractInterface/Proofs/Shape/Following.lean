/-
The resolver while it follows references. `Resolver.followWatched` is the resolver that writes down,
for each reference that it follows at any depth, itself as it begins and as it ends; it answers as the
resolver does (`Resolver.Watches`). At each of these moments the names that are being followed are
different names of the table, none of them is remembered, and what is remembered refers to nothing that
is not (`Resolver.Coherent`). Between the two, whether a shape was found or not, nothing that was
remembered has changed, and the same names are being followed (`Following.Kept`).

That what is remembered is closed comes from soundness: a remembered shape is found with any name open
that is not remembered, and a reference to that name would have found it open
(`Resolver.Sound.refers_remembered`).
-/
import ContractInterface.Proofs.Shape.Memo
import Mathlib.Data.List.Perm.Subperm

namespace ContractInterface

open Json

namespace Resolver

variable {d : Definitions} {r : Resolver}

/-! ## Watching -/

/-- One reference that is followed: the resolver as it begins and as it ends. -/
structure Following where
  pointer : String
  before : Resolver
  after : Resolver

/-- A computation of a resolver beside the references that it has followed, the one that ended last
first. -/
abbrev WatchedM := EStateM ResolveError (Resolver × List Following)

/-- Writes down the reference when it has been followed. -/
def recording (pointer : String) (x : WatchedM Shape) : WatchedM Shape := fun start =>
  match x start with
  | .ok s (r, followed) => .ok s (r, ⟨pointer, start.1, r⟩ :: followed)
  | .error e (r, followed) => .error e (r, ⟨pointer, start.1, r⟩ :: followed)

/-- Follows a pointer as `follow` does, writing down every reference that is followed. -/
def followWatched (d : Definitions) (depth : Nat) (pointer : String) : WatchedM Shape :=
  recording pointer fun (r, followed) =>
    match definitionName? pointer with
    | none => .error (.unresolved pointer) (r, followed)
    | some name =>
      match d.get? name with
      | none => .error (.unresolved pointer) (r, followed)
      | some target =>
        match r.resolved.lookup name with
        | some s => .ok s (r, followed)
        | none =>
          if r.visiting.contains name then .error (.cyclic (r.cycle name)) (r, followed)
          else
            match depth with
            | 0 => .error (.cyclic (r.cycle name)) (r, followed)
            | depth + 1 =>
              match target.resolveWith (followWatched d depth) (r.enter name, followed) with
              | .ok s (r, followed) => .ok s (r.leave.remember name s, followed)
              | .error e (r, followed) => .error e (r.leave, followed)

/-- What a watched computation answers, the resolver as it leaves it, and what has been followed. -/
structure Watched (α : Type) where
  answer : Except ResolveError α
  resolver : Resolver
  followed : List Following

def watch {α : Type} (x : WatchedM α) (r : Resolver) (followed : List Following) : Watched α :=
  match x (r, followed) with
  | .ok a (r, followed) => ⟨.ok a, r, followed⟩
  | .error e (r, followed) => ⟨.error e, r, followed⟩

theorem watch_bind {α β : Type} (x : WatchedM α) (f : α → WatchedM β) (r : Resolver)
    (followed : List Following) : watch (x >>= f) r followed = match watch x r followed with
      | ⟨.ok a, r, followed⟩ => watch (f a) r followed
      | ⟨.error e, r, followed⟩ => ⟨.error e, r, followed⟩ := by
  simp only [watch, bind, EStateM.bind]
  cases x (r, followed) <;> rfl

section Following

variable {depth : Nat} {pointer name : String} {target : Node} {followed : List Following}

theorem watch_follow_of_not_leads (h : ¬ d.Leads pointer) :
    watch (followWatched d depth pointer) r followed =
      ⟨.error (.unresolved pointer), r, ⟨pointer, r, r⟩ :: followed⟩ := by
  unfold watch
  rw [followWatched]
  unfold recording
  cases hname : definitionName? pointer with
  | none => rfl
  | some name =>
    cases htarget : d.get? name with
    | none => simp only [htarget]
    | some target => exact absurd ⟨name, target, hname, htarget⟩ h

variable (hname : definitionName? pointer = some name) (htarget : d.get? name = some target)

include hname htarget

theorem watch_follow_of_resolved {s : Shape} (hs : r.resolved.lookup name = some s) :
    watch (followWatched d depth pointer) r followed =
      ⟨.ok s, r, ⟨pointer, r, r⟩ :: followed⟩ := by
  unfold watch
  rw [followWatched]
  simp only [recording, hname, htarget, hs]

theorem watch_follow_of_visiting (hs : r.resolved.lookup name = none) (hv : name ∈ r.visiting) :
    watch (followWatched d depth pointer) r followed =
      ⟨.error (.cyclic (r.cycle name)), r, ⟨pointer, r, r⟩ :: followed⟩ := by
  unfold watch
  rw [followWatched]
  simp only [recording, hname, htarget, hs, List.contains_iff_mem, hv, if_true]

theorem watch_follow_of_exhausted (hs : r.resolved.lookup name = none) (hv : name ∉ r.visiting) :
    watch (followWatched d 0 pointer) r followed =
      ⟨.error (.cyclic (r.cycle name)), r, ⟨pointer, r, r⟩ :: followed⟩ := by
  unfold watch
  rw [followWatched]
  simp only [recording, hname, htarget, hs, List.contains_iff_mem, hv, if_false]

theorem watch_follow_of_new (hs : r.resolved.lookup name = none) (hv : name ∉ r.visiting) :
    watch (followWatched d (depth + 1) pointer) r followed =
      match watch (target.resolveWith (followWatched d depth)) (r.enter name) followed with
      | ⟨.ok s, r', followed⟩ => ⟨.ok s, r'.leave.remember name s,
          ⟨pointer, r, r'.leave.remember name s⟩ :: followed⟩
      | ⟨.error e, r', followed⟩ => ⟨.error e, r'.leave, ⟨pointer, r, r'.leave⟩ :: followed⟩ := by
  unfold watch
  rw [followWatched]
  simp only [recording, hname, htarget, hs, List.contains_iff_mem, hv, if_false]
  cases target.resolveWith (followWatched d depth) (r.enter name, followed) <;> rfl

end Following

/-- Computations that keep what has been written down. -/
def growing : MonadRelation WatchedM WatchedM where
  Rel x _ := ∀ r followed, followed <:+ (watch x r followed).followed
  pure _ _ _ := List.suffix_refl _
  bind {_ _ x _ f _} hx hf r followed := by
    rw [watch_bind]
    have hfirst := hx r followed
    cases h : watch x r followed with
    | mk answer r₁ followed₁ =>
      rw [h] at hfirst
      cases answer with
      | error e => exact hfirst
      | ok a => exact hfirst.trans (hf a r₁ followed₁)

/-- Nothing is left out: a reference that is followed is written down last, after all that is followed on
the way, and what has been written down stays. -/
theorem followed_follow (d : Definitions) : ∀ (depth : Nat) (pointer : String) (r : Resolver)
    (followed : List Following), ∃ inner, followed <:+ inner ∧
      (watch (followWatched d depth pointer) r followed).followed =
        ⟨pointer, r, (watch (followWatched d depth pointer) r followed).resolver⟩ :: inner := by
  intro depth pointer r followed
  by_cases hl : d.Leads pointer
  · obtain ⟨name, target, hname, htarget⟩ := hl
    cases hs : r.resolved.lookup name with
    | some s =>
      rw [watch_follow_of_resolved hname htarget hs]
      exact ⟨followed, List.suffix_refl _, rfl⟩
    | none =>
      by_cases hv : name ∈ r.visiting
      · rw [watch_follow_of_visiting hname htarget hs hv]
        exact ⟨followed, List.suffix_refl _, rfl⟩
      · cases depth with
        | zero =>
          rw [watch_follow_of_exhausted hname htarget hs hv]
          exact ⟨followed, List.suffix_refl _, rfl⟩
        | succ depth =>
          have hdeeper : ∀ p, growing.Rel (followWatched d depth p) (followWatched d depth p) :=
            fun p r followed => by
              obtain ⟨inner, hgrows, h⟩ := followed_follow d depth p r followed
              rw [h]
              exact hgrows.trans (List.suffix_cons _ _)
          have hinner := target.resolveWith_related growing (fun p _ => hdeeper p) (r.enter name) followed
          rw [watch_follow_of_new hname htarget hs hv]
          cases h : watch (target.resolveWith (followWatched d depth)) (r.enter name) followed with
          | mk answer r' inner =>
            rw [h] at hinner
            cases answer <;> exact ⟨inner, hinner, rfl⟩
  · rw [watch_follow_of_not_leads hl]
    exact ⟨followed, List.suffix_refl _, rfl⟩

/-! ## The invariant -/

/-- What holds of a resolver whenever it begins or ends following a reference. The names that are being
followed are different names of the table, so there are at most as many as it has; none of them is
remembered; and every reference in a remembered definition leads to a remembered one. -/
structure Coherent (d : Definitions) (r : Resolver) : Prop where
  nodup : r.visiting.Nodup
  defined : ∀ name ∈ r.visiting, d.contains name = true
  within : r.visiting.length ≤ d.size
  apart : ∀ name ∈ r.visiting, name ∉ r.remembered
  closed : ∀ name ∈ r.remembered, ∃ target, d.get? name = some target ∧
    ∀ pointer, target.Contains (.reference pointer) →
      ∃ other ∈ r.remembered, definitionName? pointer = some other ∧ d.contains other = true

/-- Following a reference leaves the names that are being followed as they were, and every remembered
shape. -/
structure Following.Kept (f : Following) : Prop where
  visiting : f.after.visiting = f.before.visiting
  resolved : ∀ name s, f.before.resolved.lookup name = some s → f.after.resolved.lookup name = some s

structure Following.Orderly (d : Definitions) (f : Following) : Prop where
  before : f.before.Coherent d
  after : f.after.Coherent d
  kept : f.Kept

/-- A remembered name has one shape, that of its definition. -/
theorem Sound.lookup_of_mem (h : Sound d r) {name : String} {s : Shape} (hs : (name, s) ∈ r.resolved) :
    r.resolved.lookup name = some s := by
  cases hlookup : r.resolved.lookup name with
  | none => exact absurd (List.mem_map.2 ⟨_, hs, rfl⟩) (lookup_resolved_eq_none.1 hlookup)
  | some t =>
    obtain ⟨target, htarget, hshape⟩ := h.shapes name s hs
    obtain ⟨target', htarget', hshape'⟩ := h.shapes name t (mem_of_lookup_eq_some hlookup)
    obtain rfl : target = target' := Option.some.inj (htarget.symm.trans htarget')
    have hst : Except.ok s = .ok t := (hshape [] (by simp)).symm.trans (hshape' [] (by simp))
    rw [Except.ok.inj hst]

/-- Every reference in a remembered definition leads to a remembered one: were its name not remembered,
the definition would have a shape while that name is open, and the reference would close a cycle. -/
theorem Sound.refers_remembered (h : Sound d r) {name pointer : String} {s : Shape} {target : Node}
    (hs : (name, s) ∈ r.resolved) (htarget : d.get? name = some target)
    (hp : target.Contains (.reference pointer)) :
    ∃ other ∈ r.remembered, definitionName? pointer = some other ∧ d.contains other = true := by
  obtain ⟨target', htarget', hshape⟩ := h.shapes name s hs
  obtain rfl : target = target' := Option.some.inj (htarget.symm.trans htarget')
  obtain ⟨t, ht⟩ := Node.exists_resolveWith_of_contains (hshape [] (by simp)) hp
  have hleads : d.Leads pointer := by
    by_contra hl
    cases ht.symm.trans (Definitions.expandPointer_of_not_leads hl)
  obtain ⟨other, inner, hother, hinner⟩ := hleads
  refine ⟨other, ?_, hother, by rw [Definitions.contains, hinner]; rfl⟩
  by_contra hm
  have hopen : d.expand [other] target = .ok s := hshape [other] fun outer ho =>
    .inr (List.mem_singleton.1 ho ▸ hm)
  obtain ⟨u, hu⟩ := Node.exists_resolveWith_of_contains hopen hp
  have hcycle : d.expandPointer [other] pointer = _ :=
    Definitions.expandPointer_of_leads hother hinner
  rw [if_pos (List.mem_singleton_self other)] at hcycle
  cases hu.symm.trans hcycle

theorem Sound.coherent (h : Sound d r) {n : Node} (ht : d.Trail n r.visiting) : r.Coherent d where
  nodup := ht.nodup
  defined := ht.defined
  within := by
    have hnames : r.visiting ⊆ d.names := fun name hn => by
      obtain ⟨target, htarget⟩ := Option.isSome_iff_exists.1 (ht.defined name hn)
      exact Definitions.mem_names_of_get? htarget
    have hle := (List.Nodup.subperm ht.nodup hnames).length_le
    rwa [Definitions.names, List.length_map] at hle
  apart := h.apart
  closed name hn := by
    obtain ⟨⟨_, s⟩, hs, rfl⟩ := List.mem_map.1 hn
    obtain ⟨target, htarget, -⟩ := h.shapes _ s hs
    exact ⟨target, htarget, fun pointer => h.refers_remembered hs htarget⟩

/-! ## What is followed -/

/-- A watched computation does what the computation itself does, from a sound resolver to a sound one
that follows the same names, and all that it follows on the way is orderly. -/
structure Watches (d : Definitions) (stack : List String) {α : Type} (watched : Watched α)
    (result : Except ResolveError α × Resolver) (followed : List Following) : Prop where
  same : (watched.answer, watched.resolver) = result
  sound : Sound d watched.resolver
  visiting : watched.resolver.visiting = stack
  orderly : (∀ f ∈ followed, f.Orderly d) → ∀ f ∈ watched.followed, f.Orderly d

/-- Watching from every sound resolver that follows the names of the stack. -/
def watching (d : Definitions) (stack : List String) : MonadRelation WatchedM ResolveM where
  Rel x y := ∀ r followed, Sound d r → r.visiting = stack →
    Watches d stack (watch x r followed) (outcome y r) followed
  pure _ _ _ hr hv := ⟨rfl, hr, hv, id⟩
  bind {_ _ x y f g} hx hf r followed hr hv := by
    obtain ⟨hsame, hsound, hvisiting, horderly⟩ := hx r followed hr hv
    rw [watch_bind, outcome_bind, ← hsame]
    cases h : watch x r followed with
    | mk answer r₁ followed₁ =>
      rw [h] at hsound hvisiting horderly
      cases answer with
      | error e => exact ⟨rfl, hsound, hvisiting, horderly⟩
      | ok a =>
        obtain ⟨hsame₂, hsound₂, hvisiting₂, horderly₂⟩ := hf a r₁ followed₁ hsound hvisiting
        exact ⟨hsame₂, hsound₂, hvisiting₂, horderly₂ ∘ horderly⟩

section Step

variable {n : Node} {stack : List String} {pointer name : String} {followed : List Following}

/-- Following one reference is orderly if all that is followed on the way is. -/
theorem Agreement.watches {inner : List Following} {result : Except ResolveError Shape × Resolver}
    {plain : PlainM Shape} (h : Agreement d stack r result plain) (ht : d.Trail n stack)
    (hr : Sound d r) (hv : r.visiting = stack)
    (hinner : (∀ f ∈ followed, f.Orderly d) → ∀ f ∈ inner, f.Orderly d) :
    Watches d stack ⟨result.1, result.2, ⟨pointer, r, result.2⟩ :: inner⟩ result followed where
  same := rfl
  sound := h.sound
  visiting := h.visiting
  orderly hfollowed := by
    refine List.forall_mem_cons.2 ⟨?_, hinner hfollowed⟩
    exact
      { before := hr.coherent (hv ▸ ht)
        after := h.sound.coherent (h.visiting ▸ ht)
        kept :=
          { visiting := h.visiting.trans hv.symm
            resolved := fun name s hs =>
              h.sound.lookup_of_mem (h.grows.subset (mem_of_lookup_eq_some hs)) } }

/-- With enough depth, following one reference is watched: the names of the stack lead from the node to
the reference. -/
theorem watching_follow : ∀ (depth : Nat) (stack : List String) (pointer : String), d.Trail n stack →
    d.Reaches n (.reference pointer) → d.unopened stack ≤ depth →
    (watching d stack).Rel (followWatched d depth pointer) (follow d depth pointer) := by
  intro depth stack pointer ht hp hdepth r followed hr hv
  have hagree := follow_agrees depth stack pointer hdepth r hr hv
  by_cases hl : d.Leads pointer
  · obtain ⟨name, target, hname, htarget⟩ := hl
    cases hs : r.resolved.lookup name with
    | some s =>
      rw [outcome_follow_of_resolved hname htarget hs] at hagree ⊢
      rw [watch_follow_of_resolved hname htarget hs]
      exact hagree.watches ht hr hv id
    | none =>
      by_cases hvisiting : name ∈ r.visiting
      · rw [outcome_follow_of_visiting hname htarget hs hvisiting] at hagree ⊢
        rw [watch_follow_of_visiting hname htarget hs hvisiting]
        exact hagree.watches ht hr hv id
      · have hlt := Definitions.unopened_append_lt htarget (hv ▸ hvisiting)
        cases depth with
        | zero => omega
        | succ depth =>
          have hopen := ht.enter htarget (hv ▸ hvisiting) ⟨pointer, hp, hname⟩
          have hinner := target.resolveWith_related (watching d (stack ++ [name]))
            (fun p hc => watching_follow depth (stack ++ [name]) p hopen
              (hp.trans (.of_reference hname htarget hc)) (by omega))
            (r.enter name) followed (hr.enter (lookup_resolved_eq_none.1 hs)) (by rw [← hv]; rfl)
          rw [outcome_follow_of_new hname htarget hs hvisiting, ← hinner.same] at hagree ⊢
          rw [watch_follow_of_new hname htarget hs hvisiting]
          cases h : watch (target.resolveWith (followWatched d depth)) (r.enter name) followed with
          | mk answer r₁ followed₁ =>
            rw [h] at hinner hagree
            cases answer with
            | ok s => exact hagree.watches ht hr hv hinner.orderly
            | error e => exact hagree.watches ht hr hv hinner.orderly
  · rw [outcome_follow_of_not_leads hl] at hagree ⊢
    rw [watch_follow_of_not_leads hl]
    exact hagree.watches ht hr hv id

end Step

/-! ## Resolving nodes in turn -/

/-- Resolves a node, writing down what is followed. -/
def resolveWatched (d : Definitions) (n : Node) : WatchedM Shape :=
  n.resolveWith (followWatched d d.size)

theorem watching_resolve (n : Node) : (watching d []).Rel (resolveWatched d n) (resolve d n) :=
  n.resolveWith_related (watching d []) fun pointer hp =>
    watching_follow d.size [] pointer (.nil n) (.of_contains hp) (Nat.le_of_eq (unopened_nil d))

/-- What one resolver answers to nodes in turn, each answer with what is followed on the way to it. -/
def resolveEachWatched (d : Definitions) : List Node → Resolver → List (Watched Shape)
  | [], _ => []
  | n :: ns, r =>
    let watched := watch (resolveWatched d n) r []
    watched :: resolveEachWatched d ns watched.resolver

theorem resolveEachWatched_orderly : ∀ (ns : List Node) {r : Resolver}, Sound d r → r.visiting = [] →
    (resolveEachWatched d ns r).map (fun w => (w.answer, w.resolver)) = resolveEach d ns r ∧
      ∀ w ∈ resolveEachWatched d ns r, ∀ f ∈ w.followed, f.Orderly d
  | [], _, _, _ => ⟨rfl, List.forall_mem_nil _⟩
  | n :: ns, r, hr, hv => by
    obtain ⟨hsame, hsound, hvisiting, horderly⟩ := watching_resolve n r [] hr hv
    obtain ⟨hrest, horderlies⟩ := resolveEachWatched_orderly ns hsound hvisiting
    simp only [resolveEachWatched, resolveEach, List.map_cons, List.forall_mem_cons]
    rw [hrest, hsame]
    have hresolver : (outcome (resolve d n) r).2 = (watch (resolveWatched d n) r []).resolver := by
      rw [← hsame]
    exact ⟨by rw [hresolver], horderly (List.forall_mem_nil _), horderlies⟩

/-- Whatever nodes a resolver answers in turn, and whether or not it finds shapes for them, every
reference that it follows on the way, at any depth, is begun and ended by a resolver that is coherent,
and changes neither the names that are being followed nor a remembered shape. The watched resolver
answers as the resolver does, and no reference that is followed is left out. -/
theorem orderly_of_resolveEach (d : Definitions) (ns : List Node) :
    (∀ w ∈ resolveEachWatched d ns .empty, ∀ f ∈ w.followed,
        f.before.Coherent d ∧ f.after.Coherent d ∧ f.Kept) ∧
      (resolveEachWatched d ns .empty).map (fun w => (w.answer, w.resolver)) =
        resolveEach d ns .empty ∧
      ∀ (depth : Nat) (pointer : String) (r : Resolver) (followed : List Following),
        ∃ inner, followed <:+ inner ∧
          (watch (followWatched d depth pointer) r followed).followed =
            ⟨pointer, r, (watch (followWatched d depth pointer) r followed).resolver⟩ :: inner := by
  obtain ⟨hsame, horderly⟩ := resolveEachWatched_orderly ns (Sound.empty d) rfl
  refine ⟨fun w hw f hf => ?_, hsame, followed_follow d⟩
  obtain ⟨hbefore, hafter, hkept⟩ := horderly w hw f hf
  exact ⟨hbefore, hafter, hkept⟩

/-- A definition that refers to another: the reference inside ends first. Asked again, the resolver
follows the first one only. -/
example :
    let d : Definitions := ⟨[("A", .tuple [.reference "#/definitions/B"]), ("B", .unknown)]⟩
    let node : Node := .reference "#/definitions/A"
    (resolveEachWatched d [node, node] .empty).map (fun w => w.followed.map (·.pointer)) =
      [["#/definitions/A", "#/definitions/B"], ["#/definitions/A"]] := by cbv

end Resolver

end ContractInterface
