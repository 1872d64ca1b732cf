/-
Inlining: a reference gives way to the definition that it names, at any places of a node and of the
definitions that come in (`Definitions.Inlines`). What a node with a shape is inlined to has the same
shape, wherever the references stood; and it can be inlined until no reference is left, in one way
only (`resolve_of_inlines`). This rests on the open names not being seen by a node with a shape: with
fewer of them open it has the same one (`Definitions.expand_of_subset`).
-/
import Mathlib
import ContractInterface.Proofs.Shape.Memo

namespace ContractInterface

namespace Node

/-! ## Other children -/

/-- The node with other nodes in the places of its children. -/
def withChildren : Node → List Node → Node
  | .intersection _, ms => .intersection ms
  | .typeList _, ms => .typeList ms
  | .tuple _, ms => .tuple ms
  | .union _, ms => .union ms
  | .object ps required a, ms =>
    .object ((ps.map Prod.fst).zip (ms.take ps.length)) required <|
      match a, ms.drop ps.length with
      | .typed _, m :: _ => .typed m
      | a, _ => a
  | .list (some _) c, m :: _ => .list (some m) c
  | n, _ => n

/-- The children of an object are the nodes of its properties and then that of its policy. -/
theorem withChildren_object {R : Node → Node → Prop} {ps : List (String × Node)}
    {a : Additional Node} {ms : List Node}
    (h : List.Forall₂ R (ps.map Prod.snd ++ a.toList) ms) (required : Option (List String)) :
    ∃ qs b, (object ps required a).withChildren ms = .object qs required b ∧
      ms = qs.map Prod.snd ++ b.toList ∧
      List.Forall₂ (fun p q => p.1 = q.1 ∧ R p.2 q.2) ps qs ∧ Additional.Rel R a b := by
  obtain ⟨ks, ls, rfl, hks, hls⟩ := forall₂_append_left h
  have hlen : ks.length = ps.length := by simpa using hks.length_eq.symm
  have hpolicy : ∃ b : Additional Node, ls = b.toList ∧ Additional.Rel R a b ∧
      (object ps required a).withChildren (ks ++ ls) =
        .object ((ps.map Prod.fst).zip ks) required b := by
    simp only [withChildren, ← hlen, List.take_left, List.drop_left]
    cases a with
    | forbidden =>
      cases hls
      exact ⟨.forbidden, rfl, .forbidden, rfl⟩
    | untyped =>
      cases hls
      exact ⟨.untyped, rfl, .untyped, rfl⟩
    | typed n =>
      obtain ⟨m, _, hnm, hnil, rfl⟩ := List.forall₂_cons_left_iff.1 hls
      cases hnil
      exact ⟨.typed m, rfl, .typed hnm, rfl⟩
  obtain ⟨b, rfl, hab, heq⟩ := hpolicy
  refine ⟨(ps.map Prod.fst).zip ks, b, heq, ?_, ?_, hab⟩
  · rw [List.map_snd_zip (by simp [hlen])]
  · rw [List.forall₂_map_left_iff] at hks
    clear h hls heq hlen
    induction hks with
    | nil => exact .nil
    | cons hpk _ ih => exact .cons ⟨rfl, hpk⟩ ih

theorem children_withChildren {n : Node} {ms : List Node} (hlen : n.children.length = ms.length) :
    (n.withChildren ms).children = ms := by
  have h : List.Forall₂ (fun _ _ => True) n.children ms := forall₂_of_zip hlen fun _ _ => trivial
  cases n with
  | intersection | typeList | tuple | union => rfl
  | object ps required a =>
    obtain ⟨qs, b, heq, rfl, -, -⟩ := withChildren_object h required
    rw [heq, children]
  | list items c =>
    cases items with
    | none =>
      cases h
      rfl
    | some item =>
      obtain ⟨m, _, -, hnil, rfl⟩ := List.forall₂_cons_left_iff.1 h
      cases hnil
      rfl
  | reference | constant | enumeration | primitive | unknown =>
    cases h
    rfl

theorem withChildren_children (n : Node) : n.withChildren n.children = n := by
  cases n with
  | object ps required a =>
    have hchildren : List.Forall₂ Eq (ps.map Prod.snd ++ a.toList) (ps.map Prod.snd ++ a.toList) :=
      List.forall₂_eq_eq_eq ▸ rfl
    obtain ⟨qs, b, heq, -, hqs, hab⟩ := withChildren_object hchildren required
    obtain rfl : ps = qs := List.forall₂_eq_eq_eq ▸ hqs.imp fun _ _ hpq => Prod.ext hpq.1 hpq.2
    cases hab with
    | forbidden | untyped => exact heq
    | typed h => exact h ▸ heq
  | list items c => cases items <;> rfl
  | reference | constant | enumeration | primitive | unknown | intersection | typeList | tuple
  | union => rfl

theorem withChildren_eq_reference_iff {n : Node} {ms : List Node} {pointer : String} :
    n.withChildren ms = .reference pointer ↔ n = .reference pointer := by
  cases n with
  | list items c => cases items <;> cases ms <;> simp [withChildren]
  | reference | constant | enumeration | primitive | unknown | intersection | typeList | tuple | union
  | object => simp [withChildren]

section Outcome

variable {ε : Type} {f : String → Except ε Shape}

/-- A node keeps its shape when its children give way to others that have theirs. -/
theorem resolveWith_withChildren {n : Node} {ms : List Node} {s : Shape}
    (h : n.resolveWith f = .ok s)
    (hms : List.Forall₂ (fun k m => ∀ t, k.resolveWith f = .ok t → m.resolveWith f = .ok t)
      n.children ms) :
    (n.withChildren ms).resolveWith f = .ok s := by
  have hall : ∀ {ns : List Node} {ss : List Shape}, resolveAll f ns = .ok ss →
      List.Forall₂ (fun k m => ∀ t, k.resolveWith f = .ok t → m.resolveWith f = .ok t) ns ms →
      resolveAll f ms = .ok ss := fun hss hms =>
    resolveAll_eq_ok.2 (forall₂_of_forall₂ (fun _ _ t hkm => hkm t) hms (resolveAll_eq_ok.1 hss))
  cases n with
  | intersection ns | typeList ns | tuple ns | union ns =>
    obtain ⟨ss, hss, h⟩ := bind_eq_ok.1 h
    exact bind_eq_ok.2 ⟨ss, hall hss hms, h⟩
  | object ps required a =>
    obtain ⟨ss, hss, h⟩ := bind_eq_ok.1 h
    obtain ⟨t, ht, h⟩ := bind_eq_ok.1 h
    obtain ⟨qs, b, heq, -, hqs, hab⟩ := withChildren_object hms required
    rw [heq]
    refine bind_eq_ok.2 ⟨ss, resolveProperties_eq_ok.2 ?_, bind_eq_ok.2 ⟨t, ?_, h⟩⟩
    · refine forall₂_of_forall₂ ?_ hqs (resolveProperties_eq_ok.1 hss)
      rintro ⟨name, k⟩ ⟨_, m⟩ q ⟨rfl, hkm⟩ hq
      exact ⟨hq.name, hq.required, hkm q.shape hq.shape⟩
    · rw [resolveAdditional_eq_ok] at ht ⊢
      cases hab with
      | forbidden | untyped => exact ht
      | typed hkm =>
        cases ht with
        | typed ht => exact .typed (hkm _ ht)
  | list items c =>
    cases items with
    | none => exact h
    | some item =>
      obtain ⟨m, _, hkm, hnil, rfl⟩ := List.forall₂_cons_left_iff.1 hms
      cases hnil
      obtain ⟨t, ht, h⟩ := bind_eq_ok.1 h
      exact bind_eq_ok.2 ⟨t, hkm t ht, h⟩
  | reference | constant | enumeration | primitive | unknown => exact h

end Outcome

/-! ## Nodes without references -/

/-- No reference stands in the node. -/
def Closed (n : Node) : Prop := ∀ pointer, ¬ n.Contains (.reference pointer)

theorem closed_iff {n : Node} :
    n.Closed ↔ (∀ pointer, n ≠ .reference pointer) ∧ ∀ m ∈ n.children, m.Closed := by
  constructor
  · intro h
    refine ⟨fun pointer hn => h pointer (hn ▸ .refl _), fun m hm pointer hp => ?_⟩
    exact h pointer (.of_child hm hp)
  · rintro ⟨hn, hc⟩ pointer hp
    rcases contains_iff.1 hp with hp | ⟨m, hm, hp⟩
    · exact hn pointer hp
    · exact hc m hm pointer hp

theorem closed_of_withChildren {n : Node} {ms : List Node} (hms : n.children.length = ms.length)
    (h : (n.withChildren ms).Closed) : ∀ m ∈ ms, m.Closed := by
  have hchildren := (closed_iff.1 h).2
  rwa [children_withChildren hms] at hchildren

theorem not_closed_reference (pointer : String) : ¬ (reference pointer).Closed :=
  fun h => h pointer (.refl _)

/-- Equality of computations. -/
def equality (m : Type → Type) [Monad m] : MonadRelation m m where
  Rel x y := x = y
  pure _ := rfl
  bind := by
    rintro _ _ x _ f g rfl hfg
    rw [funext hfg]

/-- Without references, nothing is followed. -/
theorem Closed.resolveWith_eq {m : Type → Type} [Monad m] {n : Node} (h : n.Closed)
    (f g : String → m Shape) : n.resolveWith f = n.resolveWith g :=
  n.resolveWith_related (equality m) fun pointer hp => absurd hp (h pointer)

end Node

namespace Definitions

variable {d : Definitions}

/-! ## Fewer open names -/

/-- Computations that find no more than others do. -/
def finds : MonadRelation (Except ResolveError) (Except ResolveError) where
  Rel x y := ∀ a, x = .ok a → y = .ok a
  pure _ _ h := h
  bind hx hf b hb := by
    obtain ⟨a, ha, hb⟩ := bind_eq_ok.1 hb
    exact bind_eq_ok.2 ⟨a, hx a ha, hf a b hb⟩

theorem expandPointer_of_subset (stack inner : List String) (hsub : inner ⊆ stack)
    (pointer : String) (s : Shape) (h : d.expandPointer stack pointer = .ok s) :
    d.expandPointer inner pointer = .ok s := by
  obtain ⟨name, target, hname, htarget⟩ := Expands.leads ⟨s, h⟩
  rw [expandPointer_of_leads hname htarget] at h ⊢
  split at h
  · cases h
  · rename_i hs
    have hdecreases := unopened_append_lt htarget hs
    -- what is not open in the larger stack is not open in the smaller one, all the way down
    rw [if_neg fun hn => hs (hsub hn)]
    refine target.resolveWith_related finds (fun p _ => ?_) s h
    refine expandPointer_of_subset (stack ++ [name]) (inner ++ [name]) ?_ p
    exact fun outer ho => List.mem_append.2 ((List.mem_append.1 ho).imp_left (@hsub outer))
termination_by d.unopened stack

/-- A node with a shape has it with fewer names open. -/
theorem expand_of_subset {stack inner : List String} (hsub : inner ⊆ stack) {n : Node} {s : Shape}
    (h : d.expand stack n = .ok s) : d.expand inner n = .ok s :=
  n.resolveWith_related finds (fun p _ => expandPointer_of_subset stack inner hsub p) s h

/-! ## Inlining -/

/-- The node `m` is `n` with some references, at any places, replaced by the definitions that they
name, in which references may have been replaced in turn. -/
inductive Inlines (d : Definitions) : Node → Node → Prop
  | follow {pointer name : String} {target m : Node} : definitionName? pointer = some name →
      d.get? name = some target → Inlines d target m → Inlines d (.reference pointer) m
  | within {n : Node} {ms : List Node} : n.children.length = ms.length →
      (∀ p ∈ n.children.zip ms, Inlines d p.1 p.2) → Inlines d n (n.withChildren ms)

theorem Inlines.of_children {n : Node} {ms : List Node} (h : List.Forall₂ d.Inlines n.children ms) :
    d.Inlines n (n.withChildren ms) :=
  .within h.length_eq fun _ hp => List.forall₂_zip h hp

/-- No reference need give way. -/
theorem Inlines.refl (n : Node) : d.Inlines n n := by
  induction n using Node.childInduction with
  | step n ih =>
    have h := of_children (List.forall₂_same.2 ih)
    rwa [n.withChildren_children] at h

/-- Inlining keeps the shape. -/
theorem Inlines.expand {n m : Node} {s : Shape} (h : d.Inlines n m) (hs : d.expand [] n = .ok s) :
    d.expand [] m = .ok s := by
  induction h generalizing s with
  | @follow pointer name target m hname htarget _ ih =>
    have heq : d.expand [] (.reference pointer) = _ := expandPointer_of_leads hname htarget
    rw [heq, if_neg List.not_mem_nil] at hs
    -- the definition has its shape while its own name is open, so it has it with no name open
    exact ih (expand_of_subset (List.nil_subset _) hs)
  | within hlen _ ih =>
    exact Node.resolveWith_withChildren hs (forall₂_of_zip hlen fun p hp _ => ih p hp)

/-- A node with a shape can be inlined until no reference is left. -/
theorem exists_inlines_closed (stack : List String) {n : Node} (h : d.Expands stack n) :
    ∃ m, d.Inlines n m ∧ m.Closed := by
  induction n using Node.childInduction with
  | step n ih =>
    by_cases hn : ∃ pointer, n = .reference pointer
    · obtain ⟨pointer, rfl⟩ := hn
      obtain ⟨name, target, hname, htarget⟩ := h.leads
      obtain ⟨hs, h⟩ := (expands_reference_iff hname htarget).1 h
      -- the definition is no child of the reference, but it is entered with one name more open
      have hdecreases := unopened_append_lt htarget hs
      obtain ⟨m, hm, hclosed⟩ := exists_inlines_closed (stack ++ [name]) h
      exact ⟨m, .follow hname htarget hm, hclosed⟩
    · obtain ⟨ms, hms⟩ := exists_forall₂ fun k hk => ih k hk (h.of_contains (.of_child hk (.refl _)))
      refine ⟨n.withChildren ms, .of_children (hms.imp fun _ _ h => h.1), Node.closed_iff.2 ⟨?_, ?_⟩⟩
      · exact fun pointer heq => hn ⟨pointer, Node.withChildren_eq_reference_iff.1 heq⟩
      · rw [Node.children_withChildren hms.length_eq]
        intro m hm
        obtain ⟨k, -, -, hclosed⟩ := exists_mem_of_forall₂ hms.flip m hm
        exact hclosed
termination_by d.unopened stack

/-- What is left in the end is the same, whichever references gave way first. -/
theorem Inlines.unique {n m k : Node} (hm : d.Inlines n m) (hk : d.Inlines n k) (hm' : m.Closed)
    (hk' : k.Closed) : m = k := by
  induction hm generalizing k with
  | follow hname htarget _ ih =>
    cases hk with
    | follow hname' htarget' hk =>
      obtain rfl := Option.some.inj (hname.symm.trans hname')
      obtain rfl := Option.some.inj (htarget.symm.trans htarget')
      exact ih hk hm' hk'
    | within => exact absurd hk' (Node.not_closed_reference _)
  | @within n ms hlen hall ih =>
    cases hk with
    | follow => exact absurd hm' (Node.not_closed_reference _)
    | @within _ ks hlen' hall' =>
      have hms := Node.closed_of_withChildren hlen hm'
      have hks := Node.closed_of_withChildren hlen' hk'
      refine congrArg _ (List.ext_getElem (hlen.symm.trans hlen') fun i hi hi' => ?_)
      exact ih _ (getElem_mem_zip (hlen ▸ hi) hi) (hall' _ (getElem_mem_zip (hlen ▸ hi) hi'))
        (hms _ (List.getElem_mem hi)) (hks _ (List.getElem_mem hi'))

end Definitions

/-- Whatever references of a node with a shape give way to the definitions that they name, in the node
and in the definitions that come in, it keeps the shape. There is one way to let all of them give
way, and what it leads to needs no definitions to have the shape. -/
theorem resolve_of_inlines {d : Definitions} {n : Node} {s : Shape} (h : resolve d n = .ok s) :
    (∀ m, d.Inlines n m → resolve d m = .ok s) ∧
      ∃ m, (d.Inlines n m ∧ m.Closed) ∧ (∀ k, d.Inlines n k ∧ k.Closed → k = m) ∧
        resolve .empty m = .ok s := by
  rw [Resolver.resolve_eq_expand] at h
  have hkeep : ∀ m, d.Inlines n m → d.expand [] m = .ok s := fun m hm => hm.expand h
  refine ⟨fun m hm => (Resolver.resolve_eq_expand d m).trans (hkeep m hm), ?_⟩
  obtain ⟨m, hm, hclosed⟩ := Definitions.exists_inlines_closed [] ⟨s, h⟩
  refine ⟨m, ⟨hm, hclosed⟩, fun k hk => hk.1.unique hm hk.2 hclosed, ?_⟩
  rw [Resolver.resolve_eq_expand]
  exact (hclosed.resolveWith_eq _ _).trans (hkeep m hm)

/-- A member of a conjunction gives way to the object that it names, in which a reference is kept: the
properties of both members are merged as before. -/
theorem resolve_of_inlines_entry :
    let amount : Node := .typeList [.primitive .integer .empty, .primitive .number .empty]
    let entry : Node := .object [("amount", .reference "#/definitions/Amount")] none .untyped
    let named : Node := .object [("name", .primitive .string .empty)] none .forbidden
    let d : Definitions := ⟨[("Amount", amount), ("Entry", entry)]⟩
    let n : Node := .intersection [.reference "#/definitions/Entry", named]
    let m : Node := .intersection [entry, named]
    let s : Shape :=
      .object [⟨"amount", true, .number .empty⟩, ⟨"name", true, .string .empty⟩] .forbidden
    resolve d n = .ok s ∧ d.Inlines n m ∧ resolve d m = .ok s ∧
      ∃ k, (d.Inlines n k ∧ k.Closed) ∧ resolve .empty k = .ok s := by
  intro amount entry named d n m s
  have hresolve : resolve d n = .ok s := by
    simp only [amount, entry, named, d, n, s]
    cbv
  have hname : definitionName? "#/definitions/Entry" = some "Entry" := by cbv
  have hentry : d.Inlines (.reference "#/definitions/Entry") entry := .follow hname rfl (.refl entry)
  have hm : d.Inlines n m := .of_children (n := n) (.cons hentry (.cons (.refl named) .nil))
  obtain ⟨hkeep, k, hk, -, hempty⟩ := resolve_of_inlines hresolve
  exact ⟨hresolve, hm, hkeep m hm, k, hk, hempty⟩

end ContractInterface
