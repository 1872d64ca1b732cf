/-
What resolving a node does, whatever follows its references. Two ways of following that are related
at every reference in a node give related outcomes for the node (`Node.resolveWith_related`), for
any relation between two monads that returning and sequencing keep: simulations between resolvers
are instances of this. Where following can only fail, a node gets a shape if and only if its children
do, and the first failure is that of a reference in it.
-/
import ContractInterface.Proofs.Outcomes
import ContractInterface.Proofs.Schema.Reach
import ContractInterface.Shape.Resolution

namespace ContractInterface

open Json

/-! ## Related monads -/

/-- A relation between the computations of two monads that returning and sequencing keep. -/
structure MonadRelation (m₁ m₂ : Type → Type) [Monad m₁] [Monad m₂] where
  Rel : {α : Type} → m₁ α → m₂ α → Prop
  pure : ∀ {α : Type} (a : α), Rel (pure a) (pure a)
  bind : ∀ {α β : Type} {x₁ : m₁ α} {x₂ : m₂ α} {f₁ : α → m₁ β} {f₂ : α → m₂ β},
    Rel x₁ x₂ → (∀ a, Rel (f₁ a) (f₂ a)) → Rel (x₁ >>= f₁) (x₂ >>= f₂)

namespace MonadRelation

variable {m₁ m₂ : Type → Type} [Monad m₁] [Monad m₂] (R : MonadRelation m₁ m₂)

theorem mapM {α β : Type} {f₁ : α → m₁ β} {f₂ : α → m₂ β} (h : ∀ a, R.Rel (f₁ a) (f₂ a))
    (as : List α) : R.Rel (as.mapM f₁) (as.mapM f₂) :=
  have loop : ∀ (as : List α) (bs : List β),
      R.Rel (List.mapM.loop f₁ as bs) (List.mapM.loop f₂ as bs) := fun as => by
    induction as with
    | nil => exact fun bs => R.pure _
    | cons a as ih => exact fun bs => R.bind (h a) fun b => ih (b :: bs)
  loop as []

end MonadRelation

namespace Node

section Related

variable {m₁ m₂ : Type → Type} [Monad m₁] [Monad m₂] (R : MonadRelation m₁ m₂)
  {f₁ : String → m₁ Shape} {f₂ : String → m₂ Shape}

theorem resolveAll_related : ∀ (ns : List Node),
    (∀ n ∈ ns, R.Rel (n.resolveWith f₁) (n.resolveWith f₂)) →
    R.Rel (resolveAll f₁ ns) (resolveAll f₂ ns)
  | [], _ => R.pure _
  | n :: ns, h => by
    simp only [resolveAll]
    refine R.bind (h n (List.mem_cons_self ..)) fun s => R.bind ?_ fun ss => R.pure _
    exact resolveAll_related ns fun n hn => h n (List.mem_cons_of_mem _ hn)

theorem resolveProperties_related (required : Option (List String)) :
    ∀ (ps : List (String × Node)),
    (∀ n ∈ ps.map Prod.snd, R.Rel (n.resolveWith f₁) (n.resolveWith f₂)) →
    R.Rel (resolveProperties f₁ required ps) (resolveProperties f₂ required ps)
  | [], _ => R.pure _
  | (name, n) :: ps, h => by
    simp only [resolveProperties]
    refine R.bind (h n (List.mem_cons_self ..)) fun s => R.bind ?_ fun qs => R.pure _
    exact resolveProperties_related required ps fun n hn => h n (List.mem_cons_of_mem _ hn)

theorem resolveAdditional_related : ∀ (a : Additional Node),
    (∀ n ∈ a.toList, R.Rel (n.resolveWith f₁) (n.resolveWith f₂)) →
    R.Rel (resolveAdditional f₁ a) (resolveAdditional f₂ a)
  | .forbidden, _ | .untyped, _ => R.pure _
  | .typed n, h => by
    simp only [resolveAdditional]
    exact R.bind (h n (List.mem_singleton_self n)) fun s => R.pure _

/-- Following related at every reference in a node gives related outcomes for the node. -/
theorem resolveWith_related (n : Node)
    (h : ∀ pointer, n.Contains (.reference pointer) → R.Rel (f₁ pointer) (f₂ pointer)) :
    R.Rel (n.resolveWith f₁) (n.resolveWith f₂) := by
  induction n using childInduction with
  | step n ih =>
    have hc : ∀ m ∈ n.children, R.Rel (m.resolveWith f₁) (m.resolveWith f₂) := fun m hm =>
      ih m hm fun pointer hp => h pointer (.of_child hm hp)
    cases n with
    | reference pointer => exact h pointer (.refl _)
    | constant | enumeration | primitive | unknown => exact R.pure _
    | intersection ns | typeList ns | tuple ns | union ns =>
      exact R.bind (resolveAll_related R ns hc) fun ss => R.pure _
    | object ps required a =>
      refine R.bind (resolveProperties_related R required ps fun n hn => hc n ?_) fun qs =>
        R.bind (resolveAdditional_related R a fun n hn => hc n ?_) fun b => R.pure _
      · exact List.mem_append_left _ hn
      · exact List.mem_append_right _ hn
    | list items c =>
      cases items with
      | none => exact R.pure _
      | some item => exact R.bind (hc item (List.mem_singleton_self item)) fun s => R.pure _

end Related

/-- Only what follows the references in a node matters to it. -/
theorem resolveWith_congr {m : Type → Type} [Monad m] {f g : String → m Shape} (n : Node)
    (h : ∀ pointer, n.Contains (.reference pointer) → f pointer = g pointer) :
    n.resolveWith f = n.resolveWith g := by
  let equal : MonadRelation m m :=
    { Rel := fun x y => x = y
      pure := fun _ => rfl
      bind := fun hx hf => by rw [hx, funext hf] }
  exact n.resolveWith_related equal h

/-! ## Outcomes of following that can only fail -/

section Outcome

variable {ε : Type} {f : String → Except ε Shape}

theorem resolveAll_eq_mapM (ns : List Node) : resolveAll f ns = ns.mapM (resolveWith f) := by
  induction ns with
  | nil => rfl
  | cons n ns ih => rw [List.mapM_cons, ← ih, resolveAll]

theorem resolveAll_eq_ok {ns : List Node} {ss : List Shape} :
    resolveAll f ns = .ok ss ↔ List.Forall₂ (fun n s => n.resolveWith f = .ok s) ns ss := by
  rw [resolveAll_eq_mapM, mapM_eq_ok]

/-- The property that a declaration resolves to. -/
structure ResolvesProperty (f : String → Except ε Shape) (required : Option (List String))
    (p : String × Node) (q : Property Shape) : Prop where
  name : q.name = p.1
  required : q.required = required.all (·.contains p.1)
  shape : p.2.resolveWith f = .ok q.shape

theorem resolveProperties_eq_ok {required : Option (List String)} :
    ∀ {ps : List (String × Node)} {qs : List (Property Shape)},
    resolveProperties f required ps = .ok qs ↔ List.Forall₂ (ResolvesProperty f required) ps qs
  | [], qs => by
    rw [List.forall₂_nil_left_iff]
    exact ⟨fun h => by cases h; rfl, fun h => by rw [h]; rfl⟩
  | (name, n) :: ps, qs => by
    simp only [resolveProperties, bind_eq_ok, List.forall₂_cons_left_iff, resolveProperties_eq_ok]
    constructor
    · rintro ⟨s, hs, qs, hqs, h⟩
      cases h
      exact ⟨_, qs, ⟨rfl, rfl, hs⟩, hqs, rfl⟩
    · rintro ⟨⟨_, _, s⟩, qs, ⟨hname, hrequired, hs⟩, hqs, rfl⟩
      simp only at hname hrequired hs
      subst hname hrequired
      exact ⟨s, hs, qs, hqs, rfl⟩

theorem map_name_of_resolves {required : Option (List String)} {ps : List (String × Node)}
    {qs : List (Property Shape)} (h : List.Forall₂ (ResolvesProperty f required) ps qs) :
    qs.map (·.name) = ps.map Prod.fst := by
  rw [← List.forall₂_eq_eq_eq, List.forall₂_map_left_iff, List.forall₂_map_right_iff]
  exact h.flip.imp fun q p hpq => hpq.name

/-- The policy that a policy resolves to. -/
theorem resolveAdditional_eq_ok {a : Additional Node} {b : Additional Shape} :
    resolveAdditional f a = .ok b ↔ Additional.Rel (fun n s => n.resolveWith f = .ok s) a b := by
  cases a with
  | forbidden | untyped =>
    constructor
    · rintro ⟨⟩
      constructor
    · rintro ⟨⟩
      rfl
  | typed n =>
    simp only [resolveAdditional, bind_eq_ok]
    constructor
    · rintro ⟨s, hs, ⟨⟩⟩
      exact .typed hs
    · intro h
      cases h with
      | typed hs => exact ⟨_, hs, rfl⟩

/-- The children of a node that has a shape have shapes. -/
theorem exists_resolveWith_of_child {n m : Node} {s : Shape} (h : n.resolveWith f = .ok s)
    (hm : m ∈ n.children) : ∃ t, m.resolveWith f = .ok t := by
  have hall : ∀ {ns : List Node} {ss : List Shape}, resolveAll f ns = .ok ss → m ∈ ns →
      ∃ t, m.resolveWith f = .ok t := fun h hm => by
    obtain ⟨t, -, ht⟩ := exists_mem_of_forall₂ (resolveAll_eq_ok.1 h) m hm
    exact ⟨t, ht⟩
  cases n with
  | intersection ns | typeList ns | tuple ns | union ns =>
    obtain ⟨ss, hss, -⟩ := bind_eq_ok.1 h
    exact hall hss hm
  | object ps required a =>
    obtain ⟨qs, hqs, h⟩ := bind_eq_ok.1 h
    obtain ⟨b, hb, -⟩ := bind_eq_ok.1 h
    rcases List.mem_append.1 hm with hm | hm
    · obtain ⟨p, hp, rfl⟩ := List.mem_map.1 hm
      obtain ⟨q, -, hq⟩ := exists_mem_of_forall₂ (resolveProperties_eq_ok.1 hqs) p hp
      exact ⟨_, hq.shape⟩
    · cases resolveAdditional_eq_ok.1 hb with
      | forbidden | untyped => cases hm
      | typed ht =>
        obtain rfl := List.mem_singleton.1 hm
        exact ⟨_, ht⟩
  | list items c =>
    cases items with
    | none => cases hm
    | some item =>
      obtain rfl := List.mem_singleton.1 hm
      obtain ⟨t, ht, -⟩ := bind_eq_ok.1 h
      exact ⟨t, ht⟩
  | reference | constant | enumeration | primitive | unknown => cases hm

theorem exists_resolveWith_of_contains {n m : Node} {s : Shape} (h : n.resolveWith f = .ok s)
    (hm : n.Contains m) : ∃ t, m.resolveWith f = .ok t := by
  induction hm with
  | refl => exact ⟨s, h⟩
  | tail _ hc ih =>
    obtain ⟨t, ht⟩ := ih
    exact exists_resolveWith_of_child ht hc

/-- Computations that fail only as following a pointer in `P` does. -/
def failsOnly (f : String → Except ε Shape) (P : String → Prop) :
    MonadRelation (Except ε) (Except ε) where
  Rel x _ := ∀ e, x = .error e → ∃ pointer, P pointer ∧ f pointer = .error e
  pure _ _ h := nomatch h
  bind {_ _ x _ _ _} hx hf e h := by
    cases x with
    | ok a => exact hf a e h
    | error e' => exact hx e (by cases h; rfl)

/-- A node fails as one of the references in it does. -/
theorem exists_follow_of_resolveWith_error {n : Node} {e : ε} (h : n.resolveWith f = .error e) :
    ∃ pointer, n.Contains (.reference pointer) ∧ f pointer = .error e := by
  have hrel : (failsOnly f fun pointer => n.Contains (.reference pointer)).Rel
      (n.resolveWith f) (n.resolveWith f) :=
    resolveWith_related _ n fun pointer hp e he => ⟨pointer, hp, he⟩
  exact hrel e h

end Outcome

end Node

end ContractInterface
