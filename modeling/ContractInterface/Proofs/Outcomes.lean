/-
Computations that may fail. A success in sequence is a success of each part, and the first failure is
that of the sequence. Of two computations the second follows the first if it succeeds where that one
does, with a related result; sequencing keeps this, and so does a loop over the same elements in another
order, if any two of its steps may change places (`Follows.foldlM_of_perm`). Two computations are
parallel if they fail with one error or succeed with related results.
-/
import ContractInterface.Proofs.Lists

namespace ContractInterface

variable {ε δ α β γ σ τ : Type}

/-! ## Successes -/

theorem bind_eq_ok {x : Except ε α} {g : α → Except ε β} {b : β} :
    (x >>= g) = .ok b ↔ ∃ a, x = .ok a ∧ g a = .ok b := by
  cases x with
  | ok a => simp [bind, Except.bind]
  | error e => simp [bind, Except.bind]

theorem map_eq_ok {x : Except ε α} {g : α → β} {b : β} :
    g <$> x = .ok b ↔ ∃ a, x = .ok a ∧ g a = b := by
  cases x with
  | ok a => simp [Functor.map, Except.map]
  | error e => simp [Functor.map, Except.map]

theorem mapError_eq_ok {x : Except ε α} {f : ε → δ} {a : α} : x.mapError f = .ok a ↔ x = .ok a := by
  cases x with
  | ok b => simp [Except.mapError]
  | error e => simp [Except.mapError]

theorem mapM_eq_ok {f : α → Except ε β} : ∀ {as : List α} {bs : List β},
    as.mapM f = .ok bs ↔ List.Forall₂ (fun a b => f a = .ok b) as bs
  | [], bs => by
    rw [List.forall₂_nil_left_iff]
    exact ⟨fun h => by cases h; rfl, fun h => by rw [h]; rfl⟩
  | a :: as, bs => by
    simp only [List.mapM_cons, bind_eq_ok, List.forall₂_cons_left_iff, mapM_eq_ok]
    constructor
    · rintro ⟨b, hb, bs, hbs, ⟨⟩⟩
      exact ⟨b, bs, hb, hbs, rfl⟩
    · rintro ⟨b, bs, hb, hbs, rfl⟩
      exact ⟨b, hb, bs, hbs, rfl⟩

/-- A list succeeds if each of its places does. -/
theorem exists_mapM_iff {f : α → Except ε β} {as : List α} :
    (∃ bs, as.mapM f = .ok bs) ↔ ∀ a ∈ as, ∃ b, f a = .ok b := by
  constructor
  · rintro ⟨bs, hbs⟩ a ha
    obtain ⟨b, -, hb⟩ := exists_mem_of_forall₂ (mapM_eq_ok.1 hbs) a ha
    exact ⟨b, hb⟩
  · intro h
    obtain ⟨bs, hbs⟩ := exists_forall₂ h
    exact ⟨bs, mapM_eq_ok.2 hbs⟩

/-! ## First failures -/

/-- How a computation fails, if it does. -/
def failure? (x : Except ε α) : Option ε :=
  match x with
  | .ok _ => none
  | .error e => some e

theorem failure?_eq_some_iff {x : Except ε α} {e : ε} : failure? x = some e ↔ x = .error e := by
  cases x <;> simp [failure?]

theorem failure?_eq_none_iff {x : Except ε α} : failure? x = none ↔ ∃ a, x = .ok a := by
  cases x <;> simp [failure?]

/-- What is made of a result does not change the failure. -/
theorem failure?_bind_pure (x : Except ε α) (f : α → β) :
    failure? (x >>= fun a => pure (f a)) = failure? x := by
  cases x <;> rfl

theorem failure?_mapM_append (f : α → Except ε β) (as bs : List α) :
    failure? ((as ++ bs).mapM f) = (failure? (as.mapM f)).or (failure? (bs.mapM f)) := by
  rw [List.mapM_append]
  cases as.mapM f with
  | error e => rfl
  | ok xs => cases bs.mapM f <;> rfl

/-- A list fails as its first failing place does. -/
theorem mapM_eq_error_iff {f : α → Except ε β} {e : ε} {as : List α} :
    as.mapM f = .error e ↔ ∃ before a after, as = before ++ a :: after ∧
      (∀ b ∈ before, ∃ y, f b = .ok y) ∧ f a = .error e := by
  constructor
  · intro h
    induction as with
    | nil => cases h
    | cons a as ih =>
      rw [List.mapM_cons] at h
      cases ha : f a with
      | error e' =>
        rw [ha] at h
        cases h
        exact ⟨[], a, as, rfl, by simp, ha⟩
      | ok y =>
        rw [ha] at h
        have hrest : as.mapM f = .error e := by
          rw [← failure?_eq_some_iff] at h ⊢
          rw [← h]
          exact (failure?_bind_pure ..).symm
        obtain ⟨before, b, after, rfl, hbefore, hb⟩ := ih hrest
        refine ⟨a :: before, b, after, rfl, fun c hc => ?_, hb⟩
        rcases List.mem_cons.1 hc with rfl | hc
        · exact ⟨y, ha⟩
        · exact hbefore c hc
  · rintro ⟨before, a, after, rfl, hbefore, ha⟩
    have hpass : failure? (before.mapM f) = none := by
      induction before with
      | nil => rfl
      | cons b before ih =>
        obtain ⟨y, hy⟩ := hbefore b (List.mem_cons_self ..)
        rw [List.mapM_cons, hy]
        refine (failure?_bind_pure ..).trans (ih fun c hc => hbefore c (List.mem_cons_of_mem _ hc))
    rw [← failure?_eq_some_iff, failure?_mapM_append, hpass, List.mapM_cons, ha]
    rfl

/-! ## Following -/

/-- Where the first computation succeeds, the second one does, with a related result. -/
def Follows (R : α → β → Prop) (x : Except ε α) (y : Except δ β) : Prop :=
  ∀ a, x = .ok a → ∃ b, y = .ok b ∧ R a b

namespace Follows

variable {R : α → β → Prop} {x : Except ε α} {y : Except δ β}

theorem refl {R : α → α → Prop} (h : ∀ a, R a a) (x : Except ε α) : Follows R x x :=
  fun a ha => ⟨a, ha, h a⟩

theorem eq (x : Except ε α) : Follows Eq x x := refl (fun _ => rfl) x

theorem ok {a : α} {b : β} (h : R a b) :
    Follows R (.ok a : Except ε α) (.ok b : Except δ β) := by
  rintro _ ⟨⟩
  exact ⟨b, rfl, h⟩

theorem error (e : ε) : Follows R (.error e) y :=
  fun _ h => nomatch h

theorem bind {S : σ → τ → Prop} {f : α → Except ε σ} {g : β → Except δ τ} (h : Follows R x y)
    (hfg : ∀ a b, R a b → Follows S (f a) (g b)) : Follows S (x >>= f) (y >>= g) := by
  intro s hs
  obtain ⟨a, ha, hs⟩ := bind_eq_ok.1 hs
  obtain ⟨b, rfl, hab⟩ := h a ha
  exact hfg a b hab s hs

theorem map {S : σ → τ → Prop} {f : α → σ} {g : β → τ} (h : Follows R x y)
    (hfg : ∀ a b, R a b → S (f a) (g b)) : Follows S (f <$> x) (g <$> y) := by
  intro s hs
  obtain ⟨a, ha, rfl⟩ := map_eq_ok.1 hs
  obtain ⟨b, rfl, hab⟩ := h a ha
  exact ⟨g b, rfl, hfg a b hab⟩

theorem imp {S : α → β → Prop} (h : Follows R x y) (hRS : ∀ a b, R a b → S a b) :
    Follows S x y := by
  intro a ha
  obtain ⟨b, hb, hab⟩ := h a ha
  exact ⟨b, hb, hRS a b hab⟩

/-! ### Loops -/

theorem mapM {S : σ → τ → Prop} {f : σ → Except ε α} {g : τ → Except δ β}
    (hfg : ∀ s t, S s t → Follows R (f s) (g t)) : ∀ {ss : List σ} {ts : List τ},
    List.Forall₂ S ss ts → Follows (List.Forall₂ R) (ss.mapM f) (ts.mapM g)
  | _, _, .nil => ok .nil
  | _, _, .cons h hrest => by
    simp only [List.mapM_cons]
    refine (hfg _ _ h).bind fun a b hab => (mapM hfg hrest).bind fun as bs habs => ?_
    exact ok (.cons hab habs)

section Fold

variable {S : σ → σ → Prop} {P : α → α → Prop} {step : σ → α → Except ε σ}

theorem foldlM_of_forall₂
    (hstep : ∀ s t a b, S s t → P a b → Follows S (step s a) (step t b)) :
    ∀ {as bs : List α}, List.Forall₂ P as bs → ∀ {s t : σ}, S s t →
      Follows S (as.foldlM step s) (bs.foldlM step t)
  | _, _, .nil, _, _, hst => ok hst
  | _, _, .cons h hrest, s, t, hst => by
    simp only [List.foldlM_cons]
    exact (hstep s t _ _ hst h).bind fun s' t' hst' => foldlM_of_forall₂ hstep hrest hst'

/-- A loop over the same elements in another order, if the steps of any two that are apart may change
places. -/
theorem foldlM_of_perm {apart : α → α → Prop} (hS : Equivalence S)
    (hstep : ∀ s t a, S s t → Follows S (step s a) (step t a))
    (hswap : ∀ s a b, apart a b → Follows S (step s a >>= (step · b)) (step s b >>= (step · a)))
    (hsymm : ∀ a b, apart a b → apart b a) {as bs : List α} (h : as.Perm bs) :
    as.Pairwise apart → ∀ {s t : σ}, S s t → Follows S (as.foldlM step s) (bs.foldlM step t) := by
  induction h with
  | nil => exact fun _ _ _ hst => ok hst
  | cons a _ ih =>
    intro hapart s t hst
    simp only [List.foldlM_cons]
    exact (hstep s t a hst).bind fun s' t' hst' => ih (List.pairwise_cons.1 hapart).2 hst'
  | swap a b rest =>
    intro hapart s t hst
    simp only [List.foldlM_cons, ← bind_assoc]
    have hba : apart b a := (List.pairwise_cons.1 hapart).1 a (List.mem_cons_self ..)
    have hsame : Follows S (step s a >>= (step · b)) (step t a >>= (step · b)) :=
      (hstep s t a hst).bind fun s' t' hst' => hstep s' t' b hst'
    have hchange : Follows S (step s b >>= (step · a)) (step t a >>= (step · b)) := by
      intro s₁ h₁
      obtain ⟨s₂, h₂, h₁₂⟩ := hswap s b a hba s₁ h₁
      obtain ⟨s₃, h₃, h₂₃⟩ := hsame s₂ h₂
      exact ⟨s₃, h₃, hS.trans h₁₂ h₂₃⟩
    refine hchange.bind fun s' t' hst' => ?_
    exact foldlM_of_forall₂ (P := Eq) (fun s t a b hst hab => hab ▸ hstep s t a hst)
      (List.forall₂_eq_eq_eq ▸ rfl) hst'
  | @trans as bs cs hab _ ih₁ ih₂ =>
    -- the loop over the list in between starts where the first one does
    intro hapart s t hst s₁ h₁
    obtain ⟨s₂, h₂, h₁₂⟩ := ih₁ hapart (hS.refl s) s₁ h₁
    have hbs : bs.Pairwise apart := hapart.perm hab fun h => hsymm _ _ h
    obtain ⟨s₃, h₃, h₂₃⟩ := ih₂ hbs hst s₂ h₂
    exact ⟨s₃, h₃, hS.trans h₁₂ h₂₃⟩

end Fold

end Follows

/-! ## In parallel -/

/-- Both fail, with one error, or both succeed, with related results. -/
inductive Parallel (R : α → β → Prop) : Except ε α → Except ε β → Prop
  | error (e : ε) : Parallel R (.error e) (.error e)
  | ok {a : α} {b : β} : R a b → Parallel R (.ok a) (.ok b)

namespace Parallel

variable {R : α → β → Prop} {x : Except ε α} {y : Except ε β}

theorem bind {S : σ → τ → Prop} {f : α → Except ε σ} {g : β → Except ε τ} (h : Parallel R x y)
    (hfg : ∀ a b, R a b → Parallel S (f a) (g b)) : Parallel S (x >>= f) (y >>= g) := by
  cases h with
  | error e => exact .error e
  | ok hab => exact hfg _ _ hab

theorem imp_of_ok {S : α → β → Prop} (h : Parallel R x y)
    (hRS : ∀ a b, x = .ok a → y = .ok b → R a b → S a b) : Parallel S x y := by
  cases h with
  | error e => exact .error e
  | ok hab => exact .ok (hRS _ _ rfl rfl hab)

theorem error_iff (h : Parallel R x y) (e : ε) : x = .error e ↔ y = .error e := by
  cases h with
  | error e' => simp only [Except.error.injEq]
  | ok hab => simp

theorem exists_ok_iff (h : Parallel R x y) : (∃ a, x = .ok a) ↔ ∃ b, y = .ok b := by
  cases h with
  | error e => simp
  | @ok a b hab => exact ⟨fun _ => ⟨b, rfl⟩, fun _ => ⟨a, rfl⟩⟩

theorem rel_of_ok (h : Parallel R x y) {a : α} {b : β} (hx : x = .ok a) (hy : y = .ok b) : R a b := by
  subst hx hy
  cases h with
  | ok hab => exact hab

end Parallel

end ContractInterface
