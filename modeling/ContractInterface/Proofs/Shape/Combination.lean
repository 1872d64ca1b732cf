/-
Combining related shapes. Where two lists of shapes are related place by place, so are the shapes that
alternatives, type lists and conjunctions of them make, if the relation is kept by unions and
intersections. A type list compares its alternatives, so the comparisons must come out the same for both
(`Shape.rel_ofTypeList`); a conjunction merges the objects in it, so merging must keep the relation too
(`Shape.rel_ofConjunction`).
-/
import ContractInterface.Proofs.Lists
import ContractInterface.Proofs.Schema.Reach
import ContractInterface.Shape.Combination

namespace ContractInterface.Shape

/-! ## Alternatives -/

section Alternatives

variable {R : Shape → Shape → Prop} (hany : R .any .any)
  (hunion : ∀ {ss ts : List Shape}, List.Forall₂ R ss ts → R (.union ss) (.union ts))

include hany hunion

theorem rel_ofAlternatives {ss ts : List Shape} (h : List.Forall₂ R ss ts) :
    R (ofAlternatives ss) (ofAlternatives ts) := by
  cases h with
  | nil => exact hany
  | cons hst h => exact hunion (.cons hst h)

end Alternatives

/-! ## Type lists -/

/-- Lists whose shapes are equal in the same places lose the same places when repetitions are left
out. -/
theorem distinct_map {α : Type} {f g : α → Shape} {xs : List α}
    (h : xs.Pairwise fun x y => (f x).same (f y) = (g x).same (g y)) :
    ∃ ys, ys ⊆ xs ∧ distinct (xs.map f) = ys.map f ∧ distinct (xs.map g) = ys.map g := by
  -- both loops keep the shapes of the same places
  have hloop : ∀ (xs kept : List α), (kept ++ xs).Pairwise (fun x y =>
      (f x).same (f y) = (g x).same (g y)) → ∃ ys, ys ⊆ kept ++ xs ∧
        (xs.map f).foldl (fun kept s => if kept.any (·.same s) then kept else kept ++ [s])
          (kept.map f) = ys.map f ∧
        (xs.map g).foldl (fun kept s => if kept.any (·.same s) then kept else kept ++ [s])
          (kept.map g) = ys.map g := by
    intro xs
    induction xs with
    | nil => exact fun kept _ => ⟨kept, by simp, rfl, rfl⟩
    | cons x xs ih =>
      intro kept hpair
      have hsame : (kept.map f).any (·.same (f x)) = (kept.map g).any (·.same (g x)) := by
        have hnew : ∀ k ∈ kept, (f k).same (f x) = (g k).same (g x) := fun k hk =>
          (List.pairwise_append.1 hpair).2.2 k hk x (List.mem_cons_self ..)
        rw [Bool.eq_iff_iff, List.any_map, List.any_map, List.any_eq_true, List.any_eq_true]
        exact exists_congr fun k => and_congr_right fun hk => by
          rw [Function.comp_apply, Function.comp_apply, hnew k hk]
      simp only [List.map_cons, List.foldl_cons, hsame]
      split
      · obtain ⟨ys, hys, hf, hg⟩ := ih kept (hpair.sublist (by simp))
        exact ⟨ys, fun y hy => by have := hys hy; simp at this ⊢; tauto, hf, hg⟩
      · have hnext : (kept ++ [x] ++ xs).Pairwise fun x y => (f x).same (f y) = (g x).same (g y) := by
          simpa using hpair
        obtain ⟨ys, hys, hf, hg⟩ := ih (kept ++ [x]) hnext
        refine ⟨ys, by simpa using hys, ?_, ?_⟩
        · simpa using hf
        · simpa using hg
  obtain ⟨ys, hys, hf, hg⟩ := hloop xs [] (by simpa using h)
  exact ⟨ys, by simpa using hys, hf, hg⟩

/-- Two lists of shapes beside a list of keys: in each place, both shapes are what the key asks for. -/
inductive Abreast {κ : Type} (P : κ → Shape → Shape → Prop) :
    List κ → List Shape → List Shape → Prop
  | nil : Abreast P [] [] []
  | cons {k : κ} {s t : Shape} {ks : List κ} {ss ts : List Shape} : P k s t → Abreast P ks ss ts →
      Abreast P (k :: ks) (s :: ss) (t :: ts)

theorem Abreast.exists_rows {κ : Type} {P : κ → Shape → Shape → Prop} {ks : List κ}
    {ss ts : List Shape} (h : Abreast P ks ss ts) : ∃ rows : List (κ × Shape × Shape),
      ks = rows.map Prod.fst ∧ ss = rows.map (·.2.1) ∧ ts = rows.map (·.2.2) ∧
        ∀ row ∈ rows, P row.1 row.2.1 row.2.2 := by
  induction h with
  | nil => exact ⟨[], rfl, rfl, rfl, List.forall_mem_nil _⟩
  | @cons k s t _ _ _ hp _ ih =>
    obtain ⟨rows, rfl, rfl, rfl, hrows⟩ := ih
    exact ⟨(k, s, t) :: rows, rfl, rfl, rfl, List.forall_mem_cons.2 ⟨hp, hrows⟩⟩

/-- The shapes of type lists are related, if which of the alternatives are equal is the same in both. -/
theorem rel_ofTypeList {R : Shape → Shape → Prop} (hany : R .any .any)
    (hunion : ∀ {ss ts : List Shape}, List.Forall₂ R ss ts → R (.union ss) (.union ts))
    {κ : Type} {P : κ → Shape → Shape → Prop} {keys : List κ} {ss ts : List Shape}
    (h : Abreast P keys ss ts) (hP : ∀ k s t, P k s t → R s t)
    (hsame : keys.Pairwise fun k l => ∀ s t s' t', P k s t → P l s' t' → s.same s' = t.same t') :
    R (ofTypeList ss) (ofTypeList ts) := by
  -- both lists are read off the rows, so they lose the same rows when repetitions are left out
  obtain ⟨rows, rfl, rfl, rfl, hrows⟩ := h.exists_rows
  have hpair : rows.Pairwise fun x y => x.2.1.same y.2.1 = x.2.2.same y.2.2 :=
    (List.pairwise_map.1 hsame).imp_of_mem fun hx hy hxy =>
      hxy _ _ _ _ (hrows _ hx) (hrows _ hy)
  obtain ⟨ys, hys, hss, hts⟩ := distinct_map hpair
  unfold ofTypeList
  rw [hss, hts]
  rcases ys with _ | ⟨x, _ | ⟨y, rest⟩⟩
  · exact hany
  · exact hP _ _ _ (hrows x (hys (List.mem_cons_self ..)))
  · show R (.union ((x :: y :: rest).map (·.2.1))) (.union ((x :: y :: rest).map (·.2.2)))
    refine hunion (List.forall₂_map_left_iff.2 (List.forall₂_map_right_iff.2 ?_))
    exact List.forall₂_same.2 fun z hz => hP _ _ _ (hrows z (hys hz))

/-! ## Merging -/

theorem exists_eq_object {s : Shape} (h : s.isObject = true) : ∃ ps a, s = .object ps a := by
  cases s with
  | object ps a => exact ⟨ps, a, rfl⟩
  | any | null | bool | number | string | literal | enum | tuple | list | union | intersection => cases h

/-- What is no object is passed over. -/
theorem mergeInto_of_not_object {s : Shape} (h : s.isObject = false) (x : Option Shape) :
    mergeInto x s = x := by
  cases s with
  | object => cases h
  | any | null | bool | number | string | literal | enum | tuple | list | union | intersection =>
    cases x with
    | none => rfl
    | some u => cases u <;> rfl

/-- Nothing is merged into what is no object. -/
theorem mergeInto_some_of_not_object {u : Shape} (h : u.isObject = false) (s : Shape) :
    mergeInto (some u) s = some u := by
  cases u with
  | object => cases h
  | any | null | bool | number | string | literal | enum | tuple | list | union | intersection => rfl

theorem laterPolicy_rel {R : Shape → Shape → Prop} {a b c d : Additional Shape}
    (hab : Additional.Rel R a b) (hcd : Additional.Rel R c d) :
    Additional.Rel R (laterPolicy a c) (laterPolicy b d) := by
  cases hcd with
  | forbidden => exact .forbidden
  | typed h => exact .typed h
  | untyped => exact hab

/-- A relation of parts of conjunctions: objects are related to objects, and related objects have
related merges. -/
structure KeptByMerging (P : Shape → Shape → Prop) : Prop where
  isObject_eq : ∀ {s t}, P s t → s.isObject = t.isObject
  merge : ∀ {ps qs ps' qs' a b a' b'}, P (.object ps a) (.object qs b) →
    P (.object ps' a') (.object qs' b') →
    P (.object (overlayAll ps ps') (laterPolicy a a')) (.object (overlayAll qs qs') (laterPolicy b b'))

namespace KeptByMerging

variable {P : Shape → Shape → Prop} (hP : KeptByMerging P)

include hP

theorem mergeInto {x y : Option Shape} {s t : Shape} (hxy : Option.Rel P x y) (h : P s t) :
    Option.Rel P (mergeInto x s) (mergeInto y t) := by
  cases hs : s.isObject with
  | false =>
    rwa [mergeInto_of_not_object hs, mergeInto_of_not_object ((hP.isObject_eq h).symm.trans hs)]
  | true =>
    obtain ⟨ps, a, rfl⟩ := exists_eq_object hs
    obtain ⟨qs, b, rfl⟩ := exists_eq_object ((hP.isObject_eq h).symm.trans hs)
    cases hxy with
    | none => exact .some h
    | @some u v huv =>
      cases hu : u.isObject with
      | false =>
        rw [mergeInto_some_of_not_object hu,
          mergeInto_some_of_not_object ((hP.isObject_eq huv).symm.trans hu)]
        exact .some huv
      | true =>
        obtain ⟨ps', a', rfl⟩ := exists_eq_object hu
        obtain ⟨qs', b', rfl⟩ := exists_eq_object ((hP.isObject_eq huv).symm.trans hu)
        exact .some (hP.merge huv h)

theorem foldl_mergeInto {ss ts : List Shape} (h : List.Forall₂ P ss ts) {x y : Option Shape}
    (hxy : Option.Rel P x y) : Option.Rel P (ss.foldl Shape.mergeInto x) (ts.foldl Shape.mergeInto y) := by
  induction h generalizing x y with
  | nil => exact hxy
  | cons hst _ ih => exact ih (hP.mergeInto hxy hst)

end KeptByMerging

/-! ## Conjunctions -/

/-- Parts are taken apart no further. -/
theorem partsOfAll_of_parts {ss : List Shape} (h : ∀ s ∈ ss, s.parts = [s]) : partsOfAll ss = ss := by
  induction ss with
  | nil => rfl
  | cons s ss ih =>
    obtain ⟨hs, hss⟩ := List.forall_mem_cons.1 h
    rw [partsOfAll, hs, ih hss, List.singleton_append]

theorem partsOfAll_rel {P : Shape → Shape → Prop} {ss ts : List Shape}
    (h : List.Forall₂ (fun s t => List.Forall₂ P s.parts t.parts) ss ts) :
    List.Forall₂ P (partsOfAll ss) (partsOfAll ts) := by
  induction h with
  | nil => exact .nil
  | cons hst _ ih =>
    rw [partsOfAll, partsOfAll]
    exact List.rel_append hst ih

/-- The shapes of conjunctions are related by `R`, if their parts are by `P`. -/
theorem rel_ofConjunction {P R : Shape → Shape → Prop} (hP : KeptByMerging P) (hany : R .any .any)
    (hone : ∀ s t, P s t → R s t)
    (hmany : ∀ {ss ts : List Shape}, List.Forall₂ P ss ts → R (.intersection ss) (.intersection ts))
    {ss ts : List Shape} (h : List.Forall₂ P (partsOfAll ss) (partsOfAll ts)) :
    R (ofConjunction ss) (ofConjunction ts) := by
  have hmerged := hP.foldl_mergeInto h (x := none) (y := none) .none
  have hothers : List.Forall₂ P ((partsOfAll ss).filter fun s => !s.isObject)
      ((partsOfAll ts).filter fun t => !t.isObject) :=
    List.rel_filter (fun s t hst => by simp [hP.isObject_eq hst]) h
  have hall : List.Forall₂ P
      (((partsOfAll ss).foldl mergeInto none).toList ++ (partsOfAll ss).filter fun s => !s.isObject)
      (((partsOfAll ts).foldl mergeInto none).toList ++ (partsOfAll ts).filter fun t => !t.isObject) := by
    refine List.rel_append ?_ hothers
    generalize (partsOfAll ss).foldl mergeInto none = x at hmerged
    generalize (partsOfAll ts).foldl mergeInto none = y at hmerged
    cases hmerged with
    | none => exact .nil
    | some hst => exact .cons hst .nil
  -- what is left to see is whether none, one or more parts remain, which is the same for both
  unfold ofConjunction
  dsimp only
  generalize ((partsOfAll ss).foldl mergeInto none).toList ++
    (partsOfAll ss).filter (fun s => !s.isObject) = xs at hall
  generalize ((partsOfAll ts).foldl mergeInto none).toList ++
    (partsOfAll ts).filter (fun t => !t.isObject) = ys at hall
  cases hall with
  | nil => exact hany
  | cons hst hrest =>
    cases hrest with
    | nil => exact hone _ _ hst
    | cons hst' hrest => exact hmany (.cons hst (.cons hst' hrest))

end ContractInterface.Shape
