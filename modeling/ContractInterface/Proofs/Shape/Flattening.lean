/-
How a conjunction is flattened. The shapes of its members lie on a stack and are taken off one by one:
the members of a conjunction go back on top of the stack, objects are merged into one object, what permits
everything is dropped, and the others are kept in their order (`Flattening.step`). At every turn, what has
been taken so far and the parts of what is pending are together the parts of the conjunction, and the
merged object and the others are made of the former (`Flattening.Reached`). So when nothing is pending they
are made of all parts, which is the shape of the conjunction (`Shape.ofConjunction_eq_run`).
-/
import ContractInterface.Proofs.Shape.Conjunction

namespace ContractInterface

/-! ## Objects -/

/-- An object by itself. -/
structure ObjectShape where
  properties : List (Property Shape)
  additional : Additional Shape

namespace ObjectShape

def shape (o : ObjectShape) : Shape := .object o.properties o.additional

/-- The object with the declarations of a later one put in. -/
def merge (o later : ObjectShape) : ObjectShape where
  properties := Shape.overlayAll o.properties later.properties
  additional := Shape.laterPolicy o.additional later.additional

end ObjectShape

/-! ## The loop -/

/-- A conjunction on the way to its shape. -/
structure Flattening where
  /-- The shapes that are still to be taken, from the top of the stack. -/
  pending : List Shape
  /-- The objects so far as one, if there was one. -/
  merged : Option ObjectShape
  /-- The other parts so far. -/
  rest : List Shape

namespace Flattening

def start (shapes : List Shape) : Flattening := ⟨shapes, none, []⟩

/-- Merges one more object. -/
def mergeObject (f : Flattening) (o : ObjectShape) : Option ObjectShape :=
  match f.merged with
  | some sofar => some (sofar.merge o)
  | none => some o

/-- Takes one shape off the stack, if there is one. -/
def step (f : Flattening) : Option Flattening :=
  match f.pending with
  | [] => none
  | .object ps a :: pending => some ⟨pending, f.mergeObject ⟨ps, a⟩, f.rest⟩
  -- members are pushed from the last to the first, so the first one is taken next
  | .intersection members :: pending => some ⟨members ++ pending, f.merged, f.rest⟩
  | .any :: pending => some ⟨pending, f.merged, f.rest⟩
  | s :: pending => some ⟨pending, f.merged, f.rest ++ [s]⟩

/-- The conjunction of the merged object and the other parts. -/
def shape (f : Flattening) : Shape :=
  .ofParts ((f.merged.map ObjectShape.shape).toList ++ f.rest)

/-! ### Single turns -/

variable {f g : Flattening} {shapes taken : List Shape}

theorem step_eq_none_iff : f.step = none ↔ f.pending = [] := by
  unfold step
  split <;> simp_all

/-- What a turn does: a conjunction is taken apart, what permits everything is dropped, an object is
merged, and what is none of these is kept. -/
theorem step_cases (h : f.step = some g) :
    (∃ members pending, f.pending = .intersection members :: pending ∧
      g = ⟨members ++ pending, f.merged, f.rest⟩) ∨
    (∃ pending, f.pending = .any :: pending ∧ g = ⟨pending, f.merged, f.rest⟩) ∨
    (∃ o pending, f.pending = ObjectShape.shape o :: pending ∧
      g = ⟨pending, f.mergeObject o, f.rest⟩) ∨
    ∃ s pending, f.pending = s :: pending ∧ s.IsPart ∧ s.isObject = false ∧
      g = ⟨pending, f.merged, f.rest ++ [s]⟩ := by
  obtain ⟨pending, merged, rest⟩ := f
  cases pending with
  | nil => cases h
  | cons s pending =>
    cases s with
    | intersection members => exact .inl ⟨members, pending, rfl, (Option.some.inj h).symm⟩
    | any => exact .inr (.inl ⟨pending, rfl, (Option.some.inj h).symm⟩)
    | object ps a => exact .inr (.inr (.inl ⟨⟨ps, a⟩, pending, rfl, (Option.some.inj h).symm⟩))
    | null | bool | number | string | literal | enum | tuple | list | union =>
      refine .inr (.inr (.inr ⟨_, pending, rfl, ⟨?_, ?_⟩, rfl, (Option.some.inj h).symm⟩)) <;> simp

/-- Taking a conjunction apart leaves its members only, so the stack gets smaller in any case. -/
theorem size_of_step (h : f.step = some g) : sizeOf g.pending < sizeOf f.pending := by
  rcases step_cases h with ⟨members, pending, hf, rfl⟩ | ⟨pending, hf, rfl⟩ | ⟨o, pending, hf, rfl⟩ |
    ⟨s, pending, hf, -, -, rfl⟩
  · have happend : ∀ ss : List Shape, sizeOf (ss ++ pending) + 1 = sizeOf ss + sizeOf pending :=
      fun ss => by
        induction ss with
        | nil => simp; omega
        | cons s ss ih => simp only [List.cons_append, List.cons.sizeOf_spec]; omega
    have := happend members
    simp only [hf, List.cons.sizeOf_spec, Shape.intersection.sizeOf_spec]
    omega
  all_goals
    simp only [hf, List.cons.sizeOf_spec]
    omega

/-! ### What has been taken -/

/-- How far the loop has come: the parts that are taken and those of what is pending are the parts of the
conjunction, and of the former are the merged object and the others. -/
structure Reached (shapes taken : List Shape) (f : Flattening) : Prop where
  parts_eq : taken ++ Shape.partsOfAll f.pending = Shape.partsOfAll shapes
  merged_eq : f.merged.map ObjectShape.shape = taken.foldl Shape.mergeInto none
  rest_eq : f.rest = taken.filter fun s => !s.isObject

theorem Reached.start (shapes : List Shape) : Reached shapes [] (start shapes) := ⟨rfl, rfl, rfl⟩

theorem map_shape_mergeObject (f : Flattening) (o : ObjectShape) :
    (f.mergeObject o).map ObjectShape.shape =
      Shape.mergeInto (f.merged.map ObjectShape.shape) o.shape := by
  unfold mergeObject
  cases f.merged <;> rfl

/-- A turn takes no part or one. -/
theorem Reached.step (hf : Reached shapes taken f) (h : f.step = some g) :
    Reached shapes taken g ∨ ∃ s, Reached shapes (taken ++ [s]) g := by
  have hparts := hf.parts_eq
  rcases step_cases h with ⟨members, pending, hpending, rfl⟩ | ⟨pending, hpending, rfl⟩ |
    ⟨o, pending, hpending, rfl⟩ | ⟨s, pending, hpending, hpart, hs, rfl⟩
  · -- the members have the parts that the conjunction has
    rw [hpending, Shape.partsOfAll, Shape.parts, ← Shape.partsOfAll_append] at hparts
    exact .inl ⟨hparts, hf.merged_eq, hf.rest_eq⟩
  · rw [hpending, Shape.partsOfAll, Shape.parts, List.nil_append] at hparts
    exact .inl ⟨hparts, hf.merged_eq, hf.rest_eq⟩
  · have ho : o.shape.IsPart := .of_isObject rfl
    rw [hpending, Shape.partsOfAll, ho.parts_eq, ← List.append_assoc] at hparts
    refine .inr ⟨o.shape, hparts, ?_, ?_⟩
    · rw [map_shape_mergeObject, hf.merged_eq, List.foldl_append, List.foldl_cons, List.foldl_nil]
    · rw [List.filter_append, ← hf.rest_eq]
      exact (List.append_nil _).symm
  · rw [hpending, Shape.partsOfAll, hpart.parts_eq, ← List.append_assoc] at hparts
    refine .inr ⟨s, hparts, ?_, ?_⟩
    · rw [List.foldl_append, List.foldl_cons, List.foldl_nil, Shape.mergeInto_of_not_object hs]
      exact hf.merged_eq
    · rw [List.filter_append, ← hf.rest_eq, List.filter_singleton, hs]
      rfl

/-! ### Runs -/

/-- Takes shapes off the stack as long as there are any. -/
def run (f : Flattening) : Flattening :=
  match _h : f.step with
  | none => f
  | some g => g.run
termination_by sizeOf f.pending
decreasing_by exact size_of_step _h

theorem run_of_none (h : f.step = none) : f.run = f := by
  rw [run]
  split
  · rfl
  · rename_i g hg
    rw [h] at hg
    cases hg

theorem run_of_some (h : f.step = some g) : f.run = g.run := by
  rw [run]
  split
  · rename_i hnone
    rw [h] at hnone
    cases hnone
  · rename_i g' hg
    rw [h] at hg
    rw [Option.some.inj hg]

/-- In the end all parts have been taken. -/
theorem Reached.run (hf : Reached shapes taken f) : Reached shapes (Shape.partsOfAll shapes) f.run := by
  induction f using Flattening.run.induct generalizing taken with
  | case1 f hdone =>
    have hparts := hf.parts_eq
    rw [step_eq_none_iff.1 hdone, Shape.partsOfAll, List.append_nil] at hparts
    rw [run_of_none hdone]
    exact hparts ▸ hf
  | case2 f g hstep ih =>
    rw [run_of_some hstep]
    rcases hf.step hstep with hg | ⟨s, hg⟩
    · exact ih hg
    · exact ih hg

end Flattening

/-! ## Conjunctions -/

/-- The shape of a conjunction is what the loop makes of the shapes of its members. -/
theorem Shape.ofConjunction_eq_run (shapes : List Shape) :
    ofConjunction shapes = (Flattening.start shapes).run.shape := by
  have h := (Flattening.Reached.start shapes).run
  rw [ofConjunction_eq, Flattening.shape, h.merged_eq, h.rest_eq]
  rfl

/-- A conjunction resolves to what the loop makes of the shapes of its members, and fails as the first of
these that has none. -/
theorem resolve_intersection_eq_run (d : Definitions) (members : List Node) :
    resolve d (.intersection members) = members.mapM (resolve d) >>= fun shapes =>
      .ok (Flattening.start shapes).run.shape := by
  rw [resolve_intersection_eq]
  congr 1
  funext shapes
  rw [Shape.ofConjunction_eq_run]

end ContractInterface
