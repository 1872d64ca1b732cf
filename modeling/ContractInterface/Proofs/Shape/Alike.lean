/-
Shapes that cannot be told apart: they accept the same values, and so do the shapes that are made with
them in the places of one another (`Shape.Alike`). Objects may declare their properties in different
orders. A conjunction looks into objects one level deep, to merge their declarations, so these must be
known to be the same (`Shape.PartAlike`, `Shape.Alike.ofConjunction`).
-/
import ContractInterface.Shape.Resolution
import ContractInterface.Proofs.Shape.Acceptance
import ContractInterface.Proofs.Shape.Combination
import Mathlib.Data.List.Nodup

namespace ContractInterface

open Json

namespace Shape

/-! ## Shapes that accept the same -/

/-- Both accept the same values. -/
structure Equivalent (s t : Shape) : Prop where
  refines : s.Refines t
  refined : t.Refines s

namespace Equivalent

variable {s t : Shape} {ss ts : List Shape}

theorem refl (s : Shape) : s.Equivalent s := ⟨fun _ h => h, fun _ h => h⟩

theorem symm (h : s.Equivalent t) : t.Equivalent s := ⟨h.refined, h.refines⟩

theorem accepts_iff (h : s.Equivalent t) (v : Value) : s.accepts v = true ↔ t.accepts v = true :=
  ⟨h.refines v, h.refined v⟩

theorem of_iff (h : ∀ v, s.accepts v = true ↔ t.accepts v = true) : s.Equivalent t :=
  ⟨fun v => (h v).1, fun v => (h v).2⟩

theorem tuple (h : List.Forall₂ Equivalent ss ts) : (tuple ss).Equivalent (tuple ts) :=
  ⟨.tuple (h.imp fun _ _ h => h.refines), .tuple (h.flip.imp fun _ _ h => h.refined)⟩

theorem list (h : s.Equivalent t) (c : Constraints) : (list s c).Equivalent (list t c) := by
  refine of_iff fun v => ?_
  simp only [accepts_list_iff, h.accepts_iff]

theorem union (h : List.Forall₂ Equivalent ss ts) : (union ss).Equivalent (union ts) :=
  ⟨.union (h.imp fun _ _ h => h.refines), .union (h.flip.imp fun _ _ h => h.refined)⟩

theorem intersection (h : List.Forall₂ Equivalent ss ts) :
    (intersection ss).Equivalent (intersection ts) :=
  ⟨.intersection (h.imp fun _ _ h => h.refines), .intersection (h.flip.imp fun _ _ h => h.refined)⟩

end Equivalent

/-! ## Declarations -/

/-- The declaration of a name. -/
def declaration? (ps : List (Property Shape)) (name : String) : Option (Property Shape) :=
  ps.find? (·.name == name)

theorem declaration?_cons (p : Property Shape) (ps : List (Property Shape)) (name : String) :
    declaration? (p :: ps) name = if name = p.name then some p else declaration? ps name := by
  unfold declaration?
  rw [List.find?_cons]
  by_cases h : name = p.name
  · simp [h]
  · simp [beq_eq_false_iff_ne.2 (Ne.symm h), h]

theorem declaration?_eq_some_iff {ps : List (Property Shape)} (h : (ps.map (·.name)).Nodup)
    {name : String} {p : Property Shape} :
    declaration? ps name = some p ↔ p ∈ ps ∧ p.name = name := by
  constructor
  · intro hp
    have hname := List.find?_some hp
    exact ⟨List.mem_of_find?_eq_some hp, beq_iff_eq.1 hname⟩
  · rintro ⟨hp, rfl⟩
    cases hfind : declaration? ps p.name with
    | none =>
      have := List.find?_eq_none.1 hfind p hp
      simp at this
    | some q =>
      have hname := List.find?_some hfind
      rw [List.inj_on_of_nodup_map h (List.mem_of_find?_eq_some hfind) hp (beq_iff_eq.1 hname)]

theorem declaration?_eq_none_iff {ps : List (Property Shape)} {name : String} :
    declaration? ps name = none ↔ name ∉ ps.map (·.name) := by
  unfold declaration?
  rw [List.find?_eq_none, List.mem_map]
  simp

/-- The same names are declared, each once, required alike and with equivalent shapes. -/
structure SameDeclarations (ps qs : List (Property Shape)) : Prop where
  left : (ps.map (·.name)).Nodup
  right : (qs.map (·.name)).Nodup
  rel : ∀ name, Option.Rel (Property.Rel Equivalent) (declaration? ps name) (declaration? qs name)

namespace SameDeclarations

variable {ps qs : List (Property Shape)}

theorem symm (h : SameDeclarations ps qs) : SameDeclarations qs ps := by
  refine ⟨h.right, h.left, fun name => ?_⟩
  have hrel := h.rel name
  generalize declaration? ps name = x at hrel
  generalize declaration? qs name = y at hrel
  cases hrel with
  | none => exact .none
  | some hpq => exact .some ⟨hpq.name.symm, hpq.required.symm, hpq.shape.symm⟩

theorem exists_left (h : SameDeclarations ps qs) {q : Property Shape} (hq : q ∈ qs) :
    ∃ p ∈ ps, Property.Rel Equivalent p q := by
  have hrel := h.rel q.name
  rw [(declaration?_eq_some_iff h.right).2 ⟨hq, rfl⟩] at hrel
  cases hp : declaration? ps q.name with
  | none =>
    rw [hp] at hrel
    cases hrel
  | some p =>
    rw [hp] at hrel
    cases hrel with
    | some hpq => exact ⟨p, ((declaration?_eq_some_iff h.left).1 hp).1, hpq⟩

theorem mem_names_of_mem (h : SameDeclarations ps qs) {name : String} (hq : name ∈ qs.map (·.name)) :
    name ∈ ps.map (·.name) := by
  obtain ⟨q, hmem, rfl⟩ := List.mem_map.1 hq
  obtain ⟨p, hp, hpq⟩ := h.exists_left hmem
  exact List.mem_map.2 ⟨p, hp, hpq.name⟩

end SameDeclarations

section Objects

variable {ps qs : List (Property Shape)} {a b : Additional Shape}

theorem samePolicy_symm (h : Additional.Rel Equivalent a b) : Additional.Rel Equivalent b a := by
  cases h with
  | forbidden => exact .forbidden
  | typed h => exact .typed h.symm
  | untyped => exact .untyped

/-- Objects that declare the same accept the same, whatever the order. -/
theorem refines_object (hps : SameDeclarations ps qs) (ha : Additional.Rel Equivalent a b) :
    (object ps a).Refines (object qs b) := by
  intro v hv
  obtain ⟨members, rfl, h⟩ := accepts_object_iff.1 hv
  refine accepts_object_iff.2 ⟨members, rfl, ?_, ?_, ?_, ?_⟩
  · intro q hq v hv
    obtain ⟨p, hp, hpq⟩ := hps.exists_left hq
    exact hpq.shape.refines v (h.present p hp v (hpq.name ▸ hv))
  · intro q hq hv
    obtain ⟨p, hp, hpq⟩ := hps.exists_left hq
    exact hpq.required ▸ h.absent p hp (hpq.name ▸ hv)
  · intro m hm hn
    have := h.allowed m hm fun hmem => hn (hps.symm.mem_names_of_mem hmem)
    cases ha with
    | forbidden => exact absurd rfl this
    | typed | untyped => simp
  · intro m hm hn t ht
    have := h.others m hm fun hmem => hn (hps.symm.mem_names_of_mem hmem)
    cases ha with
    | forbidden | untyped => cases ht
    | typed hst =>
      obtain rfl := List.mem_singleton.1 ht
      exact hst.refines _ (this _ (List.mem_singleton_self _))

theorem Equivalent.object (hps : SameDeclarations ps qs) (ha : Additional.Rel Equivalent a b) :
    (object ps a).Equivalent (object qs b) :=
  ⟨refines_object hps ha, refines_object hps.symm (samePolicy_symm ha)⟩

/-- Declarations in one order; a name may be repeated. -/
theorem Equivalent.object_of_forall₂ (hps : List.Forall₂ (Property.Rel Equivalent) ps qs)
    (ha : Additional.Rel Equivalent a b) : Equivalent (.object ps a) (.object qs b) := by
  have hps' : List.Forall₂ (Property.Rel Equivalent) qs ps := hps.flip.imp fun q p hpq =>
    ⟨hpq.name.symm, hpq.required.symm, hpq.shape.symm⟩
  constructor
  · intro v hv
    obtain ⟨members, rfl, h⟩ := accepts_object_iff.1 hv
    exact accepts_object_iff.2 ⟨members, rfl, h.imp (fun _ _ v hst => hst.refines v) hps ha⟩
  · intro v hv
    obtain ⟨members, rfl, h⟩ := accepts_object_iff.1 hv
    exact accepts_object_iff.2
      ⟨members, rfl, h.imp (fun _ _ v hst => hst.refines v) hps' (samePolicy_symm ha)⟩

end Objects

/-! ### Overlays -/

theorem declaration?_overlay (p : Property Shape) (ps : List (Property Shape)) (name : String) :
    declaration? (overlay p ps) name = if name = p.name then some p else declaration? ps name := by
  induction ps with
  | nil => rw [overlay, declaration?_cons]
  | cons q ps ih =>
    rw [overlay]
    by_cases hq : q.name = p.name
    · rw [if_pos hq, declaration?_cons, declaration?_cons, hq]
      split <;> rfl
    · rw [if_neg hq, declaration?_cons, declaration?_cons, ih]
      by_cases hname : name = q.name
      · rw [if_pos hname, if_pos hname, if_neg fun heq => hq (hname.symm.trans heq)]
      · rw [if_neg hname, if_neg hname]

theorem mem_names_overlay {p : Property Shape} {ps : List (Property Shape)} {name : String} :
    name ∈ (overlay p ps).map (·.name) ↔ name = p.name ∨ name ∈ ps.map (·.name) := by
  rw [← not_iff_not, ← declaration?_eq_none_iff, declaration?_overlay, not_or,
    ← declaration?_eq_none_iff]
  split <;> simp [*]

theorem nodup_overlay (p : Property Shape) {ps : List (Property Shape)}
    (h : (ps.map (·.name)).Nodup) : ((overlay p ps).map (·.name)).Nodup := by
  induction ps with
  | nil => exact List.nodup_singleton _
  | cons q ps ih =>
    obtain ⟨hq, hps⟩ := List.nodup_cons.1 h
    rw [overlay]
    split
    · rename_i hname
      refine List.nodup_cons.2 ⟨fun hmem => hq ?_, hps⟩
      show q.name ∈ ps.map (·.name)
      exact hname ▸ hmem
    · rename_i hname
      exact List.nodup_cons.2 ⟨fun hmem => (mem_names_overlay.1 hmem).elim hname hq, ih hps⟩

theorem nodup_overlayAll {ps : List (Property Shape)} (h : (ps.map (·.name)).Nodup)
    (later : List (Property Shape)) : ((overlayAll ps later).map (·.name)).Nodup := by
  induction later generalizing ps with
  | nil => exact h
  | cons p later ih => exact ih (nodup_overlay p h)

/-- The later declaration of a name counts. -/
theorem declaration?_overlayAll {later : List (Property Shape)} (h : (later.map (·.name)).Nodup)
    (ps : List (Property Shape)) (name : String) :
    declaration? (overlayAll ps later) name = (declaration? later name).or (declaration? ps name) := by
  induction later generalizing ps with
  | nil => rfl
  | cons p later ih =>
    obtain ⟨hp, hlater⟩ := List.nodup_cons.1 h
    have hstep : overlayAll ps (p :: later) = overlayAll (overlay p ps) later := rfl
    rw [hstep, ih hlater, declaration?_overlay]
    by_cases hname : name = p.name
    · have hnone : declaration? later name = none := declaration?_eq_none_iff.2 (hname ▸ hp)
      rw [if_pos hname, hnone, declaration?_cons, if_pos hname]
      rfl
    · rw [if_neg hname, declaration?_cons, if_neg hname]

theorem SameDeclarations.overlayAll {ps qs ps' qs' : List (Property Shape)}
    (h : SameDeclarations ps qs) (h' : SameDeclarations ps' qs') :
    SameDeclarations (overlayAll ps ps') (overlayAll qs qs') := by
  refine ⟨nodup_overlayAll h.left ps', nodup_overlayAll h.right qs', fun name => ?_⟩
  rw [declaration?_overlayAll h'.left, declaration?_overlayAll h'.right]
  have hearlier := h.rel name
  have hlater := h'.rel name
  generalize declaration? ps' name = x at hlater
  generalize declaration? qs' name = y at hlater
  cases hlater with
  | none => exact hearlier
  | some hpq => exact .some hpq

/-! ## Parts of conjunctions -/

/-- Parts of a conjunction that cannot be told apart: two objects with the same declarations, or two
shapes that are no objects and accept the same. -/
inductive PartAlike : Shape → Shape → Prop
  | object {ps qs : List (Property Shape)} {a b : Additional Shape} : SameDeclarations ps qs →
      Additional.Rel Equivalent a b → PartAlike (.object ps a) (.object qs b)
  | other {s t : Shape} : s.parts = [s] → t.parts = [t] → s.isObject = false → t.isObject = false →
      s.Equivalent t → PartAlike s t

/-- Shapes that cannot be told apart, by themselves or in a conjunction. -/
structure Alike (s t : Shape) : Prop where
  equivalent : s.Equivalent t
  parts : List.Forall₂ PartAlike s.parts t.parts

namespace PartAlike

variable {s t : Shape}

theorem equivalent (h : PartAlike s t) : s.Equivalent t := by
  cases h with
  | object hps ha => exact .object hps ha
  | other _ _ _ _ h => exact h

theorem parts_left (h : PartAlike s t) : s.parts = [s] := by
  cases h with
  | object => rfl
  | other hs => exact hs

theorem parts_right (h : PartAlike s t) : t.parts = [t] := by
  cases h with
  | object => rfl
  | other _ ht => exact ht

theorem isObject_eq (h : PartAlike s t) : s.isObject = t.isObject := by
  cases h with
  | object => rfl
  | other _ _ hs ht => rw [hs, ht]

theorem of_objects {ps qs : List (Property Shape)} {a b : Additional Shape}
    (h : PartAlike (.object ps a) (.object qs b)) :
    SameDeclarations ps qs ∧ Additional.Rel Equivalent a b := by
  cases h with
  | object hps ha => exact ⟨hps, ha⟩
  | other _ _ hs => cases hs

theorem alike (h : PartAlike s t) : s.Alike t :=
  ⟨h.equivalent, by rw [h.parts_left, h.parts_right]; exact .cons h .nil⟩

end PartAlike

theorem keptByMerging_partAlike : KeptByMerging PartAlike where
  isObject_eq h := h.isObject_eq
  merge h h' := by
    obtain ⟨hps, ha⟩ := h.of_objects
    obtain ⟨hps', ha'⟩ := h'.of_objects
    exact .object (hps.overlayAll hps') (laterPolicy_rel ha ha')

namespace Alike

variable {s t : Shape} {ss ts : List Shape}

/-! ## Kinds of shapes -/

/-- A shape that is neither an object nor taken apart in conjunctions. -/
theorem of_other (hs : s.parts = [s]) (ht : t.parts = [t]) (hs' : s.isObject = false)
    (ht' : t.isObject = false) (h : s.Equivalent t) : s.Alike t :=
  (PartAlike.other hs ht hs' ht' h).alike

theorem any : Alike .any .any := ⟨.refl _, .nil⟩

theorem primitive (p : Primitive) (c : Constraints) : Alike (p.shape c) (p.shape c) := by
  cases p <;> exact .of_other rfl rfl rfl rfl (.refl _)

theorem object {ps qs : List (Property Shape)} {a b : Additional Shape} (hps : SameDeclarations ps qs)
    (ha : Additional.Rel Equivalent a b) : Alike (.object ps a) (.object qs b) :=
  (PartAlike.object hps ha).alike

theorem equivalents (h : List.Forall₂ Alike ss ts) : List.Forall₂ Equivalent ss ts :=
  h.imp fun _ _ h => h.equivalent

theorem tuple (h : List.Forall₂ Alike ss ts) : Alike (.tuple ss) (.tuple ts) :=
  .of_other rfl rfl rfl rfl (.tuple (equivalents h))

theorem list (h : s.Alike t) (c : Constraints) : Alike (.list s c) (.list t c) :=
  .of_other rfl rfl rfl rfl (.list h.equivalent c)

theorem union (h : List.Forall₂ Alike ss ts) : Alike (.union ss) (.union ts) :=
  .of_other rfl rfl rfl rfl (.union (equivalents h))

theorem ofAlternatives (h : List.Forall₂ Alike ss ts) :
    (ofAlternatives ss).Alike (ofAlternatives ts) :=
  rel_ofAlternatives .any .union h

/-! ## Conjunctions -/

/-- Members that cannot be told apart make up conjunctions that cannot. A conjunction that is a member of
another is taken apart there, into the parts that it was made of. -/
theorem intersection (h : List.Forall₂ PartAlike ss ts) :
    Alike (.intersection ss) (.intersection ts) := by
  refine ⟨.intersection (h.imp fun _ _ h => h.equivalent), ?_⟩
  rw [Shape.parts, Shape.parts, partsOfAll_of_parts, partsOfAll_of_parts]
  · exact h
  · intro t ht
    obtain ⟨s, -, hst⟩ := exists_mem_of_forall₂ h.flip t ht
    exact hst.parts_right
  · intro s hs
    obtain ⟨t, -, hst⟩ := exists_mem_of_forall₂ h s hs
    exact hst.parts_left

theorem ofConjunction (h : List.Forall₂ Alike ss ts) :
    (ofConjunction ss).Alike (ofConjunction ts) :=
  rel_ofConjunction keptByMerging_partAlike .any (fun _ _ h => h.alike) .intersection
    (partsOfAll_rel (h.imp fun _ _ h => h.parts))

end Alike

end Shape

end ContractInterface
