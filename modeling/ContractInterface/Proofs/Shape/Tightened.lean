/-
Shapes that differ in their constraints only, the second setting whatever the first sets and perhaps more
(`Shape.Tightened`). The second accepts no value that the first does not (`Shape.Tightened.refines`). Such
shapes stay in step when they are combined: objects have the same names and demands, so they merge in
the same way.
-/
import ContractInterface.Proofs.Shape.Acceptance
import ContractInterface.Proofs.Shape.Combination

namespace ContractInterface

open Json

/-! ## Constraints -/

namespace Constraints

/-- Whatever the first constraints set, the second ones set to the same. -/
structure Tightened (c d : Constraints) : Prop where
  minimum : ∀ x ∈ c.minimum, x ∈ d.minimum
  maximum : ∀ x ∈ c.maximum, x ∈ d.maximum
  exclusiveMinimum : ∀ x ∈ c.exclusiveMinimum, x ∈ d.exclusiveMinimum
  exclusiveMaximum : ∀ x ∈ c.exclusiveMaximum, x ∈ d.exclusiveMaximum
  format : ∀ x ∈ c.format, x ∈ d.format
  minLength : ∀ x ∈ c.minLength, x ∈ d.minLength
  maxLength : ∀ x ∈ c.maxLength, x ∈ d.maxLength
  pattern : ∀ x ∈ c.pattern, x ∈ d.pattern
  minItems : ∀ x ∈ c.minItems, x ∈ d.minItems
  maxItems : ∀ x ∈ c.maxItems, x ∈ d.maxItems

variable {c d : Constraints}

theorem AllowsNumber.of_tightened {n : Number} (h : c.Tightened d) (hd : d.AllowsNumber n) :
    c.AllowsNumber n where
  minimum l hl := hd.minimum l (h.minimum l hl)
  maximum l hl := hd.maximum l (h.maximum l hl)
  exclusiveMinimum l hl := hd.exclusiveMinimum l (h.exclusiveMinimum l hl)
  exclusiveMaximum l hl := hd.exclusiveMaximum l (h.exclusiveMaximum l hl)
  format f hf := hd.format f (h.format f hf)

theorem AllowsText.of_tightened {s : String} (h : c.Tightened d) (hd : d.AllowsText s) :
    c.AllowsText s where
  minLength l hl := hd.minLength l (h.minLength l hl)
  maxLength l hl := hd.maxLength l (h.maxLength l hl)
  pattern p hp := hd.pattern p (h.pattern p hp)

theorem AllowsCount.of_tightened {count : Nat} (h : c.Tightened d) (hd : d.AllowsCount count) :
    c.AllowsCount count where
  minItems l hl := hd.minItems l (h.minItems l hl)
  maxItems l hl := hd.maxItems l (h.maxItems l hl)

end Constraints

/-! ## Shapes -/

namespace Shape

/-- The shapes differ in their constraints only, and the second sets what the first does. -/
inductive Tightened : Shape → Shape → Prop
  | any : Tightened .any .any
  | null : Tightened .null .null
  | bool : Tightened .bool .bool
  | number {c d : Constraints} : c.Tightened d → Tightened (.number c) (.number d)
  | string {c d : Constraints} : c.Tightened d → Tightened (.string c) (.string d)
  | literal (v : Value) : Tightened (.literal v) (.literal v)
  | enum (vs : List Value) : Tightened (.enum vs) (.enum vs)
  | object {ps qs : List (Property Shape)} {a b : Additional Shape} :
      List.Forall₂ (Property.Rel fun _ _ => True) ps qs →
      (∀ p ∈ ps.zip qs, Tightened p.1.shape p.2.shape) →
      Additional.Rel (fun _ _ => True) a b →
      (∀ p ∈ a.toList.zip b.toList, Tightened p.1 p.2) → Tightened (.object ps a) (.object qs b)
  | tuple {ss ts : List Shape} : ss.length = ts.length → (∀ p ∈ ss.zip ts, Tightened p.1 p.2) →
      Tightened (.tuple ss) (.tuple ts)
  | list {s t : Shape} {c d : Constraints} : Tightened s t → c.Tightened d →
      Tightened (.list s c) (.list t d)
  | union {ss ts : List Shape} : ss.length = ts.length → (∀ p ∈ ss.zip ts, Tightened p.1 p.2) →
      Tightened (.union ss) (.union ts)
  | intersection {ss ts : List Shape} : ss.length = ts.length →
      (∀ p ∈ ss.zip ts, Tightened p.1 p.2) → Tightened (.intersection ss) (.intersection ts)

/-! ### Parts -/

section Parts

variable {R : Shape → Shape → Prop}

theorem forall₂_property_of_zip {ps qs : List (Property Shape)}
    (hpq : List.Forall₂ (Property.Rel fun _ _ => True) ps qs)
    (h : ∀ p ∈ ps.zip qs, R p.1.shape p.2.shape) : List.Forall₂ (Property.Rel R) ps qs := by
  refine List.forall₂_iff_zip.2 ⟨hpq.length_eq, fun hp => ?_⟩
  have hforms := List.forall₂_zip hpq hp
  exact ⟨hforms.name, hforms.required, h _ hp⟩

theorem additional_of_zip {a b : Additional Shape} (hab : Additional.Rel (fun _ _ => True) a b)
    (h : ∀ p ∈ a.toList.zip b.toList, R p.1 p.2) : Additional.Rel R a b := by
  cases hab with
  | forbidden => exact .forbidden
  | untyped => exact .untyped
  | typed => exact .typed (h _ (List.mem_singleton_self _))

end Parts

namespace Tightened

variable {s t : Shape} {ss ts : List Shape}

theorem tuple_of_forall₂ (h : List.Forall₂ Tightened ss ts) : Tightened (.tuple ss) (.tuple ts) :=
  .tuple h.length_eq fun _ hp => List.forall₂_zip h hp

theorem union_of_forall₂ (h : List.Forall₂ Tightened ss ts) : Tightened (.union ss) (.union ts) :=
  .union h.length_eq fun _ hp => List.forall₂_zip h hp

theorem intersection_of_forall₂ (h : List.Forall₂ Tightened ss ts) :
    Tightened (.intersection ss) (.intersection ts) :=
  .intersection h.length_eq fun _ hp => List.forall₂_zip h hp

theorem object_of_forall₂ {ps qs : List (Property Shape)} {a b : Additional Shape}
    (hps : List.Forall₂ (Property.Rel Tightened) ps qs) (hab : Additional.Rel Tightened a b) :
    Tightened (.object ps a) (.object qs b) := by
  refine .object (hps.imp fun _ _ h => ⟨h.name, h.required, trivial⟩)
    (fun p hp => (List.forall₂_zip hps hp).shape) ?_ fun p hp => ?_
  · cases hab with
    | forbidden => exact .forbidden
    | untyped => exact .untyped
    | typed => exact .typed trivial
  · cases hab with
    | forbidden | untyped => cases hp
    | typed h =>
      obtain rfl := List.mem_singleton.1 hp
      exact h

theorem of_objects {ps qs : List (Property Shape)} {a b : Additional Shape}
    (h : Tightened (.object ps a) (.object qs b)) :
    List.Forall₂ (Property.Rel Tightened) ps qs ∧ Additional.Rel Tightened a b := by
  cases h with
  | object hforms hps hab hpolicies =>
    exact ⟨forall₂_property_of_zip hforms hps, additional_of_zip hab hpolicies⟩

/-! ### Acceptance -/

/-- The second shape accepts nothing that the first does not. -/
theorem refines (h : s.Tightened t) : t.Refines s := by
  induction h with
  | any | null | bool | literal | enum => exact fun _ hv => hv
  | number hcd =>
    intro v hv
    obtain ⟨n, rfl, hn⟩ := accepts_number_iff.1 hv
    exact accepts_number_iff.2 ⟨n, rfl, hn.of_tightened hcd⟩
  | string hcd =>
    intro v hv
    obtain ⟨text, rfl, htext⟩ := accepts_string_iff.1 hv
    exact accepts_string_iff.2 ⟨text, rfl, htext.of_tightened hcd⟩
  | object hforms _ hab _ ihps iha =>
    have hps := forall₂_property_of_zip (R := fun s t => t.Refines s) hforms ihps
    exact .object (hps.flip.imp fun _ _ h => h.flip) (additional_of_zip hab iha).flip
  | tuple hlength _ ih => exact .tuple (forall₂_of_zip (P := fun s t => t.Refines s) hlength ih).flip
  | list _ hcd ih => exact .list ih fun _ => .of_tightened hcd
  | union hlength _ ih => exact .union (forall₂_of_zip (P := fun s t => t.Refines s) hlength ih).flip
  | intersection hlength _ ih =>
    exact .intersection (forall₂_of_zip (P := fun s t => t.Refines s) hlength ih).flip

/-! ### Combination -/

theorem isObject_eq (h : s.Tightened t) : s.isObject = t.isObject := by
  cases h <;> rfl

theorem parts (h : s.Tightened t) : List.Forall₂ Tightened s.parts t.parts := by
  induction h with
  | any => exact .nil
  | intersection hlength _ ih =>
    exact partsOfAll_rel (forall₂_of_zip hlength ih)
  | null => exact .cons .null .nil
  | bool => exact .cons .bool .nil
  | number hcd => exact .cons (.number hcd) .nil
  | string hcd => exact .cons (.string hcd) .nil
  | literal v => exact .cons (.literal v) .nil
  | enum vs => exact .cons (.enum vs) .nil
  | object hforms hps hab hpolicies => exact .cons (.object hforms hps hab hpolicies) .nil
  | tuple hlength h => exact .cons (.tuple hlength h) .nil
  | list h hcd => exact .cons (.list h hcd) .nil
  | union hlength h => exact .cons (.union hlength h) .nil

theorem overlay {p q : Property Shape} (hpq : Property.Rel Tightened p q) {ps qs : List (Property Shape)}
    (h : List.Forall₂ (Property.Rel Tightened) ps qs) :
    List.Forall₂ (Property.Rel Tightened) (overlay p ps) (overlay q qs) := by
  induction h with
  | nil => exact .cons hpq .nil
  | @cons p' q' ps qs hpq' hrest ih =>
    -- the names are the same on both sides, so the property goes to the same place
    rw [Shape.overlay, Shape.overlay, hpq'.name, hpq.name]
    split
    · exact .cons hpq hrest
    · exact .cons hpq' ih

theorem overlayAll {ps qs ps' qs' : List (Property Shape)}
    (h : List.Forall₂ (Property.Rel Tightened) ps qs)
    (h' : List.Forall₂ (Property.Rel Tightened) ps' qs') :
    List.Forall₂ (Property.Rel Tightened) (overlayAll ps ps') (overlayAll qs qs') := by
  induction h' generalizing ps qs with
  | nil => exact h
  | cons hpq _ ih => exact ih (overlay hpq h)

theorem keptByMerging : KeptByMerging Tightened where
  isObject_eq h := h.isObject_eq
  merge h h' := by
    obtain ⟨hps, hab⟩ := h.of_objects
    obtain ⟨hps', hab'⟩ := h'.of_objects
    exact .object_of_forall₂ (overlayAll hps hps') (laterPolicy_rel hab hab')

theorem ofConjunction (h : List.Forall₂ Tightened ss ts) :
    (ofConjunction ss).Tightened (ofConjunction ts) :=
  rel_ofConjunction keptByMerging .any (fun _ _ h => h) .intersection_of_forall₂
    (partsOfAll_rel (h.imp fun _ _ h => h.parts))

theorem ofAlternatives (h : List.Forall₂ Tightened ss ts) :
    (ofAlternatives ss).Tightened (ofAlternatives ts) :=
  rel_ofAlternatives .any .union_of_forall₂ h

end Tightened

end Shape

end ContractInterface
