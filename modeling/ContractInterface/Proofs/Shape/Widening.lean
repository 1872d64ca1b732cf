/-
Widening. A shape is widened where it asks less: constraints are dropped, properties are required no
longer, policies let more through, there are more alternatives or fewer members. This may happen at any
depth and in any combination (`Shape.Widens`). What a shape accepts, every wider one does
(`Shape.accepts_of_widens`).
-/
import ContractInterface.Proofs.Shape.Tightened

namespace ContractInterface

open Json

namespace Shape

/-! ## Wider shapes -/

/-- The second shape asks no more than the first: the least preorder under which `any` is widest, values
and alternatives may be added, constraints, demands and members dropped, policies relaxed, and parts
widened in their places. -/
inductive Widens : Shape → Shape → Prop
  | refl (s : Shape) : Widens s s
  | trans {s t u : Shape} : Widens s t → Widens t u → Widens s u
  | any (s : Shape) : Widens s .any
  | number {c d : Constraints} : d.Tightened c → Widens (.number c) (.number d)
  | string {c d : Constraints} : d.Tightened c → Widens (.string c) (.string d)
  | enum {vs ws : List Value} : vs ⊆ ws → Widens (.enum vs) (.enum ws)
  | object {ps qs : List (Property Shape)} {a b : Additional Shape} :
      List.Forall₂ (Property.Looser fun _ _ => True) ps qs →
      (∀ p ∈ ps.zip qs, Widens p.1.shape p.2.shape) →
      Additional.Looser (fun _ _ => True) a b →
      (∀ p ∈ a.toList.zip b.toList, Widens p.1 p.2) → Widens (.object ps a) (.object qs b)
  | tuple {ss ts : List Shape} : ss.length = ts.length → (∀ p ∈ ss.zip ts, Widens p.1 p.2) →
      Widens (.tuple ss) (.tuple ts)
  | list {s t : Shape} {c d : Constraints} : Widens s t → d.Tightened c →
      Widens (.list s c) (.list t d)
  | union {ss ts : List Shape} : ss.length = ts.length → (∀ p ∈ ss.zip ts, Widens p.1 p.2) →
      Widens (.union ss) (.union ts)
  | alternatives {ss ts : List Shape} : ss ⊆ ts → Widens (.union ss) (.union ts)
  | intersection {ss ts : List Shape} : ss.length = ts.length → (∀ p ∈ ss.zip ts, Widens p.1 p.2) →
      Widens (.intersection ss) (.intersection ts)
  | members {ss ts : List Shape} : ts ⊆ ss → Widens (.intersection ss) (.intersection ts)

/-! ### Parts -/

section Parts

variable {R : Shape → Shape → Prop}

theorem forall₂_looser_of_zip {ps qs : List (Property Shape)}
    (hpq : List.Forall₂ (Property.Looser fun _ _ => True) ps qs)
    (h : ∀ p ∈ ps.zip qs, R p.1.shape p.2.shape) : List.Forall₂ (Property.Looser R) ps qs := by
  refine List.forall₂_iff_zip.2 ⟨hpq.length_eq, fun hp => ?_⟩
  have hforms := List.forall₂_zip hpq hp
  exact ⟨hforms.name, hforms.required, h _ hp⟩

theorem looser_of_zip {a b : Additional Shape} (hab : Additional.Looser (fun _ _ => True) a b)
    (h : ∀ p ∈ a.toList.zip b.toList, R p.1 p.2) : Additional.Looser R a b := by
  cases hab with
  | forbidden => exact .forbidden b
  | typed => exact .typed (h _ (List.mem_singleton_self _))
  | untyped => exact .untyped a

end Parts

/-! ## Acceptance -/

/-- A wider shape accepts no less. -/
theorem accepts_of_widens {s t : Shape} (h : s.Widens t) :
    ∀ v, s.accepts v = true → t.accepts v = true := by
  induction h with
  | refl => exact fun _ hv => hv
  | trans _ _ ihst ihtu => exact fun v hv => ihtu v (ihst v hv)
  | any => exact fun _ _ => rfl
  | number hdc =>
    intro v hv
    obtain ⟨n, rfl, hn⟩ := accepts_number_iff.1 hv
    exact accepts_number_iff.2 ⟨n, rfl, hn.of_tightened hdc⟩
  | string hdc =>
    intro v hv
    obtain ⟨text, rfl, htext⟩ := accepts_string_iff.1 hv
    exact accepts_string_iff.2 ⟨text, rfl, htext.of_tightened hdc⟩
  | enum hvs =>
    intro v hv
    obtain ⟨w, hw, hwv⟩ := accepts_enum_iff.1 hv
    exact accepts_enum_iff.2 ⟨w, hvs hw, hwv⟩
  | object hforms _ hab _ ihps iha =>
    exact Refines.of_looser (forall₂_looser_of_zip hforms ihps) (looser_of_zip hab iha)
  | tuple hlength _ ih => exact Refines.tuple (forall₂_of_zip (P := Refines) hlength ih)
  | list _ hdc ih => exact Refines.list ih fun _ => .of_tightened hdc
  | union hlength _ ih => exact Refines.union (forall₂_of_zip (P := Refines) hlength ih)
  | alternatives hss =>
    intro v hv
    obtain ⟨s, hs, hsv⟩ := accepts_union_iff.1 hv
    exact accepts_union_iff.2 ⟨s, hss hs, hsv⟩
  | intersection hlength _ ih => exact Refines.intersection (forall₂_of_zip (P := Refines) hlength ih)
  | members hts =>
    exact fun v hv => accepts_intersection_iff.2 fun t ht => accepts_intersection_iff.1 hv t (hts ht)

/-- A required property becomes optional, its text free, its type list longer and the object open. -/
theorem accepts_of_widens_property :
    let nonempty : Constraints := { Constraints.empty with minLength := some 1 }
    let s : Shape := object [⟨"name", true, union [string nonempty]⟩] .forbidden
    let t : Shape := object [⟨"name", false, union [null, string .empty]⟩] .untyped
    let v : Value := .object [("name", .string "ann")]
    s.Widens t ∧ s.accepts v = true ∧ t.accepts v = true := by
  intro nonempty s t v
  have htext : Widens (string nonempty) (string .empty) := .string (by constructor <;> nofun)
  have hunion : Widens (union [string nonempty]) (union [null, string .empty]) :=
    .trans (t := union [string .empty]) (.union rfl (List.forall_mem_singleton.2 htext))
      (.alternatives (List.subset_cons_self ..))
  have hobject : s.Widens t :=
    .object (.cons ⟨rfl, nofun, trivial⟩ .nil) (List.forall_mem_singleton.2 hunion) (.forbidden _) nofun
  have hv : s.accepts v = true := by rfl
  exact ⟨hobject, hv, accepts_of_widens hobject v hv⟩

end Shape

end ContractInterface
