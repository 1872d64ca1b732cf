/-
Acceptance respects equality. Equality of values ignores the order of members and the sign of zero, and
equality of shapes that of their bounds and values as well, so both are coarser than identity. They are
symmetric where no name is repeated, and equal shapes accept equal values alike
(`Shape.accepts_respects_equality`). So nothing changes when repeated alternatives or listed values are
left out, or the members of a value reordered.
-/
import ContractInterface.Proofs.Json.NumberValue
import ContractInterface.Proofs.Schema.Unrepeated
import ContractInterface.Proofs.Shape.Acceptance
import ContractInterface.Proofs.Shape.Containment

namespace ContractInterface

open Json

/-! ## Values -/

/-- Equal values, in neither of which a name is repeated. -/
structure Json.Value.Equals (v w : Value) : Prop where
  left : v.Unrepeated
  right : w.Unrepeated
  same : v.same w = true

theorem Json.Value.Reordered.equals {v w : Value} (h : v.Reordered w) : v.Equals w :=
  ⟨h.left, h.right, h.same⟩

namespace Json.Value.Equals

variable {v w : Value}

theorem symm (h : v.Equals w) : w.Equals v := ⟨h.right, h.left, h.left.same_symm h.right h.same⟩

theorem eq_null (h : Value.null.Equals w) : w = .null := by
  have hsame := h.same
  cases w <;> simp only [Value.same, Bool.false_eq_true] at hsame
  rfl

theorem eq_bool {b : Bool} (h : (Value.bool b).Equals w) : w = .bool b := by
  have hsame := h.same
  cases w <;> simp only [Value.same, Bool.false_eq_true, beq_iff_eq] at hsame
  rw [hsame]

theorem eq_string {text : String} (h : (Value.string text).Equals w) : w = .string text := by
  have hsame := h.same
  cases w <;> simp only [Value.same, Bool.false_eq_true, beq_iff_eq] at hsame
  rw [hsame]

theorem exists_number {n : Number} (h : (Value.number n).Equals w) :
    ∃ m, w = .number m ∧ n.same m = true := by
  have hsame := h.same
  cases w <;> simp only [Value.same, Bool.false_eq_true] at hsame
  exact ⟨_, rfl, hsame⟩

/-- Equal arrays are equal place by place. -/
theorem exists_array {vs : List Value} (h : (Value.array vs).Equals w) :
    ∃ ws, w = .array ws ∧ List.Forall₂ Equals vs ws := by
  have hsame := h.same
  cases w <;> simp only [Value.same, Bool.false_eq_true] at hsame
  refine ⟨_, rfl, List.forall₂_iff_zip.2 ⟨(forall₂_of_sameItems hsame).length_eq, fun hvw => ?_⟩⟩
  obtain ⟨hv, hw⟩ := List.of_mem_zip hvw
  exact ⟨unrepeated_array_iff.1 h.left _ hv, unrepeated_array_iff.1 h.right _ hw,
    List.forall₂_zip (forall₂_of_sameItems hsame) hvw⟩

/-- A member of an object has its equal under the same name in an equal object. -/
theorem exists_lookup {ms ns : Members} (h : (Value.object ms).Equals (.object ns)) {name : String}
    {v : Value} (hv : ms.lookup name = some v) : ∃ w, ns.lookup name = some w ∧ v.Equals w := by
  have hsame := h.same
  simp only [Value.same, Bool.and_eq_true] at hsame
  have hmem := mem_of_lookup_eq_some hv
  obtain ⟨w, hw, hvw⟩ := sameMembers_iff.1 hsame.2 name v hmem
  exact ⟨w, hw, (unrepeated_object_iff.1 h.left).2 _ hmem,
    (unrepeated_object_iff.1 h.right).2 _ (mem_of_lookup_eq_some hw), hvw⟩

theorem exists_object {ms : Members} (h : (Value.object ms).Equals w) : ∃ ns, w = .object ns := by
  have hsame := h.same
  cases w <;> simp only [Value.same, Bool.false_eq_true] at hsame
  exact ⟨_, rfl⟩

end Json.Value.Equals

/-! ## Keywords -/

namespace Constraints

variable {c d : Constraints}

/-- Equal numbers keep the same bounds and formats. -/
theorem AllowsNumber.of_equal {m n : Number} (h : m.same n = true) (hm : c.AllowsNumber m) :
    c.AllowsNumber n := by
  have hkey := Number.key_toDouble_of_same h
  have hint := Number.toInt?_eq_of_value_eq (Number.value_eq_of_same h)
  refine ⟨fun l hl => ?_, fun l hl => ?_, fun l hl => ?_, fun l hl => ?_, hint ▸ hm.format⟩
  · simpa [Double.le, hkey] using hm.minimum l hl
  · simpa [Double.le, hkey] using hm.maximum l hl
  · simpa [Double.lt, hkey] using hm.exclusiveMinimum l hl
  · simpa [Double.lt, hkey] using hm.exclusiveMaximum l hl

theorem sameBound_comm (a b : Option Double) : sameBound a b = sameBound b a := by
  cases a <;> cases b <;> simp [sameBound, Double.same_comm]

theorem same_comm (c d : Constraints) : c.same d = d.same c := by
  unfold same
  simp only [sameBound_comm c.minimum, sameBound_comm c.maximum, sameBound_comm c.exclusiveMinimum,
    sameBound_comm c.exclusiveMaximum, Bool.beq_comm, eq_comm]

end Constraints

/-! ## Objects -/

/-- If equal values are permitted alike, equal objects hold the same declarations. -/
theorem HoldsObject.of_equals {α : Type} {P : α → Value → Prop} {ps : List (Property α)}
    {a : Additional α} {ms ns : Members}
    (hps : ∀ p ∈ ps, ∀ v w, v.Equals w → P p.shape v → P p.shape w)
    (ha : ∀ x ∈ a.toList, ∀ v w, v.Equals w → P x v → P x w)
    (hequals : (Value.object ms).Equals (.object ns)) (h : HoldsObject P ps a ms) :
    HoldsObject P ps a ns := by
  -- every member of the one object stands for a member of the other
  have hback : ∀ n ∈ ns, ∃ v, (n.1, v) ∈ ms ∧ v.Equals n.2 := fun n hn => by
    have hlookup := (lookup_eq_some_iff_mem (Value.unrepeated_object_iff.1 hequals.right).1).2 hn
    obtain ⟨v, hv, hnv⟩ := hequals.symm.exists_lookup hlookup
    exact ⟨v, mem_of_lookup_eq_some hv, hnv.symm⟩
  refine ⟨fun p hp w hw => ?_, fun p hp hnone => ?_, fun n hn hname => ?_, fun n hn hname x hx => ?_⟩
  · obtain ⟨v, hv, hwv⟩ := hequals.symm.exists_lookup hw
    exact hps p hp v w hwv.symm (h.present p hp v hv)
  · refine h.absent p hp (Option.eq_none_iff_forall_ne_some.2 fun v hv => ?_)
    obtain ⟨w, hw, -⟩ := hequals.exists_lookup hv
    cases hnone.symm.trans hw
  · obtain ⟨v, hv, -⟩ := hback n hn
    exact h.allowed _ hv hname
  · obtain ⟨v, hv, hvn⟩ := hback n hn
    exact ha x hx v n.2 hvn (h.others _ hv hname x hx)

namespace Shape

/-! ## Equal shapes -/

/-- No name is repeated in a value that the shape names, or a shape in it. -/
def Unrepeated (s : Shape) : Prop :=
  ∀ t, s.Contains t → ∀ vs ∈ t.closedValues?, ∀ v ∈ vs, v.Unrepeated

theorem unrepeated_iff {s : Shape} : s.Unrepeated ↔
    (∀ vs ∈ s.closedValues?, ∀ v ∈ vs, v.Unrepeated) ∧ ∀ t ∈ s.children, t.Unrepeated :=
  forall_contains_iff (P := fun s => ∀ vs ∈ s.closedValues?, ∀ v ∈ vs, v.Unrepeated)

theorem Unrepeated.child {s t : Shape} (h : s.Unrepeated) (ht : t ∈ s.children) : t.Unrepeated :=
  (unrepeated_iff.1 h).2 t ht

theorem Unrepeated.named {s : Shape} (h : s.Unrepeated) {vs : List Value}
    (hvs : s.closedValues? = some vs) : ∀ v ∈ vs, v.Unrepeated :=
  (unrepeated_iff.1 h).1 vs hvs

theorem sameAll_symm : ∀ {ss ts : List Shape},
    (∀ s ∈ ss, ∀ t ∈ ts, s.same t = true → t.same s = true) → sameAll ss ts = true →
      sameAll ts ss = true
  | [], [], _, _ => rfl
  | s :: ss, t :: ts, hsymm, h => by
    simp only [sameAll, Bool.and_eq_true] at h ⊢
    refine ⟨hsymm s (List.mem_cons_self ..) t (List.mem_cons_self ..) h.1, ?_⟩
    exact sameAll_symm (fun s hs t ht => hsymm s (List.mem_cons_of_mem _ hs) t
      (List.mem_cons_of_mem _ ht)) h.2

theorem sameProperties_symm : ∀ {ps qs : List (Property Shape)},
    (∀ p ∈ ps, ∀ q ∈ qs, p.shape.same q.shape = true → q.shape.same p.shape = true) →
      sameProperties ps qs = true → sameProperties qs ps = true
  | [], [], _, _ => rfl
  | p :: ps, q :: qs, hsymm, h => by
    simp only [sameProperties, Bool.and_eq_true, beq_iff_eq] at h ⊢
    obtain ⟨⟨⟨hname, hrequired⟩, hshape⟩, hrest⟩ := h
    refine ⟨⟨⟨hname.symm, hrequired.symm⟩,
      hsymm p (List.mem_cons_self ..) q (List.mem_cons_self ..) hshape⟩, ?_⟩
    exact sameProperties_symm (fun p hp q hq => hsymm p (List.mem_cons_of_mem _ hp) q
      (List.mem_cons_of_mem _ hq)) hrest

theorem sameAdditional_symm {a b : Additional Shape}
    (hsymm : ∀ s ∈ a.toList, ∀ t ∈ b.toList, s.same t = true → t.same s = true)
    (h : sameAdditional a b = true) : sameAdditional b a = true := by
  cases a <;> cases b <;> simp only [sameAdditional, Bool.false_eq_true] at h ⊢
  exact hsymm _ (List.mem_singleton_self _) _ (List.mem_singleton_self _) h

/-- Equality of shapes that repeat no name is symmetric. -/
theorem same_symm {s : Shape} (hs : s.Unrepeated) : ∀ {t : Shape}, t.Unrepeated → s.same t = true →
    t.same s = true := by
  induction s using childInduction with
  | step s ih =>
    intro t ht h
    have hchild : ∀ s' ∈ s.children, ∀ t' ∈ t.children, s'.same t' = true → t'.same s' = true :=
      fun s' hs' t' ht' => ih s' hs' (hs.child hs') (ht.child ht')
    cases s <;> cases t <;> simp only [same, Bool.false_eq_true, Bool.and_eq_true] at h ⊢
    case number | string => rwa [Constraints.same_comm]
    case literal v w =>
      exact (hs.named rfl v (List.mem_singleton_self v)).same_symm
        (ht.named rfl w (List.mem_singleton_self w)) h
    case enum vs ws =>
      exact Value.sameItems_symm (fun v hv w hw => (hs.named rfl v hv).same_symm (ht.named rfl w hw)) h
    case object ps a qs b =>
      refine ⟨sameProperties_symm (fun p hp q hq => ?_) h.1,
        sameAdditional_symm (fun s hs t ht => ?_) h.2⟩
      · exact hchild _ (List.mem_append_left _ (List.mem_map_of_mem hp)) _
          (List.mem_append_left _ (List.mem_map_of_mem hq))
      · exact hchild s (List.mem_append_right _ hs) t (List.mem_append_right _ ht)
    case list =>
      exact ⟨hchild _ (List.mem_singleton_self _) _ (List.mem_singleton_self _) h.1,
        (Constraints.same_comm _ _).symm ▸ h.2⟩
    case tuple | union | intersection => exact sameAll_symm hchild h

/-- Equal shapes, in neither of which a name is repeated. -/
structure Equals (s t : Shape) : Prop where
  left : s.Unrepeated
  right : t.Unrepeated
  same : s.same t = true

theorem Equals.symm {s t : Shape} (h : s.Equals t) : t.Equals s :=
  ⟨h.right, h.left, same_symm h.left h.right h.same⟩

/-! ## Acceptance -/

/-- What a shape accepts, it does in every equal form. -/
theorem accepts_of_equals (s : Shape) : ∀ {v w : Value}, v.Equals w → s.accepts v = true →
    s.accepts w = true := by
  induction s using childInduction with
  | step s ih =>
    intro v w h hv
    cases s with
    | any => rfl
    | null =>
      obtain rfl := accepts_null_iff.1 hv
      exact accepts_null_iff.2 h.eq_null
    | bool =>
      obtain ⟨b, rfl⟩ := accepts_bool_iff.1 hv
      exact accepts_bool_iff.2 ⟨b, h.eq_bool⟩
    | number c =>
      obtain ⟨n, rfl, hn⟩ := accepts_number_iff.1 hv
      obtain ⟨m, rfl, hnm⟩ := h.exists_number
      exact accepts_number_iff.2 ⟨m, rfl, hn.of_equal hnm⟩
    | string c =>
      obtain ⟨text, rfl, htext⟩ := accepts_string_iff.1 hv
      exact accepts_string_iff.2 ⟨text, h.eq_string, htext⟩
    | literal c => exact accepts_literal_iff.2 (Value.same_trans (accepts_literal_iff.1 hv) h.same)
    | enum cs =>
      obtain ⟨c, hc, hcv⟩ := accepts_enum_iff.1 hv
      exact accepts_enum_iff.2 ⟨c, hc, Value.same_trans hcv h.same⟩
    | object ps a =>
      obtain ⟨ms, rfl, hms⟩ := accepts_object_iff.1 hv
      obtain ⟨ns, rfl⟩ := h.exists_object
      refine accepts_object_iff.2
        ⟨ns, rfl, hms.of_equals (fun p hp v w hvw => ?_) (fun t ht v w hvw => ?_) h⟩
      · exact ih p.shape (List.mem_append_left _ (List.mem_map_of_mem hp)) hvw
      · exact ih t (List.mem_append_right _ ht) hvw
    | tuple ss =>
      obtain ⟨vs, rfl, hvs⟩ := accepts_tuple_iff.1 hv
      obtain ⟨ws, rfl, hvws⟩ := h.exists_array
      have hss : List.Forall₂ (fun t v => t ∈ ss ∧ t.accepts v = true) ss vs :=
        (List.forall₂_and_left ..).2 ⟨fun _ ht => ht, hvs⟩
      refine accepts_tuple_iff.2 ⟨ws, rfl, forall₂_of_forall₂ ?_ hss.flip hvws⟩
      rintro v t w ⟨ht, htv⟩ hvw
      exact ih t ht hvw htv
    | list t c =>
      obtain ⟨vs, rfl, hcount, hvs⟩ := accepts_list_iff.1 hv
      obtain ⟨ws, rfl, hvws⟩ := h.exists_array
      refine accepts_list_iff.2 ⟨ws, rfl, hvws.length_eq ▸ hcount, fun w hw => ?_⟩
      obtain ⟨v, hv, hvw⟩ := exists_mem_of_forall₂ hvws.flip w hw
      exact ih t (List.mem_singleton_self t) hvw (hvs v hv)
    | union ss =>
      obtain ⟨t, ht, htv⟩ := accepts_union_iff.1 hv
      exact accepts_union_iff.2 ⟨t, ht, ih t ht h htv⟩
    | intersection ss =>
      exact accepts_intersection_iff.2 fun t ht => ih t ht h (accepts_intersection_iff.1 hv t ht)

/-- Equal shapes accept equal values alike. -/
theorem Equals.accepts_eq {s t : Shape} (hst : s.Equals t) {v w : Value} (hvw : v.Equals w) :
    s.accepts v = t.accepts w := by
  rw [Bool.eq_iff_iff]
  constructor
  · exact fun h => refines_of_same hst.symm.same w (accepts_of_equals s hvw h)
  · exact fun h => refines_of_same hst.same v (accepts_of_equals t hvw.symm h)

/-- Acceptance respects equality of shapes and of values. It is not changed when alternatives of a type list
that equal an earlier one are left out, or listed values that do, or when the members of a value are
reordered at any depth. -/
theorem accepts_respects_equality {s t : Shape} {v w : Value} (hst : s.Equals t) (hvw : v.Equals w) :
    s.accepts v = t.accepts w ∧
      (∀ (ss : List Shape) (u : Value), (ofTypeList ss).accepts u = (ofAlternatives ss).accepts u) ∧
      (∀ (vs : List Value) (u : Value), (enum (Value.distinct vs)).accepts u = (enum vs).accepts u) ∧
      ∀ (k : Shape) (u u' : Value), u.Reordered u' → k.accepts u = k.accepts u' := by
  refine ⟨hst.accepts_eq hvw, fun ss u => ?_, fun vs u => ?_, fun k u u' h => ?_⟩
  · rw [Bool.eq_iff_iff, accepts_ofTypeList_iff, accepts_ofAlternatives_iff]
  · rw [Bool.eq_iff_iff, accepts_enum_iff, accepts_enum_iff, Value.any_same_distinct]
  · rw [Bool.eq_iff_iff]
    exact ⟨accepts_of_equals k h.equals, accepts_of_equals k h.symm.equals⟩

/-- Bounds and numbers that are zeros of either sign, and members in either order. -/
theorem accepts_respects_equality_zero :
    let s : Bool → Shape := fun negative =>
      object [⟨"x", true, number { Constraints.empty with minimum := some (.zero negative) }⟩] .untyped
    let v : Value := .object [("x", .number (.double (.zero false))), ("y", .null)]
    let w : Value := .object [("y", .null), ("x", .number (.double (.zero true)))]
    (s true).Equals (s false) ∧ v.Equals w ∧ (s true).accepts v = (s false).accepts w := by
  intro s v w
  have hunrepeated : ∀ negative, (s negative).Unrepeated := fun negative =>
    unrepeated_iff.2 ⟨nofun, List.forall_mem_singleton.2 (unrepeated_iff.2 ⟨nofun, nofun⟩)⟩
  have hs : (s true).Equals (s false) := ⟨hunrepeated true, hunrepeated false, by rfl⟩
  have hvw : v.Equals w := ⟨by simp [v], by simp [w], by rfl⟩
  exact ⟨hs, hvw, (accepts_respects_equality hs hvw).1⟩

end Shape

end ContractInterface
