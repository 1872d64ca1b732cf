/-
What a shape accepts, kind by kind. A check passes if each of its parts does, so acceptance is a
condition on the parts of the shape and of the value, whatever order the checks are made in. Equal
shapes accept the same values, and leaving out repeated alternatives changes nothing
(`Shape.accepts_ofTypeList_iff`).
-/
import ContractInterface.Proofs.Json.Equality
import ContractInterface.Proofs.Schema.Reach
import ContractInterface.Shape.Conformance

namespace ContractInterface

open Json

/-! ## Checks that pass -/

namespace Check

@[simp] theorem passes_ok : passes (.ok ()) = true := rfl

@[simp] theorem passes_fail (cause : Cause) : (fail cause).passes = false := rfl

@[simp] theorem passes_ensure (condition : Bool) (cause : Cause) :
    (ensure condition cause).passes = condition := by
  cases condition <;> rfl

@[simp] theorem passes_under (step : Step) (c : Check) : (c.under step).passes = c.passes := by
  cases c <;> rfl

@[simp] theorem passes_bind (c : Check) (next : Unit → Check) :
    passes (c >>= next) = (c.passes && (next ()).passes) := by
  cases c <;> rfl

@[simp] theorem passes_within_iff {α : Type} {limit : Option α} {check : α → Check} :
    (within limit check).passes = true ↔ ∀ l ∈ limit, (check l).passes = true := by
  cases limit <;> simp [within]

end Check

/-! ## Keywords -/

/-- Doubles are totally ordered. -/
theorem Double.not_lt (x y : Double) : (!x.lt y) = y.le x := by
  simp [lt, le, ← decide_not]

theorem Double.not_le (x y : Double) : (!x.le y) = y.lt x := by
  simp [lt, le, ← decide_not]

namespace Constraints

/-- The number keeps the bounds, as the nearest double, and lies in the range of the format, if that is
one of integers. -/
structure AllowsNumber (c : Constraints) (n : Number) : Prop where
  minimum : ∀ l ∈ c.minimum, l.le n.toDouble = true
  maximum : ∀ l ∈ c.maximum, n.toDouble.le l = true
  exclusiveMinimum : ∀ l ∈ c.exclusiveMinimum, l.lt n.toDouble = true
  exclusiveMaximum : ∀ l ∈ c.exclusiveMaximum, n.toDouble.lt l = true
  format : ∀ format ∈ c.format, ∀ range ∈ IntegerRange.ofFormat? format,
    ∃ i ∈ n.toInt?, range.contains i = true

/-- The text has a length in the bounds and matches the pattern. -/
structure AllowsText (c : Constraints) (s : String) : Prop where
  minLength : ∀ l ∈ c.minLength, l ≤ s.length
  maxLength : ∀ l ∈ c.maxLength, s.length ≤ l
  pattern : ∀ p ∈ c.pattern, p.matchesText s = true

/-- The number of items lies in the bounds. -/
structure AllowsCount (c : Constraints) (count : Nat) : Prop where
  minItems : ∀ l ∈ c.minItems, l ≤ count
  maxItems : ∀ l ∈ c.maxItems, count ≤ l

theorem passes_checkBounds_iff {c : Constraints} {x : Double} :
    (c.checkBounds x).passes = true ↔ (∀ l ∈ c.minimum, l.le x = true) ∧
      (∀ l ∈ c.maximum, x.le l = true) ∧ (∀ l ∈ c.exclusiveMinimum, l.lt x = true) ∧
      ∀ l ∈ c.exclusiveMaximum, x.lt l = true := by
  simp only [checkBounds, Check.passes_bind, Bool.and_eq_true, Check.passes_within_iff,
    Check.passes_ensure, Double.not_lt, Double.not_le]

theorem passes_checkFormat_iff {c : Constraints} {n : Number} :
    (c.checkFormat n).passes = true ↔ ∀ format ∈ c.format,
      ∀ range ∈ IntegerRange.ofFormat? format, ∃ i ∈ n.toInt?, range.contains i = true := by
  unfold checkFormat
  cases n.toInt? <;> simp

theorem passes_checkNumber_iff {c : Constraints} {n : Number} :
    (c.checkNumber n).passes = true ↔ c.AllowsNumber n := by
  simp only [checkNumber, Check.passes_bind, Bool.and_eq_true, passes_checkBounds_iff,
    passes_checkFormat_iff]
  exact ⟨fun ⟨⟨hmin, hmax, hmin', hmax'⟩, hformat⟩ => ⟨hmin, hmax, hmin', hmax', hformat⟩,
    fun ⟨hmin, hmax, hmin', hmax', hformat⟩ => ⟨⟨hmin, hmax, hmin', hmax'⟩, hformat⟩⟩

theorem passes_checkString_iff {c : Constraints} {s : String} :
    (c.checkString s).passes = true ↔ c.AllowsText s := by
  simp only [checkString, Check.passes_bind, Bool.and_eq_true, Check.passes_within_iff,
    Check.passes_ensure, decide_eq_true_eq]
  exact ⟨fun ⟨hmin, hmax, hp⟩ => ⟨hmin, hmax, hp⟩, fun ⟨hmin, hmax, hp⟩ => ⟨hmin, hmax, hp⟩⟩

theorem passes_checkCount_iff {c : Constraints} {count : Nat} :
    (c.checkCount count).passes = true ↔ c.AllowsCount count := by
  simp only [checkCount, Check.passes_bind, Bool.and_eq_true, Check.passes_within_iff,
    Check.passes_ensure, decide_eq_true_eq]
  exact ⟨fun ⟨hmin, hmax⟩ => ⟨hmin, hmax⟩, fun ⟨hmin, hmax⟩ => ⟨hmin, hmax⟩⟩

end Constraints

/-! ## Objects -/

/-- Declarations of one name, required alike, whose parts are related. -/
structure Property.Rel {α β : Type} (R : α → β → Prop) (p : Property α) (q : Property β) : Prop where
  name : p.name = q.name
  required : p.required = q.required
  shape : R p.shape q.shape

theorem Property.Rel.flip {α β : Type} {R : α → β → Prop} {p : Property α} {q : Property β}
    (h : Property.Rel R p q) : Property.Rel (fun y x => R x y) q p :=
  ⟨h.name.symm, h.required.symm, h.shape⟩

/-- The members hold the declarations, where `P` tells the values that a part permits: a property that
is present is permitted, none that is absent is required, and every other member is permitted by the
policy. -/
structure HoldsObject {α : Type} (P : α → Value → Prop) (ps : List (Property α)) (a : Additional α)
    (members : Members) : Prop where
  present : ∀ p ∈ ps, ∀ v, members.lookup p.name = some v → P p.shape v
  absent : ∀ p ∈ ps, members.lookup p.name = none → p.required = false
  allowed : ∀ m ∈ members, m.1 ∉ ps.map (·.name) → a ≠ .forbidden
  others : ∀ m ∈ members, m.1 ∉ ps.map (·.name) → ∀ x ∈ a.toList, P x m.2

/-- Declarations of one name with related parts, of which the second is required only if the first is. -/
structure Property.Looser {α β : Type} (R : α → β → Prop) (p : Property α) (q : Property β) : Prop where
  name : p.name = q.name
  required : q.required = true → p.required = true
  shape : R p.shape q.shape

/-- The second policy lets through what the first does, where both look at values by related parts. -/
inductive Additional.Looser {α β : Type} (R : α → β → Prop) : Additional α → Additional β → Prop
  | forbidden (b : Additional β) : Looser R .forbidden b
  | typed {a : α} {b : β} : R a b → Looser R (.typed a) (.typed b)
  | untyped (a : Additional α) : Looser R a .untyped

section HoldsObject

variable {α β : Type} {R : α → β → Prop}

theorem Property.Rel.looser {p : Property α} {q : Property β} (h : Property.Rel R p q) :
    Property.Looser R p q := ⟨h.name, fun hq => h.required ▸ hq, h.shape⟩

theorem Additional.Rel.looser {a : Additional α} {b : Additional β} (h : Additional.Rel R a b) :
    Additional.Looser R a b := by
  cases h with
  | forbidden => exact .forbidden _
  | typed h => exact .typed h
  | untyped => exact .untyped _

theorem map_name_of_looser {ps : List (Property α)} {qs : List (Property β)}
    (h : List.Forall₂ (Property.Looser R) ps qs) : ps.map (·.name) = qs.map (·.name) := by
  rw [← List.forall₂_eq_eq_eq, List.forall₂_map_left_iff, List.forall₂_map_right_iff]
  exact h.imp fun _ _ hpq => hpq.name

/-- Members that hold declarations hold looser ones, if the parts permit no less. -/
theorem HoldsObject.of_looser {P : α → Value → Prop} {Q : β → Value → Prop}
    (hR : ∀ x y v, R x y → P x v → Q y v) {ps : List (Property α)} {qs : List (Property β)}
    {a : Additional α} {b : Additional β} {members : Members}
    (hps : List.Forall₂ (Property.Looser R) ps qs) (ha : Additional.Looser R a b)
    (h : HoldsObject P ps a members) : HoldsObject Q qs b members where
  present q hq v hv := by
    obtain ⟨p, hp, hpq⟩ := exists_mem_of_forall₂ hps.flip q hq
    exact hR _ _ v hpq.shape (h.present p hp v (hpq.name ▸ hv))
  absent q hq hv := by
    obtain ⟨p, hp, hpq⟩ := exists_mem_of_forall₂ hps.flip q hq
    have hfree : p.required = false := h.absent p hp (hpq.name ▸ hv)
    exact Bool.eq_false_iff.2 fun hq => Bool.false_ne_true (hfree ▸ hpq.required hq)
  allowed m hm hn := by
    have hallowed := h.allowed m hm (map_name_of_looser hps ▸ hn)
    cases ha with
    | forbidden => exact absurd rfl hallowed
    | typed | untyped => simp
  others m hm hn y hy := by
    have hothers := h.others m hm (map_name_of_looser hps ▸ hn)
    cases ha with
    | forbidden => exact absurd rfl (h.allowed m hm (map_name_of_looser hps ▸ hn))
    | untyped => cases hy
    | typed hxy =>
      obtain rfl := List.mem_singleton.1 hy
      exact hR _ _ _ hxy (hothers _ (List.mem_singleton_self _))

/-- Declarations whose parts permit no less hold as well. -/
theorem HoldsObject.imp {P : α → Value → Prop} {Q : β → Value → Prop}
    (hR : ∀ x y v, R x y → P x v → Q y v) {ps : List (Property α)} {qs : List (Property β)}
    {a : Additional α} {b : Additional β} {members : Members}
    (hps : List.Forall₂ (Property.Rel R) ps qs) (ha : Additional.Rel R a b)
    (h : HoldsObject P ps a members) : HoldsObject Q qs b members :=
  h.of_looser hR (hps.imp fun _ _ hpq => hpq.looser) ha.looser

end HoldsObject

/-! ## Parts -/

namespace Shape

theorem passes_checkItems_iff {check : Value → Check} : ∀ {n : Nat} {vs : List Value},
    (checkItems check n vs).passes = true ↔ ∀ v ∈ vs, (check v).passes = true
  | _, [] => by simp [checkItems]
  | n, v :: vs => by simp [checkItems, @passes_checkItems_iff check (n + 1) vs]

theorem passes_checkElements_iff : ∀ {n : Nat} {ss : List Shape} {vs : List Value},
    vs.length = ss.length →
      ((checkElements n ss vs).passes = true ↔ List.Forall₂ (fun s v => s.accepts v = true) ss vs)
  | _, [], [], _ => by simp [checkElements]
  | n, s :: ss, v :: vs, h => by
    simp [checkElements, @passes_checkElements_iff (n + 1) ss vs (by simpa using h), accepts]

theorem acceptsSome_iff : ∀ {ss : List Shape} {v : Value},
    acceptsSome ss v = true ↔ ∃ s ∈ ss, s.accepts v = true
  | [], _ => by simp [acceptsSome]
  | s :: ss, v => by simp [acceptsSome, @acceptsSome_iff ss v, accepts]

theorem passes_checkAll_iff : ∀ {ss : List Shape} {v : Value},
    (checkAll ss v).passes = true ↔ ∀ s ∈ ss, s.accepts v = true
  | [], _ => by simp [checkAll]
  | s :: ss, v => by simp [checkAll, @passes_checkAll_iff ss v, accepts]

/-- Every declared property that is present holds its shape, and none that is absent is required. -/
theorem passes_checkProperties_iff {members : Members} : ∀ {ps : List (Property Shape)},
    (checkProperties ps members).passes = true ↔ ∀ p ∈ ps,
      (∀ v, members.lookup p.name = some v → p.shape.accepts v = true) ∧
        (members.lookup p.name = none → p.required = false)
  | [] => by simp [checkProperties]
  | ⟨name, required, shape⟩ :: ps => by
    have ih := @passes_checkProperties_iff members ps
    rw [List.forall_mem_cons, ← ih, checkProperties]
    cases members.lookup name <;> simp [accepts]

/-- Every member that is not declared is one that the policy lets through. -/
theorem passes_checkExtras_iff {declared : List String} {policy : Additional (Value → Check)} :
    ∀ {members : Members}, (checkExtras declared policy members).passes = true ↔
      ∀ m ∈ members, m.1 ∉ declared →
        policy ≠ .forbidden ∧ ∀ check ∈ policy.toList, (check m.2).passes = true
  | [] => by simp [checkExtras]
  | (key, v) :: members => by
    have ih := @passes_checkExtras_iff declared policy members
    rw [List.forall_mem_cons, ← ih]
    by_cases hkey : key ∈ declared
    · cases policy <;> simp [checkExtras, hkey]
    · cases policy <;> simp [checkExtras, hkey, Additional.toList]

theorem checkAdditional_ne_forbidden_iff {a : Additional Shape} :
    checkAdditional a ≠ .forbidden ↔ a ≠ .forbidden := by
  cases a <;> simp [checkAdditional]

theorem toList_checkAdditional (a : Additional Shape) :
    (checkAdditional a).toList = a.toList.map check := by
  cases a <;> rfl

/-! ## Shapes -/

theorem accepts_any (v : Value) : accepts .any v = true := rfl

theorem accepts_null_iff {v : Value} : accepts .null v = true ↔ v = .null := by
  show (Check.ensure v.isNull _).passes = true ↔ _
  cases v <;> simp [Value.isNull]

theorem accepts_bool_iff {v : Value} : accepts .bool v = true ↔ ∃ b, v = .bool b := by
  constructor
  · intro h
    cases v with
    | bool b => exact ⟨b, rfl⟩
    | null | number | string | array | object => exact absurd h Bool.false_ne_true
  · rintro ⟨b, rfl⟩
    rfl

theorem accepts_number_iff {c : Constraints} {v : Value} :
    (number c).accepts v = true ↔ ∃ n, v = .number n ∧ c.AllowsNumber n := by
  constructor
  · intro h
    cases v with
    | number n => exact ⟨n, rfl, Constraints.passes_checkNumber_iff.1 h⟩
    | null | bool | string | array | object => exact absurd h Bool.false_ne_true
  · rintro ⟨n, rfl, h⟩
    exact Constraints.passes_checkNumber_iff.2 h

theorem accepts_string_iff {c : Constraints} {v : Value} :
    (string c).accepts v = true ↔ ∃ s, v = .string s ∧ c.AllowsText s := by
  constructor
  · intro h
    cases v with
    | string s => exact ⟨s, rfl, Constraints.passes_checkString_iff.1 h⟩
    | null | bool | number | array | object => exact absurd h Bool.false_ne_true
  · rintro ⟨s, rfl, h⟩
    exact Constraints.passes_checkString_iff.2 h

theorem accepts_literal_iff {c v : Value} : (literal c).accepts v = true ↔ c.same v = true := by
  show (Check.ensure (c.same v) _).passes = true ↔ _
  rw [Check.passes_ensure]

theorem accepts_enum_iff {cs : List Value} {v : Value} :
    (enum cs).accepts v = true ↔ ∃ c ∈ cs, c.same v = true := by
  show (Check.ensure (cs.any (·.same v)) _).passes = true ↔ _
  rw [Check.passes_ensure, List.any_eq_true]

theorem accepts_object_iff {ps : List (Property Shape)} {a : Additional Shape} {v : Value} :
    (object ps a).accepts v = true ↔ ∃ members, v = .object members ∧
      HoldsObject (fun s v => s.accepts v = true) ps a members := by
  have hmembers : ∀ members, (object ps a).accepts (.object members) = true ↔
      HoldsObject (fun s v => s.accepts v = true) ps a members := fun members => by
    show Check.passes (checkProperties ps members >>= fun _ =>
      checkExtras (ps.map (·.name)) (checkAdditional a) members) = true ↔ _
    rw [Check.passes_bind, Bool.and_eq_true, passes_checkProperties_iff, passes_checkExtras_iff,
      checkAdditional_ne_forbidden_iff, toList_checkAdditional]
    simp only [List.forall_mem_map]
    exact ⟨fun ⟨hps, hms⟩ => ⟨fun p hp => (hps p hp).1, fun p hp => (hps p hp).2,
        fun m hm hn => (hms m hm hn).1, fun m hm hn => (hms m hm hn).2⟩,
      fun h => ⟨fun p hp => ⟨h.present p hp, h.absent p hp⟩,
        fun m hm hn => ⟨h.allowed m hm hn, h.others m hm hn⟩⟩⟩
  constructor
  · intro h
    cases v with
    | object members => exact ⟨members, rfl, (hmembers members).1 h⟩
    | null | bool | number | string | array => exact absurd h Bool.false_ne_true
  · rintro ⟨members, rfl, h⟩
    exact (hmembers members).2 h

theorem accepts_tuple_iff {ss : List Shape} {v : Value} :
    (tuple ss).accepts v = true ↔
      ∃ vs, v = .array vs ∧ List.Forall₂ (fun s v => s.accepts v = true) ss vs := by
  have hitems : ∀ vs, (tuple ss).accepts (.array vs) = true ↔
      List.Forall₂ (fun s v => s.accepts v = true) ss vs := fun vs => by
    show Check.passes (Check.ensure (vs.length == ss.length) _ >>= fun _ =>
      checkElements 0 ss vs) = true ↔ _
    rw [Check.passes_bind, Check.passes_ensure, Bool.and_eq_true, beq_iff_eq]
    refine ⟨fun ⟨hlength, h⟩ => (passes_checkElements_iff hlength).1 h, fun h => ?_⟩
    exact ⟨h.length_eq.symm, (passes_checkElements_iff h.length_eq.symm).2 h⟩
  constructor
  · intro h
    cases v with
    | array vs => exact ⟨vs, rfl, (hitems vs).1 h⟩
    | null | bool | number | string | object => exact absurd h Bool.false_ne_true
  · rintro ⟨vs, rfl, h⟩
    exact (hitems vs).2 h

theorem accepts_list_iff {items : Shape} {c : Constraints} {v : Value} :
    (list items c).accepts v = true ↔ ∃ vs, v = .array vs ∧ c.AllowsCount vs.length ∧
      ∀ v ∈ vs, items.accepts v = true := by
  have hitems : ∀ vs, (list items c).accepts (.array vs) = true ↔
      c.AllowsCount vs.length ∧ ∀ v ∈ vs, items.accepts v = true := fun vs => by
    show Check.passes (c.checkCount vs.length >>= fun _ =>
      checkItems items.check 0 vs) = true ↔ _
    rw [Check.passes_bind, Bool.and_eq_true, Constraints.passes_checkCount_iff,
      passes_checkItems_iff]
    rfl
  constructor
  · intro h
    cases v with
    | array vs => exact ⟨vs, rfl, (hitems vs).1 h⟩
    | null | bool | number | string | object => exact absurd h Bool.false_ne_true
  · rintro ⟨vs, rfl, h⟩
    exact (hitems vs).2 h

theorem accepts_union_iff {ss : List Shape} {v : Value} :
    (union ss).accepts v = true ↔ ∃ s ∈ ss, s.accepts v = true := by
  show (Check.ensure (acceptsSome ss v) _).passes = true ↔ _
  rw [Check.passes_ensure, acceptsSome_iff]

theorem accepts_intersection_iff {ss : List Shape} {v : Value} :
    (intersection ss).accepts v = true ↔ ∀ s ∈ ss, s.accepts v = true := passes_checkAll_iff

end Shape

/-! ## Equal shapes -/

namespace Constraints

variable {c d : Constraints}

/-- A bound has its counterpart among equal constraints. -/
theorem exists_key_eq_of_sameBound {a b : Option Double} (h : sameBound a b = true) :
    ∀ l ∈ a, ∃ m ∈ b, m.key = l.key := by
  intro l hl
  cases a with
  | none => cases hl
  | some x =>
    obtain rfl := Option.some.inj hl
    cases b with
    | none => cases h
    | some y => exact ⟨y, rfl, (beq_iff_eq.1 h).symm⟩

theorem AllowsNumber.of_same {n : Number} (h : c.same d = true) (hd : d.AllowsNumber n) :
    c.AllowsNumber n := by
  simp only [same, Bool.and_eq_true, beq_iff_eq, decide_eq_true_eq] at h
  obtain ⟨⟨⟨⟨⟨⟨⟨⟨⟨hmin, hmax⟩, hmin'⟩, hmax'⟩, hformat⟩, -⟩, -⟩, -⟩, -⟩, -⟩ := h
  refine ⟨fun l hl => ?_, fun l hl => ?_, fun l hl => ?_, fun l hl => ?_, hformat ▸ hd.format⟩
  · obtain ⟨m, hm, hkey⟩ := exists_key_eq_of_sameBound hmin l hl
    simpa [Double.le, hkey] using hd.minimum m hm
  · obtain ⟨m, hm, hkey⟩ := exists_key_eq_of_sameBound hmax l hl
    simpa [Double.le, hkey] using hd.maximum m hm
  · obtain ⟨m, hm, hkey⟩ := exists_key_eq_of_sameBound hmin' l hl
    simpa [Double.lt, hkey] using hd.exclusiveMinimum m hm
  · obtain ⟨m, hm, hkey⟩ := exists_key_eq_of_sameBound hmax' l hl
    simpa [Double.lt, hkey] using hd.exclusiveMaximum m hm

theorem AllowsText.of_same {s : String} (h : c.same d = true) (hd : d.AllowsText s) :
    c.AllowsText s := by
  simp only [same, Bool.and_eq_true, beq_iff_eq, decide_eq_true_eq] at h
  obtain ⟨⟨⟨⟨⟨-, hmin⟩, hmax⟩, hpattern⟩, -⟩, -⟩ := h
  exact ⟨hmin ▸ hd.minLength, hmax ▸ hd.maxLength, hpattern ▸ hd.pattern⟩

theorem AllowsCount.of_same {count : Nat} (h : c.same d = true) (hd : d.AllowsCount count) :
    c.AllowsCount count := by
  simp only [same, Bool.and_eq_true, beq_iff_eq, decide_eq_true_eq] at h
  obtain ⟨⟨-, hmin⟩, hmax⟩ := h
  exact ⟨hmin ▸ hd.minItems, hmax ▸ hd.maxItems⟩

end Constraints

namespace Shape

/-- Whatever `s` accepts, `k` does. -/
def Refines (s k : Shape) : Prop := ∀ v, s.accepts v = true → k.accepts v = true

theorem Refines.of_looser {ps qs : List (Property Shape)} {a b : Additional Shape}
    (hps : List.Forall₂ (Property.Looser Refines) ps qs) (ha : Additional.Looser Refines a b) :
    (Shape.object ps a).Refines (.object qs b) := by
  intro v hv
  obtain ⟨members, rfl, h⟩ := accepts_object_iff.1 hv
  exact accepts_object_iff.2 ⟨members, rfl, h.of_looser (fun _ _ v hst => hst v) hps ha⟩

theorem Refines.object {ps qs : List (Property Shape)} {a b : Additional Shape}
    (hps : List.Forall₂ (Property.Rel Refines) ps qs) (ha : Additional.Rel Refines a b) :
    (object ps a).Refines (object qs b) := .of_looser (hps.imp fun _ _ h => h.looser) ha.looser

theorem Refines.tuple {ss ks : List Shape} (h : List.Forall₂ Refines ss ks) :
    (tuple ss).Refines (tuple ks) := by
  intro v hv
  obtain ⟨vs, rfl, hvs⟩ := accepts_tuple_iff.1 hv
  exact accepts_tuple_iff.2 ⟨vs, rfl, forall₂_of_forall₂ (fun _ _ v hst => hst v) h hvs⟩

theorem Refines.list {s k : Shape} {c d : Constraints} (h : s.Refines k)
    (hc : ∀ count, c.AllowsCount count → d.AllowsCount count) : (list s c).Refines (list k d) := by
  intro v hv
  obtain ⟨vs, rfl, hcount, hvs⟩ := accepts_list_iff.1 hv
  exact accepts_list_iff.2 ⟨vs, rfl, hc _ hcount, fun v hv => h v (hvs v hv)⟩

theorem Refines.union {ss ks : List Shape} (h : List.Forall₂ Refines ss ks) :
    (union ss).Refines (union ks) := by
  intro v hv
  obtain ⟨s, hs, hv⟩ := accepts_union_iff.1 hv
  obtain ⟨k, hk, hsk⟩ := exists_mem_of_forall₂ h s hs
  exact accepts_union_iff.2 ⟨k, hk, hsk v hv⟩

theorem Refines.intersection {ss ks : List Shape} (h : List.Forall₂ Refines ss ks) :
    (intersection ss).Refines (intersection ks) := by
  intro v hv
  refine accepts_intersection_iff.2 fun k hk => ?_
  obtain ⟨s, hs, hsk⟩ := exists_mem_of_forall₂ h.flip k hk
  exact hsk v (accepts_intersection_iff.1 hv s hs)

mutual

/-- What accepts a value still does when an equal shape stands in its place. -/
theorem refines_of_same : ∀ {k s : Shape}, k.same s = true → s.Refines k
  | .any, _, _ => fun _ _ => rfl
  | .null, s, h => by
    cases s <;> simp only [same, Bool.false_eq_true] at h
    exact fun _ hv => hv
  | .bool, s, h => by
    cases s <;> simp only [same, Bool.false_eq_true] at h
    exact fun _ hv => hv
  | .number c, s, h => by
    cases s <;> simp only [same, Bool.false_eq_true] at h
    intro v hv
    obtain ⟨n, rfl, hn⟩ := accepts_number_iff.1 hv
    exact accepts_number_iff.2 ⟨n, rfl, hn.of_same h⟩
  | .string c, s, h => by
    cases s <;> simp only [same, Bool.false_eq_true] at h
    intro v hv
    obtain ⟨text, rfl, htext⟩ := accepts_string_iff.1 hv
    exact accepts_string_iff.2 ⟨text, rfl, htext.of_same h⟩
  | .literal c, s, h => by
    cases s <;> simp only [same, Bool.false_eq_true] at h
    exact fun v hv => accepts_literal_iff.2 (Value.same_trans h (accepts_literal_iff.1 hv))
  | .enum cs, s, h => by
    cases s <;> simp only [same, Bool.false_eq_true] at h
    intro v hv
    obtain ⟨d, hd, hdv⟩ := accepts_enum_iff.1 hv
    obtain ⟨c, hc, hcd⟩ := exists_mem_of_forall₂ (Value.forall₂_of_sameItems h).flip d hd
    exact accepts_enum_iff.2 ⟨c, hc, Value.same_trans hcd hdv⟩
  | .object ps a, s, h => by
    cases s <;> simp only [same, Bool.false_eq_true, Bool.and_eq_true] at h
    exact .object (refines_of_sameProperties h.1) (refines_of_sameAdditional h.2)
  | .tuple ks, s, h => by
    cases s <;> simp only [same, Bool.false_eq_true] at h
    exact .tuple (refines_of_sameAll h)
  | .list k c, s, h => by
    cases s <;> simp only [same, Bool.false_eq_true, Bool.and_eq_true] at h
    exact .list (refines_of_same h.1) fun _ => .of_same h.2
  | .union ks, s, h => by
    cases s <;> simp only [same, Bool.false_eq_true] at h
    exact .union (refines_of_sameAll h)
  | .intersection ks, s, h => by
    cases s <;> simp only [same, Bool.false_eq_true] at h
    exact .intersection (refines_of_sameAll h)

theorem refines_of_sameAll : ∀ {ks ss : List Shape}, sameAll ks ss = true →
    List.Forall₂ Refines ss ks
  | [], ss, h => by
    cases ss <;> simp only [sameAll, Bool.false_eq_true] at h
    exact .nil
  | k :: ks, ss, h => by
    cases ss <;> simp only [sameAll, Bool.false_eq_true, Bool.and_eq_true] at h
    exact .cons (refines_of_same h.1) (refines_of_sameAll h.2)

theorem refines_of_sameProperties : ∀ {ps qs : List (Property Shape)},
    sameProperties ps qs = true → List.Forall₂ (Property.Rel Refines) qs ps
  | [], qs, h => by
    cases qs <;> simp only [sameProperties, Bool.false_eq_true] at h
    exact .nil
  | ⟨name, required, shape⟩ :: ps, qs, h => by
    cases qs <;> simp only [sameProperties, Bool.false_eq_true, Bool.and_eq_true, beq_iff_eq] at h
    obtain ⟨⟨⟨hname, hrequired⟩, hshape⟩, hps⟩ := h
    exact .cons ⟨hname.symm, hrequired.symm, refines_of_same hshape⟩ (refines_of_sameProperties hps)

theorem refines_of_sameAdditional : ∀ {a b : Additional Shape}, sameAdditional a b = true →
    Additional.Rel Refines b a
  | .forbidden, b, h => by
    cases b <;> simp only [sameAdditional, Bool.false_eq_true] at h
    exact .forbidden
  | .untyped, b, h => by
    cases b <;> simp only [sameAdditional, Bool.false_eq_true] at h
    exact .untyped
  | .typed k, b, h => by
    cases b <;> simp only [sameAdditional, Bool.false_eq_true] at h
    exact .typed (refines_of_same h)

end

/-! ## Alternatives -/

theorem accepts_distinct_iff {ss : List Shape} {v : Value} :
    (∃ s ∈ distinct ss, s.accepts v = true) ↔ ∃ s ∈ ss, s.accepts v = true := by
  obtain ⟨hsub, -, hall⟩ := foldl_distinct ss []
  constructor
  · rintro ⟨s, hs, hv⟩
    exact ⟨s, (hsub s hs).resolve_left (by simp), hv⟩
  · rintro ⟨s, hs, hv⟩
    rcases hall s hs with hs | ⟨k, hk, hks⟩
    · exact ⟨s, hs, hv⟩
    · exact ⟨k, hk, refines_of_same hks v hv⟩

theorem distinct_eq_nil_iff {ss : List Shape} : distinct ss = [] ↔ ss = [] := by
  constructor
  · intro h
    have hall : ∀ s ∈ ss, s ∈ distinct ss ∨ ∃ k ∈ distinct ss, k.same s = true :=
      (foldl_distinct ss []).2.2
    refine List.eq_nil_iff_forall_not_mem.2 fun s hs => ?_
    simpa [h] using hall s hs
  · rintro rfl
    rfl

/-- The alternatives of a type list, however many are left, accept what one of those written does. -/
theorem accepts_ofTypeList_iff {ss : List Shape} {v : Value} :
    (ofTypeList ss).accepts v = true ↔ ss = [] ∨ ∃ s ∈ ss, s.accepts v = true := by
  rw [← accepts_distinct_iff, ← distinct_eq_nil_iff]
  unfold ofTypeList
  rcases distinct ss with _ | ⟨s, _ | ⟨t, rest⟩⟩
  · simp [accepts_any]
  · simp
  · simp [accepts_union_iff]

theorem accepts_ofAlternatives_iff {ss : List Shape} {v : Value} :
    (ofAlternatives ss).accepts v = true ↔ ss = [] ∨ ∃ s ∈ ss, s.accepts v = true := by
  cases ss with
  | nil => simp [ofAlternatives, accepts_any]
  | cons s ss => simp [ofAlternatives, accepts_union_iff]

end Shape

end ContractInterface
