/-
What a schema means, told without shapes, and that resolution keeps it: the shape of a node accepts the
values that satisfy the node (`Definitions.means_expand`). Conjunctions are left out, since resolution
rewrites them: members that are objects prevail over each other instead of holding side by side.

A node with a shape is unfolded completely after finitely many steps, so its meaning is the least one
that the rules allow.
-/
import Mathlib
import ContractInterface.Proofs.Shape.Acceptance
import ContractInterface.Proofs.Shape.Memo

namespace ContractInterface

open Json

/-! ## Meaning -/

/-- The value is of the kind and keeps the constraints on that kind. An integer is any number; only a
format asks for an integral value. -/
def Primitive.Permits (p : Primitive) (c : Constraints) (v : Value) : Prop :=
  match p with
  | .string => ∃ s, v = .string s ∧ c.AllowsText s
  | .integer | .number => ∃ n, v = .number n ∧ c.AllowsNumber n
  | .boolean => ∃ b, v = .bool b
  | .null => v = .null

namespace Definitions

/-- The value satisfies the node. -/
inductive Satisfies (d : Definitions) : Node → Value → Prop
  | reference {pointer name : String} {target : Node} {v : Value} :
      definitionName? pointer = some name → d.get? name = some target → Satisfies d target v →
      Satisfies d (.reference pointer) v
  | constant {c v : Value} : c.same v = true → Satisfies d (.constant c) v
  | enumeration {cs : List Value} {c v : Value} : c ∈ cs → c.same v = true →
      Satisfies d (.enumeration cs) v
  | noType {v : Value} : Satisfies d (.typeList []) v
  | someType {ns : List Node} {n : Node} {v : Value} : n ∈ ns → Satisfies d n v →
      Satisfies d (.typeList ns) v
  | object {ps : List (String × Node)} {required : Option (List String)} {a : Additional Node}
      {members : Members} :
      (∀ p ∈ ps, ∀ v, members.lookup p.1 = some v → Satisfies d p.2 v) →
      (∀ p ∈ ps, members.lookup p.1 = none → ∃ names, required = some names ∧ p.1 ∉ names) →
      (∀ m ∈ members, m.1 ∉ ps.map Prod.fst → a ≠ .forbidden) →
      (∀ m ∈ members, m.1 ∉ ps.map Prod.fst → ∀ n, a = .typed n → Satisfies d n m.2) →
      Satisfies d (.object ps required a) (.object members)
  | tuple {ns : List Node} {vs : List Value} : vs.length = ns.length →
      (∀ p ∈ ns.zip vs, Satisfies d p.1 p.2) → Satisfies d (.tuple ns) (.array vs)
  | list {items : Option Node} {c : Constraints} {vs : List Value} : c.AllowsCount vs.length →
      (∀ n, items = some n → ∀ v ∈ vs, Satisfies d n v) → Satisfies d (.list items c) (.array vs)
  | primitive {p : Primitive} {c : Constraints} {v : Value} : p.Permits c v →
      Satisfies d (.primitive p c) v
  | noAlternative {v : Value} : Satisfies d (.union []) v
  | someAlternative {ns : List Node} {n : Node} {v : Value} : n ∈ ns → Satisfies d n v →
      Satisfies d (.union ns) v
  | unknown {v : Value} : Satisfies d .unknown v

variable {d : Definitions} {v : Value}

/-! ## The rules, read backwards -/

theorem satisfies_reference_iff {pointer name : String} {target : Node}
    (hname : definitionName? pointer = some name) (htarget : d.get? name = some target) :
    d.Satisfies (.reference pointer) v ↔ d.Satisfies target v := by
  constructor
  · intro h
    cases h with
    | reference hname' htarget' h =>
      obtain rfl := Option.some.inj (hname.symm.trans hname')
      obtain rfl := Option.some.inj (htarget.symm.trans htarget')
      exact h
  · exact .reference hname htarget

theorem satisfies_constant_iff {c : Value} : d.Satisfies (.constant c) v ↔ c.same v = true := by
  constructor
  · rintro ⟨⟩
    assumption
  · exact .constant

theorem satisfies_enumeration_iff {cs : List Value} :
    d.Satisfies (.enumeration cs) v ↔ ∃ c ∈ cs, c.same v = true := by
  constructor
  · intro h
    cases h with
    | enumeration hc hv => exact ⟨_, hc, hv⟩
  · rintro ⟨c, hc, hv⟩
    exact .enumeration hc hv

theorem satisfies_typeList_iff {ns : List Node} :
    d.Satisfies (.typeList ns) v ↔ ns = [] ∨ ∃ n ∈ ns, d.Satisfies n v := by
  constructor
  · intro h
    cases h with
    | noType => exact .inl rfl
    | someType hn h => exact .inr ⟨_, hn, h⟩
  · rintro (rfl | ⟨n, hn, h⟩)
    · exact .noType
    · exact .someType hn h

theorem satisfies_union_iff {ns : List Node} :
    d.Satisfies (.union ns) v ↔ ns = [] ∨ ∃ n ∈ ns, d.Satisfies n v := by
  constructor
  · intro h
    cases h with
    | noAlternative => exact .inl rfl
    | someAlternative hn h => exact .inr ⟨_, hn, h⟩
  · rintro (rfl | ⟨n, hn, h⟩)
    · exact .noAlternative
    · exact .someAlternative hn h

theorem satisfies_tuple_iff {ns : List Node} :
    d.Satisfies (.tuple ns) v ↔ ∃ vs, v = .array vs ∧ List.Forall₂ d.Satisfies ns vs := by
  constructor
  · intro h
    cases h with
    | tuple hlength h =>
      exact ⟨_, rfl, List.forall₂_iff_zip.2 ⟨hlength.symm, fun hp => h _ hp⟩⟩
  · rintro ⟨vs, rfl, h⟩
    exact .tuple h.length_eq.symm fun p hp => List.forall₂_zip h hp

theorem satisfies_list_iff {items : Option Node} {c : Constraints} :
    d.Satisfies (.list items c) v ↔ ∃ vs, v = .array vs ∧ c.AllowsCount vs.length ∧
      ∀ n, items = some n → ∀ v ∈ vs, d.Satisfies n v := by
  constructor
  · intro h
    cases h with
    | list hcount h => exact ⟨_, rfl, hcount, h⟩
  · rintro ⟨vs, rfl, hcount, h⟩
    exact .list hcount h

theorem satisfies_primitive_iff {p : Primitive} {c : Constraints} :
    d.Satisfies (.primitive p c) v ↔ p.Permits c v := by
  constructor
  · rintro ⟨⟩
    assumption
  · exact .primitive

/-- The declarations of an object. -/
def declarations (required : Option (List String)) (ps : List (String × Node)) :
    List (Property Node) :=
  ps.map fun p => ⟨p.1, required.all (·.contains p.1), p.2⟩

theorem map_name_declarations (required : Option (List String)) (ps : List (String × Node)) :
    (declarations required ps).map (·.name) = ps.map Prod.fst := by
  simp [declarations, Function.comp_def]

theorem all_contains_eq_false_iff {required : Option (List String)} {name : String} :
    required.all (·.contains name) = false ↔ ∃ names, required = some names ∧ name ∉ names := by
  cases required <;> simp

theorem satisfies_object_iff {ps : List (String × Node)} {required : Option (List String)}
    {a : Additional Node} : d.Satisfies (.object ps required a) v ↔ ∃ members,
      v = .object members ∧ HoldsObject d.Satisfies (declarations required ps) a members := by
  constructor
  · intro h
    cases h with
    | object hpresent habsent hallowed hothers =>
      refine ⟨_, rfl, List.forall_mem_map.2 hpresent, List.forall_mem_map.2 fun p hp hv => ?_, ?_, ?_⟩
      · exact all_contains_eq_false_iff.2 (habsent p hp hv)
      · rwa [map_name_declarations]
      · intro m hm hn n ha
        rw [map_name_declarations] at hn
        cases a with
        | forbidden | untyped => cases ha
        | typed k =>
          obtain rfl := List.mem_singleton.1 ha
          exact hothers m hm hn n rfl
  · rintro ⟨members, rfl, h⟩
    have hnames := map_name_declarations required ps
    refine .object (List.forall_mem_map.1 h.present) (fun p hp hv => ?_)
      (fun m hm hn => h.allowed m hm (hnames ▸ hn)) fun m hm hn n ha => ?_
    · exact all_contains_eq_false_iff.1 (List.forall_mem_map.1 h.absent p hp hv)
    · subst ha
      exact h.others m hm (hnames ▸ hn) n (List.mem_singleton_self n)

/-! ## The shape of a node -/

/-- The shape accepts the values that satisfy the node. -/
def Means (d : Definitions) (n : Node) (s : Shape) : Prop :=
  ∀ v, s.accepts v = true ↔ d.Satisfies n v

theorem Means.object {ps : List (String × Node)} {required : Option (List String)}
    {a : Additional Node} {qs : List (Property Shape)} {b : Additional Shape}
    (hps : List.Forall₂ (Property.Rel d.Means) (declarations required ps) qs)
    (ha : Additional.Rel d.Means a b) : d.Means (.object ps required a) (.object qs b) := by
  intro v
  rw [Shape.accepts_object_iff, satisfies_object_iff]
  refine exists_congr fun members => and_congr_right fun _ => ⟨fun h => ?_, fun h => ?_⟩
  · exact h.imp (fun s n v hs => (hs v).1) (hps.flip.imp fun _ _ hp => hp.flip) ha.flip
  · exact h.imp (fun n s v hs => (hs v).2) hps ha

theorem Means.tuple {ns : List Node} {ss : List Shape} (h : List.Forall₂ d.Means ns ss) :
    d.Means (.tuple ns) (.tuple ss) := by
  intro v
  rw [Shape.accepts_tuple_iff, satisfies_tuple_iff]
  refine exists_congr fun vs => and_congr_right fun _ => ⟨fun hvs => ?_, fun hvs => ?_⟩
  · exact forall₂_of_forall₂ (fun s n v hs => (hs v).1) h.flip hvs
  · exact forall₂_of_forall₂ (fun n s v hs => (hs v).2) h hvs

theorem Means.list {n : Node} {s : Shape} (h : d.Means n s) (c : Constraints) :
    d.Means (.list (some n) c) (.list s c) := by
  intro v
  rw [Shape.accepts_list_iff, satisfies_list_iff]
  refine exists_congr fun vs => and_congr_right fun _ => and_congr_right fun _ => ?_
  constructor
  · rintro hvs m ⟨⟩ v hv
    exact (h v).1 (hvs v hv)
  · exact fun hvs v hv => (h v).2 (hvs n rfl v hv)

theorem Means.freeList (c : Constraints) : d.Means (.list none c) (.list .any c) := by
  intro v
  rw [Shape.accepts_list_iff, satisfies_list_iff]
  refine exists_congr fun vs => and_congr_right fun _ => and_congr_right fun _ => ?_
  exact ⟨fun _ m hm => (nomatch hm), fun _ v _ => Shape.accepts_any v⟩

theorem Means.primitive (p : Primitive) (c : Constraints) :
    d.Means (.primitive p c) (p.shape c) := by
  intro v
  rw [satisfies_primitive_iff]
  cases p with
  | string => exact Shape.accepts_string_iff
  | integer | number => exact Shape.accepts_number_iff
  | boolean => exact Shape.accepts_bool_iff
  | null => exact Shape.accepts_null_iff

/-- One of the shapes accepts what satisfies one of the nodes. -/
theorem Means.exists_iff {ns : List Node} {ss : List Shape} (h : List.Forall₂ d.Means ns ss) :
    (ss = [] ∨ ∃ s ∈ ss, s.accepts v = true) ↔ ns = [] ∨ ∃ n ∈ ns, d.Satisfies n v := by
  refine or_congr (by cases h <;> simp) ⟨?_, ?_⟩
  · rintro ⟨s, hs, hv⟩
    obtain ⟨n, hn, hns⟩ := exists_mem_of_forall₂ h.flip s hs
    exact ⟨n, hn, (hns v).1 hv⟩
  · rintro ⟨n, hn, hv⟩
    obtain ⟨s, hs, hns⟩ := exists_mem_of_forall₂ h n hn
    exact ⟨s, hs, (hns v).2 hv⟩

/-- If following a reference in a node gives a shape with its meaning, resolving the node does. -/
theorem means_resolveWith {f : String → Except ResolveError Shape} (n : Node)
    (hf : ∀ pointer s, n.Contains (.reference pointer) → f pointer = .ok s →
      d.Means (.reference pointer) s)
    (hn : ∀ members, ¬ n.Contains (.intersection members)) :
    ∀ s, n.resolveWith f = .ok s → d.Means n s := by
  induction n using Node.childInduction with
  | step n ih =>
    have hc : ∀ m ∈ n.children, ∀ s, m.resolveWith f = .ok s → d.Means m s := fun m hm =>
      ih m hm (fun pointer s hp => hf pointer s (.of_child hm hp))
        fun members h => hn members (.of_child hm h)
    -- what is resolved in a list means, place by place, what stands in the list
    have hall : ∀ {ns : List Node} {ss : List Shape}, ns ⊆ n.children →
        Node.resolveAll f ns = .ok ss → List.Forall₂ d.Means ns ss := fun hns h =>
      ((List.forall₂_and_left _ _).2 ⟨fun m hm => hc m (hns hm), Node.resolveAll_eq_ok.1 h⟩).imp
        fun m s hs => hs.1 s hs.2
    intro s h
    cases n with
    | reference pointer => exact hf pointer s (.refl _) h
    | constant c =>
      cases h
      exact fun v => Shape.accepts_literal_iff.trans satisfies_constant_iff.symm
    | enumeration cs =>
      cases h
      exact fun v => Shape.accepts_enum_iff.trans
        ((Value.any_same_distinct cs v).trans satisfies_enumeration_iff.symm)
    | intersection members => exact absurd (.refl _) (hn members)
    | typeList ns =>
      obtain ⟨ss, hss, ⟨⟩⟩ := bind_eq_ok.1 h
      exact fun v => Shape.accepts_ofTypeList_iff.trans
        ((Means.exists_iff (hall (List.Subset.refl _) hss)).trans satisfies_typeList_iff.symm)
    | object ps required a =>
      obtain ⟨qs, hqs, h⟩ := bind_eq_ok.1 h
      obtain ⟨b, hb, ⟨⟩⟩ := bind_eq_ok.1 h
      refine .object (List.forall₂_map_left_iff.2 ?_) ?_
      · have hps : ∀ p ∈ ps, ∀ s, p.2.resolveWith f = .ok s → d.Means p.2 s := fun p hp =>
          hc p.2 (List.mem_append_left _ (List.mem_map_of_mem hp))
        exact ((List.forall₂_and_left _ _).2 ⟨hps, Node.resolveProperties_eq_ok.1 hqs⟩).imp
          fun p q hq => ⟨hq.2.name.symm, hq.2.required.symm, hq.1 q.shape hq.2.shape⟩
      · cases Node.resolveAdditional_eq_ok.1 hb with
        | forbidden => exact .forbidden
        | untyped => exact .untyped
        | typed ht => exact .typed (hc _ (List.mem_append_right _ (List.mem_singleton_self _)) _ ht)
    | tuple ns =>
      obtain ⟨ss, hss, ⟨⟩⟩ := bind_eq_ok.1 h
      exact .tuple (hall (List.Subset.refl _) hss)
    | list items c =>
      cases items with
      | none =>
        cases h
        exact .freeList c
      | some item =>
        obtain ⟨t, ht, ⟨⟩⟩ := bind_eq_ok.1 h
        exact .list (hc item (List.mem_singleton_self item) t ht) c
    | primitive p c =>
      cases h
      exact .primitive p c
    | union ns =>
      obtain ⟨ss, hss, ⟨⟩⟩ := bind_eq_ok.1 h
      exact fun v => Shape.accepts_ofAlternatives_iff.trans
        ((Means.exists_iff (hall (List.Subset.refl _) hss)).trans satisfies_union_iff.symm)
    | unknown =>
      cases h
      exact fun v => ⟨fun _ => .unknown, fun _ => Shape.accepts_any v⟩

/-- Whatever names are open, the plain resolver keeps the meaning of a node: a reference that it
follows opens one more of them. -/
theorem means_expand (stack : List String) {n : Node} {s : Shape}
    (hn : ∀ members, ¬ d.Reaches n (.intersection members)) (h : d.expand stack n = .ok s) :
    d.Means n s := by
  refine means_resolveWith n (fun pointer t hp ht => ?_)
    (fun members hc => hn members (.of_contains hc)) s h
  obtain ⟨name, target, hname, htarget⟩ := Expands.leads ⟨t, ht⟩
  rw [expandPointer_of_leads hname htarget] at ht
  split at ht
  · cases ht
  · rename_i hs
    have hdecreases := unopened_append_lt htarget hs
    have hreaches : d.Reaches n target :=
      (Reaches.of_contains hp).trans (.of_reference hname htarget (.refl _))
    have := means_expand (stack ++ [name]) (fun members hm => hn members (hreaches.trans hm)) ht
    exact fun v => (this v).trans (satisfies_reference_iff hname htarget).symm
termination_by d.unopened stack

end Definitions

/-- The shape of a node from which no conjunction is reached accepts exactly the values that satisfy
the node. -/
theorem accepts_iff_of_resolve {d : Definitions} {n : Node} {s : Shape} (h : resolve d n = .ok s)
    (hn : ∀ members, ¬ d.Reaches n (.intersection members)) (v : Value) :
    s.accepts v = true ↔ d.Satisfies n v := by
  rw [Resolver.resolve_eq_expand] at h
  exact Definitions.means_expand [] hn h v

/-- Two types of a list that come to one shape: what is left of the alternatives means what both of
them mean. -/
theorem accepts_iff_of_resolve_amount :
    let alternatives : List Node := [.primitive .integer .empty, .primitive .number .empty]
    let d : Definitions := ⟨[("Amount", .typeList alternatives)]⟩
    let n : Node := .reference "#/definitions/Amount"
    resolve d n = .ok (.number .empty) ∧ (∀ members, ¬ d.Reaches n (.intersection members)) ∧
      (Shape.accepts (.number .empty) (.number (.natural 3)) = true ↔
        d.Satisfies n (.number (.natural 3))) := by
  intro alternatives d n
  have hresolve : resolve d n = .ok (.number .empty) := by
    simp only [d, n, alternatives]
    cbv
  have hn : ∀ members, ¬ d.Reaches n (.intersection members) := by
    intro members hm
    rcases hm.contains with h | ⟨name, target, htarget, h⟩
    · rcases Node.contains_iff.1 h with h | ⟨k, ⟨⟩, -⟩
      simp [n] at h
    · have hentry : (name, target) ∈ d.entries := mem_of_lookup_eq_some htarget
      obtain ⟨rfl, rfl⟩ : name = "Amount" ∧ target = .typeList alternatives := by
        simpa [d] using hentry
      rcases Node.contains_iff.1 h with h | ⟨k, hk, h⟩
      · simp at h
      rcases List.mem_pair.1 hk with rfl | rfl
      · rcases Node.contains_iff.1 h with ⟨⟨⟩⟩ | ⟨k, ⟨⟩, -⟩
      · rcases Node.contains_iff.1 h with ⟨⟨⟩⟩ | ⟨k, ⟨⟩, -⟩
  exact ⟨hresolve, hn, accepts_iff_of_resolve hresolve hn _⟩

end ContractInterface
