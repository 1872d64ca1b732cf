/-
The order of keys. Putting members in order is stable, so every look-up finds what it found before
(`Value.lookup_orderMembers`); it forgets the order in which members with different names stood
(`Value.orderMembers_eq_of_perm`), and doing it again changes nothing (`Value.ordered_ordered`). Hence
values that have one ordered form are the same but for the order of members at any depth.
-/
import ContractInterface.Json.Value
import ContractInterface.Proofs.Lists
import Mathlib.Data.List.Nodup

namespace ContractInterface.Json

namespace Value

/-! ## Parts -/

/-- The values that stand directly in a value. -/
def parts : Value → List Value
  | .array items => items
  | .object members => members.map Prod.snd
  | .null | .bool _ | .number _ | .string _ => []

theorem sizeOf_lt_of_mem_parts {v w : Value} (h : w ∈ v.parts) : sizeOf w < sizeOf v := by
  cases v with
  | array items =>
    have := List.sizeOf_lt_of_mem (show w ∈ items from h)
    simp only [array.sizeOf_spec]
    omega
  | object members =>
    obtain ⟨⟨key, x⟩, hm, rfl⟩ := List.mem_map.1 (show w ∈ members.map Prod.snd from h)
    have := List.sizeOf_lt_of_mem hm
    simp only [Prod.mk.sizeOf_spec, object.sizeOf_spec] at this ⊢
    omega
  | null | bool | number | string => cases h

/-- What holds of a value once it holds of its parts holds of every value. -/
@[elab_as_elim]
theorem partInduction {P : Value → Prop} (step : ∀ v : Value, (∀ w ∈ v.parts, P w) → P v)
    (v : Value) : P v :=
  step v fun w _ => partInduction step w
termination_by sizeOf v
decreasing_by exact sizeOf_lt_of_mem_parts ‹_›

/-! ## Members in order -/

theorem orderMembers_perm (members : Members) : (orderMembers members).Perm members :=
  List.mergeSort_perm ..

section KeyOrder

private def keyLe (a b : String × Value) : Bool := decide (a.1 ≤ b.1)

private theorem keyLe_trans (a b c : String × Value) (h : keyLe a b = true) (k : keyLe b c = true) :
    keyLe a c = true := by
  simp only [keyLe, decide_eq_true_eq] at *
  exact String.le_trans h k

private theorem keyLe_total (a b : String × Value) : (keyLe a b || keyLe b a) = true := by
  simp only [keyLe, Bool.or_eq_true, decide_eq_true_eq]
  exact String.le_total a.1 b.1

theorem pairwise_orderMembers (members : Members) :
    (orderMembers members).Pairwise fun a b => a.1 ≤ b.1 := by
  have h := List.pairwise_mergeSort keyLe_trans keyLe_total members
  exact h.imp fun hab => of_decide_eq_true hab

/-- Members of one name keep their order. -/
theorem filter_orderMembers (members : Members) (key : String) :
    (orderMembers members).filter (fun m => m.1 == key) = members.filter fun m => m.1 == key := by
  have hsame : (members.filter fun m => m.1 == key).Pairwise fun a b => keyLe a b = true := by
    refine List.pairwise_iff_forall_sublist.2 fun {a b} hab => ?_
    have ha := (List.mem_filter.1 (hab.subset (List.mem_cons_self ..))).2
    have hb := (List.mem_filter.1 (hab.subset (List.mem_cons_of_mem _ (List.mem_singleton_self _)))).2
    simp only [beq_iff_eq] at ha hb
    simp [keyLe, ha, hb]
  have hsub : (members.filter fun m => m.1 == key).Sublist (orderMembers members) :=
    List.sublist_mergeSort keyLe_trans keyLe_total hsame List.filter_sublist
  have hfilter := hsub.filter fun m => m.1 == key
  rw [List.filter_filter] at hfilter
  simp only [Bool.and_self] at hfilter
  refine (hfilter.eq_of_length ?_).symm
  exact ((orderMembers_perm members).filter _).length_eq.symm

end KeyOrder

theorem lookup_eq_head?_filter (members : Members) (key : String) :
    members.lookup key = (members.filter fun m => m.1 == key).head?.map Prod.snd := by
  induction members with
  | nil => rfl
  | cons m members ih =>
    obtain ⟨name, v⟩ := m
    rw [List.lookup_cons, List.filter_cons, BEq.comm (a := key)]
    cases name == key with
    | true => rfl
    | false => exact ih

theorem lookup_filter_keys (p : String → Bool) (members : Members) (key : String) :
    (members.filter fun m => p m.1).lookup key = if p key then members.lookup key else none := by
  rw [lookup_eq_head?_filter, lookup_eq_head?_filter, List.filter_filter]
  have hkeys : ∀ m ∈ members, (m.1 == key && p m.1) = (m.1 == key && p key) := fun m _ => by
    cases h : m.1 == key with
    | true => rw [beq_iff_eq.1 h]
    | false => rfl
  rw [List.filter_congr hkeys]
  cases p key with
  | true => simp
  | false => simp

/-- Order does not matter for what stands under a key. -/
@[simp] theorem lookup_orderMembers (members : Members) (key : String) :
    (orderMembers members).lookup key = members.lookup key := by
  rw [lookup_eq_head?_filter, lookup_eq_head?_filter, filter_orderMembers]

/-- Members in order are told by the sequences of members of one name. -/
theorem eq_of_filter_eq : ∀ {ms ns : Members}, ms.Pairwise (fun a b => a.1 ≤ b.1) →
    ns.Pairwise (fun a b => a.1 ≤ b.1) →
    (∀ key, ms.filter (fun m => m.1 == key) = ns.filter fun m => m.1 == key) → ms = ns
  | [], [], _, _, _ => rfl
  | [], n :: ns, _, _, h => by
    have hn := h n.1
    simp at hn
  | m :: ms, [], _, _, h => by
    have hm := h m.1
    simp at hm
  | m :: ms, n :: ns, hms, hns, h => by
    obtain ⟨hm, hmrest⟩ := List.pairwise_cons.1 hms
    obtain ⟨hn, hnrest⟩ := List.pairwise_cons.1 hns
    have hmem : m ∈ n :: ns := by
      have hm : m ∈ (m :: ms).filter fun x => x.1 == m.1 := by simp
      rw [h m.1] at hm
      exact (List.mem_filter.1 hm).1
    have hmem' : n ∈ m :: ms := by
      have hn : n ∈ (n :: ns).filter fun x => x.1 == n.1 := by simp
      rw [← h n.1] at hn
      exact (List.mem_filter.1 hn).1
    -- each first member stands in the other list too, where it is not before the first one
    have hkey : m.1 = n.1 := by
      refine String.le_antisymm ?_ ?_
      · rcases List.mem_cons.1 hmem' with heq | hlater
        · exact heq ▸ String.le_refl _
        · exact hm n hlater
      · rcases List.mem_cons.1 hmem with heq | hlater
        · exact heq ▸ String.le_refl _
        · exact hn m hlater
    have hhead : m = n := by
      have hfirst := h m.1
      rw [List.filter_cons_of_pos (by simp), List.filter_cons_of_pos (by simp [hkey])] at hfirst
      exact (List.cons.inj hfirst).1
    subst hhead
    congr 1
    refine eq_of_filter_eq hmrest hnrest fun key => ?_
    have htail := h key
    rw [List.filter_cons, List.filter_cons] at htail
    split at htail
    · exact (List.cons.inj htail).2
    · exact htail

/-- Parts may be put in order before the whole is. -/
theorem orderMembers_append (ms ns : Members) :
    orderMembers (ms ++ orderMembers ns) = orderMembers (ms ++ ns) := by
  refine eq_of_filter_eq (pairwise_orderMembers _) (pairwise_orderMembers _) fun key => ?_
  rw [filter_orderMembers, filter_orderMembers, List.filter_append, List.filter_append,
    filter_orderMembers]

theorem nodup_keys_orderMembers {members : Members} (h : (members.map Prod.fst).Nodup) :
    ((orderMembers members).map Prod.fst).Nodup :=
  ((orderMembers_perm members).map Prod.fst).nodup_iff.2 h

/-- Members that stand in order already. -/
theorem orderMembers_of_pairwise {members : Members} (h : members.Pairwise fun a b => a.1 ≤ b.1) :
    orderMembers members = members :=
  List.mergeSort_of_pairwise (h.imp fun hab => decide_eq_true hab)

theorem orderMembers_nil : orderMembers [] = [] := orderMembers_of_pairwise .nil

@[simp] theorem orderMembers_orderMembers (members : Members) :
    orderMembers (orderMembers members) = orderMembers members :=
  orderMembers_of_pairwise (pairwise_orderMembers members)

/-- Members with different names come to the same order from any other. -/
theorem orderMembers_eq_of_perm {ms ns : Members} (h : ms.Perm ns) (hms : (ms.map Prod.fst).Nodup) :
    orderMembers ms = orderMembers ns := by
  have hperm : (orderMembers ms).Perm (orderMembers ns) :=
    (orderMembers_perm ms).trans (h.trans (orderMembers_perm ns).symm)
  refine List.Perm.eq_of_pairwise ?_ (pairwise_orderMembers ms) (pairwise_orderMembers ns) hperm
  intro a b ha hb hab hba
  have hkey : a.1 = b.1 := String.le_antisymm hab hba
  have hna := (orderMembers_perm ms).mem_iff.1 ha
  have hnb := h.symm.mem_iff.1 ((orderMembers_perm ns).mem_iff.1 hb)
  exact List.inj_on_of_nodup_map hms hna hnb hkey

/-- What is done to the values does not touch the order. -/
theorem orderMembers_map (f : Value → Value) (members : Members) :
    orderMembers (members.map fun m => (m.1, f m.2)) =
      (orderMembers members).map fun m => (m.1, f m.2) := by
  have hkeys : ∀ a ∈ members, ∀ b ∈ members,
      decide (a.1 ≤ b.1) = decide ((a.1, f a.2).1 ≤ (b.1, f b.2).1) := fun _ _ _ _ => rfl
  exact (List.map_mergeSort hkeys).symm

/-! ## Setting members -/

theorem filter_set (members : Members) (key : String) (v : Value) (other : String) :
    (members.set key v).filter (fun m => m.1 == other) =
      if other = key then (key, v) :: (members.filter fun m => m.1 == key).tail
      else members.filter fun m => m.1 == other := by
  induction members with
  | nil =>
    by_cases h : other = key
    · simp [Members.set, h]
    · simp [Members.set, h, Ne.symm h]
  | cons m members ih =>
    obtain ⟨name, x⟩ := m
    rw [Members.set]
    by_cases hname : name = key
    · subst hname
      by_cases h : other = name
      · simp [h]
      · simp [h, Ne.symm h]
    · rw [if_neg hname, List.filter_cons, ih, List.filter_cons, List.filter_cons]
      by_cases h : other = key
      · have hother : (name == other) = false := beq_eq_false_iff_ne.2 (h ▸ hname)
        simp [h, hname]
      · simp [h]

theorem mem_keys_set {members : Members} {key : String} {v : Value} {other : String} :
    other ∈ (members.set key v).map Prod.fst ↔ other = key ∨ other ∈ members.map Prod.fst := by
  induction members with
  | nil => simp [Members.set]
  | cons m members ih =>
    obtain ⟨name, x⟩ := m
    rw [Members.set]
    by_cases hname : name = key
    · simp [hname]
    · rw [if_neg hname, List.map_cons, List.mem_cons, ih, List.map_cons, List.mem_cons]
      exact or_left_comm

theorem nodup_keys_set {members : Members} (h : (members.map Prod.fst).Nodup) (key : String)
    (v : Value) : ((members.set key v).map Prod.fst).Nodup := by
  induction members with
  | nil => exact List.nodup_singleton _
  | cons m members ih =>
    obtain ⟨name, x⟩ := m
    obtain ⟨hfresh, hrest⟩ := List.nodup_cons.1 h
    rw [Members.set]
    by_cases hname : name = key
    · rw [if_pos hname]
      exact h
    · rw [if_neg hname]
      refine List.nodup_cons.2 ⟨fun hm => ?_, ih hrest⟩
      rcases mem_keys_set.1 hm with heq | hm
      · exact hname heq
      · exact hfresh hm

/-- A new name comes last. -/
theorem set_of_notMem {members : Members} {key : String} (h : key ∉ members.map Prod.fst)
    (v : Value) : members.set key v = members ++ [(key, v)] := by
  induction members with
  | nil => rfl
  | cons m members ih =>
    obtain ⟨name, x⟩ := m
    obtain ⟨hname, hrest⟩ := not_or.1 (mt List.mem_cons.2 h)
    rw [Members.set, if_neg (Ne.symm hname), ih hrest, List.cons_append]

/-! ## Values in order -/

theorem orderedItems_eq_map (items : List Value) : orderedItems items = items.map ordered := by
  induction items with
  | nil => rfl
  | cons v items ih => rw [orderedItems, ih, List.map_cons]

theorem orderedMembers_eq_map (members : Members) :
    orderedMembers members = members.map fun m => (m.1, m.2.ordered) := by
  induction members with
  | nil => rfl
  | cons m members ih => rw [orderedMembers, ih, List.map_cons]

theorem lookup_orderedMembers (members : Members) (key : String) :
    (orderedMembers members).lookup key = (members.lookup key).map ordered := by
  rw [orderedMembers_eq_map, lookup_map_snd]

theorem map_fst_orderedMembers (members : Members) :
    (orderedMembers members).map Prod.fst = members.map Prod.fst := by
  simp [orderedMembers_eq_map, Function.comp_def]

theorem orderedMembers_append (ms ns : Members) :
    orderedMembers (ms ++ ns) = orderedMembers ms ++ orderedMembers ns := by
  rw [orderedMembers_eq_map, orderedMembers_eq_map, orderedMembers_eq_map, List.map_append]

theorem orderedMembers_orderMembers (members : Members) :
    orderedMembers (orderMembers members) = orderMembers (orderedMembers members) := by
  rw [orderedMembers_eq_map, orderedMembers_eq_map, orderMembers_map]

end Value

/-- Members in the order of their names, and so at any depth. -/
def Members.ordered (members : Members) : Members :=
  Value.orderMembers (Value.orderedMembers members)

namespace Value

@[simp] theorem ordered_array (items : List Value) :
    ordered (.array items) = .array (items.map ordered) := by
  rw [ordered, orderedItems_eq_map]

@[simp] theorem ordered_object (members : Members) :
    ordered (.object members) = .object members.ordered := rfl

@[simp] theorem ordered_ordered (v : Value) : v.ordered.ordered = v.ordered := by
  induction v using partInduction with
  | step v ih =>
    cases v with
    | null | bool | number | string => rfl
    | array items =>
      simp only [ordered_array, List.map_map, array.injEq]
      exact List.map_congr_left fun w hw => ih w hw
    | object members =>
      have hmembers : orderedMembers (orderedMembers members) = orderedMembers members := by
        rw [orderedMembers_eq_map members, orderedMembers_eq_map, List.map_map]
        refine List.map_congr_left fun m hm => ?_
        exact congrArg (m.1, ·) (ih m.2 (List.mem_map_of_mem hm))
      rw [ordered_object, ordered_object, Members.ordered, Members.ordered,
        orderedMembers_orderMembers, hmembers, orderMembers_orderMembers]

theorem orderedMembers_orderedMembers (members : Members) :
    orderedMembers (orderedMembers members) = orderedMembers members := by
  rw [orderedMembers_eq_map members, orderedMembers_eq_map, List.map_map]
  exact List.map_congr_left fun m _ => congrArg (m.1, ·) (ordered_ordered m.2)

end Value

namespace Members

theorem orderedMembers_ordered (members : Members) :
    Value.orderedMembers members.ordered = members.ordered := by
  rw [ordered, Value.orderedMembers_orderMembers, Value.orderedMembers_orderedMembers]

@[simp] theorem ordered_ordered (members : Members) : members.ordered.ordered = members.ordered := by
  rw [ordered, orderedMembers_ordered, ordered, Value.orderMembers_orderMembers]

@[simp] theorem ordered_orderMembers (members : Members) :
    ordered (Value.orderMembers members) = members.ordered := by
  rw [ordered, Value.orderedMembers_orderMembers, Value.orderMembers_orderMembers, ordered]

theorem length_ordered (members : Members) : members.ordered.length = members.length := by
  rw [ordered, (Value.orderMembers_perm _).length_eq, Value.orderedMembers_eq_map, List.length_map]

theorem ordered_eq_iff {ms ns : Members} : ms.ordered = ns.ordered ↔
    ∀ key, Value.orderedMembers (ms.filter fun m => m.1 == key) =
      Value.orderedMembers (ns.filter fun m => m.1 == key) := by
  have hfilter : ∀ (members : Members) (key : String),
      members.ordered.filter (fun m => m.1 == key) =
        Value.orderedMembers (members.filter fun m => m.1 == key) := fun members key => by
    rw [ordered, Value.filter_orderMembers, Value.orderedMembers_eq_map, Value.orderedMembers_eq_map,
      List.filter_map]
    rfl
  constructor
  · intro h key
    rw [← hfilter, ← hfilter, h]
  · intro h
    refine Value.eq_of_filter_eq (Value.pairwise_orderMembers _) (Value.pairwise_orderMembers _) ?_
    intro key
    exact (hfilter ms key).trans ((h key).trans (hfilter ns key).symm)

/-- Setting a member sees members and values no closer than in order. -/
theorem ordered_set {ms ns : Members} (h : ms.ordered = ns.ordered) (name : String) {v w : Value}
    (hvw : v.ordered = w.ordered) : (ms.set name v).ordered = (ns.set name w).ordered := by
  rw [ordered_eq_iff] at h ⊢
  intro key
  rw [Value.filter_set, Value.filter_set]
  split
  · have htail := congrArg List.tail (h name)
    rw [Value.orderedMembers_eq_map, Value.orderedMembers_eq_map, ← List.map_tail, ← List.map_tail,
      ← Value.orderedMembers_eq_map, ← Value.orderedMembers_eq_map] at htail
    rw [Value.orderedMembers, Value.orderedMembers, htail, hvw]
  · exact h key

/-- Members of different names may be set in any order. -/
theorem ordered_set_set (members : Members) {name other : String} (h : name ≠ other) (v w : Value) :
    ((members.set name v).set other w).ordered = ((members.set other w).set name v).ordered := by
  refine ordered_eq_iff.2 fun key => congrArg _ ?_
  simp only [Value.filter_set]
  by_cases hname : key = name
  · simp only [hname, h, if_true, if_false]
  · simp only [hname, h.symm, if_false]

theorem lookup_ordered (members : Members) (key : String) :
    members.ordered.lookup key = (members.lookup key).map Value.ordered := by
  rw [ordered, Value.lookup_orderMembers, Value.lookup_orderedMembers]

end Members

end ContractInterface.Json
