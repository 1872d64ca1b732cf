/-
Values and members that differ in the order of members only, where no name is repeated
(`Value.Reordered`, `Members.Reordered`). They are equal, they have counterparts under the same names
and in the same places, and what is read out of them is the same.
-/
import ContractInterface.Proofs.Json.Equality
import ContractInterface.Proofs.Json.Fits

namespace ContractInterface

/-! ## Lists -/

theorem isEqv_of_map_eq {α β : Type} {form : α → β} {same : α → α → Bool} : ∀ {as bs : List α},
    as.map form = bs.map form → (∀ a ∈ as, ∀ b ∈ bs, form a = form b → same a b = true) →
      as.isEqv bs same = true
  | [], [], _, _ => rfl
  | a :: as, b :: bs, h, hsame => by
    obtain ⟨hhead, htail⟩ := List.cons.inj h
    rw [List.isEqv, hsame a (List.mem_cons_self ..) b (List.mem_cons_self ..) hhead, Bool.true_and]
    exact isEqv_of_map_eq htail fun a ha b hb =>
      hsame a (List.mem_cons_of_mem _ ha) b (List.mem_cons_of_mem _ hb)

namespace Json

/-! ## Equality -/

theorem Value.sameItems_eq_isEqv (xs ys : List Value) : sameItems xs ys = xs.isEqv ys same := by
  induction xs generalizing ys with
  | nil => cases ys <;> rfl
  | cons x xs ih => cases ys <;> simp [sameItems, List.isEqv, ih]

/-- Values without repeated names that are the same up to the order of members are equal. -/
theorem Value.Fits.same_of_ordered_eq {room : Nat} {v : Value} (hv : v.Fits room) :
    ∀ {room' : Nat} {w : Value}, w.Fits room' → v.ordered = w.ordered → v.same w = true := by
  induction hv with
  | null =>
    intro room' w hw h
    cases hw <;> cases h
    rfl
  | bool b =>
    intro room' w hw h
    cases hw <;> cases h
    exact beq_self_eq_true b
  | number n =>
    intro room' w hw h
    cases hw <;> cases h
    exact n.same_refl
  | string s =>
    intro room' w hw h
    cases hw <;> cases h
    exact beq_self_eq_true s
  | array _ ih =>
    intro room' w hw h
    cases hw with
    | @array _ others hothers =>
      rw [ordered_array, ordered_array, array.injEq] at h
      rw [same, sameItems_eq_isEqv]
      exact isEqv_of_map_eq h fun x hx y hy hxy => ih x hx (hothers y hy) hxy
    | null | bool | number | string | object => cases h
  | @object room members hnodup _ ih =>
    intro room' w hw h
    cases hw with
    | @object _ others _ hothers =>
      have hmembers : members.ordered = others.ordered := by
        rwa [ordered_object, ordered_object, object.injEq] at h
      have hlength : members.length = others.length := by
        rw [← Members.length_ordered, hmembers, Members.length_ordered]
      simp only [same, hlength, beq_self_eq_true, Bool.true_and, sameMembers_iff]
      intro key x hx
      have hlookup : (others.lookup key).map Value.ordered = some x.ordered := by
        rw [← Members.lookup_ordered, ← hmembers, Members.lookup_ordered,
          (lookup_eq_some_iff_mem hnodup).2 hx, Option.map_some]
      obtain ⟨y, hy, hyx⟩ := Option.map_eq_some_iff.1 hlookup
      exact ⟨y, hy, ih _ hx (hothers _ (mem_of_lookup_eq_some hy)) hyx.symm⟩
    | null | bool | number | string | array => cases h

theorem Value.sameItems_symm : ∀ {vs ws : List Value},
    (∀ v ∈ vs, ∀ w ∈ ws, v.same w = true → w.same v = true) → sameItems vs ws = true →
      sameItems ws vs = true
  | [], [], _, _ => rfl
  | v :: vs, w :: ws, hsymm, h => by
    simp only [sameItems, Bool.and_eq_true] at h ⊢
    refine ⟨hsymm v (List.mem_cons_self ..) w (List.mem_cons_self ..) h.1, ?_⟩
    exact sameItems_symm (fun v hv w hw => hsymm v (List.mem_cons_of_mem _ hv) w
      (List.mem_cons_of_mem _ hw)) h.2

/-- Without repeated names, members that have equal counterparts among as many others are the
counterparts of these. -/
theorem Value.sameMembers_symm {ms ns : Members} (hms : (ms.map Prod.fst).Nodup)
    (hns : (ns.map Prod.fst).Nodup) (hlength : ms.length = ns.length)
    (hsymm : ∀ m ∈ ms, ∀ n ∈ ns, m.2.same n.2 = true → n.2.same m.2 = true)
    (h : sameMembers ms ns = true) : sameMembers ns ms = true := by
  rw [sameMembers_iff] at h ⊢
  have hsub : ms.map Prod.fst ⊆ ns.map Prod.fst := fun key hkey => by
    obtain ⟨m, hm, rfl⟩ := List.mem_map.1 hkey
    obtain ⟨y, hy, -⟩ := h m.1 m.2 hm
    exact List.mem_map.2 ⟨_, mem_of_lookup_eq_some hy, rfl⟩
  have hperm := (List.subperm_of_subset hms hsub).perm_of_length_le (by simp [hlength])
  intro key y hy
  obtain ⟨m, hm, hkey⟩ := List.mem_map.1 (hperm.mem_iff.2 (List.mem_map_of_mem hy))
  obtain rfl : m.1 = key := hkey
  obtain ⟨z, hz, hsame⟩ := h m.1 m.2 hm
  obtain rfl := Option.some.inj (((lookup_eq_some_iff_mem hns).2 hy).symm.trans hz)
  exact ⟨m.2, (lookup_eq_some_iff_mem hms).2 hm, hsymm m hm _ hy hsame⟩

/-- Equality of values without repeated names is symmetric. -/
theorem Value.Fits.same_symm {room : Nat} {v : Value} (hv : v.Fits room) :
    ∀ {room' : Nat} {w : Value}, w.Fits room' → v.same w = true → w.same v = true := by
  induction hv with
  | null =>
    intro room' w hw h
    cases w <;> simp only [same, Bool.false_eq_true] at h ⊢
  | bool b | string b =>
    intro room' w hw h
    cases w <;> simp only [same, Bool.false_eq_true, beq_iff_eq] at h ⊢
    exact h.symm
  | number n =>
    intro room' w hw h
    cases w <;> simp only [same, Bool.false_eq_true] at h ⊢
    rwa [Number.same_comm]
  | array _ ih =>
    intro room' w hw h
    cases hw with
    | @array _ others hothers =>
      exact sameItems_symm (fun x hx y hy => ih x hx (hothers y hy)) h
    | null | bool | number | string | object => cases h
  | object hnodup _ ih =>
    intro room' w hw h
    cases hw with
    | @object _ others hnodup' hothers =>
      simp only [same, Bool.and_eq_true, beq_iff_eq] at h ⊢
      refine ⟨h.1.symm, sameMembers_symm hnodup hnodup' h.1 (fun m hm n hn => ?_) h.2⟩
      exact ih m hm (hothers n hn)
    | null | bool | number | string | array => cases h

/-! ## Reordering -/

/-- No name is repeated in an object of either value, and they differ in the order of members only. -/
structure Value.Reordered (v w : Value) : Prop where
  left : ∃ room, v.Fits room
  right : ∃ room, w.Fits room
  ordered : v.ordered = w.ordered

/-- No name is repeated, among the members or in an object of their values, and they differ in the order
of members only. -/
structure Members.Reordered (ms ns : Members) : Prop where
  left : ∃ room, ms.Fit room
  right : ∃ room, ns.Fit room
  ordered : ms.ordered = ns.ordered

namespace Members.Reordered

variable {ms ns : Members}

theorem symm (h : ms.Reordered ns) : ns.Reordered ms := ⟨h.right, h.left, h.ordered.symm⟩

theorem nodup_left (h : ms.Reordered ns) : (ms.map Prod.fst).Nodup := by
  obtain ⟨room, hms⟩ := h.left
  exact hms.nodup

theorem nodup_right (h : ms.Reordered ns) : (ns.map Prod.fst).Nodup := h.symm.nodup_left

/-- The same names, and the same values under them up to the order of members. -/
theorem lookup (h : ms.Reordered ns) (name : String) :
    Option.Rel Value.Reordered (ms.lookup name) (ns.lookup name) := by
  obtain ⟨room, hms⟩ := h.left
  obtain ⟨room', hns⟩ := h.right
  have hlookup : (ms.lookup name).map Value.ordered = (ns.lookup name).map Value.ordered := by
    rw [← lookup_ordered, h.ordered, lookup_ordered]
  cases hv : ms.lookup name with
  | none =>
    rw [hv] at hlookup
    rw [Option.map_eq_none_iff.1 hlookup.symm]
    exact .none
  | some v =>
    rw [hv] at hlookup
    obtain ⟨w, hw, hordered⟩ := Option.map_eq_some_iff.1 hlookup.symm
    rw [hw]
    exact .some ⟨⟨room, hms.fits _ (mem_of_lookup_eq_some hv)⟩,
      ⟨room', hns.fits _ (mem_of_lookup_eq_some hw)⟩, hordered.symm⟩

end Members.Reordered

namespace Value.Reordered

variable {v w : Value}

theorem symm (h : v.Reordered w) : w.Reordered v := ⟨h.right, h.left, h.ordered.symm⟩

theorem same (h : v.Reordered w) : v.same w = true := by
  obtain ⟨room, hv⟩ := h.left
  obtain ⟨room', hw⟩ := h.right
  exact hv.same_of_ordered_eq hw h.ordered

/-! ## Parts -/

/-- Values of the same kind, part by part. -/
theorem array {items : List Value} (h : (Value.array items).Reordered w) :
    ∃ others, w = .array others ∧ List.Forall₂ Reordered items others := by
  obtain ⟨room, hitems⟩ := h.left
  obtain ⟨room', hw⟩ := h.right
  have hordered := h.ordered
  cases hw with
  | null | bool | number | string | object => cases hordered
  | @array room' others hothers =>
    rw [ordered_array, ordered_array, array.injEq] at hordered
    cases hitems with
    | array hitems =>
      refine ⟨others, rfl, forall₂_of_map_eq hordered fun x hx y hy hxy => ?_⟩
      exact ⟨⟨_, hitems x hx⟩, ⟨_, hothers y hy⟩, hxy⟩

theorem object {members : Members} (h : (Value.object members).Reordered w) :
    ∃ others, w = .object others ∧ members.Reordered others := by
  obtain ⟨room, hmembers⟩ := h.left
  obtain ⟨room', hw⟩ := h.right
  have hordered := h.ordered
  cases hw with
  | null | bool | number | string | array => cases hordered
  | @object room' others hnodup hothers =>
    rw [ordered_object, ordered_object, object.injEq] at hordered
    cases hmembers with
    | object hnodup' hmembers =>
      exact ⟨others, rfl, ⟨_, hnodup', hmembers⟩, ⟨_, hnodup, hothers⟩, hordered⟩

/-! ## What is read out of a value -/

theorem asString?_eq (h : v.Reordered w) : v.asString? = w.asString? := by
  have hread : ∀ u : Value, u.ordered.asString? = u.asString? := fun u => by cases u <;> rfl
  rw [← hread v, h.ordered, hread w]

theorem asNumber?_eq (h : v.Reordered w) : v.asNumber? = w.asNumber? := by
  have hread : ∀ u : Value, u.ordered.asNumber? = u.asNumber? := fun u => by cases u <;> rfl
  rw [← hread v, h.ordered, hread w]

theorem asNatural?_eq (h : v.Reordered w) : v.asNatural? = w.asNatural? := by
  have hread : ∀ u : Value, u.ordered.asNatural? = u.asNatural? := fun u => by cases u <;> rfl
  rw [← hread v, h.ordered, hread w]

theorem asArray?_rel (h : v.Reordered w) :
    Option.Rel (List.Forall₂ Reordered) v.asArray? w.asArray? := by
  cases v with
  | array items =>
    obtain ⟨others, rfl, hothers⟩ := h.array
    exact .some hothers
  | null | bool | number | string | object =>
    cases w with
    | null | bool | number | string | object => exact .none
    | array others =>
      obtain ⟨items, hv, -⟩ := h.symm.array
      cases hv

theorem filterMap_asString? {vs ws : List Value} (h : List.Forall₂ Reordered vs ws) :
    vs.filterMap asString? = ws.filterMap asString? := by
  induction h with
  | nil => rfl
  | cons hvw _ ih => rw [List.filterMap_cons, List.filterMap_cons, hvw.asString?_eq, ih]

end Value.Reordered

end Json

end ContractInterface
