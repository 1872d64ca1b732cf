/-
What a conjunction makes of its parts. Its objects are merged: the merged one declares the names of all,
each in the place of its first mention, with what the last object says that declares it, and its policy is
the last that asks for something (`Shape.IsMerge`). Only one object is so described
(`Shape.IsMerge.unique`). So objects can be merged in groups before they are merged
(`Shape.foldl_mergeInto_group`), and conjunctions be taken apart into their own parts
(`Shape.ofConjunction_group`).
-/
import ContractInterface.Proofs.Shape.Alike
import Mathlib.Data.List.Induction

namespace ContractInterface.Shape

/-! ## Parts -/

/-- The shape stands for itself in a conjunction. -/
structure IsPart (s : Shape) : Prop where
  ne_any : s ≠ .any
  ne_intersection : ∀ members, s ≠ .intersection members

theorem IsPart.parts_eq {s : Shape} (h : s.IsPart) : s.parts = [s] := by
  cases s with
  | any => exact absurd rfl h.ne_any
  | intersection members => exact absurd rfl (h.ne_intersection members)
  | null | bool | number | string | literal | enum | object | tuple | list | union => rfl

theorem IsPart.of_isObject {s : Shape} (h : s.isObject = true) : s.IsPart := by
  obtain ⟨ps, a, rfl⟩ := exists_eq_object h
  exact ⟨nofun, nofun⟩

mutual

theorem isPart_of_mem_parts : ∀ {s t : Shape}, t ∈ s.parts → t.IsPart
  | .any, _, h => nomatch h
  | .intersection _, _, h => isPart_of_mem_partsOfAll h
  | .null, _, h | .bool, _, h | .number _, _, h | .string _, _, h | .literal _, _, h | .enum _, _, h
  | .object .., _, h | .tuple _, _, h | .list .., _, h | .union _, _, h => by
    obtain rfl := List.mem_singleton.1 h
    exact ⟨nofun, nofun⟩

theorem isPart_of_mem_partsOfAll : ∀ {ss : List Shape} {t : Shape}, t ∈ partsOfAll ss → t.IsPart
  | [], _, h => nomatch h
  | _ :: _, _, h => (List.mem_append.1 h).elim isPart_of_mem_parts isPart_of_mem_partsOfAll

end

theorem partsOfAll_append (ss ts : List Shape) :
    partsOfAll (ss ++ ts) = partsOfAll ss ++ partsOfAll ts := by
  induction ss with
  | nil => rfl
  | cons s ss ih => rw [List.cons_append, partsOfAll, partsOfAll, ih, List.append_assoc]

theorem partsOfAll_singleton (s : Shape) : partsOfAll [s] = s.parts := List.append_nil _

/-- The members of a conjunction with the given parts. -/
def gather (parts : List Shape) : List Shape :=
  (parts.foldl mergeInto none).toList ++ parts.filter fun s => !s.isObject

/-- The conjunction of the given members. -/
def ofParts : List Shape → Shape
  | [] => .any
  | [s] => s
  | members => .intersection members

theorem ofParts_of_two_le {ss : List Shape} (h : 2 ≤ ss.length) : ofParts ss = .intersection ss := by
  rcases ss with _ | ⟨s, _ | ⟨t, rest⟩⟩
  · simp at h
  · simp at h
  · rfl

theorem ofConjunction_eq (ss : List Shape) : ofConjunction ss = ofParts (gather (partsOfAll ss)) := rfl

theorem parts_ofParts {ss : List Shape} (h : ∀ s ∈ ss, s.IsPart) : (ofParts ss).parts = ss := by
  match ss with
  | [] => rfl
  | [s] => exact (h s (List.mem_singleton_self s)).parts_eq
  | _ :: _ :: _ => exact partsOfAll_of_parts fun s hs => (h s hs).parts_eq

/-! ### Merged objects -/

/-- Only objects are merged. -/
theorem foldl_mergeInto_filter (parts : List Shape) (sofar : Option Shape) :
    (parts.filter isObject).foldl mergeInto sofar = parts.foldl mergeInto sofar := by
  rw [List.foldl_filter]
  congr 1
  funext sofar s
  cases hs : s.isObject with
  | true => rfl
  | false => rw [mergeInto_of_not_object hs, if_neg (by simp)]

theorem foldl_mergeInto_of_not_object {parts : List Shape} (h : ∀ s ∈ parts, s.isObject = false)
    (sofar : Option Shape) : parts.foldl mergeInto sofar = sofar := by
  rw [← foldl_mergeInto_filter, List.filter_eq_nil_iff.2 fun s hs => by simp [h s hs], List.foldl_nil]

/-- What is kept by merging holds of the merged object. -/
theorem exists_eq_object_of_foldl {P : List (Property Shape) → Additional Shape → Prop}
    (hmerge : ∀ {ps qs a b}, P ps a → P qs b → P (overlayAll ps qs) (laterPolicy a b))
    {parts : List Shape} (hparts : ∀ ps a, .object ps a ∈ parts → P ps a) {s : Shape}
    (hs : parts.foldl mergeInto none = some s) : ∃ ps a, s = .object ps a ∧ P ps a := by
  -- the last part prevails, so the parts are taken from the end
  induction parts using List.reverseRecOn generalizing s with
  | nil => cases hs
  | append_singleton parts t ih =>
    have ih := fun s => ih (s := s) fun ps a h => hparts ps a (List.mem_append_left _ h)
    rw [List.foldl_append, List.foldl_cons, List.foldl_nil] at hs
    cases ht : t.isObject with
    | false =>
      rw [mergeInto_of_not_object ht] at hs
      exact ih s hs
    | true =>
      obtain ⟨qs, b, rfl⟩ := exists_eq_object ht
      have hlast := hparts qs b (by simp)
      cases hm : parts.foldl mergeInto none with
      | none =>
        rw [hm] at hs
        cases hs
        exact ⟨qs, b, rfl, hlast⟩
      | some m =>
        obtain ⟨ps, a, rfl, hm'⟩ := ih m hm
        rw [hm] at hs
        cases hs
        exact ⟨_, _, rfl, hmerge hm' hlast⟩

theorem isObject_of_foldl {parts : List Shape} {s : Shape} (h : parts.foldl mergeInto none = some s) :
    s.isObject = true := by
  obtain ⟨ps, a, rfl, -⟩ :=
    exists_eq_object_of_foldl (P := fun _ _ => True) (fun _ _ => trivial) (fun _ _ _ => trivial) h
  rfl

theorem isPart_of_mem_gather {parts : List Shape} (h : ∀ s ∈ parts, s.IsPart) :
    ∀ s ∈ gather parts, s.IsPart := by
  intro s hs
  rcases List.mem_append.1 hs with hs | hs
  · exact .of_isObject (isObject_of_foldl (Option.mem_toList.1 hs))
  · exact h s (List.mem_of_mem_filter hs)

/-- Only the first of the members can be an object. -/
theorem isObject_of_mem_tail_gather {parts : List Shape} :
    ∀ s ∈ (gather parts).tail, s.isObject = false := by
  have hothers : ∀ s ∈ parts.filter fun s => !s.isObject, s.isObject = false := fun s hs => by
    simpa using (List.mem_filter.1 hs).2
  unfold gather
  cases parts.foldl mergeInto none with
  | none => exact fun s hs => hothers s (List.mem_of_mem_tail hs)
  | some m => exact hothers

/-- Members of which only the first can be an object stay as they are. -/
theorem gather_eq_self {ss : List Shape} (h : ∀ s ∈ ss.tail, s.isObject = false) : gather ss = ss := by
  cases ss with
  | nil => rfl
  | cons s ss =>
    have hrest : ss.filter (fun s => !s.isObject) = ss := List.filter_eq_self.2 fun t ht => by
      simp [h t ht]
    have hmerged : ss.foldl mergeInto (mergeInto none s) = mergeInto none s :=
      foldl_mergeInto_of_not_object h _
    unfold gather
    rw [List.foldl_cons, hmerged, List.filter_cons, hrest]
    cases hs : s.isObject with
    | false =>
      rw [mergeInto_of_not_object hs]
      rfl
    | true =>
      obtain ⟨ps, a, rfl⟩ := exists_eq_object hs
      rfl

theorem filter_isObject_gather (parts : List Shape) :
    (gather parts).filter isObject = (parts.foldl mergeInto none).toList := by
  have hothers : (parts.filter fun s => !s.isObject).filter isObject = [] := by
    simp [List.filter_filter]
  unfold gather
  rw [List.filter_append, hothers, List.append_nil]
  exact List.filter_eq_self.2 fun s hs => isObject_of_foldl (Option.mem_toList.1 hs)

theorem filter_not_isObject_gather (parts : List Shape) :
    (gather parts).filter (fun s => !s.isObject) = parts.filter fun s => !s.isObject := by
  have hmerged : (parts.foldl mergeInto none).toList.filter (fun s => !s.isObject) = [] :=
    List.filter_eq_nil_iff.2 fun s hs => by simp [isObject_of_foldl (Option.mem_toList.1 hs)]
  unfold gather
  rw [List.filter_append, hmerged, List.nil_append, List.filter_filter]
  simp

/-! ## Merges -/

/-- The names that a shape declares. -/
def names (s : Shape) : List String := (s.properties?.getD []).map (·.name)

/-- The policy of an object, if it asks for something. -/
def policy? : Shape → Option (Additional Shape)
  | .object _ .untyped => none
  | .object _ policy => some policy
  | _ => none

/-- What the properties and the policy of an object are into which objects are merged. -/
structure IsMerge (objects : List Shape) (ps : List (Property Shape)) (a : Additional Shape) :
    Prop where
  /-- The names of all, in the order of their first mention. -/
  names : ps.map (·.name) = (objects.flatMap names).eraseDups
  /-- A name is what the last object says that declares it. -/
  property : ∀ name, (object ps a).property? name = objects.reverse.findSome? (·.property? name)
  policy : a = (objects.reverse.findSome? policy?).getD .untyped

theorem property?_object (ps : List (Property Shape)) (a : Additional Shape) (name : String) :
    (object ps a).property? name = declaration? ps name := rfl

section Names

variable {ps : List (Property Shape)} (h : (ps.map (·.name)).Nodup)

include h

theorem map_name_overlay (p : Property Shape) :
    (overlay p ps).map (·.name) = (ps.map (·.name) ++ [p.name]).eraseDups := by
  have hsplit : (overlay p ps).map (·.name) =
      if p.name ∈ ps.map (·.name) then ps.map (·.name) else ps.map (·.name) ++ [p.name] := by
    clear h
    induction ps with
    | nil => rfl
    | cons q ps ih =>
      rw [overlay]
      by_cases hq : q.name = p.name
      · simp [hq]
      · rw [if_neg hq, List.map_cons, List.map_cons, ih]
        by_cases hp : p.name ∈ ps.map (·.name)
        · rw [if_pos hp, if_pos (List.mem_cons_of_mem _ hp)]
        · rw [if_neg hp, if_neg fun hmem => (List.mem_cons.1 hmem).elim (Ne.symm hq) hp,
            List.cons_append]
  rw [hsplit]
  by_cases hp : p.name ∈ ps.map (·.name)
  · rw [if_pos hp, List.eraseDups_append, eraseDups_of_nodup h]
    have hnone : [p.name].removeAll (ps.map (·.name)) = [] := by
      simpa [List.removeAll] using hp
    rw [hnone, List.eraseDups_nil, List.append_nil]
  · rw [if_neg hp, eraseDups_of_nodup]
    exact List.nodup_append.2 ⟨h, List.nodup_singleton _, by
      rintro a ha b hb rfl
      exact hp (List.mem_singleton.1 hb ▸ ha)⟩

theorem map_name_overlayAll (later : List (Property Shape)) :
    (overlayAll ps later).map (·.name) = (ps.map (·.name) ++ later.map (·.name)).eraseDups := by
  induction later generalizing ps with
  | nil => rw [List.map_nil, List.append_nil, eraseDups_of_nodup h]; rfl
  | cons p later ih =>
    have hstep : overlayAll ps (p :: later) = overlayAll (overlay p ps) later := rfl
    rw [hstep, ih (nodup_overlay p h), map_name_overlay h, eraseDups_eraseDups_append, List.map_cons,
      List.append_assoc, List.singleton_append]

end Names

theorem laterPolicy_eq_getD (ps : List (Property Shape)) (a b : Additional Shape) :
    laterPolicy a b = (policy? (.object ps b)).getD a := by
  cases b <;> rfl

/-- One more object has the last say. -/
theorem getD_policy?_snoc (objects : List Shape) (ps : List (Property Shape)) (b : Additional Shape) :
    ((objects ++ [object ps b]).reverse.findSome? policy?).getD .untyped =
      laterPolicy ((objects.reverse.findSome? policy?).getD .untyped) b := by
  rw [List.reverse_append, List.reverse_singleton, List.findSome?_append, List.findSome?_singleton,
    laterPolicy_eq_getD ps]
  cases policy? (.object ps b) <;> rfl

theorem policy?_object_of_eq {s : Shape} {a : Additional Shape} (h : s.policy? = some a)
    (ps : List (Property Shape)) : policy? (.object ps a) = some a := by
  unfold policy? at h
  split at h
  · cases h
  · rename_i policy hpolicy
    obtain rfl := Option.some.inj h
    cases policy with
    | untyped => exact (hpolicy rfl).elim
    | forbidden | typed => rfl
  · cases h

namespace IsMerge

variable {objects : List Shape} {ps qs : List (Property Shape)} {a b : Additional Shape}

theorem nodup (h : IsMerge objects ps a) : (ps.map (·.name)).Nodup := h.names ▸ nodup_eraseDups _

theorem policy?_eq (h : IsMerge objects ps a) :
    policy? (.object ps a) = objects.reverse.findSome? policy? := by
  rw [h.policy]
  cases hfind : objects.reverse.findSome? policy? with
  | none => rfl
  | some c =>
    obtain ⟨o, -, ho⟩ := List.exists_of_findSome?_eq_some hfind
    exact policy?_object_of_eq ho ps

theorem singleton (h : (ps.map (·.name)).Nodup) : IsMerge [.object ps a] ps a where
  names := by
    rw [List.flatMap_singleton]
    exact (eraseDups_of_nodup h).symm
  property name := by
    rw [List.reverse_singleton, List.findSome?_singleton]
  policy := by
    rw [List.reverse_singleton, List.findSome?_singleton]
    cases a <;> rfl

theorem snoc (h : IsMerge objects ps a) (hqs : (qs.map (·.name)).Nodup) :
    IsMerge (objects ++ [.object qs b]) (overlayAll ps qs) (laterPolicy a b) where
  names := by
    rw [map_name_overlayAll h.nodup, h.names, eraseDups_eraseDups_append, List.flatMap_append,
      List.flatMap_singleton]
    rfl
  property name := by
    rw [List.reverse_append, List.reverse_singleton, List.findSome?_append, List.findSome?_singleton,
      ← h.property name, property?_object, property?_object, property?_object,
      declaration?_overlayAll hqs]
  policy := by rw [getD_policy?_snoc, ← h.policy]

/-- Nothing is left open of the merged object. -/
theorem unique (h : IsMerge objects ps a) (h' : IsMerge objects qs b) : ps = qs ∧ a = b := by
  refine ⟨?_, h.policy.trans h'.policy.symm⟩
  have hnames : ps.map (·.name) = qs.map (·.name) := h.names.trans h'.names.symm
  -- in each place stands what is found under the name of the place
  refine List.forall₂_eq_eq_eq ▸ forall₂_of_map_eq hnames fun p hp q hq hpq => ?_
  have hleft := (declaration?_eq_some_iff h.nodup).2 ⟨hp, rfl⟩
  have hright := (declaration?_eq_some_iff h'.nodup).2 ⟨hq, rfl⟩
  have hfind := (h.property p.name).trans (h'.property p.name).symm
  rw [property?_object, property?_object, hleft, hpq, hright] at hfind
  exact Option.some.inj hfind

/-- Objects that are merged in place of an object can be merged into it first. -/
theorem of_group {before group after : List Shape} (hgroup : IsMerge group qs b)
    (h : IsMerge (before ++ [.object qs b] ++ after) ps a) :
    IsMerge (before ++ group ++ after) ps a where
  names := by
    have hnames : (Shape.object qs b).names = (group.flatMap Shape.names).eraseDups := hgroup.names
    rw [h.names]
    simp only [List.flatMap_append, List.flatMap_singleton, hnames]
    -- repetitions in the group are left out with the others
    rw [← eraseDups_eraseDups_append, eraseDups_append_eraseDups, eraseDups_eraseDups_append]
  property name := by
    rw [h.property]
    simp only [List.reverse_append, List.findSome?_append, List.reverse_singleton,
      List.findSome?_singleton, hgroup.property]
  policy := by
    rw [h.policy]
    simp only [List.reverse_append, List.findSome?_append, List.reverse_singleton,
      List.findSome?_singleton, hgroup.policy?_eq]

end IsMerge

/-- Objects, of which none declares a name twice, are merged into one. -/
theorem exists_isMerge {objects : List Shape} (hobjects : ∀ o ∈ objects, o.isObject = true)
    (hnames : ∀ o ∈ objects, o.names.Nodup) (hne : objects ≠ []) :
    ∃ ps a, objects.foldl mergeInto none = some (.object ps a) ∧ IsMerge objects ps a := by
  induction objects using List.reverseRecOn with
  | nil => exact absurd rfl hne
  | append_singleton objects o ih =>
    obtain ⟨qs, b, rfl⟩ := exists_eq_object (hobjects o (by simp))
    have hqs : (qs.map (·.name)).Nodup := hnames (.object qs b) (by simp)
    rw [List.foldl_append, List.foldl_cons, List.foldl_nil]
    by_cases hnil : objects = []
    · rw [hnil]
      exact ⟨qs, b, rfl, .singleton hqs⟩
    · obtain ⟨ps, a, hps, hmerge⟩ := ih (fun o ho => hobjects o (List.mem_append_left _ ho))
        (fun o ho => hnames o (List.mem_append_left _ ho)) hnil
      rw [hps]
      exact ⟨_, _, rfl, hmerge.snoc hqs⟩

/-! ## Groups -/

section Groups

variable {before group after : List Shape}

/-- Objects are merged in groups as they are merged one by one. -/
theorem foldl_mergeInto_group (hobjects : ∀ o ∈ before ++ group ++ after, o.isObject = true)
    (hnames : ∀ o ∈ before ++ group ++ after, o.names.Nodup) :
    (before ++ (group.foldl mergeInto none).toList ++ after).foldl mergeInto none =
      (before ++ group ++ after).foldl mergeInto none := by
  have hsub : group ⊆ before ++ group ++ after := fun o ho => by simp [ho]
  by_cases hnil : group = []
  · rw [hnil]
    rfl
  obtain ⟨qs, b, hmerged, hgroup⟩ :=
    exists_isMerge (fun o ho => hobjects o (hsub ho)) (fun o ho => hnames o (hsub ho)) hnil
  rw [hmerged]
  -- both lists are merged into what is described by the objects one by one
  have hone : ∀ o ∈ before ++ [.object qs b] ++ after,
      o = .object qs b ∨ o ∈ before ++ group ++ after := fun o ho => by
    simp only [List.mem_append, List.mem_singleton] at ho ⊢
    tauto
  obtain ⟨ps, a, hps, hmerge⟩ := exists_isMerge
    (fun o (ho : o ∈ before ++ [.object qs b] ++ after) =>
      (hone o ho).elim (fun h => h ▸ rfl) (hobjects o))
    (fun o ho => (hone o ho).elim (fun h => h ▸ hgroup.nodup) (hnames o)) (by simp)
  obtain ⟨ps', a', hps', hmerge'⟩ := exists_isMerge hobjects hnames (by simp [hnil])
  obtain ⟨rfl, rfl⟩ := (hgroup.of_group hmerge).unique hmerge'
  exact hps.trans hps'.symm

/-- Parts are gathered in groups as they are gathered all at once. -/
theorem gather_group (hnames : ∀ s ∈ before ++ group ++ after, s.names.Nodup) :
    gather (before ++ gather group ++ after) = gather (before ++ group ++ after) := by
  have hmerged : (before ++ gather group ++ after).foldl mergeInto none =
      (before ++ group ++ after).foldl mergeInto none := by
    rw [← foldl_mergeInto_filter, ← foldl_mergeInto_filter (before ++ group ++ after)]
    simp only [List.filter_append]
    rw [filter_isObject_gather, ← foldl_mergeInto_filter group, foldl_mergeInto_group]
    all_goals
      intro o ho
      simp only [← List.filter_append] at ho
    · exact (List.mem_filter.1 ho).2
    · exact hnames o (List.mem_of_mem_filter ho)
  have hothers : (before ++ gather group ++ after).filter (fun s => !s.isObject) =
      (before ++ group ++ after).filter fun s => !s.isObject := by
    simp only [List.filter_append, filter_not_isObject_gather]
  exact congrArg₂ (fun merged others => merged.toList ++ others) hmerged hothers

/-- A conjunction that stands in another one is taken apart there. -/
theorem ofConjunction_group
    (hnames : ∀ s ∈ partsOfAll (before ++ group ++ after), s.names.Nodup) :
    ofConjunction (before ++ [ofConjunction group] ++ after) =
      ofConjunction (before ++ group ++ after) := by
  have hgroup : (ofConjunction group).parts = gather (partsOfAll group) :=
    parts_ofParts (isPart_of_mem_gather fun s hs => isPart_of_mem_partsOfAll hs)
  simp only [partsOfAll_append] at hnames
  rw [ofConjunction_eq, ofConjunction_eq (before ++ group ++ after)]
  simp only [partsOfAll_append, partsOfAll_singleton, hgroup]
  rw [gather_group hnames]

end Groups

end ContractInterface.Shape
