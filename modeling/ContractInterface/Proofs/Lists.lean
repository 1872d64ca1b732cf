/-
Lists that are related place by place, options that are related, lists of pairs, what is found last in a
list, and lists without repetitions.
-/
import Mathlib.Data.List.Forall2
import Mathlib.Data.List.Induction

namespace ContractInterface

/-! ## Place by place -/

theorem exists_mem_of_forall₂ {α β : Type} {P : α → β → Prop} :
    ∀ {xs : List α} {ys : List β}, List.Forall₂ P xs ys → ∀ x ∈ xs, ∃ y ∈ ys, P x y
  | _, _, .cons h hr, x, hx => by
    rcases List.mem_cons.1 hx with rfl | hx
    · exact ⟨_, List.mem_cons_self .., h⟩
    · obtain ⟨y, hy, h⟩ := exists_mem_of_forall₂ hr x hx
      exact ⟨y, List.mem_cons_of_mem _ hy, h⟩

theorem forall_mem_of_forall₂ {α β : Type} {P : α → Prop} {xs : List α} {ys : List β}
    (h : List.Forall₂ (fun x _ => P x) xs ys) : ∀ x ∈ xs, P x := fun x hx => by
  obtain ⟨_, -, hP⟩ := exists_mem_of_forall₂ h x hx
  exact hP

/-- A relation to the places of one list carries over to another one. -/
theorem forall₂_of_forall₂ {α β γ : Type} {R : α → β → Prop} {P : α → γ → Prop} {Q : β → γ → Prop}
    (h : ∀ x y z, R x y → P x z → Q y z) : ∀ {xs : List α} {ys : List β} {zs : List γ},
    List.Forall₂ R xs ys → List.Forall₂ P xs zs → List.Forall₂ Q ys zs
  | _, _, _, .nil, .nil => .nil
  | _, _, _, .cons hr hrs, .cons hp hps => .cons (h _ _ _ hr hp) (forall₂_of_forall₂ h hrs hps)

theorem forall₂_append_left {α β : Type} {R : α → β → Prop} {xs ys : List α} {zs : List β}
    (h : List.Forall₂ R (xs ++ ys) zs) :
    ∃ as bs, zs = as ++ bs ∧ List.Forall₂ R xs as ∧ List.Forall₂ R ys bs := by
  have htake := List.forall₂_take xs.length h
  have hdrop := List.forall₂_drop xs.length h
  rw [List.take_left] at htake
  rw [List.drop_left] at hdrop
  exact ⟨_, _, (List.take_append_drop ..).symm, htake, hdrop⟩

theorem forall₂_of_map_eq {α β : Type} {form : α → β} {P : α → α → Prop} : ∀ {xs ys : List α},
    xs.map form = ys.map form → (∀ x ∈ xs, ∀ y ∈ ys, form x = form y → P x y) → List.Forall₂ P xs ys
  | [], [], _, _ => .nil
  | x :: xs, y :: ys, h, hP => by
    obtain ⟨hhead, htail⟩ := List.cons.inj h
    refine .cons (hP x (List.mem_cons_self ..) y (List.mem_cons_self ..) hhead) ?_
    exact forall₂_of_map_eq htail fun x hx y hy =>
      hP x (List.mem_cons_of_mem _ hx) y (List.mem_cons_of_mem _ hy)

theorem exists_forall₂ {α β : Type} {P : α → β → Prop} : ∀ {xs : List α},
    (∀ x ∈ xs, ∃ y, P x y) → ∃ ys, List.Forall₂ P xs ys
  | [], _ => ⟨[], .nil⟩
  | x :: xs, h => by
    obtain ⟨y, hy⟩ := h x (List.mem_cons_self ..)
    obtain ⟨ys, hys⟩ := exists_forall₂ fun x hx => h x (List.mem_cons_of_mem _ hx)
    exact ⟨y :: ys, .cons hy hys⟩

theorem forall₂_of_zip {α β : Type} {P : α → β → Prop} {xs : List α} {ys : List β}
    (hlength : xs.length = ys.length) (h : ∀ p ∈ xs.zip ys, P p.1 p.2) : List.Forall₂ P xs ys :=
  List.forall₂_iff_zip.2 ⟨hlength, fun hp => h _ hp⟩

/-- Pairs with the same keys, place by place. -/
theorem forall₂_of_keys {κ α β : Type} {P : κ → α → β → Prop} :
    ∀ {xs : List (κ × α)} {ys : List (κ × β)}, xs.map Prod.fst = ys.map Prod.fst →
      (∀ p ∈ xs.zip ys, P p.1.1 p.1.2 p.2.2) →
      List.Forall₂ (fun x y => x.1 = y.1 ∧ P x.1 x.2 y.2) xs ys
  | [], [], _, _ => .nil
  | x :: xs, y :: ys, hkeys, h => by
    obtain ⟨hkey, hkeys⟩ := List.cons.inj hkeys
    refine .cons ⟨hkey, h (x, y) (List.mem_cons_self ..)⟩ (forall₂_of_keys hkeys fun p hp => ?_)
    exact h p (List.mem_cons_of_mem _ hp)

theorem getElem_mem_zip {α β : Type} {xs : List α} {ys : List β} {i : Nat} (hx : i < xs.length)
    (hy : i < ys.length) : (xs[i], ys[i]) ∈ xs.zip ys := by
  have hlt : i < (xs.zip ys).length := List.length_zip ▸ Nat.lt_min.2 ⟨hx, hy⟩
  exact List.mem_iff_getElem.2 ⟨i, hlt, List.getElem_zip⟩

/-! ## Options -/

section Options

variable {α β γ δ : Type} {R : α → β → Prop} {S : γ → δ → Prop} {a : Option α} {b : Option β}

theorem rel_self {R : α → α → Prop} (h : ∀ x ∈ a, R x x) : Option.Rel R a a := by
  cases a with
  | none => exact .none
  | some x => exact .some (h x rfl)

theorem rel_cases (h : Option.Rel R a b) :
    (a = none ∧ b = none) ∨ ∃ x y, a = some x ∧ b = some y ∧ R x y := by
  cases h with
  | none => exact .inl ⟨rfl, rfl⟩
  | some h => exact .inr ⟨_, _, rfl, rfl, h⟩

theorem rel_imp {T : α → β → Prop} (h : Option.Rel R a b) (hRT : ∀ x y, R x y → T x y) :
    Option.Rel T a b := by
  cases h with
  | none => exact .none
  | some h => exact .some (hRT _ _ h)

theorem rel_map {f : α → γ} {g : β → δ} (h : Option.Rel R a b) (hfg : ∀ x y, R x y → S (f x) (g y)) :
    Option.Rel S (a.map f) (b.map g) := by
  cases h with
  | none => exact .none
  | some h => exact .some (hfg _ _ h)

theorem rel_bind {f : α → Option γ} {g : β → Option δ} (h : Option.Rel R a b)
    (hfg : ∀ x y, R x y → Option.Rel S (f x) (g y)) : Option.Rel S (a.bind f) (b.bind g) := by
  cases h with
  | none => exact .none
  | some h => exact hfg _ _ h

theorem rel_orElse {c : Option α} {d : Option β} (hab : Option.Rel R a b) (hcd : Option.Rel R c d) :
    Option.Rel R (a <|> c) (b <|> d) := by
  cases hab with
  | none => exact hcd
  | some h => exact .some h

theorem rel_or {c : Option α} {d : Option β} (hab : Option.Rel R a b) (hcd : Option.Rel R c d) :
    Option.Rel R (a.or c) (b.or d) := by
  cases hab with
  | none => exact hcd
  | some h => exact .some h

theorem rel_find? {p : α → Bool} {q : β → Bool} (hpq : ∀ x y, R x y → p x = q y) :
    ∀ {xs : List α} {ys : List β}, List.Forall₂ R xs ys → Option.Rel R (xs.find? p) (ys.find? q)
  | _, _, .nil => .none
  | x :: xs, y :: ys, .cons h hrest => by
    rw [List.find?_cons, List.find?_cons, hpq x y h]
    cases q y with
    | true => exact .some h
    | false => exact rel_find? hpq hrest

theorem rel_findSome? {f : α → Option γ} {g : β → Option δ}
    (hfg : ∀ x y, R x y → Option.Rel S (f x) (g y)) : ∀ {xs : List α} {ys : List β},
      List.Forall₂ R xs ys → Option.Rel S (xs.findSome? f) (ys.findSome? g)
  | _, _, .nil => .none
  | x :: xs, y :: ys, .cons h hrest => by
    rw [List.findSome?_cons, List.findSome?_cons]
    rcases rel_cases (hfg x y h) with ⟨hf, hg⟩ | ⟨c, d, hf, hg, hcd⟩
    · rw [hf, hg]
      exact rel_findSome? hfg hrest
    · rw [hf, hg]
      exact .some hcd

theorem eq_of_rel {S : α → α → Prop} {a b : Option α} (h : Option.Rel S a b)
    (hS : ∀ x y, S x y → x = y) : a = b := by
  cases h with
  | none => rfl
  | some h => exact congrArg some (hS _ _ h)

theorem map_eq_of_rel {f : α → γ} {g : β → γ} (h : Option.Rel R a b) (hfg : ∀ x y, R x y → f x = g y) :
    a.map f = b.map g := by
  cases h with
  | none => rfl
  | some h => exact congrArg some (hfg _ _ h)

theorem bind_eq_of_rel {f : α → Option γ} {g : β → Option γ} (h : Option.Rel R a b)
    (hfg : ∀ x y, R x y → f x = g y) : a.bind f = b.bind g := by
  cases h with
  | none => rfl
  | some h => exact hfg _ _ h

theorem isSome_eq_of_rel (h : Option.Rel R a b) : a.isSome = b.isSome := by
  cases h with
  | none => rfl
  | some => rfl

theorem getD_of_rel {x : α} {y : β} (h : Option.Rel R a b) (hxy : R x y) : R (a.getD x) (b.getD y) := by
  cases h with
  | none => exact hxy
  | some h => exact h

theorem getD_orElse_cases {c : Option α} {x y : α} (h : (a <|> c).getD x = y) :
    a = some y ∨ c.getD x = y := by
  cases a with
  | none => exact .inr h
  | some z => exact .inl (congrArg some h)

end Options

/-! ## Looking up -/

theorem mem_of_lookup_eq_some {α β : Type} [BEq α] [LawfulBEq α] {entries : List (α × β)} {a : α}
    {b : β} (h : entries.lookup a = some b) : (a, b) ∈ entries := by
  obtain ⟨before, after, h, -⟩ := List.lookup_eq_some_iff.1 h
  simp [h]

theorem lookup_map_snd {α β γ : Type} [BEq α] (φ : β → γ) (entries : List (α × β)) (a : α) :
    (entries.map fun e => (e.1, φ e.2)).lookup a = (entries.lookup a).map φ := by
  induction entries with
  | nil => rfl
  | cons e entries ih =>
    rw [List.map_cons, List.lookup_cons, List.lookup_cons, ih]
    split <;> rfl

/-- What stands under a key in two lists with the same keys is related as their pairs are. -/
theorem rel_lookup {κ α β : Type} [BEq κ] [LawfulBEq κ] {P : κ → α → β → Prop} {xs : List (κ × α)}
    {ys : List (κ × β)} (h : List.Forall₂ (fun x y => x.1 = y.1 ∧ P x.1 x.2 y.2) xs ys) (key : κ) :
    Option.Rel (P key) (xs.lookup key) (ys.lookup key) := by
  induction h with
  | nil => exact .none
  | @cons x y xs ys hxy _ ih =>
    rw [List.lookup_cons, List.lookup_cons, ← hxy.1]
    cases hkey : key == x.1 with
    | true => exact beq_iff_eq.1 hkey ▸ .some hxy.2
    | false => exact ih

/-- Where no name is repeated, a pair is what is found under its name. -/
theorem lookup_eq_some_iff_mem {α β : Type} [BEq α] [LawfulBEq α] {entries : List (α × β)}
    (h : (entries.map Prod.fst).Nodup) {a : α} {b : β} :
    entries.lookup a = some b ↔ (a, b) ∈ entries := by
  refine ⟨mem_of_lookup_eq_some, fun hm => ?_⟩
  induction entries with
  | nil => cases hm
  | cons entry entries ih =>
    obtain ⟨name, x⟩ := entry
    obtain ⟨hfresh, hrest⟩ := List.nodup_cons.1 h
    rw [List.lookup_cons]
    rcases List.mem_cons.1 hm with heq | hlater
    · cases heq
      simp
    · have hmem : a ∈ entries.map Prod.fst := List.mem_map_of_mem hlater
      have hne : a ≠ name := fun heq => hfresh (heq ▸ hmem)
      rw [beq_eq_false_iff_ne.2 hne]
      exact ih hrest hlater

/-! ## The last of what is found -/

/-- What holds of the last value that is found holds of all of them, if it goes from each value to those
before it. -/
theorem forall_findSome?_reverse_iff {α β : Type} {f : α → Option β} {P : β → Prop} {xs : List α}
    (h : xs.Pairwise fun x y => ∀ b ∈ f x, ∀ c ∈ f y, P c → P b) :
    (∀ b ∈ xs.reverse.findSome? f, P b) ↔ ∀ x ∈ xs, ∀ b ∈ f x, P b := by
  induction xs using List.reverseRecOn with
  | nil => simp
  | append_singleton xs y ih =>
    obtain ⟨hxs, -, hlast⟩ := List.pairwise_append.1 h
    rw [List.reverse_append, List.reverse_singleton, List.singleton_append, List.findSome?_cons,
      List.forall_mem_append, List.forall_mem_singleton, ← ih hxs]
    cases hy : f y with
    | none => simp
    | some c =>
      have hc : P c → ∀ b ∈ xs.reverse.findSome? f, P b := fun hc b hb => by
        obtain ⟨x, hx, hb⟩ := List.exists_of_findSome?_eq_some hb
        exact hlast x (List.mem_reverse.1 hx) y (List.mem_singleton_self y) b hb c hy hc
      simpa using hc

/-! ## Leaving out repetitions -/

section Distinct

variable {α : Type} {same : α → α → Bool}

/-- Of a list without the values that equal an earlier one: it holds only values of the list, and for
each of them the value itself or an earlier one that equals it. -/
theorem foldl_distinct : ∀ (xs kept : List α),
    let all := xs.foldl (fun kept x => if kept.any (same · x) then kept else kept ++ [x]) kept
    (∀ k ∈ all, k ∈ kept ∨ k ∈ xs) ∧ (∀ k ∈ kept, k ∈ all) ∧
      ∀ x ∈ xs, x ∈ all ∨ ∃ k ∈ all, same k x = true
  | [], kept => ⟨fun k hk => .inl hk, fun k hk => hk, by simp⟩
  | x :: xs, kept => by
    simp only [List.foldl_cons]
    by_cases hx : kept.any (same · x) = true
    · rw [if_pos hx]
      obtain ⟨hsub, hkept, hall⟩ := foldl_distinct xs kept
      refine ⟨fun k hk => (hsub k hk).imp_right (List.mem_cons_of_mem _), hkept, fun y hy => ?_⟩
      rcases List.mem_cons.1 hy with rfl | hy
      · obtain ⟨k, hk, hs⟩ := List.any_eq_true.1 hx
        exact .inr ⟨k, hkept k hk, hs⟩
      · exact hall y hy
    · rw [if_neg hx]
      obtain ⟨hsub, hkept, hall⟩ := foldl_distinct xs (kept ++ [x])
      refine ⟨fun k hk => ?_, fun k hk => hkept k (List.mem_append_left _ hk), fun y hy => ?_⟩
      · rcases hsub k hk with h | h
        · rcases List.mem_append.1 h with h | h
          · exact .inl h
          · exact .inr (List.mem_singleton.1 h ▸ List.mem_cons_self ..)
        · exact .inr (List.mem_cons_of_mem _ h)
      · rcases List.mem_cons.1 hy with rfl | hy
        · exact .inl (hkept y (List.mem_append_right _ (List.mem_singleton_self y)))
        · exact hall y hy

/-- No value that is kept equals one that is kept before it. -/
theorem pairwise_foldl_distinct : ∀ (xs : List α) {kept : List α},
    (kept.Pairwise fun k x => same k x = false) →
      (xs.foldl (fun kept x => if kept.any (same · x) then kept else kept ++ [x]) kept).Pairwise
        fun k x => same k x = false
  | [], _, h => h
  | x :: xs, kept, h => by
    rw [List.foldl_cons]
    split
    · exact pairwise_foldl_distinct xs h
    · rename_i hx
      refine pairwise_foldl_distinct xs (List.pairwise_append.2 ⟨h, List.pairwise_singleton .., ?_⟩)
      intro k hk y hy
      obtain rfl := List.mem_singleton.1 hy
      exact Bool.eq_false_iff.2 fun hsame => hx (List.any_eq_true.2 ⟨k, hk, hsame⟩)

end Distinct

section FirstOccurrences

variable {α : Type} [BEq α] [LawfulBEq α]

theorem filter_eraseDups (p : α → Bool) : ∀ as : List α,
    as.eraseDups.filter p = (as.filter p).eraseDups
  | [] => rfl
  | a :: as => by
    have hrest := filter_eraseDups p (as.filter fun b => !b == a)
    rw [List.eraseDups_cons, List.filter_cons, List.filter_cons]
    cases ha : p a with
    | true => rw [if_pos rfl, if_pos rfl, List.eraseDups_cons, hrest, List.filter_comm]
    | false =>
      -- what repeats the first element is left out with it
      have hsame : (as.filter fun b => !b == a).filter p = as.filter p := by
        rw [List.filter_filter]
        refine List.filter_congr fun b _ => ?_
        cases hb : b == a with
        | true => simp [beq_iff_eq.1 hb, ha]
        | false => simp
      rw [if_neg (by simp), if_neg (by simp), hrest, hsame]
termination_by as => as.length
decreasing_by exact Nat.lt_succ_of_le (List.length_filter_le ..)

theorem nodup_eraseDups : ∀ as : List α, as.eraseDups.Nodup
  | [] => List.nodup_nil
  | a :: as => by
    have hrest := nodup_eraseDups (as.filter fun b => !b == a)
    rw [List.eraseDups_cons]
    refine List.nodup_cons.2 ⟨fun hmem => ?_, hrest⟩
    simpa using (List.mem_filter.1 (List.mem_eraseDups.1 hmem)).2
termination_by as => as.length
decreasing_by exact Nat.lt_succ_of_le (List.length_filter_le ..)

theorem eraseDups_of_nodup {as : List α} (h : as.Nodup) : as.eraseDups = as := by
  induction as with
  | nil => rfl
  | cons a as ih =>
    obtain ⟨ha, has⟩ := List.nodup_cons.1 h
    have hkeep : as.filter (fun b => !b == a) = as := List.filter_eq_self.2 fun b hb => by
      simpa using fun heq : b = a => ha (heq ▸ hb)
    rw [List.eraseDups_cons, hkeep, ih has]

/-- Repetitions that are left out of a beginning would be left out later. -/
theorem eraseDups_eraseDups_append (as bs : List α) :
    (as.eraseDups ++ bs).eraseDups = (as ++ bs).eraseDups := by
  have hrest : bs.removeAll as.eraseDups = bs.removeAll as := List.filter_congr fun b _ => by
    rw [List.elem_eq_contains, List.elem_eq_contains, Bool.not_inj_iff, Bool.eq_iff_iff,
      List.contains_iff_mem, List.contains_iff_mem, List.mem_eraseDups]
  rw [List.eraseDups_append, List.eraseDups_append, eraseDups_of_nodup (nodup_eraseDups as), hrest]

theorem eraseDups_append_eraseDups (as bs : List α) :
    (as ++ bs.eraseDups).eraseDups = (as ++ bs).eraseDups := by
  have hrest : (bs.eraseDups.removeAll as).eraseDups = (bs.removeAll as).eraseDups := by
    unfold List.removeAll
    rw [filter_eraseDups, eraseDups_of_nodup (nodup_eraseDups _)]
  rw [List.eraseDups_append, List.eraseDups_append, hrest]

end FirstOccurrences

end ContractInterface
