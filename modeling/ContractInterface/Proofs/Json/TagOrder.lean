/-
Blocks do not tell drafts of the same value apart (`Block.respects`). The tag may stand in any place:
what reading it says of the members does not depend on their order (`Block.TagRead.of_alike`).
-/
import ContractInterface.Proofs.Json.Respect

namespace ContractInterface.Json

variable {α γ τ : Type}

namespace Block

variable {b : Block τ α}

/-! ## Reading the tag -/

/-- Whether a member is the tag. -/
def isTag (b : Block τ α) (m : Key × Draft) : Bool :=
  match m.1 with
  | .text name => name == b.tagName
  | .badText .. | .notText => false

theorem isTag_text {name : String} {d : Draft} : b.isTag (.text name, d) = true ↔ name = b.tagName :=
  beq_iff_eq

/-- What reading a tag says of the members, whatever their order: at most one of them is the tag, and
the others can be kept. -/
structure TagRead (b : Block τ α) (site : Site) (tag : Option τ) (ms : List (Key × Draft))
    (result : Option τ) : Prop where
  others : ∀ m ∈ ms, b.isTag m = false → ∃ name v, m.1 = .text name ∧ m.2.keep site.room = .ok v
  tag : ms.filter b.isTag = [] ∧ result = tag ∨ tag = none ∧
    ∃ m t, ms.filter b.isTag = [m] ∧ Decoder.variantName b.tags site m.2 = .ok t ∧ result = some t

theorem readTag_cons_tag {site : Site} {tag : Option τ} {acc ms : List (Key × Draft)} {d : Draft}
    {result : Option τ × List (Key × Draft)} :
    b.readTag site tag acc ((.text b.tagName, d) :: ms) = .ok result ↔ tag = none ∧
      ∃ t, Decoder.variantName b.tags site d = .ok t ∧ b.readTag site (some t) acc ms = .ok result := by
  rw [readTag, bind_eq_ok]
  cases tag with
  | none =>
    constructor
    · rintro ⟨_, ⟨⟩, h⟩
      rw [if_pos rfl] at h
      obtain ⟨t, ht, h⟩ := bind_eq_ok.1 h
      exact ⟨rfl, t, ht, h⟩
    · rintro ⟨-, t, ht, h⟩
      refine ⟨b.tagName, rfl, ?_⟩
      rw [if_pos rfl]
      exact bind_eq_ok.2 ⟨t, ht, h⟩
  | some t =>
    constructor
    · rintro ⟨_, ⟨⟩, h⟩
      rw [if_pos rfl] at h
      cases h
    · rintro ⟨⟨⟩, -⟩

theorem readTag_cons_other {site : Site} {tag : Option τ} {acc ms : List (Key × Draft)}
    {m : Key × Draft} (hm : b.isTag m = false) {result : Option τ × List (Key × Draft)} :
    b.readTag site tag acc (m :: ms) = .ok result ↔
      (∃ name v, m.1 = .text name ∧ m.2.keep site.room = .ok v) ∧
        b.readTag site tag (m :: acc) ms = .ok result := by
  obtain ⟨key, d⟩ := m
  rw [readTag, bind_eq_ok]
  cases key with
  | text name =>
    have hname : ¬ name = b.tagName := fun h => by
      rw [isTag_text.2 h] at hm
      cases hm
    constructor
    · rintro ⟨_, ⟨⟩, h⟩
      rw [if_neg hname] at h
      obtain ⟨v, hv, h⟩ := bind_eq_ok.1 h
      exact ⟨⟨name, v, rfl, liftM_eq_ok.1 hv⟩, h⟩
    · rintro ⟨⟨_, v, ⟨⟩, hv⟩, h⟩
      refine ⟨name, rfl, ?_⟩
      rw [if_neg hname]
      exact bind_eq_ok.2 ⟨v, liftM_eq_ok.2 hv, h⟩
  | badText | notText =>
    constructor
    · rintro ⟨_, ⟨⟩, -⟩
    · rintro ⟨⟨_, _, ⟨⟩, -⟩, -⟩

theorem readTag_eq_ok {site : Site} {ms : List (Key × Draft)} :
    ∀ {tag result : Option τ} {acc others : List (Key × Draft)},
      b.readTag site tag acc ms = .ok (result, others) ↔
        b.TagRead site tag ms result ∧ others = acc.reverse ++ ms.filter fun m => !b.isTag m := by
  -- what is collected so far and the tag that is found, if any, change from member to member
  induction ms with
  | nil =>
    intro tag result acc others
    constructor
    · rintro ⟨⟩
      exact ⟨⟨by simp, .inl ⟨rfl, rfl⟩⟩, by simp⟩
    · rintro ⟨⟨-, ⟨-, rfl⟩ | ⟨-, m, t, ⟨⟩, -⟩⟩, rfl⟩
      simp [readTag]
  | cons m ms ih =>
    intro tag result acc others
    cases hm : b.isTag m with
    | false =>
      rw [readTag_cons_other hm, ih]
      have htag : (m :: ms).filter b.isTag = ms.filter b.isTag := by simp [hm]
      have hothers : (m :: ms).filter (fun m => !b.isTag m) =
          m :: ms.filter fun m => !b.isTag m := by simp [hm]
      rw [hothers, List.reverse_cons, List.append_assoc, List.singleton_append]
      constructor
      · rintro ⟨hkept, ⟨hrest, hread⟩, rfl⟩
        refine ⟨⟨fun n hn hne => ?_, htag ▸ hread⟩, rfl⟩
        rcases List.mem_cons.1 hn with rfl | hn
        · exact hkept
        · exact hrest n hn hne
      · rintro ⟨⟨hall, hread⟩, rfl⟩
        refine ⟨hall m (List.mem_cons_self ..) hm, ⟨fun n hn => ?_, htag ▸ hread⟩, rfl⟩
        exact hall n (List.mem_cons_of_mem _ hn)
    | true =>
      obtain ⟨key, d⟩ := m
      obtain rfl : key = .text b.tagName := by
        cases key with
        | text name => rw [isTag_text.1 hm]
        | badText | notText => cases hm
      have htag : ((Key.text b.tagName, d) :: ms).filter b.isTag =
          (.text b.tagName, d) :: ms.filter b.isTag := by simp [hm]
      have hothers : ((Key.text b.tagName, d) :: ms).filter (fun m => !b.isTag m) =
          ms.filter fun m => !b.isTag m := by simp [hm]
      rw [readTag_cons_tag, hothers]
      constructor
      · rintro ⟨rfl, t, ht, h⟩
        obtain ⟨⟨hrest, hread⟩, rfl⟩ := ih.1 h
        refine ⟨⟨fun n hn hne => ?_, .inr ⟨rfl, (.text b.tagName, d), t, ?_, ht, ?_⟩⟩, rfl⟩
        · rcases List.mem_cons.1 hn with rfl | hn
          · cases hm.symm.trans hne
          · exact hrest n hn hne
        -- with a tag found, the members that follow hold no second one
        · rcases hread with ⟨hnone, -⟩ | ⟨⟨⟩, -⟩
          rw [htag, hnone]
        · rcases hread with ⟨-, rfl⟩ | ⟨⟨⟩, -⟩
          rfl
      · rintro ⟨⟨hall, hread⟩, rfl⟩
        rw [htag] at hread
        obtain ⟨⟨⟩, -⟩ | ⟨rfl, m, t, hfilter, ht, rfl⟩ := hread
        obtain ⟨rfl, hnone⟩ := List.cons.inj hfilter
        refine ⟨rfl, t, ht, ih.2 ⟨⟨fun n hn => ?_, .inl ⟨hnone, rfl⟩⟩, rfl⟩⟩
        exact hall n (List.mem_cons_of_mem _ hn)

/-! ## Order -/

theorem forall₂_filter {p : Key × Draft → Bool} (hp : ∀ m n : Key × Draft, m.1 = n.1 → p m = p n)
    {ms ns : List (Key × Draft)} (h : List.Forall₂ Draft.AlikeMember ms ns) :
    List.Forall₂ Draft.AlikeMember (ms.filter p) (ns.filter p) :=
  List.rel_filter (fun m n hmn => iff_of_eq (congrArg (· = true) (hp m n hmn.key))) h

theorem shuffled_filter (p : Key × Draft → Bool) {ms ms' : List (Key × Draft)}
    (h : Shuffled ms ms') : Shuffled (ms.filter p) (ms'.filter p) := by
  rcases h with rfl | ⟨hapart, hperm⟩
  · exact .inl rfl
  · exact .inr ⟨hapart.filter p, hperm.filter p⟩

theorem isTag_congr {m n : Key × Draft} (h : m.1 = n.1) : b.isTag m = b.isTag n := by
  unfold isTag
  rw [h]

/-- The tag may stand in any place. -/
theorem TagRead.of_alike {site : Site} {tag : Option τ} {result : Option τ}
    {ms ms' ns : List (Key × Draft)} (h : b.TagRead site tag ms result) (hms : Shuffled ms ms')
    (hmembers : List.Forall₂ Draft.AlikeMember ms' ns) : b.TagRead site tag ns result := by
  refine ⟨fun n hn hne => ?_, ?_⟩
  · obtain ⟨m, hm, hmn⟩ := exists_mem_of_forall₂ hmembers.flip n hn
    obtain ⟨name, v, hname, hv⟩ :=
      h.others m (hms.perm.mem_iff.2 hm) ((isTag_congr hmn.key).trans hne)
    obtain ⟨w, hw, -⟩ := hmn.draft.keep site.room v hv
    exact ⟨name, w, hmn.key ▸ hname, hw⟩
  · have hperm := hms.perm.filter b.isTag
    have hfilter := forall₂_filter (fun m n => isTag_congr (b := b)) hmembers
    rcases h.tag with ⟨hnone, rfl⟩ | ⟨rfl, m, t, hone, ht, rfl⟩
    · rw [hnone] at hperm
      rw [List.nil_perm.1 hperm] at hfilter
      exact .inl ⟨List.forall₂_nil_left_iff.1 hfilter, rfl⟩
    · rw [hone] at hperm
      rw [← List.singleton_perm.1 hperm] at hfilter
      obtain ⟨n, rest, hmn, hrest, hns⟩ := List.forall₂_cons_left_iff.1 hfilter
      rw [List.forall₂_nil_left_iff.1 hrest] at hns
      obtain ⟨t', ht', rfl⟩ := Decoder.respects_variantName b.tags site hmn.draft t ht
      exact .inr ⟨rfl, n, _, hns, ht', rfl⟩

theorem respects {form : α → γ} (h : b.record.Orderly form) :
    b.decoder.Respects (Prod.map id form) := by
  intro site d e hde
  cases d with
  | object ms closing =>
    obtain ⟨ms', ns, rfl, hms, hmembers⟩ := hde.object_left
    simp only [decoder]
    refine (follows_liftM (.eq _)).bind ?_
    rintro inner _ rfl
    have htag : Follows (fun x y => x.1 = y.1 ∧ x.2 = ms.filter (fun m => !b.isTag m) ∧
        y.2 = ns.filter fun m => !b.isTag m)
        (b.readTag inner none [] ms) (b.readTag inner none [] ns) := by
      rintro ⟨tag, others⟩ hread
      obtain ⟨htag, rfl⟩ := readTag_eq_ok.1 hread
      exact ⟨_, readTag_eq_ok.2 ⟨htag.of_alike hms hmembers, rfl⟩, rfl, by simp⟩
    refine htag.bind ?_
    rintro ⟨tag, _⟩ ⟨_, _⟩ ⟨rfl, rfl, rfl⟩
    refine (follows_liftM (.eq _)).bind fun _ _ _ => ?_
    cases tag with
    | none => exact .error _
    | some t =>
      -- the members but for the tag are in another order in turn
      refine (h.follows_ofMembers (shuffled_filter _ hms) (forall₂_filter ?_ hmembers)).bind
        fun a a' ha => .ok (Prod.ext rfl ha)
      intro m n hmn
      rw [isTag_congr hmn]
  | list ds closing =>
    obtain ⟨es, rfl, hitems⟩ := hde.list_left
    simp only [decoder]
    refine (follows_liftM (.eq _)).bind ?_
    rintro inner _ rfl
    cases hitems with
    | nil =>
      refine (follows_liftM (.eq _)).bind fun _ _ _ => ?_
      exact .error _
    | cons hfirst hrest =>
      dsimp only
      refine (Decoder.respects_variantName b.tags inner hfirst).bind ?_
      rintro t _ rfl
      simp only [Draft.keepItems_eq_mapM]
      have hkept := Follows.mapM (S := Draft.Alike) (fun d e hde => hde.keep inner.room) hrest
      refine (follows_liftM hkept).bind fun _ _ _ => ?_
      refine (follows_liftM (.eq _)).bind fun _ _ _ => ?_
      exact (h.follows_ofItems hrest).bind fun a a' ha => .ok (Prod.ext rfl ha)
  | missing | word | badWord | numeral | text | badText => exact Draft.follows_refuse _ _ _

end Block

end ContractInterface.Json
