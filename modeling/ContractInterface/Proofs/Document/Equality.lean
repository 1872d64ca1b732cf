/-
Documents that are the same up to the order of members are equal (`Document.Fits.same_of_ordered_eq`),
if no name is repeated in a raw value.
-/
import ContractInterface.Document.Equality
import ContractInterface.Proofs.Document.Fits
import ContractInterface.Proofs.Document.Order
import ContractInterface.Proofs.Json.Reordered

namespace ContractInterface

open Json

/-! ## Parts -/

theorem sameOption_of_map_eq {α β : Type} {form : α → β} {same : α → α → Bool} {a b : Option α}
    (h : a.map form = b.map form) (hsame : ∀ x ∈ a, ∀ y ∈ b, form x = form y → same x y = true) :
    sameOption same a b = true := by
  cases a with
  | none => cases b <;> first | rfl | cases h
  | some x =>
    cases b with
    | none => cases h
    | some y => exact hsame x rfl y rfl (Option.some.inj h)

/-! ## Tables -/

namespace Json

/-- Tables in order are equal if they are the same up to the order of members inside. -/
theorem Members.sameTable_of_ordered_eq {room room' : ℕ} {ms ns : Members} (hms : ms.Fit room)
    (hns : ns.Fit room') (hms' : Value.orderMembers ms = ms) (hns' : Value.orderMembers ns = ns)
    (h : ms.ordered = ns.ordered) : sameTable ms ns = true := by
  have hmap : ∀ {members : Members}, Value.orderMembers members = members →
      members.ordered = members.map fun m => (m.1, m.2.ordered) := fun hmembers => by
    rw [Members.ordered, ← Value.orderedMembers_orderMembers, hmembers, Value.orderedMembers_eq_map]
  rw [hmap hms', hmap hns'] at h
  refine isEqv_of_map_eq h fun m hm n hn hmn => ?_
  obtain ⟨hname, hvalue⟩ := Prod.mk.inj hmn
  rw [Bool.and_eq_true, beq_iff_eq]
  exact ⟨hname, (hms.fits m hm).same_of_ordered_eq (hns.fits n hn) hvalue⟩

end Json

/-! ## Functions -/

variable {room : ℕ}

theorem Parameter.Fits.same_of_ordered_eq {p q : Parameter} (hp : p.Fits room) (hq : q.Fits room)
    (h : p.ordered = q.ordered) : p.same q = true := by
  obtain ⟨hname, hschema⟩ := Parameter.mk.inj h
  simp only [Parameter.same, Bool.and_eq_true, beq_iff_eq]
  exact ⟨hname, Value.Fits.same_of_ordered_eq hp hq hschema⟩

theorem ParameterBlock.Fits.same_of_ordered_eq {a b : ParameterBlock} (ha : a.Fits room)
    (hb : b.Fits room) (h : a.ordered = b.ordered) : a.same b = true := by
  obtain ⟨hformat, hparameters⟩ := ParameterBlock.mk.inj h
  simp only [ParameterBlock.same, Bool.and_eq_true, beq_iff_eq]
  exact ⟨hformat, isEqv_of_map_eq hparameters fun p hp q hq => (ha p hp).same_of_ordered_eq (hb q hq)⟩

theorem ResultBlock.Fits.same_of_ordered_eq {a b : ResultBlock} (ha : a.Fits room)
    (hb : b.Fits room) (h : a.ordered = b.ordered) : a.same b = true := by
  obtain ⟨hformat, hschema⟩ := ResultBlock.mk.inj h
  simp only [ResultBlock.same, Bool.and_eq_true, beq_iff_eq]
  exact ⟨hformat, Value.Fits.same_of_ordered_eq ha hb hschema⟩

theorem Function.Fits.same_of_ordered_eq {f g : Function} (hf : f.Fits room) (hg : g.Fits room)
    (h : f.ordered = g.ordered) : f.same g = true := by
  obtain ⟨hname, hdoc, hkind, hmodifiers, hparams, hcallbacks, hresult⟩ := Function.mk.inj h
  simp only [Function.same, Bool.and_eq_true, beq_iff_eq]
  refine ⟨⟨⟨⟨⟨⟨hname, hdoc⟩, hkind⟩, hmodifiers⟩, ?_⟩, ?_⟩, ?_⟩
  · exact sameOption_of_map_eq hparams fun a ha b hb =>
      (hf.params a ha).same_of_ordered_eq (hg.params b hb)
  · exact isEqv_of_map_eq hcallbacks fun v hv w hw =>
      (hf.callbacks v hv).same_of_ordered_eq (hg.callbacks w hw)
  · exact sameOption_of_map_eq hresult fun a ha b hb =>
      (hf.result a ha).same_of_ordered_eq (hg.result b hb)

/-! ## Documents -/

theorem BuildInfo.same_refl (b : BuildInfo) : b.same b = true := by
  simp [BuildInfo.same]

theorem Metadata.Fits.same_of_ordered_eq {m n : Metadata} (hm : m.Fits room) (hn : n.Fits room)
    (h : m.ordered = n.ordered) : m.same n = true := by
  obtain ⟨hname, hversion, hauthors, hbuild, hhash, hother⟩ := Metadata.mk.inj h
  have hsame : sameOption BuildInfo.same m.build n.build = true := by
    have hmap : m.build.map id = n.build.map id := by rw [hbuild]
    exact sameOption_of_map_eq hmap fun a _ b _ hab => (show a = b from hab) ▸ a.same_refl
  simp only [Metadata.same, Bool.and_eq_true, beq_iff_eq]
  exact ⟨⟨⟨⟨⟨hname, hversion⟩, hauthors⟩, hsame⟩, hhash⟩,
    Members.sameTable_of_ordered_eq hm.other hn.other hm.ordered hn.ordered hother⟩

theorem RootSchema.Fits.same_of_ordered_eq {r s : RootSchema} (hr : r.Fits room) (hs : s.Fits room)
    (h : r.ordered = s.ordered) : r.same s = true := by
  obtain ⟨hdialect, htitle, hdefinitions, hlocal, hextra⟩ := RootSchema.mk.inj h
  simp only [RootSchema.same, Bool.and_eq_true, beq_iff_eq]
  refine ⟨⟨⟨⟨hdialect, htitle⟩, ?_⟩, ?_⟩, ?_⟩
  · exact Members.sameTable_of_ordered_eq hr.definitions.1 hs.definitions.1 hr.definitions.2
      hs.definitions.2 hdefinitions
  · exact Members.sameTable_of_ordered_eq hr.localDefinitions.1 hs.localDefinitions.1
      hr.localDefinitions.2 hs.localDefinitions.2 hlocal
  · exact (Value.Fits.object hr.extra.nodup hr.extra.fits).same_of_ordered_eq
      (.object hs.extra.nodup hs.extra.fits) (congrArg Value.object hextra)

theorem Body.Fits.same_of_ordered_eq {a b : Body} (ha : a.Fits room) (hb : b.Fits room)
    (h : a.ordered = b.ordered) : a.same b = true := by
  obtain ⟨hfunctions, hroot⟩ := Body.mk.inj h
  simp only [Body.same, Bool.and_eq_true]
  exact ⟨isEqv_of_map_eq hfunctions fun f hf g hg =>
    (ha.functions f hf).same_of_ordered_eq (hb.functions g hg),
    ha.rootSchema.same_of_ordered_eq hb.rootSchema hroot⟩

theorem Document.Fits.same_of_ordered_eq {d e : Document} (hd : d.Fits room) (he : e.Fits room)
    (h : d.ordered = e.ordered) : d.same e = true := by
  obtain ⟨hversion, hmetadata, hbody⟩ := Document.mk.inj h
  simp only [Document.same, Bool.and_eq_true, beq_iff_eq]
  exact ⟨⟨hversion, hd.metadata.same_of_ordered_eq he.metadata hmetadata⟩,
    hd.body.same_of_ordered_eq he.body hbody⟩

end ContractInterface
