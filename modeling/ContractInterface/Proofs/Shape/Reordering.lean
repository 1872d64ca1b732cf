/-
Tables whose nodes cannot be told apart (`Definitions.Alike`). A reference leads to shapes that cannot be
told apart, or in both of them to none, and so does whatever is resolved against them
(`Definitions.Alike.follows_resolve`): the order of members in schemas decides neither whether a schema
resolves nor what its shape accepts (`resolveAlike_of_reordered`).
-/
import ContractInterface.Proofs.Schema.Reordering
import ContractInterface.Proofs.Shape.Memo

namespace ContractInterface

open Json

namespace Definitions

/-- Nodes that cannot be told apart under the same names. -/
def Alike (d e : Definitions) : Prop := ∀ name, Option.Rel Node.Alike (d.get? name) (e.get? name)

namespace Alike

variable {d e : Definitions} (h : d.Alike e)

include h

/-- The induction is on the names that are not open: each definition is entered with one name fewer. -/
theorem follows_expandPointer (stack : List String) (pointer : String) :
    Follows Shape.Alike (d.expandPointer stack pointer) (e.expandPointer stack pointer) := by
  by_cases hl : d.Leads pointer
  · obtain ⟨name, target, hname, htarget⟩ := hl
    rcases rel_cases (h name) with ⟨hnone, -⟩ | ⟨n, m, hn, hm, hnm⟩
    · cases htarget.symm.trans hnone
    obtain rfl := Option.some.inj (htarget.symm.trans hn)
    rw [expandPointer_of_leads hname htarget, expandPointer_of_leads hname hm]
    by_cases hs : name ∈ stack
    · rw [if_pos hs]
      exact .error _
    · rw [if_neg hs, if_neg hs]
      have hdecreases := unopened_append_lt htarget hs
      exact hnm.follows fun inner => follows_expandPointer (stack ++ [name]) inner
  · rw [expandPointer_of_not_leads hl]
    exact .error _
termination_by d.unopened stack

theorem follows_resolve {n m : Node} (hnm : n.Alike m) :
    Follows Shape.Alike (resolve d n) (resolve e m) := by
  rw [Resolver.resolve_eq_expand, Resolver.resolve_eq_expand]
  exact hnm.follows (h.follows_expandPointer [])

end Alike

/-- Tables of raw schemas that differ in the order of members only. -/
theorem alike_of_lookup {d e : Definitions} {ms ns : String → Option Value}
    (hd : ∀ name, d.get? name = (ms name).map Node.ofValue)
    (he : ∀ name, e.get? name = (ns name).map Node.ofValue)
    (h : ∀ name, Option.Rel Value.Reordered (ms name) (ns name)) : d.Alike e := fun name => by
  rw [hd, he]
  exact rel_map (h name) fun _ _ hvw => Node.alike_ofValue hvw

end Definitions

/-- Both resolve, to shapes that accept the same values, or neither does. -/
structure ResolveAlike (x y : Except ResolveError Shape) : Prop where
  exists_iff : (∃ s, x = .ok s) ↔ ∃ t, y = .ok t
  accepts_eq : ∀ s t, x = .ok s → y = .ok t → ∀ v, s.accepts v = t.accepts v

theorem ResolveAlike.of_follows {x y : Except ResolveError Shape} (h : Follows Shape.Alike x y)
    (h' : Follows Shape.Alike y x) : ResolveAlike x y := by
  refine ⟨⟨fun ⟨s, hs⟩ => ?_, fun ⟨t, ht⟩ => ?_⟩, fun s t hs ht v => ?_⟩
  · obtain ⟨t, ht, -⟩ := h s hs
    exact ⟨t, ht⟩
  · obtain ⟨s, hs, -⟩ := h' t ht
    exact ⟨s, hs⟩
  · obtain ⟨t', ht', hst⟩ := h s hs
    obtain rfl := Except.ok.inj (ht'.symm.trans ht)
    exact Bool.eq_iff_iff.2 (hst.equivalent.accepts_iff v)

/-- The order of members, in the schema and in what it points into, decides neither whether a schema
resolves nor what values it accepts. -/
theorem resolveAlike_of_reordered {ms ns : Members} {v w : Value} (hms : ms.Reordered ns)
    (hvw : v.Reordered w) :
    ResolveAlike (resolve (.ofRaw ms) (.ofValue v)) (resolve (.ofRaw ns) (.ofValue w)) := by
  have hfollows : ∀ {ms ns : Members} {v w : Value}, ms.Reordered ns → v.Reordered w →
      Follows Shape.Alike (resolve (.ofRaw ms) (.ofValue v)) (resolve (.ofRaw ns) (.ofValue w)) :=
    fun {ms ns _ _} hms hvw => Definitions.Alike.follows_resolve
      (Definitions.alike_of_lookup (Definitions.get?_ofRaw ms) (Definitions.get?_ofRaw ns) hms.lookup)
      (Node.alike_ofValue hvw)
  exact .of_follows (hfollows hms hvw) (hfollows hms.symm hvw.symm)

end ContractInterface
