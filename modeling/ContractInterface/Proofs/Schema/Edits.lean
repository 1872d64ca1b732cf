/-
Edits that do not matter for what a schema is read as. In every schema, the schema itself or one inside it,
members under keywords that are not recognized may come and go, and the members may change places. One such
edit leaves the node that is read as it is (`Schema.Edit.readsSame`), and so does any number of them
(`Node.ofValue_of_edits`). Declared properties keep their order, and values that are compared are not
schemas.
-/
import ContractInterface.Proofs.Json.Order
import ContractInterface.Proofs.Schema.Congruence

namespace ContractInterface

open Json

/-! ## Edits -/

namespace Schema

/-- One edit of a value, by what it is read as. -/
inductive Edit : Place → Value → Value → Prop
  /-- A member is put in under a keyword that is not recognized. -/
  | insert (before after : Members) {key : String} (v : Value) : key ∉ keywords →
      Edit .schema (.object (before ++ after)) (.object (before ++ (key, v) :: after))
  | remove (before after : Members) {key : String} (v : Value) : key ∉ keywords →
      Edit .schema (.object (before ++ (key, v) :: after)) (.object (before ++ after))
  | permute {ms ns : Members} : (ms.map Prod.fst).Nodup → ms.Perm ns →
      Edit .schema (.object ms) (.object ns)
  /-- A value is edited as what is read under its keyword. -/
  | member (before after : Members) (key : String) {v w : Value} : Edit (.under key) v w →
      Edit .schema (.object (before ++ (key, v) :: after)) (.object (before ++ (key, w) :: after))
  | item (before after : List Value) {v w : Value} : Edit .schema v w →
      Edit .schema (.array (before ++ v :: after)) (.array (before ++ w :: after))
  | named (before after : Members) (name : String) {v w : Value} : Edit .schema v w →
      Edit .named (.object (before ++ (name, v) :: after)) (.object (before ++ (name, w) :: after))

/-- Two values that are read as the same nodes in their place. -/
structure ReadsSame (place : Place) (v w : Value) : Prop where
  node : place = .schema → (Node.roles v).node = (Node.roles w).node
  elements : place = .schema → (Node.roles v).elements = (Node.roles w).elements
  named : place = .named → (Node.roles v).named = (Node.roles w).named
  eq_of_other : place = .other → v = w
  kind : v = w ∨ (∃ vs ws, v = .array vs ∧ w = .array ws) ∨ ∃ ms ns, v = .object ms ∧ w = .object ns

namespace ReadsSame

theorem refl (place : Place) (v : Value) : ReadsSame place v v :=
  ⟨fun _ => rfl, fun _ => rfl, fun _ => rfl, fun _ => rfl, .inl rfl⟩

theorem readsAs {place : Place} {v w : Value} (h : ReadsSame place v w) : ReadsAs Eq place v w where
  node := h.node
  elements hplace := h.elements hplace ▸ List.forall₂_same.2 fun _ _ => rfl
  named hplace := h.named hplace ▸ List.forall₂_same.2 fun _ _ => ⟨rfl, rfl⟩
  eq_of_other := h.eq_of_other
  kind := h.kind

end ReadsSame

end Schema

theorem Node.congruence_eq : Congruence Eq where
  refl _ := rfl
  intersection h := congrArg intersection (List.forall₂_eq_eq_eq ▸ h)
  typeList h := congrArg typeList (List.forall₂_eq_eq_eq ▸ h)
  object required a b hps hab := by
    have hps := hps.imp fun p q h => Prod.ext h.1 h.2
    rw [List.forall₂_eq_eq_eq] at hps
    subst hps
    cases hab with
    | forbidden | untyped => rfl
    | typed h => rw [h]
  tuple h := congrArg tuple (List.forall₂_eq_eq_eq ▸ h)
  list c h := congrArg (Node.list · c) (eq_of_rel h fun _ _ h => h)
  union h := congrArg union (List.forall₂_eq_eq_eq ▸ h)

namespace Schema

/-- Schemas whose recognized keywords are read as the same are read as the same. -/
theorem ReadsSame.of_lookup {ms ns : Members}
    (h : ∀ key ∈ keywords, Option.Rel (ReadsSame (.under key)) (ms.lookup key) (ns.lookup key)) :
    ReadsSame .schema (.object ms) (.object ns) where
  node _ := by
    have hreads : ReadsAs Eq .schema (.object ms) (.object ns) :=
      .of_lookup Node.congruence_eq fun key hkey => rel_imp (h key hkey) fun _ _ h => h.readsAs
    exact hreads.node rfl
  elements _ := rfl
  named := nofun
  eq_of_other := nofun
  kind := .inr (.inr ⟨ms, ns, rfl, rfl⟩)

theorem ReadsSame.of_lookup_eq {ms ns : Members} (h : ∀ key ∈ keywords, ms.lookup key = ns.lookup key) :
    ReadsSame .schema (.object ms) (.object ns) :=
  .of_lookup fun key hkey => h key hkey ▸ rel_self fun v _ => .refl _ v

/-- A keyword that is not recognized does not stand before any other. -/
theorem lookup_insert (before after : Members) {key : String} (hkey : key ∉ keywords) (v : Value) :
    ∀ other ∈ keywords,
      (before ++ (key, v) :: after).lookup other = (before ++ after).lookup other := by
  intro other hother
  have hne : (other == key) = false := beq_eq_false_iff_ne.2 fun h => hkey (h ▸ hother)
  rw [List.lookup_append, List.lookup_append, List.lookup_cons, hne]

/-- An edit leaves what is read as it is. -/
theorem Edit.readsSame {place : Place} {v w : Value} (h : Edit place v w) : ReadsSame place v w := by
  induction h with
  | insert before after v hkey =>
    exact .of_lookup_eq fun key hmem => (lookup_insert before after hkey v key hmem).symm
  | remove before after v hkey => exact .of_lookup_eq (lookup_insert before after hkey v)
  | permute hnodup hperm =>
    refine .of_lookup_eq fun key _ => ?_
    rw [← Value.lookup_orderMembers, Value.orderMembers_eq_of_perm hperm hnodup,
      Value.lookup_orderMembers]
  | member before after key _ ih =>
    refine .of_lookup fun other _ => ?_
    rw [List.lookup_append, List.lookup_append, List.lookup_cons, List.lookup_cons]
    refine rel_or (rel_self fun v _ => .refl _ v) ?_
    cases hkey : other == key with
    | true => exact beq_iff_eq.1 hkey ▸ .some ih
    | false => exact rel_self fun v _ => .refl _ v
  | @item before after v w _ ih =>
    refine ⟨fun _ => rfl, fun _ => ?_, nofun, nofun, .inr (.inl ⟨_, _, rfl, rfl⟩)⟩
    show Node.nodes (before ++ v :: after) = Node.nodes (before ++ w :: after)
    simp only [Node.nodes_eq_map, List.map_append, List.map_cons, ih.node rfl]
  | @named before after name v w _ ih =>
    refine ⟨nofun, nofun, fun _ => ?_, nofun, .inr (.inr ⟨_, _, rfl, rfl⟩)⟩
    show (Node.rolesOfMembers (before ++ (name, v) :: after)).map (fun part => (part.1, part.2.node)) =
      (Node.rolesOfMembers (before ++ (name, w) :: after)).map fun part => (part.1, part.2.node)
    simp only [Node.rolesOfMembers_eq_map, List.map_append, List.map_cons, ih.node rfl]

end Schema

/-- Keywords that are not recognized, and the order of the members of schemas, do not matter for what a schema
is read as, however many edits are made and at whatever depth. -/
theorem Node.ofValue_of_edits {v w : Value} (h : Relation.ReflTransGen (Schema.Edit .schema) v w) :
    ofValue w = ofValue v := by
  induction h with
  | refl => rfl
  | tail _ hedit ih => exact (hedit.readsSame.node rfl).symm.trans ih

/-- A title is taken away, the members change places and a declared property gets a description. -/
theorem Node.ofValue_of_edits_description :
    let type : String × Value := ("type", .string "object")
    let text : String × Value := ("type", .string "string")
    let v : Value := .object [("title", .null), ("properties", .object [("a", .object [text])]), type]
    let w : Value :=
      .object [type, ("properties", .object [("a", .object [text, ("description", .null)])])]
    Relation.ReflTransGen (Schema.Edit .schema) v w ∧ ofValue w = ofValue v := by
  intro type text v w
  let ms : Members := [("properties", .object [("a", .object [text])]), type]
  have htitle : Schema.Edit .schema v (.object ms) := .remove [] ms .null (by decide)
  have hplaces : Schema.Edit .schema (.object ms) (.object ms.reverse) :=
    .permute (by decide) (List.reverse_perm ms).symm
  have hdescription : Schema.Edit .schema (.object ms.reverse) w :=
    .member [type] [] "properties" <| .named [] [] "a" <| .insert [text] [] .null (by decide)
  have h := ((Relation.ReflTransGen.single htitle).tail hplaces).tail hdescription
  exact ⟨h, ofValue_of_edits h⟩

end ContractInterface
