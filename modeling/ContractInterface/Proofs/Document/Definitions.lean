/-
The two places for definitions are one table. A pointer names an entry, whichever place it points into and
whichever place holds the entry, so pointers may be spelled either way, and an entry may be moved to the other
place if its name is free there (`RootSchema.answers_one_table`). What is after the beginning of a pointer must
be a name in either spelling.
-/
import ContractInterface.Proofs.Call.Construction
import ContractInterface.Proofs.Shape.Spelling

namespace ContractInterface

open Json

/-! ## Entries that are moved -/

/-- The second members are the first and one more, under a name that the first do not have. -/
inductive Gains (name : String) (v : Value) : Members → Members → Prop
  | intro (before after : Members) : name ∉ (before ++ after).map Prod.fst →
      Gains name v (before ++ after) (before ++ (name, v) :: after)

namespace Gains

variable {name : String} {v : Value} {ms ns : Members} (h : Gains name v ms ns)

include h

theorem lookup_self : ms.lookup name = none := by
  cases h with
  | intro before after hfresh =>
    rw [List.lookup_eq_none_iff]
    intro m hm
    exact bne_iff_ne.2 fun heq => hfresh (heq ▸ List.mem_map_of_mem hm)

theorem lookup (other : String) : ns.lookup other = if other = name then some v else ms.lookup other := by
  have hself := h.lookup_self
  cases h with
  | intro before after hfresh =>
    rw [List.lookup_append] at hself
    rw [List.lookup_append, List.lookup_append, List.lookup_cons]
    by_cases hother : other = name
    · subst hother
      rw [if_pos rfl, beq_self_eq_true, (Option.or_eq_none_iff.1 hself).1]
      rfl
    · rw [if_neg hother, beq_eq_false_iff_ne.2 hother]

end Gains

namespace RootSchema

/-- The second root schema holds an entry among the local definitions that the first holds in the other
place. Its name is not taken where it is put. -/
def MovesToLocal (root moved : RootSchema) : Prop :=
  ∃ name v, Gains name v moved.definitions root.definitions ∧
    Gains name v root.localDefinitions moved.localDefinitions

theorem MovesToLocal.lookup_eq {root moved : RootSchema} (h : root.MovesToLocal moved) (other : String) :
    root.rawDefinitions.lookup other = moved.rawDefinitions.lookup other := by
  obtain ⟨name, v, hdefinitions, hlocal⟩ := h
  rw [lookup_rawDefinitions, lookup_rawDefinitions, hdefinitions.lookup, hlocal.lookup]
  by_cases hother : other = name
  · subst hother
    rw [if_pos rfl, if_pos rfl, hdefinitions.lookup_self]
    rfl
  · rw [if_neg hother, if_neg hother]

/-- Respelled entries of both places are respelled entries of the table. -/
theorem rel_get?_of_respelled {root other : RootSchema}
    (hdefinitions : Schema.Respelled .named (.object root.definitions) (.object other.definitions))
    (hlocal : Schema.Respelled .named (.object root.localDefinitions) (.object other.localDefinitions))
    (name : String) : Option.Rel Node.Respelled ((Definitions.ofRaw root.rawDefinitions).get? name)
      ((Definitions.ofRaw other.rawDefinitions).get? name) := by
  rw [Definitions.get?_ofRaw, Definitions.get?_ofRaw, lookup_rawDefinitions, lookup_rawDefinitions]
  refine rel_map ?_ fun _ _ => Node.respelled_ofValue
  exact rel_or (hdefinitions.lookup name) (hlocal.lookup name)

/-- What one resolver answers to raw schemas in turn, against the definitions of a root schema, each answer
with the resolver as it is left. -/
def answers (root : RootSchema) (schemas : List Value) : List (Except ResolveError Shape × Resolver) :=
  Resolver.resolveEach (.ofRaw root.rawDefinitions) (schemas.map Node.ofValue) .empty

/-- Both places are one table. Any of the pointers in the schemas and in the definitions of both places may be
spelled the other way: a resolver gives the same shapes and finds the same cycles, it remembers the same, and
a pointer that leads nowhere is reported in its new spelling. An entry may be moved from either place to the
other, if its name is free there, and nothing at all is changed. A pointer in either spelling leads nowhere
if what it ends in is empty or has a slash. -/
theorem answers_one_table (root : RootSchema) (schemas : List Value) :
    (∀ (other : RootSchema) (others : List Value),
      Schema.Respelled .named (.object root.definitions) (.object other.definitions) →
      Schema.Respelled .named (.object root.localDefinitions) (.object other.localDefinitions) →
      List.Forall₂ (Schema.Respelled .schema) schemas others →
        List.Forall₂ Resolver.SameOutcome (root.answers schemas) (other.answers others)) ∧
    (∀ moved : RootSchema, root.MovesToLocal moved ∨ moved.MovesToLocal root →
      moved.answers schemas = root.answers schemas) ∧
    ∀ start ∈ ["#/definitions/", "#/$defs/"], ∀ rest : String, rest = "" ∨ '/' ∈ rest.toList →
      ∀ members : Members, members.lookup "$ref" = some (.string (start ++ rest)) →
        resolve (.ofRaw root.rawDefinitions) (.ofValue (.object members)) =
          .error (.unresolved (start ++ rest)) := by
  refine ⟨?_, ?_, ?_⟩
  · intro other others hdefinitions hlocal hschemas
    apply Resolver.resolveEach_sameOutcome (rel_get?_of_respelled hdefinitions hlocal)
    · rw [List.forall₂_map_left_iff, List.forall₂_map_right_iff]
      exact hschemas.imp fun _ _ => Node.respelled_ofValue
    · rfl
  · intro moved hmoved
    refine Resolver.resolveEach_congr (fun name => ?_) _ rfl
    rw [Definitions.get?_ofRaw, Definitions.get?_ofRaw]
    rcases hmoved with h | h
    · rw [h.lookup_eq name]
    · rw [h.lookup_eq name]
  · intro start hstart rest hrest members hpointer
    have hname : definitionName? (start ++ rest) = none := by
      rw [List.mem_pair] at hstart
      rcases hstart with rfl | rfl
      · rw [definitionName?_definitions, entryName?_eq_none_iff.2 hrest]
      · rw [definitionName?_local, entryName?_eq_none_iff.2 hrest]
    have hleads : ¬ (Definitions.ofRaw root.rawDefinitions).Leads (start ++ rest) := by
      rintro ⟨name, target, hsome, -⟩
      cases hname.symm.trans hsome
    have hnode : Node.ofValue (.object members) = .reference (start ++ rest) :=
      Schema.roles_of_pointer hpointer
    rw [hnode, Resolver.resolve_eq_expand]
    exact Definitions.expandPointer_of_not_leads hleads

/-- A list of itself is a cycle in either spelling, and in either place. -/
theorem answers_one_table_cycle :
    let entry (pointer : String) : Value :=
      .object [("type", .string "array"), ("items", .object [("$ref", .string pointer)])]
    let schema (pointer : String) : Value := .object [("$ref", .string pointer)]
    let root : RootSchema := ⟨none, none, [("Tree", entry "#/definitions/Tree")], [], []⟩
    let other : RootSchema := ⟨none, none, [("Tree", entry "#/$defs/Tree")], [], []⟩
    let moved : RootSchema := ⟨none, none, [], [("Tree", entry "#/definitions/Tree")], []⟩
    let schemas : List Value := [schema "#/definitions/Tree", schema "#/definitions/"]
    let others : List Value := [schema "#/definitions/Tree", schema "#/$defs/"]
    List.Forall₂ Resolver.SameOutcome (root.answers schemas) (other.answers others) ∧
      moved.answers schemas = root.answers schemas ∧
      resolve (.ofRaw root.rawDefinitions) (.ofValue (schema "#/$defs/")) = .error (.unresolved "#/$defs/") := by
  intro entry schema root other moved schemas others
  have hpointer : ∀ {p q : String}, SamePointer p q → Schema.Respelled .schema (schema p) (schema q) :=
    fun h => .schema rfl (List.forall_mem_singleton.2 fun _ => .pointer h)
      (List.forall_mem_singleton.2 fun hne => absurd rfl hne)
  have htree : SamePointer "#/definitions/Tree" "#/$defs/Tree" := .toLocal "Tree"
  have hentry : Schema.Respelled .schema (entry "#/definitions/Tree") (entry "#/$defs/Tree") := by
    refine .schema rfl ?_ ?_
    · simp
    · exact List.forall_mem_cons.2 ⟨fun _ => .same _ _, List.forall_mem_singleton.2 fun _ => hpointer htree⟩
  have hdefinitions : Schema.Respelled .named (.object root.definitions) (.object other.definitions) :=
    .named rfl (List.forall_mem_singleton.2 hentry)
  have hschemas : List.Forall₂ (Schema.Respelled .schema) schemas others :=
    .cons (.same _ _) (.cons (hpointer (.toLocal "")) .nil)
  have hmoves : root.MovesToLocal moved :=
    ⟨"Tree", entry "#/definitions/Tree", .intro [] [] nofun, .intro [] [] nofun⟩
  obtain ⟨hrespelled, hmoved, hempty⟩ := answers_one_table root schemas
  exact ⟨hrespelled other others hdefinitions (.same _ _) hschemas, hmoved moved (.inl hmoves),
    hempty "#/$defs/" (by simp) "" (.inl rfl) _ rfl⟩

end RootSchema

end ContractInterface
