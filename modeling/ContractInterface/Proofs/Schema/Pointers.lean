/-
Pointers into the table of definitions can be spelled in two ways, with the same name at the end. Both have
this name, or neither has one (`SamePointer.definitionName?_eq`). Where pointers in a schema are spelled the
other way, other pointers are read, and the nodes are related by every congruence that the spelling does not
matter to (`Schema.Respelled.readsAs`).
-/
import ContractInterface.Proofs.Schema.Congruence
import ContractInterface.Schema.Definitions

namespace ContractInterface

open Json

/-! ## Spellings -/

/-- The name that is left after the beginning of a pointer: not empty and without a slash. -/
def entryName? (rest : String) : Option String :=
  if rest.toList.isEmpty ∨ rest.toList.contains '/' then none else some rest

theorem afterStart?_append (start rest : List Char) : afterStart? start (start ++ rest) = some rest := by
  induction start with
  | nil => rfl
  | cons c start ih => rw [List.cons_append, afterStart?, if_pos rfl, ih]

theorem definitionName?_of_after {pointer rest : String}
    (h : (afterStart? "#/definitions/".toList pointer.toList <|>
      afterStart? "#/$defs/".toList pointer.toList) = some rest.toList) :
    definitionName? pointer = entryName? rest := by
  unfold definitionName? entryName?
  rw [h]
  show (if _ then none else some (String.ofList rest.toList)) = _
  rw [String.ofList_toList]

theorem definitionName?_definitions (rest : String) :
    definitionName? ("#/definitions/" ++ rest) = entryName? rest := by
  apply definitionName?_of_after
  rw [String.toList_append, afterStart?_append]
  rfl

theorem definitionName?_local (rest : String) : definitionName? ("#/$defs/" ++ rest) = entryName? rest := by
  apply definitionName?_of_after
  have hother : afterStart? "#/definitions/".toList ("#/$defs/".toList ++ rest.toList) = none := rfl
  rw [String.toList_append, hother, afterStart?_append]
  rfl

theorem entryName?_eq_none_iff {rest : String} : entryName? rest = none ↔ rest = "" ∨ '/' ∈ rest.toList := by
  unfold entryName?
  simp [or_iff_not_imp_left]

/-- Two spellings of one pointer. -/
inductive SamePointer : String → String → Prop
  | refl (pointer : String) : SamePointer pointer pointer
  | toLocal (rest : String) : SamePointer ("#/definitions/" ++ rest) ("#/$defs/" ++ rest)
  | ofLocal (rest : String) : SamePointer ("#/$defs/" ++ rest) ("#/definitions/" ++ rest)

theorem SamePointer.definitionName?_eq {p q : String} (h : SamePointer p q) :
    definitionName? p = definitionName? q := by
  cases h with
  | refl => rfl
  | toLocal rest => rw [definitionName?_definitions, definitionName?_local]
  | ofLocal rest => rw [definitionName?_definitions, definitionName?_local]

/-! ## Schemas -/

namespace Schema

/-- What stands under `$ref`: the same value, or another spelling of the pointer. -/
inductive SameTarget : Value → Value → Prop
  | refl (v : Value) : SameTarget v v
  | pointer {p q : String} : SamePointer p q → SameTarget (.string p) (.string q)

/-- The second value is the first with any of the pointers that are read in it spelled the other way. -/
inductive Respelled : Place → Value → Value → Prop
  | same (place : Place) (v : Value) : Respelled place v v
  | schemas {vs ws : List Value} : vs.length = ws.length →
      (∀ p ∈ vs.zip ws, Respelled .schema p.1 p.2) → Respelled .schema (.array vs) (.array ws)
  | schema {ms ns : Members} : ms.map Prod.fst = ns.map Prod.fst →
      (∀ p ∈ ms.zip ns, p.1.1 = "$ref" → SameTarget p.1.2 p.2.2) →
      (∀ p ∈ ms.zip ns, p.1.1 ≠ "$ref" → Respelled (.under p.1.1) p.1.2 p.2.2) →
      Respelled .schema (.object ms) (.object ns)
  | named {ms ns : Members} : ms.map Prod.fst = ns.map Prod.fst →
      (∀ p ∈ ms.zip ns, Respelled .schema p.1.2 p.2.2) → Respelled .named (.object ms) (.object ns)

/-- A schema with a pointer is read as a reference, whatever else there is in it. -/
theorem roles_of_pointer {members : Members} {pointer : String}
    (h : members.lookup "$ref" = some (.string pointer)) :
    (Node.roles (.object members)).node = .reference pointer := by
  show Node.classify members _ = .reference pointer
  unfold Node.classify Node.reference?
  rw [h]
  rfl

/-- Only the pointers are read as other nodes. -/
theorem Respelled.readsAs {R : Node → Node → Prop} (hR : Node.Congruence R)
    (href : ∀ p q, SamePointer p q → R (.reference p) (.reference q)) {place : Place} {v w : Value}
    (h : Respelled place v w) : ReadsAs R place v w := by
  induction h with
  | same place v => exact .refl hR place v
  | schemas hlength _ ih => exact .array hR (forall₂_of_zip hlength ih)
  | named hkeys _ ih =>
    exact .named_object (forall₂_of_keys (P := fun _ => ReadsAs R .schema) hkeys ih)
  | @schema ms ns hkeys hpointers _ ih =>
    let Related (key : String) (v w : Value) : Prop :=
      (key = "$ref" → SameTarget v w) ∧ (key ≠ "$ref" → ReadsAs R (.under key) v w)
    have hrel : ∀ key, Option.Rel (Related key) (ms.lookup key) (ns.lookup key) :=
      rel_lookup <| forall₂_of_keys hkeys fun p hp => ⟨hpointers p hp, ih p hp⟩
    have hsame : ms.lookup "$ref" = ns.lookup "$ref" → ReadsAs R .schema (.object ms) (.object ns) := by
      intro heq
      refine .of_lookup hR fun key _ => ?_
      by_cases hkey : key = "$ref"
      · rw [hkey, heq]
        exact rel_self fun v _ => .refl hR _ v
      · exact rel_imp (hrel key) fun _ _ h => h.2 hkey
    rcases rel_cases (hrel "$ref") with ⟨hv, hw⟩ | ⟨v, w, hv, hw, htarget, -⟩
    · exact hsame (hv.trans hw.symm)
    · cases htarget rfl with
      | refl => exact hsame (hv.trans hw.symm)
      | @pointer p q hpq =>
        refine ⟨fun _ => ?_, fun _ => .nil, nofun, nofun, .inr (.inr ⟨ms, ns, rfl, rfl⟩)⟩
        rw [roles_of_pointer hv, roles_of_pointer hw]
        exact href p q hpq

/-- Entries that are respelled stand under the same names. -/
theorem Respelled.lookup {ms ns : Members} (h : Respelled .named (.object ms) (.object ns)) (name : String) :
    Option.Rel (Respelled .schema) (ms.lookup name) (ns.lookup name) := by
  cases h with
  | same => exact rel_self fun v _ => .same .schema v
  | named hkeys h =>
    have hentries := forall₂_of_keys (P := fun _ => Respelled .schema) hkeys h
    exact rel_lookup (P := fun _ => Respelled .schema) hentries name

end Schema

end ContractInterface
