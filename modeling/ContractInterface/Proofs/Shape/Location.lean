/-
Where a value fails to conform. A mismatch has a place: its steps lead to a part of the value
(`Value.Leads`) and to the shape that this part is held against (`Shape.Descends`); held against that shape
alone, the part fails itself, for the same cause (`Shape.locates_of_check`). So the text for a refused value
is one and the same under every path, but for the path (`Shape.validate_ok_or_located`).
-/
import ContractInterface.Proofs.Shape.Containment
import ContractInterface.Proofs.Shape.Validation

namespace ContractInterface

open Json

/-! ## Places -/

/-- The steps lead from the value to a part of it, the last one. -/
inductive Json.Value.Leads : Value → List Step → Value → Prop
  | here (v : Value) : Leads v [] v
  | key {members : Members} {name : String} {v u : Value} {steps : List Step} : (name, v) ∈ members →
      Leads v steps u → Leads (.object members) (.key name :: steps) u
  | index {items : List Value} {n : Nat} {v u : Value} {steps : List Step} : items[n]? = some v →
      Leads v steps u → Leads (.array items) (.index n :: steps) u

/-- The shape that is asked of the part at the end of the steps. A conjunction asks each member of the
value itself, so it takes no step; alternatives are not entered. -/
inductive Shape.Descends : Shape → List Step → Shape → Prop
  | here (s : Shape) : Descends s [] s
  | property {ps : List (Property Shape)} {a : Additional Shape} {p : Property Shape} {t : Shape}
      {steps : List Step} : p ∈ ps → Descends p.shape steps t →
      Descends (.object ps a) (.key p.name :: steps) t
  | other {ps : List (Property Shape)} {s t : Shape} {name : String} {steps : List Step} :
      name ∉ ps.map (·.name) → Descends s steps t →
      Descends (.object ps (.typed s)) (.key name :: steps) t
  | element {ss : List Shape} {n : Nat} {s t : Shape} {steps : List Step} : ss[n]? = some s →
      Descends s steps t → Descends (.tuple ss) (.index n :: steps) t
  | item {s t : Shape} {c : Constraints} {steps : List Step} (n : Nat) : Descends s steps t →
      Descends (.list s c) (.index n :: steps) t
  | member {ss : List Shape} {s t : Shape} {steps : List Step} : s ∈ ss → Descends s steps t →
      Descends (.intersection ss) steps t

/-- The mismatch is that of a part: its steps lead to a part of the value and to the shape asked of it, and
the check of this part alone fails for the cause, without a further step. -/
def Mismatch.Locates (m : Mismatch) (s : Shape) (v : Value) : Prop :=
  ∃ u t, v.Leads m.steps u ∧ s.Descends m.steps t ∧ t.check u = .error ⟨[], m.cause⟩

/-! ## Checks that fail -/

namespace Check

theorem bind_eq_error {c : Check} {next : Unit → Check} {m : Mismatch} :
    (c >>= next) = .error m ↔ c = .error m ∨ c = .ok () ∧ next () = .error m := by
  cases c with
  | ok u => simp [bind, Except.bind]
  | error e => simp [bind, Except.bind]

theorem under_eq_error {step : Step} {c : Check} {m : Mismatch} :
    c.under step = .error m ↔ ∃ n, c = .error n ∧ n.under step = m := by
  cases c with
  | ok u => simp [under, Except.mapError]
  | error e => simp [under, Except.mapError]

/-- A check of the value itself: its mismatch leads to no part. -/
def IsOwn (c : Check) : Prop := ∀ m, c = .error m → m.steps = []

theorem IsOwn.ok : IsOwn (.ok ()) := nofun

theorem IsOwn.fail (cause : Cause) : (fail cause).IsOwn := fun m h => by
  cases h
  rfl

theorem IsOwn.ensure {condition : Bool} {cause : Cause} : (ensure condition cause).IsOwn := by
  cases condition with
  | true => exact .ok
  | false => exact .fail cause

theorem IsOwn.bind {c : Check} {next : Unit → Check} (hc : c.IsOwn) (hnext : (next ()).IsOwn) :
    IsOwn (c >>= next) := fun m h => by
  rcases bind_eq_error.1 h with h | ⟨-, h⟩
  · exact hc m h
  · exact hnext m h

theorem IsOwn.within {α : Type} {limit : Option α} {check : α → Check} (h : ∀ l, (check l).IsOwn) :
    (within limit check).IsOwn := by
  cases limit with
  | none => exact .ok
  | some l => exact h l

end Check

/-! ### Keywords -/

namespace Constraints

theorem isOwn_checkNumber (c : Constraints) (n : Number) : (c.checkNumber n).IsOwn := by
  refine .bind ?_ (.within fun format => .within fun range => ?_)
  · exact .bind (.within fun _ => .ensure) (.bind (.within fun _ => .ensure)
      (.bind (.within fun _ => .ensure) (.within fun _ => .ensure)))
  · cases n.toInt? with
    | none => exact .fail _
    | some i => exact .ensure

theorem isOwn_checkString (c : Constraints) (s : String) : (c.checkString s).IsOwn :=
  .bind (.within fun _ => .ensure) (.bind (.within fun _ => .ensure) (.within fun _ => .ensure))

theorem isOwn_checkCount (c : Constraints) (count : Nat) : (c.checkCount count).IsOwn :=
  .bind (.within fun _ => .ensure) (.within fun _ => .ensure)

end Constraints

namespace Shape

/-! ### Parts -/

/-- The first item that fails, by its place. -/
theorem checkItems_eq_error {check : Value → Check} {m : Mismatch} : ∀ {n : Nat} {vs : List Value},
    checkItems check n vs = .error m →
      ∃ (i : Nat) (v : Value) (k : Mismatch), vs[i]? = some v ∧ check v = .error k ∧
        m = k.under (.index (n + i))
  | _, [], h => nomatch h
  | n, v :: vs, h => by
    rcases Check.bind_eq_error.1 h with h | ⟨-, h⟩
    · obtain ⟨k, hk, rfl⟩ := Check.under_eq_error.1 h
      exact ⟨0, v, k, rfl, hk, rfl⟩
    · obtain ⟨i, w, k, hw, hk, rfl⟩ := checkItems_eq_error h
      exact ⟨i + 1, w, k, hw, hk, by rw [Nat.add_right_comm, Nat.add_assoc]⟩

theorem checkElements_eq_error {m : Mismatch} : ∀ {n : Nat} {ss : List Shape} {vs : List Value},
    checkElements n ss vs = .error m →
      ∃ (i : Nat) (s : Shape) (v : Value) (k : Mismatch), ss[i]? = some s ∧ vs[i]? = some v ∧
        s.check v = .error k ∧ m = k.under (.index (n + i))
  | _, [], _, h | _, _ :: _, [], h => nomatch h
  | n, s :: ss, v :: vs, h => by
    rcases Check.bind_eq_error.1 h with h | ⟨-, h⟩
    · obtain ⟨k, hk, rfl⟩ := Check.under_eq_error.1 h
      exact ⟨0, s, v, k, rfl, rfl, hk, rfl⟩
    · obtain ⟨i, t, w, k, ht, hw, hk, rfl⟩ := checkElements_eq_error h
      exact ⟨i + 1, t, w, k, ht, hw, hk, by rw [Nat.add_right_comm, Nat.add_assoc]⟩

theorem checkAll_eq_error {v : Value} {m : Mismatch} : ∀ {ss : List Shape}, checkAll ss v = .error m →
    ∃ s ∈ ss, s.check v = .error m
  | [], h => nomatch h
  | s :: ss, h => by
    rcases Check.bind_eq_error.1 h with h | ⟨-, h⟩
    · exact ⟨s, List.mem_cons_self .., h⟩
    · obtain ⟨t, ht, h⟩ := checkAll_eq_error h
      exact ⟨t, List.mem_cons_of_mem _ ht, h⟩

/-- The check of one declared property. -/
def checkProperty (p : Property Shape) (members : Members) : Check :=
  match members.lookup p.name with
  | some v => (p.shape.check v).under (.key p.name)
  | none => Check.ensure (!p.required) (.missingProperty p.name)

theorem checkProperties_cons (p : Property Shape) (ps : List (Property Shape)) (members : Members) :
    checkProperties (p :: ps) members =
      checkProperty p members >>= fun _ => checkProperties ps members := by
  obtain ⟨name, required, shape⟩ := p
  simp only [checkProperties, checkProperty]
  cases members.lookup name <;> rfl

/-- A required property is missing, or one that is present fails. -/
theorem checkProperties_eq_error {members : Members} {m : Mismatch} : ∀ {ps : List (Property Shape)},
    checkProperties ps members = .error m → m.steps = [] ∨
      ∃ p ∈ ps, ∃ (v : Value) (k : Mismatch), members.lookup p.name = some v ∧
        p.shape.check v = .error k ∧ m = k.under (.key p.name)
  | [], h => nomatch h
  | p :: ps, h => by
    rw [checkProperties_cons] at h
    rcases Check.bind_eq_error.1 h with hp | ⟨-, hps⟩
    · unfold checkProperty at hp
      split at hp
      · rename_i v hv
        obtain ⟨k, hk, rfl⟩ := Check.under_eq_error.1 hp
        exact .inr ⟨p, List.mem_cons_self .., v, k, hv, hk, rfl⟩
      · exact .inl (Check.IsOwn.ensure m hp)
    · rcases checkProperties_eq_error hps with hsteps | ⟨q, hq, hfails⟩
      · exact .inl hsteps
      · exact .inr ⟨q, List.mem_cons_of_mem p hq, hfails⟩

/-- The check of one member by the policy for those that are not declared. -/
def checkExtra (declared : List String) (policy : Additional (Value → Check)) (member : String × Value) :
    Check :=
  if declared.contains member.1 then .ok ()
  else
    match policy with
    | .forbidden => Check.fail (.unexpectedProperty member.1)
    | .typed check => (check member.2).under (.key member.1)
    | .untyped => .ok ()

theorem checkExtras_cons (declared : List String) (policy : Additional (Value → Check))
    (member : String × Value) (members : Members) : checkExtras declared policy (member :: members) =
      checkExtra declared policy member >>= fun _ => checkExtras declared policy members := by
  simp only [checkExtras, checkExtra]
  split
  · rfl
  · cases policy <;> rfl

/-- A member that is not declared is forbidden, or fails what the policy asks. -/
theorem checkExtras_eq_error {declared : List String} {a : Additional Shape} {m : Mismatch} :
    ∀ {members : Members}, checkExtras declared (checkAdditional a) members = .error m → m.steps = [] ∨
      ∃ (name : String) (v : Value) (s : Shape) (k : Mismatch), (name, v) ∈ members ∧
        name ∉ declared ∧ a = .typed s ∧ s.check v = .error k ∧ m = k.under (.key name)
  | [], h => nomatch h
  | member :: members, h => by
    rw [checkExtras_cons] at h
    rcases Check.bind_eq_error.1 h with hmember | ⟨-, hmembers⟩
    · unfold checkExtra at hmember
      split at hmember
      · cases hmember
      · rename_i hname
        cases a with
        | forbidden => exact .inl (Check.IsOwn.fail _ m hmember)
        | untyped => cases hmember
        | typed s =>
          obtain ⟨k, hk, rfl⟩ := Check.under_eq_error.1 hmember
          exact .inr ⟨member.1, member.2, s, k, List.mem_cons_self .., by simpa using hname, rfl, hk, rfl⟩
    · rcases checkExtras_eq_error hmembers with hsteps | ⟨name, v, s, k, hv, hfails⟩
      · exact .inl hsteps
      · exact .inr ⟨name, v, s, k, List.mem_cons_of_mem member hv, hfails⟩

end Shape

/-! ## The place of a mismatch -/

namespace Mismatch

variable {m : Mismatch} {s : Shape} {v : Value}

/-- A mismatch without steps is that of the value itself. -/
theorem Locates.own (h : s.check v = .error m) (hsteps : m.steps = []) : m.Locates s v := by
  obtain ⟨steps, cause⟩ := m
  obtain rfl : steps = [] := hsteps
  exact ⟨v, s, .here v, .here s, h⟩

theorem Locates.of_isOwn (hown : (s.check v).IsOwn) (h : s.check v = .error m) : m.Locates s v :=
  .own h (hown m h)

theorem Locates.under {step : Step} {whole : Shape} {w : Value} (h : m.Locates s v)
    (hleads : ∀ {steps u}, v.Leads steps u → w.Leads (step :: steps) u)
    (hdescends : ∀ {steps t}, s.Descends steps t → whole.Descends (step :: steps) t) :
    (m.under step).Locates whole w := by
  obtain ⟨u, t, hu, ht, hcheck⟩ := h
  exact ⟨u, t, hleads hu, hdescends ht, hcheck⟩

end Mismatch

namespace Shape

/-- Every mismatch has its place. -/
theorem locates_of_check {s : Shape} : ∀ {v : Value} {m : Mismatch}, s.check v = .error m →
    m.Locates s v := by
  induction s using childInduction with
  | step s ih =>
    intro v m h
    cases s with
    | any => cases h
    | null => exact .of_isOwn (.ensure) h
    | bool =>
      cases v with
      | bool => cases h
      | null | number | string | array | object => exact .of_isOwn (.fail _) h
    | number c =>
      cases v with
      | number n => exact .of_isOwn (c.isOwn_checkNumber n) h
      | null | bool | string | array | object => exact .of_isOwn (.fail _) h
    | string c =>
      cases v with
      | string text => exact .of_isOwn (c.isOwn_checkString text) h
      | null | bool | number | array | object => exact .of_isOwn (.fail _) h
    | literal | enum => exact .of_isOwn (.ensure) h
    | object ps a =>
      cases v with
      | null | bool | number | string | array => exact .of_isOwn (.fail _) h
      | object members =>
        rcases Check.bind_eq_error.1 h with hps | ⟨-, hextras⟩
        · rcases checkProperties_eq_error hps with hsteps | ⟨p, hp, w, k, hw, hk, rfl⟩
          · exact .own h hsteps
          · have hchild := List.mem_append_left a.toList (List.mem_map_of_mem (f := (·.shape)) hp)
            exact (ih p.shape hchild hk).under (.key (mem_of_lookup_eq_some hw)) (.property hp)
        · rcases checkExtras_eq_error hextras with hsteps | ⟨name, w, t, k, hw, hname, rfl, hk, rfl⟩
          · exact .own h hsteps
          · have hchild : t ∈ children (.object ps (.typed t)) :=
              List.mem_append_right _ (List.mem_singleton_self t)
            exact (ih t hchild hk).under (.key hw) (.other hname)
    | tuple ss =>
      cases v with
      | null | bool | number | string | object => exact .of_isOwn (.fail _) h
      | array vs =>
        rcases Check.bind_eq_error.1 h with hlength | ⟨-, helements⟩
        · exact .own h (Check.IsOwn.ensure m hlength)
        · obtain ⟨i, t, w, k, ht, hw, hk, rfl⟩ := checkElements_eq_error helements
          rw [Nat.zero_add]
          exact (ih t (List.mem_of_getElem? ht) hk).under (.index hw) (.element ht)
    | list t c =>
      cases v with
      | null | bool | number | string | object => exact .of_isOwn (.fail _) h
      | array vs =>
        rcases Check.bind_eq_error.1 h with hcount | ⟨-, hitems⟩
        · exact .own h (c.isOwn_checkCount vs.length m hcount)
        · obtain ⟨i, w, k, hw, hk, rfl⟩ := checkItems_eq_error hitems
          rw [Nat.zero_add]
          exact (ih t (List.mem_singleton_self t) hk).under (.index hw) (.item i)
    | union => exact .of_isOwn (.ensure) h
    | intersection ss =>
      obtain ⟨t, ht, hmember⟩ := checkAll_eq_error h
      obtain ⟨u, k, hu, hk, hcheck⟩ := ih t ht hmember
      exact ⟨u, k, hu, .member ht hk, hcheck⟩

/-- A value is accepted under every path, or refused under every path. If it is refused, the steps and the
cause are the same for all paths, and the text names the cause at the path followed by the steps. They lead
to a part of the value and to the shape asked of it. This part alone, held against that shape alone, is
refused for the very cause wherever it is said to be, and so with the very text at the place that the steps
name. -/
theorem validate_ok_or_located (s : Shape) (v : Value) :
    (s.accepts v = true ∧ ∀ path, s.validate v path = .ok ()) ∨
      s.accepts v = false ∧ ∃ (steps : List Step) (cause : Cause) (u : Value) (t : Shape),
        s.check v = .error ⟨steps, cause⟩ ∧
        (∀ path, s.validate v path = .error (cause.textAt (path ++ Step.texts steps))) ∧
        v.Leads steps u ∧ s.Descends steps t ∧
        ∀ place, t.validate u place = .error (cause.textAt place) := by
  cases h : s.check v with
  | ok u =>
    refine .inl ⟨?_, fun path => ?_⟩
    · rw [accepts, h, Check.passes]
    · rw [validate_eq, h]
      rfl
  | error m =>
    obtain ⟨u, t, hu, ht, hcheck⟩ := locates_of_check h
    refine .inr ⟨?_, m.steps, m.cause, u, t, rfl, fun path => ?_, hu, ht, fun place => ?_⟩
    · rw [accepts, h, Check.passes]
    · rw [validate_eq, h]
      rfl
    · rw [validate_eq, hcheck]
      exact Check.report_fail m.cause place

/-- The second item of a list in a property is no text. -/
example : (object [⟨"tags", true, list (string .empty) .empty⟩] .forbidden).validate
    (.object [("tags", .array [.string "a", .null])]) "args" =
      .error "type mismatch at args.tags[1]: expected string, found null" := by
  rfl

end Shape

end ContractInterface
