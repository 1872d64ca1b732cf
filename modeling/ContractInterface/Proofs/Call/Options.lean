/-
The JSON text of transaction options is read as the options (`TransactionOptions.text_roundTrip`). Amounts are
written in all their digits, which are one numeral however many there are, and read at their own width. A
member that is not set may be null or be left out, and the members may stand in any order
(`TransactionOptions.ofText_textOf`).
-/
import ContractInterface.Call.Options
import ContractInterface.Proofs.Json.Inverse

namespace ContractInterface

open Json

/-! ## Values -/

namespace Json.Decoder

/-- Every number of 64 bits is read off its digits. -/
theorem word64_digits (site : Site) (w : UInt64) :
    word64 site (.numeral (.integer false (Nat.toDigits 10 w.toNat))) = .ok w := by
  have hinteger : Number.ofInteger? false w.toNat = some (.natural w) := by
    unfold Number.ofInteger?
    rw [if_neg (by simp), if_pos w.toNat_lt, UInt64.ofNat_toNat]
  have hnumber : (Numeral.integer false (Nat.toDigits 10 w.toNat)).number = .ok (.natural w) := by
    unfold Numeral.number
    dsimp only
    rw [Nat.ofDigitChars_ten_toDigits, hinteger]
  unfold word64
  dsimp only
  rw [hnumber]
  rfl

/-- Every number of 128 bits is read off its digits. -/
theorem word128_digits (site : Site) (w : Word128) :
    word128 site (.numeral (.integer false (Nat.toDigits 10 w.val))) = .ok w := by
  unfold word128
  apply liftM_eq_ok.2
  unfold word128OfDigits
  rw [Nat.ofDigitChars_ten_toDigits]
  exact dif_pos w.isLt

theorem nullable_numeral {α : Type} (decoder : Decoder α) (site : Site) (n : Numeral) :
    decoder.nullable site (.numeral n) = some <$> decoder site (.numeral n) := rfl

theorem nullable_text {α : Type} (decoder : Decoder α) (site : Site) (s : String) :
    decoder.nullable site (.text s) = some <$> decoder site (.text s) := rfl

/-- What may be null is read as none or, under a wrapper that is put on again, as what it is. -/
theorem exists_nullable {α β : Type} {decoder : Decoder β} {site : Site} {draft : β → Draft} {wrap : β → α}
    {unwrap : α → β} (hwrap : ∀ a, wrap (unwrap a) = a)
    (hsome : ∀ b, decoder.nullable site (draft b) = some <$> decoder site (draft b))
    (h : ∀ b, decoder site (draft b) = .ok b) (a : Option α) :
    ∃ v, decoder.nullable site (a.elim (.word .null) fun a => draft (unwrap a)) = .ok v ∧
      v.map wrap = a := by
  cases a with
  | none => exact ⟨none, rfl, rfl⟩
  | some a =>
    refine ⟨some (unwrap a), ?_, congrArg some (hwrap a)⟩
    show decoder.nullable site (draft (unwrap a)) = .ok (some (unwrap a))
    rw [hsome, h]
    rfl

end Json.Decoder

/-- A policy is read by its name. -/
theorem WaitPolicy.variant_name (site : Site) (p : WaitPolicy) :
    Decoder.variant (WaitPolicy.all.map fun p => (p.name, p)) site (.text p.name) = .ok p := by
  cases p <;> rfl

namespace TransactionOptions

/-! ## Members -/

theorem writesMember_writeMember {α : Type} (key : String) {write : α → List Char} {draft : α → Draft}
    (h : ∀ a, Writes (write a) (draft a)) (a : Option α) :
    WritesMember (writeMember key write a) (.text key, a.elim (.word .null) draft) := by
  cases a with
  | none => exact .intro key writes_null
  | some a => exact .intro key (h a)

/-- The members of the JSON form. -/
inductive Member where
  | gas
  | deposit
  | waitUntil
deriving DecidableEq

namespace Member

variable (o : TransactionOptions)

def key : Member → String
  | gas => "gas"
  | deposit => "deposit"
  | waitUntil => "wait_until"

def isSet : Member → Bool
  | gas => o.gas.isSome
  | deposit => o.deposit.isSome
  | waitUntil => o.waitUntil.isSome

/-- The characters of the member, with its key. -/
def write : Member → List Char
  | gas => writeMember "gas" (fun g => Nat.toDigits 10 g.units.toNat) o.gas
  | deposit => writeMember "deposit" (fun d => Nat.toDigits 10 d.units.val) o.deposit
  | waitUntil => writeMember "wait_until" (fun p => writeString p.name) o.waitUntil

/-- The value of the member as it is written. -/
def draft : Member → Draft
  | gas => o.gas.elim (.word .null) fun g => .numeral (.integer false (Nat.toDigits 10 g.units.toNat))
  | deposit => o.deposit.elim (.word .null) fun d => .numeral (.integer false (Nat.toDigits 10 d.units.val))
  | waitUntil => o.waitUntil.elim (.word .null) fun p => .text p.name

/-- Other options, with the member as it is in these. -/
def copy (other : TransactionOptions) : Member → TransactionOptions
  | gas => { other with gas := o.gas }
  | deposit => { other with deposit := o.deposit }
  | waitUntil => { other with waitUntil := o.waitUntil }

/-- The member is the same in both. -/
def Agrees (other : TransactionOptions) : Member → Prop
  | gas => other.gas = o.gas
  | deposit => other.deposit = o.deposit
  | waitUntil => other.waitUntil = o.waitUntil

variable {o} {other : TransactionOptions} {m : Member}

theorem key_inj {n : Member} (h : m.key = n.key) : m = n := by
  revert h
  cases m <;> cases n <;> simp [key]

/-- Copying a member takes no other away. -/
theorem agrees_copy {n : Member} (h : m = n ∨ m.Agrees o other) : m.Agrees o (n.copy o other) := by
  rcases h with rfl | h
  · cases m <;> rfl
  · cases m <;> cases n <;> first | exact h | rfl

theorem agrees_empty (h : m.isSet o = false) : m.Agrees o empty := by
  have hnone : ∀ {α : Type} {a : Option α}, a.isSome = false → none = a := by
    intro α a ha
    rw [Option.isSome_eq_false_iff, Option.isNone_iff_eq_none] at ha
    exact ha.symm
  cases m with
  | gas => exact hnone h
  | deposit => exact hnone h
  | waitUntil => exact hnone h

theorem eq_of_agrees (h : ∀ m : Member, m.Agrees o other) : other = o := by
  cases o
  cases other
  obtain rfl := h gas
  obtain rfl := h deposit
  obtain rfl := h waitUntil
  rfl

variable (o) (m)

theorem writesMember : WritesMember (m.write o) (.text m.key, m.draft o) := by
  cases m with
  | gas => exact writesMember_writeMember _ (fun g => writes_digits g.units.toNat) o.gas
  | deposit => exact writesMember_writeMember _ (fun d => writes_digits d.units.val) o.deposit
  | waitUntil => exact writesMember_writeMember _ (fun p : WaitPolicy => writes_string p.name) o.waitUntil

/-- The field of the member reads it as it is written, null if it is not set. -/
theorem exists_update (site : Site) : ∃ f u, record.field? m.key = some f ∧
    f.update site (m.draft o) = .ok u ∧ ∀ other, u other = m.copy o other := by
  cases m with
  | gas =>
    have hwrap : ∀ g : Gas, Gas.mk g.units = g := fun _ => rfl
    obtain ⟨v, hv, hgas⟩ := Decoder.exists_nullable hwrap (fun _ => Decoder.nullable_numeral ..)
      (Decoder.word64_digits site) o.gas
    exact ⟨_, _, rfl, map_eq_ok.2 ⟨v, hv, rfl⟩, fun other => congrArg (fun gas => { other with gas }) hgas⟩
  | deposit =>
    have hwrap : ∀ d : Deposit, Deposit.mk d.units = d := fun _ => rfl
    obtain ⟨v, hv, hdeposit⟩ := Decoder.exists_nullable hwrap (fun _ => Decoder.nullable_numeral ..)
      (Decoder.word128_digits site) o.deposit
    exact ⟨_, _, rfl, map_eq_ok.2 ⟨v, hv, rfl⟩,
      fun other => congrArg (fun deposit => { other with deposit }) hdeposit⟩
  | waitUntil =>
    have hwrap : ∀ p : WaitPolicy, id p = p := fun _ => rfl
    obtain ⟨v, hv, hpolicy⟩ := Decoder.exists_nullable hwrap (fun _ => Decoder.nullable_text ..)
      (WaitPolicy.variant_name site) o.waitUntil
    rw [Option.map_id] at hpolicy
    exact ⟨_, _, rfl, map_eq_ok.2 ⟨v, hv, rfl⟩,
      fun other => congrArg (fun waitUntil => { other with waitUntil }) hpolicy⟩

end Member

/-! ## Objects -/

variable (o : TransactionOptions)

/-- Compact JSON text with some of the members, in this order. -/
def textOf (members : List Member) : String :=
  String.ofList ('\x7b' :: (commaSeparated (members.map (·.write o)) ++ ['\x7d']))

theorem text_eq_textOf : o.text = o.textOf [.gas, .deposit, .waitUntil] := rfl

/-- Members are read one after the other. Those that are read agree with the options, and no other member
is changed. -/
theorem readMembers_drafts (site : Site) {members : List Member} (hnodup : members.Nodup)
    {given : List String} (hgiven : ∀ m ∈ members, m.key ∉ given) (other : TransactionOptions) :
    ∃ given' left, record.readMembers site given other (members.map fun m => (.text m.key, m.draft o)) =
      .ok (given', left) ∧ ∀ m : Member, m ∈ members ∨ m.Agrees o other → m.Agrees o left := by
  induction members generalizing given other with
  | nil => exact ⟨given, other, rfl, fun m h => h.resolve_left List.not_mem_nil⟩
  | cons n members ih =>
    obtain ⟨hn, hnodup⟩ := List.nodup_cons.1 hnodup
    obtain ⟨hfirst, hrest⟩ := List.forall_mem_cons.1 hgiven
    obtain ⟨f, u, hf, hu, hcopy⟩ := n.exists_update o site
    have hfresh : ∀ m ∈ members, m.key ∉ n.key :: given := by
      intro m hm hmem
      rcases List.mem_cons.1 hmem with hkey | hmem
      · exact hn (Member.key_inj hkey ▸ hm)
      · exact hrest m hm hmem
    obtain ⟨given', left, hread, hagrees⟩ := ih hnodup hfresh (u other)
    have hmember := Record.readMember_eq_ok.2 (.field (s := (given, other)) hf hfirst hu)
    refine ⟨given', left, ?_, fun m h => hagrees m ?_⟩
    · rw [Record.readMembers_eq_foldlM] at hread ⊢
      exact bind_eq_ok.2 ⟨_, hmember, hread⟩
    · rw [List.mem_cons, or_assoc] at h
      rw [hcopy]
      rcases h with h | h | h
      · exact .inr (Member.agrees_copy (.inl h))
      · exact .inl h
      · exact .inr (Member.agrees_copy (.inr h))

/-- An object of members that are set, with or without others, is read as the options. -/
theorem decode_drafts {members : List Member} (hnodup : members.Nodup)
    (hset : ∀ m : Member, m.isSet o = true → m ∈ members) :
    record.decoder (.whole .text) (.object (members.map fun m => (.text m.key, m.draft o)) .closed) =
      .ok o := by
  have hinside : (Site.whole .text).room = 126 + 1 := rfl
  simp only [Record.decoder, Decoder.inside_eq hinside, bind, Except.bind]
  generalize ({ Site.whole .text with room := 126, isItem := false } : Site) = site
  obtain ⟨given, left, hread, hagrees⟩ :=
    o.readMembers_drafts site hnodup (fun _ _ => List.not_mem_nil) empty
  have hleft : left = o := by
    refine Member.eq_of_agrees fun m => hagrees m ?_
    cases hm : m.isSet o with
    | true => exact .inl (hset m hm)
    | false => exact .inr (Member.agrees_empty hm)
  rw [hleft] at hread
  -- no field is required
  have hcomplete : record.firstMissing? given = none := rfl
  have hblank : record.blank = empty := rfl
  simp only [Record.ofMembers, hblank, hread, hcomplete, bind, Except.bind]
  rfl

/-- The options are read off any of their members, in any order, if those that are set are among them. -/
theorem ofText_textOf {members : List Member} (hnodup : members.Nodup)
    (hset : ∀ m : Member, m.isSet o = true → m ∈ members) : ofText (o.textOf members) = .ok o := by
  have hwrites : Writes ('\x7b' :: (commaSeparated (members.map (·.write o)) ++ ['\x7d']))
      (.object (members.map fun m => (.text m.key, m.draft o)) .closed) := by
    apply Writes.object
    rw [List.forall₂_map_left_iff, List.forall₂_map_right_iff]
    exact List.forall₂_same.2 fun m _ => m.writesMember o
  unfold ofText Decoder.ofText textOf
  rw [hwrites.ofText]
  dsimp only
  rw [o.decode_drafts hnodup hset]
  rfl

/-- Options survive their JSON text, whatever they are: every amount of gas and every deposit up to the last
one comes back as it was. What is read off any text is read again off its own text. A member that is not set
may be left out, and the members may change places. -/
theorem text_roundTrip :
    (∀ o : TransactionOptions, ofText o.text = .ok o) ∧
    (∀ (text : String) (o : TransactionOptions), ofText text = .ok o → ofText o.text = .ok o) ∧
    ∀ (o : TransactionOptions) (members : List Member), members.Nodup →
      (∀ m : Member, m.isSet o = true → m ∈ members) → ofText (o.textOf members) = .ok o := by
  have hread : ∀ o : TransactionOptions, ofText o.text = .ok o := by
    intro o
    rw [text_eq_textOf]
    apply ofText_textOf
    · decide
    · intro m _
      cases m <;> decide
  refine ⟨hread, ?_, ?_⟩
  · intro _ o _
    exact hread o
  · intro o members hnodup hset
    exact ofText_textOf o hnodup hset

/-- The largest deposit, with the other members left out and with null for them. -/
theorem text_roundTrip_largest :
    let o : TransactionOptions := ⟨none, some ⟨⟨340282366920938463463374607431768211455, by decide⟩⟩, none⟩
    let short : String := "\x7b\"deposit\":340282366920938463463374607431768211455\x7d"
    o.textOf [.deposit] = short ∧ ofText short = .ok o ∧ ofText o.text = .ok o := by
  intro o short
  have htext : o.textOf [.deposit] = short := by decide +kernel
  have hset : ∀ m : Member, m.isSet o = true → m ∈ [Member.deposit] := by
    intro m hm
    cases m with
    | gas | waitUntil => cases hm
    | deposit => exact List.mem_singleton_self _
  obtain ⟨-, hagain, hsome⟩ := text_roundTrip
  have hshort : ofText short = .ok o := htext ▸ hsome o [.deposit] (List.nodup_singleton _) hset
  exact ⟨htext, hshort, hagain short o hshort⟩

end TransactionOptions

end ContractInterface
