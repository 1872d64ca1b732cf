/-
Loading under a pin. A pin is passed by the content whose digest it spells, where letters of the digest
may be capitals and nothing else may differ (`checkPin_eq_ok_iff`). So a text is loaded under a pin
exactly when it is a document and the pin spells the digest of its canonical text; the fingerprint of a
document is such a pin, and documents that pass one pin have one digest (`Document.parsePinned_exact`).
-/
import Mathlib
import ContractInterface.Document.Loading
import ContractInterface.Proofs.Outcomes

namespace ContractInterface

open Json

/-! ## Hexadecimal -/

theorem Sha256.length_digest (message : List UInt8) : (digest message).length = 32 := by
  simp [digest]

theorem toList_hexText (bytes : List UInt8) : (hexText bytes).toList =
    bytes.flatMap fun b => [Nat.digitChar (b.toNat / 16), Nat.digitChar (b.toNat % 16)] :=
  String.toList_ofList

theorem length_toList_hexText (bytes : List UInt8) :
    (hexText bytes).toList.length = 2 * bytes.length := by
  simp [toList_hexText, Nat.mul_comm]

theorem exists_digit_of_mem_hexText {bytes : List UInt8} {c : Char} (h : c ∈ (hexText bytes).toList) :
    ∃ n < 16, c = Nat.digitChar n := by
  rw [toList_hexText] at h
  obtain ⟨b, -, hc⟩ := List.mem_flatMap.1 h
  have hb := b.toNat_lt
  simp only [List.mem_cons, List.not_mem_nil, or_false] at hc
  rcases hc with rfl | rfl
  · exact ⟨b.toNat / 16, by omega, rfl⟩
  · exact ⟨b.toNat % 16, by omega, rfl⟩

theorem digitChar_inj : ∀ m < 16, ∀ n < 16, Nat.digitChar m = Nat.digitChar n → m = n := by decide

/-- Different bytes are written differently. -/
theorem hexText_injective : Function.Injective hexText := by
  have hloop : ∀ as bs : List UInt8, (hexText as).toList = (hexText bs).toList → as = bs := by
    intro as
    induction as with
    | nil =>
      intro bs h
      have hlength := congrArg List.length h
      rw [length_toList_hexText, length_toList_hexText, List.length_nil] at hlength
      exact (List.eq_nil_of_length_eq_zero (by omega)).symm
    | cons a as ih =>
      rintro (_ | ⟨b, bs⟩) h
      · simp [toList_hexText] at h
      · simp only [toList_hexText, List.flatMap_cons, List.cons_append, List.nil_append,
          List.cons.injEq] at h ih
        obtain ⟨hhigh, hlow, hrest⟩ := h
        have ha := a.toNat_lt
        have hb := b.toNat_lt
        have hhigh' := digitChar_inj _ (by omega) _ (by omega) hhigh
        have hlow' := digitChar_inj _ (by omega) _ (by omega) hlow
        have hab : a = b := UInt8.toNat_inj.1 (by omega)
        rw [hab, ih bs hrest]
  exact fun as bs h => hloop as bs (congrArg String.toList h)

/-! ## Capitals -/

/-- The character is the digit that is meant or, if this is a letter, its capital. -/
def SpellsDigit (written meant : Char) : Prop :=
  written = meant ∨ 'A' ≤ written ∧ written ≤ 'Z' ∧ written.toNat + 32 = meant.toNat

theorem isUpper_iff {c : Char} : c.isUpper = true ↔ 'A' ≤ c ∧ c ≤ 'Z' := decide_eq_true_iff

theorem toNat_toLower {c : Char} (h : c.isUpper = true) : c.toLower.toNat = c.toNat + 32 := by
  have hZ : c.toNat ≤ 90 := (isUpper_iff.1 h).2
  rw [Char.toLower_eq_of_isUpper h, Char.toNat_ofNat, if_pos]
  exact .inl (by omega)

theorem toLower_eq_iff {c digit : Char} (h : digit.isUpper = false) :
    c.toLower = digit ↔ SpellsDigit c digit := by
  unfold SpellsDigit
  rw [← and_assoc, ← isUpper_iff]
  cases hc : c.isUpper with
  | true =>
    have hne : c ≠ digit := by
      rintro rfl
      cases hc.symm.trans h
    simp only [hne, true_and, false_or]
    rw [← Char.toNat_inj, toNat_toLower hc]
  | false =>
    rw [Char.toLower_eq_of_not_isUpper (by simp [hc])]
    simp

theorem isUpper_digitChar : ∀ n < 16, (Nat.digitChar n).isUpper = false := by decide

theorem isUpper_of_mem_hexText {bytes : List UInt8} {c : Char} (h : c ∈ (hexText bytes).toList) :
    c.isUpper = false := by
  obtain ⟨n, hn, rfl⟩ := exists_digit_of_mem_hexText h
  exact isUpper_digitChar n hn

theorem map_toLower_hexText (bytes : List UInt8) :
    (hexText bytes).toList.map Char.toLower = (hexText bytes).toList := by
  have hlower : ∀ c ∈ (hexText bytes).toList, c.toLower = c := fun c hc =>
    Char.toLower_eq_of_not_isUpper (by simp [isUpper_of_mem_hexText hc])
  rw [List.map_congr_left hlower, List.map_id']

/-- There are no capitals in hexadecimal text, so a text is the same but for case if it spells each
digit. -/
theorem sameIgnoringCase_hexText_iff (bytes : List UInt8) (written : String) :
    sameIgnoringCase (hexText bytes) written = true ↔
      List.Forall₂ SpellsDigit written.toList (hexText bytes).toList := by
  rw [sameIgnoringCase, beq_iff_eq, map_toLower_hexText, eq_comm, ← List.forall₂_eq_eq_eq,
    List.forall₂_map_left_iff, List.forall₂_iff_zip, List.forall₂_iff_zip]
  refine and_congr_right fun _ => ⟨fun h c x hcx => ?_, fun h c x hcx => ?_⟩
  · exact (toLower_eq_iff (isUpper_of_mem_hexText (List.of_mem_zip hcx).2)).1 (h hcx)
  · exact (toLower_eq_iff (isUpper_of_mem_hexText (List.of_mem_zip hcx).2)).2 (h hcx)

/-! ## Pins -/

theorem splitAtColon_cons {c : Char} (hc : c ≠ ':') (rest : List Char) :
    splitAtColon (c :: rest) = (splitAtColon rest).map fun (before, after) => (c :: before, after) := by
  rw [splitAtColon]
  exact hc

/-- A text is split at its first colon. -/
theorem splitAtColon_eq_some_iff {cs before after : List Char} :
    splitAtColon cs = some (before, after) ↔ cs = before ++ ':' :: after ∧ ':' ∉ before := by
  induction cs generalizing before with
  | nil => simp [splitAtColon]
  | cons c rest ih =>
    by_cases hc : c = ':'
    · subst hc
      cases before with
      | nil => simp [splitAtColon]
      | cons b before =>
        refine ⟨nofun, ?_⟩
        rintro ⟨heq, hb⟩
        obtain ⟨rfl, -⟩ := List.cons.inj heq
        exact absurd (List.mem_cons_self ..) hb
    · rw [splitAtColon_cons hc]
      cases before with
      | nil => simp [hc]
      | cons b before =>
        simp only [Option.map_eq_some_iff, Prod.exists, Prod.mk.injEq, List.cons.injEq,
          List.cons_append, List.mem_cons, not_or]
        constructor
        · rintro ⟨x, y, hxy, ⟨rfl, rfl⟩, rfl⟩
          obtain ⟨hrest, hx⟩ := ih.1 hxy
          exact ⟨⟨rfl, hrest⟩, Ne.symm hc, hx⟩
        · rintro ⟨⟨rfl, hrest⟩, -, hbefore⟩
          exact ⟨before, after, ih.2 ⟨hrest, hbefore⟩, ⟨rfl, rfl⟩, rfl⟩

/-- The pin names the algorithm, and after its colon spells the 64 digits of the digest of the content. -/
def PinSpells (pin : String) (content : List UInt8) : Prop :=
  ∃ hex : String, pin = "sha256:" ++ hex ∧ hex.length = 64 ∧
    List.Forall₂ SpellsDigit hex.toList (sha256Hex content).toList

theorem checkPin_of_split {content : List UInt8} {pin : String} {algorithm digest : List Char}
    (h : splitAtColon pin.toList = some (algorithm, digest)) :
    checkPin content pin = if String.ofList algorithm = "sha256" then
        if sameIgnoringCase (sha256Hex content) (String.ofList digest) then .ok ()
        else .error (.mismatch (String.ofList digest) (sha256Hex content))
      else .error (.unsupportedAlgorithm (String.ofList algorithm)) := by
  simp only [checkPin, h]

theorem checkPin_eq_ok_iff {content : List UInt8} {pin : String} :
    checkPin content pin = .ok () ↔ PinSpells pin content := by
  constructor
  · intro h
    cases hsplit : splitAtColon pin.toList with
    | none => simp [checkPin, hsplit] at h
    | some parts =>
      obtain ⟨algorithm, digest⟩ := parts
      rw [checkPin_of_split hsplit] at h
      split at h
      · rename_i halgorithm
        split at h
        · rename_i hsame
          rw [sha256Hex, sameIgnoringCase_hexText_iff] at hsame
          refine ⟨String.ofList digest, ?_, ?_, hsame⟩
          · obtain ⟨hpin, -⟩ := splitAtColon_eq_some_iff.1 hsplit
            have halgorithm' : algorithm = "sha256".toList := by
              rw [← halgorithm, String.toList_ofList]
            have hdigest : (String.ofList digest).toList = digest := String.toList_ofList
            rw [← String.toList_inj, hpin, halgorithm', String.toList_append, hdigest]
            rfl
          · rw [← String.length_toList, hsame.length_eq, length_toList_hexText,
              Sha256.length_digest]
        · cases h
      · cases h
  · rintro ⟨hex, rfl, -, hspells⟩
    have hsplit : splitAtColon ("sha256:" ++ hex).toList = some ("sha256".toList, hex.toList) := by
      rw [splitAtColon_eq_some_iff, String.toList_append]
      exact ⟨rfl, by decide⟩
    have hsame : sameIgnoringCase (sha256Hex content) hex = true :=
      (sameIgnoringCase_hexText_iff _ _).2 hspells
    rw [checkPin_of_split hsplit, if_pos String.ofList_toList, String.ofList_toList, if_pos hsame]

theorem pinSpells_fingerprintOf (content : List UInt8) : PinSpells (fingerprintOf content) content := by
  refine ⟨sha256Hex content, rfl, ?_, List.forall₂_same.2 fun _ _ => .inl rfl⟩
  rw [← String.length_toList, sha256Hex, length_toList_hexText, Sha256.length_digest]

/-- A pin spells one digest. -/
theorem PinSpells.digest_eq {pin : String} {content other : List UInt8} (h : PinSpells pin content)
    (k : PinSpells pin other) : Sha256.digest content = Sha256.digest other := by
  obtain ⟨hex, rfl, -, hcontent⟩ := h
  obtain ⟨hex', heq, -, hother⟩ := k
  obtain rfl : hex = hex' := by
    rw [← String.toList_inj] at heq ⊢
    rw [String.toList_append, String.toList_append] at heq
    exact List.append_cancel_left heq
  have hlower := beq_iff_eq.1 ((sameIgnoringCase_hexText_iff _ _).2 hcontent)
  have hlower' := beq_iff_eq.1 ((sameIgnoringCase_hexText_iff _ _).2 hother)
  rw [map_toLower_hexText] at hlower hlower'
  exact hexText_injective (String.toList_inj.1 (hlower.trans hlower'.symm))

namespace Document

theorem parsePinned_of_ok {text pin : String} {d : Document} (h : parse text = .ok d) :
    parsePinned text pin = match checkPin d.canonicalBytes pin with
      | .ok _ => .ok d
      | .error cause => .error (.pin cause) := by
  unfold parsePinned
  rw [h]
  show ((checkPin d.canonicalBytes pin).mapError Failure.pin >>= fun _ => pure d) = _
  cases checkPin d.canonicalBytes pin <;> rfl

theorem parsePinned_eq_ok_iff {text pin : String} {d : Document} :
    parsePinned text pin = .ok d ↔ parse text = .ok d ∧ PinSpells pin d.canonicalBytes := by
  rw [← checkPin_eq_ok_iff]
  constructor
  · intro h
    obtain ⟨_, hparse, h⟩ := bind_eq_ok.1 h
    obtain ⟨_, hpin, ⟨⟩⟩ := bind_eq_ok.1 h
    exact ⟨hparse, mapError_eq_ok.1 hpin⟩
  · rintro ⟨hparse, hpin⟩
    rw [parsePinned_of_ok hparse, hpin]

/-- A text is loaded under a pin exactly when it is a document and the pin spells the digest of its
canonical text. What is wrong with the text is told whatever the pin is, and a document that is not
loaded is told what is wrong with the pin. The fingerprint of a document is a pin that it is loaded
under; documents loaded under one pin have one fingerprint, and their canonical texts one digest. -/
theorem parsePinned_exact (text pin : String) :
    (∀ d, parsePinned text pin = .ok d ↔ parse text = .ok d ∧ PinSpells pin d.canonicalBytes) ∧
      (∀ e, parse text = .error e → parsePinned text pin = .error e) ∧
      (∀ d, parse text = .ok d → ¬ PinSpells pin d.canonicalBytes →
        ∃ cause, parsePinned text pin = .error (.pin cause)) ∧
      (∀ d, parse text = .ok d → parsePinned text d.fingerprint = .ok d) ∧
      ∀ other d e, parsePinned text pin = .ok d → parsePinned other pin = .ok e →
        d.fingerprint = e.fingerprint ∧
          Sha256.digest d.canonicalBytes = Sha256.digest e.canonicalBytes := by
  refine ⟨fun d => parsePinned_eq_ok_iff, fun e he => ?_, fun d hd hpin => ?_, fun d hd => ?_,
    fun other d e hd he => ?_⟩
  · unfold parsePinned
    rw [he]
    rfl
  · rw [parsePinned_of_ok hd]
    cases hcheck : checkPin d.canonicalBytes pin with
    | ok => exact absurd (checkPin_eq_ok_iff.1 hcheck) hpin
    | error cause => exact ⟨cause, rfl⟩
  · exact parsePinned_eq_ok_iff.2 ⟨hd, pinSpells_fingerprintOf d.canonicalBytes⟩
  · have hdigest := (parsePinned_eq_ok_iff.1 hd).2.digest_eq (parsePinned_eq_ok_iff.1 he).2
    refine ⟨?_, hdigest⟩
    rw [fingerprint, fingerprint, fingerprintOf, fingerprintOf, sha256Hex, sha256Hex, hdigest]

end Document

end ContractInterface
