/-
The texts of versions. A number is a numeral without leading zeros that fits in one machine word; the
identifiers of a pre-release and of a build have dots between them, and a mark before the first one.
A text is read as a version exactly when it spells that version in this way, with nothing before and
nothing after (`Version.parse_eq_ok_iff`).
-/
import ContractInterface.Version.Basic
import ContractInterface.Proofs.Json.NumberText
import ContractInterface.Proofs.Outcomes

namespace ContractInterface

/-! ## Numerals -/

/-- The digits of a number without leading zeros, where it fits in one machine word. -/
structure NumeralSpells (ds : List Char) (n : ℕ) : Prop where
  whole : WholeDigits ds
  value : Nat.ofDigitChars 10 ds 0 = n
  fits : n < UInt64.size

theorem le_ofDigitChars (ds : List Char) (value : ℕ) : value ≤ Nat.ofDigitChars 10 ds value := by
  rw [Nat.ofDigitChars_eq_ofDigitChars_zero]
  have hpos : 1 ≤ 10 ^ ds.length := Nat.one_le_pow _ _ (by decide)
  calc value = 1 * value := (Nat.one_mul _).symm
    _ ≤ 10 ^ ds.length * value := Nat.mul_le_mul_right _ hpos
    _ ≤ _ := Nat.le_add_right ..

theorem digit_eq_zero_iff {c : Char} (hc : c.isDigit = true) :
    c.toNat - '0'.toNat = 0 ↔ c = '0' := by
  have hle : '0'.toNat ≤ c.toNat := (Char.isDigit_iff_toNat.1 hc).1
  rw [← Char.toNat_inj]
  omega

theorem wholeDigits_cons_iff {c : Char} {ds : List Char} : WholeDigits (c :: ds) ↔
    c.isDigit = true ∧ (∀ d ∈ ds, d.isDigit = true) ∧ (c = '0' → ds = []) := by
  constructor
  · rintro ⟨-, hdigits, hleading⟩
    obtain ⟨hc, hds⟩ := List.forall_mem_cons.1 hdigits
    exact ⟨hc, hds, fun h => List.length_eq_zero_iff.1 (Nat.succ.inj (hleading (congrArg some h)))⟩
  · rintro ⟨hc, hds, hzero⟩
    refine ⟨by simp, List.forall_mem_cons.2 ⟨hc, hds⟩, fun h => ?_⟩
    rw [hzero (Option.some.inj h), List.length_singleton]

namespace VersionPart

variable {part : VersionPart}

/-- With all the digits at the start of a text the value becomes `n`, and the rest is left. To a value
of zero no more digits may be added. -/
def Continues (value : ℕ) (cs : List Char) (n : ℕ) (rest : List Char) : Prop :=
  rest = cs.dropWhile Char.isDigit ∧ (value = 0 → cs.takeWhile Char.isDigit = []) ∧
    Nat.ofDigitChars 10 (cs.takeWhile Char.isDigit) value = n ∧ n < UInt64.size

theorem readDigits_eq_ok_iff_of_head? {cs rest : List Char} {value n : ℕ}
    (hvalue : value < UInt64.size) (hcs : ∀ c ∈ cs.head?, c.isDigit = false) :
    part.readDigits value false cs = .ok (n, rest) ↔ Continues value cs n rest := by
  have hread : part.readDigits value false cs = .ok (value, cs) := by
    cases cs with
    | nil => rfl
    | cons c cs => simp [readDigits, hcs c rfl]
  obtain ⟨htake, hdrop⟩ := Json.takeWhile_digits (List.forall_mem_nil _) hcs
  rw [List.nil_append] at htake hdrop
  rw [hread, Continues, htake, hdrop, Except.ok.injEq, Prod.mk.injEq, Nat.ofDigitChars_nil]
  constructor
  · rintro ⟨rfl, rfl⟩
    exact ⟨rfl, fun _ => rfl, rfl, hvalue⟩
  · rintro ⟨rfl, -, rfl, -⟩
    exact ⟨rfl, rfl⟩

/-- After its first digit the reader of a number takes all the digits that follow. -/
theorem readDigits_eq_ok_iff {cs rest : List Char} {value n : ℕ} (hvalue : value < UInt64.size) :
    part.readDigits value false cs = .ok (n, rest) ↔ Continues value cs n rest := by
  induction cs generalizing value with
  | nil => exact readDigits_eq_ok_iff_of_head? hvalue (by simp)
  | cons c cs ih =>
    cases hc : c.isDigit with
    | false => exact readDigits_eq_ok_iff_of_head? hvalue (by simpa using hc)
    | true =>
      simp only [Continues, readDigits, hc, if_true, List.dropWhile_cons, List.takeWhile_cons,
        Nat.ofDigitChars_cons]
      by_cases hzero : value = 0
      · simp [hzero]
      · -- a positive value stays positive, so what is said of a zero is said of none from here on
        have hpos : 10 * value + (c.toNat - '0'.toNat) ≠ 0 := by omega
        generalize 10 * value + (c.toNat - '0'.toNat) = next at hpos
        by_cases hnext : next < UInt64.size
        · simp [Continues, hzero, hnext, ih hnext, hpos]
        · -- digits that follow do not make the value smaller again
          have hle := le_ofDigitChars (cs.takeWhile Char.isDigit) next
          simp only [hzero, hnext, false_and, if_false, reduceCtorEq, false_iff]
          rintro ⟨-, -, rfl, hfits⟩
          exact hnext (lt_of_le_of_lt hle hfits)

theorem readNumber_eq_ok_iff {cs rest : List Char} {n : ℕ} :
    part.readNumber cs = .ok (n, rest) ↔
      rest = cs.dropWhile Char.isDigit ∧ NumeralSpells (cs.takeWhile Char.isDigit) n := by
  cases cs with
  | nil =>
    refine ⟨nofun, fun h => ?_⟩
    exact absurd rfl h.2.whole.ne_nil
  | cons c cs =>
    cases hc : c.isDigit with
    | false =>
      refine ⟨fun h => ?_, fun h => ?_⟩
      · simp [readNumber, readDigits, hc] at h
      · simpa [hc] using h.2.whole.ne_nil
    | true =>
      have hlt : c.toNat - '0'.toNat < UInt64.size := by
        have hle : c.toNat ≤ '9'.toNat := (Char.isDigit_iff_toNat.1 hc).2
        have hnine : '9'.toNat < UInt64.size := by decide
        omega
      have hstep : part.readNumber (c :: cs) = part.readDigits (c.toNat - '0'.toNat) false cs := by
        simp only [readNumber, readDigits, hc, if_true, not_true_eq_false, and_false, if_false,
          Nat.mul_zero, Nat.zero_add, hlt]
      rw [hstep, readDigits_eq_ok_iff hlt]
      simp only [Continues, digit_eq_zero_iff hc, List.dropWhile_cons, List.takeWhile_cons, hc, if_true]
      refine and_congr_right fun _ =>
        ⟨fun ⟨hzero, hn, hfits⟩ => ⟨?_, ?_, hfits⟩, fun h => ⟨?_, ?_, h.fits⟩⟩
      · exact wholeDigits_cons_iff.2 ⟨hc, fun d hd => List.mem_takeWhile_imp hd, hzero⟩
      · rw [Nat.ofDigitChars_cons, Nat.mul_zero, Nat.zero_add, hn]
      · exact (wholeDigits_cons_iff.1 h.whole).2.2
      · rw [← h.value, Nat.ofDigitChars_cons, Nat.mul_zero, Nat.zero_add]

theorem exists_of_readNumber {cs rest : List Char} {n : ℕ} (h : part.readNumber cs = .ok (n, rest)) :
    ∃ ds, cs = ds ++ rest ∧ NumeralSpells ds n := by
  obtain ⟨rfl, hn⟩ := readNumber_eq_ok_iff.1 h
  exact ⟨cs.takeWhile Char.isDigit, List.takeWhile_append_dropWhile.symm, hn⟩

theorem readNumber_append {ds rest : List Char} {n : ℕ} (h : NumeralSpells ds n)
    (hrest : ∀ c ∈ rest.head?, c.isDigit = false) : part.readNumber (ds ++ rest) = .ok (n, rest) := by
  obtain ⟨htake, hdrop⟩ := Json.takeWhile_digits h.whole.digits hrest
  rw [readNumber_eq_ok_iff, htake, hdrop]
  exact ⟨rfl, h⟩

theorem readNumber_append_dot {ds : List Char} {n : ℕ} (h : NumeralSpells ds n) (rest : List Char) :
    part.readNumber (ds ++ '.' :: rest) = .ok (n, '.' :: rest) :=
  readNumber_append h (by rintro _ ⟨⟩; rfl)

theorem readDot_eq_ok_iff {cs rest : List Char} : part.readDot cs = .ok rest ↔ cs = '.' :: rest := by
  constructor
  · intro h
    unfold readDot at h
    split at h
    · cases h
      rfl
    · cases h
    · cases h
  · rintro rfl
    rfl

end VersionPart

/-! ## Identifiers -/

/-- Letters, digits and hyphens, and at least one of them. -/
structure IsSegment (cs : List Char) : Prop where
  ne_nil : cs ≠ []
  chars : ∀ c ∈ cs, isIdentifierChar c = true

/-- An identifier of a pre-release is a number without leading zeros, or has a character that is no
digit. -/
inductive IdentifierSpells (cs : List Char) : Identifier → Prop
  | numeric : WholeDigits cs → IdentifierSpells cs (.numeric (Nat.ofDigitChars 10 cs 0))
  | word : IsSegment cs → (∃ c ∈ cs, c.isDigit = false) →
    IdentifierSpells cs (.word (String.ofList cs))

/-- An identifier of a build. -/
def BuildSpells (cs : List Char) (s : String) : Prop := IsSegment cs ∧ String.ofList cs = s

theorem isIdentifierChar_of_isDigit {c : Char} (h : c.isDigit = true) : isIdentifierChar c = true := by
  simp [isIdentifierChar, Char.isAlphanum, h]

theorem IdentifierSpells.isSegment {cs : List Char} {i : Identifier} (h : IdentifierSpells cs i) :
    IsSegment cs := by
  cases h with
  | numeric h => exact ⟨h.ne_nil, fun c hc => isIdentifierChar_of_isDigit (h.digits c hc)⟩
  | word h _ => exact h

theorem readIdentifier_eq_ok_iff {cs : List Char} {i : Identifier} (hcs : IsSegment cs) :
    readIdentifier cs = .ok i ↔ IdentifierSpells cs i := by
  constructor
  · intro h
    unfold readIdentifier at h
    split at h
    · rename_i hall
      split at h
      · cases h
      · rename_i hzero
        cases h
        refine .numeric ⟨hcs.ne_nil, List.all_eq_true.1 hall, fun hhead => ?_⟩
        obtain ⟨tail, rfl⟩ := List.head?_eq_some_iff.1 hhead
        cases tail with
        | nil => rfl
        | cons c tail => exact (hzero c tail rfl).elim
    · rename_i hall
      cases h
      exact .word hcs (by simpa using hall)
  · rintro (hdigits | ⟨-, c, hc, hdigit⟩)
    · have hall : cs.all Char.isDigit = true := List.all_eq_true.2 hdigits.digits
      unfold readIdentifier
      rw [if_pos hall]
      split
      · cases hdigits.leading rfl
      · rfl
    · have hall : ¬ cs.all Char.isDigit = true := fun h => by
        cases hdigit.symm.trans (List.all_eq_true.1 h c hc)
      unfold readIdentifier
      rw [if_neg hall]

/-! ## Segments -/

section Segments

variable {α : Type} {part : VersionPart} {accept : List Char → Except VersionError α}
  {current cs rest : List Char} {xs : List α}

theorem readSegments_append {segment : List Char} (h : ∀ c ∈ segment, isIdentifierChar c = true) :
    readSegments part accept current (segment ++ cs) =
      readSegments part accept (segment.reverse ++ current) cs := by
  induction segment generalizing current with
  | nil => rfl
  | cons c segment ih =>
    obtain ⟨hc, hsegment⟩ := List.forall_mem_cons.1 h
    rw [List.cons_append, readSegments, if_pos hc, ih hsegment, List.reverse_cons, List.append_assoc,
      List.singleton_append]

theorem isSegment_reverse (hcurrent : ∀ c ∈ current, isIdentifierChar c = true)
    (hne : ¬ current.isEmpty = true) : IsSegment current.reverse :=
  ⟨by simpa using hne, fun c hc => hcurrent c (List.mem_reverse.1 hc)⟩

/-- What is read are segments with dots between them, the first of which goes on from `current`. -/
theorem exists_of_readSegments (hcurrent : ∀ c ∈ current, isIdentifierChar c = true)
    (h : readSegments part accept current cs = .ok (xs, rest)) :
    ∃ segments ≠ [], current.reverse ++ cs = ['.'].intercalate segments ++ rest ∧
      List.Forall₂ (fun s x => IsSegment s ∧ accept s = .ok x) segments xs := by
  induction cs generalizing current xs with
  | nil =>
    rw [readSegments] at h
    split at h
    · cases h
    · rename_i hne
      obtain ⟨x, hx, ⟨⟩⟩ := bind_eq_ok.1 h
      exact ⟨[current.reverse], by simp, by simp,
        .cons ⟨isSegment_reverse hcurrent hne, hx⟩ .nil⟩
  | cons c cs ih =>
    rw [readSegments] at h
    split at h
    · rename_i hc
      obtain ⟨segments, hne, happend, hread⟩ := ih (List.forall_mem_cons.2 ⟨hc, hcurrent⟩) h
      refine ⟨segments, hne, ?_, hread⟩
      rw [← happend, List.reverse_cons, List.append_assoc, List.singleton_append]
    · split at h
      · cases h
      · rename_i hne
        have hsegment := isSegment_reverse hcurrent hne
        obtain ⟨x, hx, h⟩ := bind_eq_ok.1 h
        split at h
        · rename_i hdot
          obtain ⟨⟨more, rest'⟩, hmore, ⟨⟩⟩ := bind_eq_ok.1 h
          obtain ⟨segments, hnil, happend, hread⟩ := ih (List.forall_mem_nil _) hmore
          refine ⟨current.reverse :: segments, by simp, ?_, .cons ⟨hsegment, hx⟩ hread⟩
          rw [List.intercalate_cons_of_ne_nil hnil, hdot, List.append_assoc, List.append_assoc,
            ← happend]
          rfl
        · cases h
          exact ⟨[current.reverse], by simp, by simp, .cons ⟨hsegment, hx⟩ .nil⟩

/-- Text that starts with no character that could belong to the segments before it. -/
def EndsSegments (rest : List Char) : Prop :=
  ∀ c ∈ rest.head?, isIdentifierChar c = false ∧ c ≠ '.'

theorem readSegments_intercalate {segments : List (List Char)} (hne : segments ≠ [])
    (hread : List.Forall₂ (fun s x => IsSegment s ∧ accept s = .ok x) segments xs)
    (hrest : EndsSegments rest) :
    readSegments part accept [] (['.'].intercalate segments ++ rest) = .ok (xs, rest) := by
  induction hread with
  | nil => exact absurd rfl hne
  | @cons segment x segments xs h hread ih =>
    obtain ⟨⟨hnil, hchars⟩, hx⟩ := h
    -- the last segment ends where the rest starts, every other one at a dot
    have hsome : ¬ segment.reverse.isEmpty = true := by simpa using hnil
    cases hread with
    | nil =>
      rw [List.intercalate_singleton, readSegments_append hchars, List.append_nil]
      cases rest with
      | nil =>
        rw [readSegments, if_neg hsome, List.reverse_reverse, hx]
        rfl
      | cons c rest =>
        obtain ⟨hc, hdot⟩ := hrest c rfl
        rw [readSegments, if_neg (by simp [hc]), if_neg hsome, List.reverse_reverse, hx]
        simp only [bind, Except.bind, hdot, if_false]
        rfl
    | cons h' hread' =>
      rw [List.intercalate_cons_of_ne_nil (by simp), List.append_assoc, List.append_assoc,
        readSegments_append hchars, List.append_nil, List.singleton_append, readSegments,
        if_neg (by decide), if_neg hsome, List.reverse_reverse, hx]
      simp only [bind, Except.bind, if_true]
      rw [ih (by simp)]
      rfl

end Segments

/-! ## Marked parts -/

/-- Nothing, or a mark and then the texts of the elements with dots between them. -/
def MarkedSpells {α : Type} (mark : Char) (spells : List Char → α → Prop) (cs : List Char)
    (xs : List α) : Prop :=
  cs = [] ∧ xs = [] ∨
    ∃ segments ≠ [], cs = mark :: ['.'].intercalate segments ∧ List.Forall₂ spells segments xs

section Marked

variable {α : Type} {part : VersionPart} {accept : List Char → Except VersionError α} {mark : Char}
  {spells : List Char → α → Prop} {cs rest : List Char} {xs : List α}
  (hspells : ∀ s x, IsSegment s ∧ accept s = .ok x ↔ spells s x)

include hspells

theorem exists_of_readMarked (h : readMarked mark (readSegments part accept []) cs = .ok (xs, rest)) :
    ∃ marked, cs = marked ++ rest ∧ MarkedSpells mark spells marked xs := by
  unfold readMarked at h
  split at h
  · split at h
    · rename_i hmark
      obtain ⟨segments, hne, happend, hread⟩ := exists_of_readSegments (List.forall_mem_nil _) h
      refine ⟨mark :: ['.'].intercalate segments, ?_, .inr ⟨segments, hne, rfl, ?_⟩⟩
      · rw [List.cons_append, ← happend, hmark]
        rfl
      · exact hread.imp fun s x => (hspells s x).1
    · cases h
      exact ⟨[], rfl, .inl ⟨rfl, rfl⟩⟩
  · cases h
    exact ⟨[], rfl, .inl ⟨rfl, rfl⟩⟩

theorem readMarked_append (h : MarkedSpells mark spells cs xs) (hrest : EndsSegments rest)
    (hmark : rest.head? ≠ some mark) :
    readMarked mark (readSegments part accept []) (cs ++ rest) = .ok (xs, rest) := by
  obtain ⟨rfl, rfl⟩ | ⟨segments, hne, rfl, hread⟩ := h
  · cases rest with
    | nil => rfl
    | cons c rest =>
      have hc : c ≠ mark := fun h => hmark (congrArg some h)
      simp [readMarked, hc]
  · have hread' := hread.imp fun s x => (hspells s x).2
    rw [List.cons_append, readMarked, if_pos rfl, readSegments_intercalate hne hread' hrest]

end Marked

theorem MarkedSpells.head?_append {α : Type} {mark : Char} {spells : List Char → α → Prop}
    {cs : List Char} {xs : List α} (h : MarkedSpells mark spells cs xs) (rest : List Char) :
    (cs ++ rest).head? = some mark ∨ (cs ++ rest).head? = rest.head? := by
  obtain ⟨rfl, -⟩ | ⟨segments, -, rfl, -⟩ := h
  · exact .inr rfl
  · exact .inl rfl

/-! ## Versions -/

/-- The text is that of the version: three numerals with dots between them, the identifiers of a
pre-release after a hyphen, and those of a build after a plus sign. -/
def VersionSpells (text : String) (v : Version) : Prop :=
  ∃ major minor patch pre build : List Char,
    text.toList = major ++ '.' :: (minor ++ '.' :: (patch ++ (pre ++ build))) ∧
      NumeralSpells major v.major ∧ NumeralSpells minor v.minor ∧ NumeralSpells patch v.patch ∧
      MarkedSpells '-' IdentifierSpells pre v.pre ∧ MarkedSpells '+' BuildSpells build v.build

theorem identifierSpells_iff (s : List Char) (i : Identifier) :
    IsSegment s ∧ readIdentifier s = .ok i ↔ IdentifierSpells s i :=
  ⟨fun ⟨hs, h⟩ => (readIdentifier_eq_ok_iff hs).1 h,
    fun h => ⟨h.isSegment, (readIdentifier_eq_ok_iff h.isSegment).2 h⟩⟩

theorem buildSpells_iff (cs : List Char) (s : String) :
    IsSegment cs ∧ (.ok (String.ofList cs) : Except VersionError String) = .ok s ↔ BuildSpells cs s := by
  rw [Except.ok.injEq, BuildSpells]

namespace Version

variable {text : String} {v : Version}

theorem spells_of_parse (h : parse text = .ok v) : VersionSpells text v := by
  unfold parse at h
  split at h
  · cases h
  obtain ⟨⟨major, afterMajor⟩, hmajor, h⟩ := bind_eq_ok.1 h
  obtain ⟨minorText, hdot, h⟩ := bind_eq_ok.1 h
  obtain ⟨⟨minor, afterMinor⟩, hminor, h⟩ := bind_eq_ok.1 h
  obtain ⟨patchText, hdot', h⟩ := bind_eq_ok.1 h
  obtain ⟨⟨patch, afterPatch⟩, hpatch, h⟩ := bind_eq_ok.1 h
  obtain ⟨⟨pre, afterPre⟩, hpre, h⟩ := bind_eq_ok.1 h
  obtain ⟨⟨build, afterBuild⟩, hbuild, h⟩ := bind_eq_ok.1 h
  cases afterBuild with
  | cons c rest => cases h
  | nil =>
    cases h
    -- the parts are put together again from the last one to the first one
    obtain ⟨buildText, rfl, spellsBuild⟩ := exists_of_readMarked buildSpells_iff hbuild
    obtain ⟨preText, rfl, spellsPre⟩ := exists_of_readMarked identifierSpells_iff hpre
    obtain ⟨patchDigits, rfl, spellsPatch⟩ := VersionPart.exists_of_readNumber hpatch
    obtain rfl := VersionPart.readDot_eq_ok_iff.1 hdot'
    obtain ⟨minorDigits, rfl, spellsMinor⟩ := VersionPart.exists_of_readNumber hminor
    obtain rfl := VersionPart.readDot_eq_ok_iff.1 hdot
    obtain ⟨majorDigits, htext, spellsMajor⟩ := VersionPart.exists_of_readNumber hmajor
    rw [List.append_nil] at htext
    exact ⟨majorDigits, minorDigits, patchDigits, preText, buildText, htext, spellsMajor,
      spellsMinor, spellsPatch, spellsPre, spellsBuild⟩

/-- A part that is followed by the mark of a later part, or by nothing, is read up to there. -/
theorem parse_of_spells (h : VersionSpells text v) : parse text = .ok v := by
  obtain ⟨major, minor, patch, pre, build, htext, hmajor, hminor, hpatch, hpre, hbuild⟩ := h
  have hempty : ¬ text.isEmpty = true := by
    rw [String.isEmpty_iff, ← String.toList_inj, htext]
    simp
  have hafterPre : build.head? = some '+' ∨ build.head? = none := by
    simpa using hbuild.head?_append []
  have hafterPatch : ∀ c ∈ (pre ++ build).head?, c.isDigit = false := by
    obtain h | h := hpre.head?_append build
    · rw [h]
      rintro _ ⟨⟩
      rfl
    · obtain h' | h' := hafterPre <;> rw [h, h'] <;> rintro _ ⟨⟩
      rfl
  have hends : EndsSegments build := by
    unfold EndsSegments
    obtain h | h := hafterPre <;> rw [h] <;> rintro _ ⟨⟩
    decide
  have hmark : build.head? ≠ some '-' := by
    obtain h | h := hafterPre <;> rw [h] <;> decide
  have hreadPre : readMarked '-' readPre (pre ++ build) = .ok (v.pre, build) :=
    readMarked_append identifierSpells_iff hpre hends hmark
  have hreadBuild : readMarked '+' readBuild build = .ok (v.build, []) := by
    have h : readMarked '+' readBuild (build ++ []) = .ok (v.build, []) :=
      readMarked_append buildSpells_iff hbuild nofun nofun
    rwa [List.append_nil] at h
  unfold parse
  rw [if_neg hempty, htext]
  simp only [VersionPart.readNumber_append_dot hmajor, VersionPart.readNumber_append_dot hminor,
    VersionPart.readNumber_append hpatch hafterPatch, VersionPart.readDot, hreadPre, hreadBuild,
    bind, Except.bind]
  rfl

theorem parse_eq_ok_iff : parse text = .ok v ↔ VersionSpells text v :=
  ⟨spells_of_parse, parse_of_spells⟩

end Version

example : Version.parse "0.3.0-rc.1+007" = .ok ⟨0, 3, 0, [.word "rc", .numeric 1], ["007"]⟩ := rfl

end ContractInterface
