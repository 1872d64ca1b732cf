/-
The text of a number is read as the number (`Number.scan_write`), where no numeral could go on after it.
Integers keep their kind; a double is written as a decimal of its rounding interval, in a layout that
does not change the value of the digits.
-/
import ContractInterface.Json.Written
import ContractInterface.Proofs.Double.Shortest
import Mathlib.Data.List.TakeWhile
import Mathlib.Tactic.IntervalCases

namespace ContractInterface

/-! ## Digits -/

/-- The digits of a whole part: a zero comes first only if it is alone. -/
structure WholeDigits (ds : List Char) : Prop where
  ne_nil : ds ≠ []
  digits : ∀ c ∈ ds, c.isDigit = true
  leading : ds.head? = some '0' → ds.length = 1

theorem head?_toDigits_ne_zero {n : ℕ} (hn : 0 < n) : (Nat.toDigits 10 n).head? ≠ some '0' := by
  induction n using Nat.strongRecOn with
  | ind n ih =>
    by_cases hlt : n < 10
    · rw [Nat.toDigits_of_lt_base hlt]
      interval_cases n <;> decide
    · rw [Nat.toDigits_of_base_le (by decide) (not_lt.1 hlt), List.head?_append_of_ne_nil _
        Nat.toDigits_ne_nil]
      exact ih (n / 10) (by omega) (by omega)

theorem wholeDigits_toDigits (n : ℕ) : WholeDigits (Nat.toDigits 10 n) := by
  refine ⟨Nat.toDigits_ne_nil, fun c hc => Nat.isDigit_of_mem_toDigits (by decide) (by decide) hc, ?_⟩
  intro hhead
  rcases Nat.eq_zero_or_pos n with rfl | hn
  · rfl
  · exact absurd hhead (head?_toDigits_ne_zero hn)

/-- More digits may follow those of a positive number. -/
theorem WholeDigits.append {n : ℕ} (hn : 0 < n) {ds more : List Char} (hds : ds ≠ [])
    (hstart : ds <+: Nat.toDigits 10 n) (hmore : ∀ c ∈ more, c.isDigit = true) :
    WholeDigits (ds ++ more) := by
  refine ⟨List.append_ne_nil_of_left_ne_nil hds _, fun c hc => ?_, fun hhead => ?_⟩
  · rcases List.mem_append.1 hc with hc | hc
    · exact (wholeDigits_toDigits n).digits c (hstart.subset hc)
    · exact hmore c hc
  · exfalso
    obtain ⟨rest, hrest⟩ := hstart
    rw [List.head?_append_of_ne_nil _ hds] at hhead
    refine head?_toDigits_ne_zero hn ?_
    rw [← hrest, List.head?_append_of_ne_nil _ hds, hhead]

theorem WholeDigits.of_start {n : ℕ} (hn : 0 < n) {ds : List Char} (hds : ds ≠ [])
    (hstart : ds <+: Nat.toDigits 10 n) : WholeDigits ds :=
  List.append_nil ds ▸ WholeDigits.append hn hds hstart (List.forall_mem_nil _)

namespace Json

/-! ## Numerals -/

/-- Text that starts with no character of a numeral. -/
def Ends (rest : List Char) : Prop :=
  ∀ c ∈ rest.head?, c.isDigit = false ∧ c ≠ '.' ∧ c ≠ 'e' ∧ c ≠ 'E'

theorem takeWhile_digits {ds rest : List Char} (hds : ∀ c ∈ ds, c.isDigit = true)
    (hrest : ∀ c ∈ rest.head?, c.isDigit = false) :
    (ds ++ rest).takeWhile Char.isDigit = ds ∧ (ds ++ rest).dropWhile Char.isDigit = rest := by
  have hnone : rest.takeWhile Char.isDigit = [] ∧ rest.dropWhile Char.isDigit = rest := by
    cases rest with
    | nil => exact ⟨rfl, rfl⟩
    | cons c rest =>
      have hc : c.isDigit = false := hrest c rfl
      simp [hc]
  rw [List.takeWhile_append_of_pos hds, List.dropWhile_append_of_pos hds, hnone.1, hnone.2,
    List.append_nil]
  exact ⟨rfl, rfl⟩

namespace Numeral

theorem scan_of_digits {negative : Bool} {ds rest : List Char} (hds : WholeDigits ds) :
    (∀ c ∈ rest.head?, c.isDigit = false) → scan negative (ds ++ rest) =
      match rest with
      | '.' :: rest =>
        let fraction := rest.takeWhile Char.isDigit
        if fraction.isEmpty then (cutShort negative ds rest, 0)
        else
          let width := ds.length + 1 + fraction.length
          match rest.dropWhile Char.isDigit with
          | 'e' :: rest | 'E' :: rest =>
            (scanExponent negative ds fraction rest).map id (width + 1 + ·)
          | _ => (.decimal negative ds fraction 0, width)
      | 'e' :: rest | 'E' :: rest =>
        (scanExponent negative ds [] rest).map id (ds.length + 1 + ·)
      | _ => (.integer negative ds, ds.length) := by
  intro hrest
  obtain ⟨htake, hdrop⟩ := takeWhile_digits hds.digits hrest
  unfold scan
  rw [htake, hdrop]
  dsimp only
  split
  · exact absurd rfl hds.ne_nil
  · rename_i _ _ tail
    have := hds.leading rfl
    simp at this
  · rfl

theorem scan_integer {negative : Bool} {ds rest : List Char} (hds : WholeDigits ds)
    (hrest : Ends rest) : scan negative (ds ++ rest) = (.integer negative ds, ds.length) := by
  rw [scan_of_digits hds fun c hc => (hrest c hc).1]
  cases rest with
  | nil => rfl
  | cons c rest =>
    obtain ⟨-, hpoint, he, hE⟩ := hrest c rfl
    split <;> simp_all

theorem scan_fraction {negative : Bool} {ds fs rest : List Char} (hds : WholeDigits ds)
    (hfs : fs ≠ []) (hfs' : ∀ c ∈ fs, c.isDigit = true) (hrest : Ends rest) :
    scan negative (ds ++ '.' :: (fs ++ rest)) =
      (.decimal negative ds fs 0, ds.length + 1 + fs.length) := by
  obtain ⟨htake, hdrop⟩ := takeWhile_digits hfs' fun c hc => (hrest c hc).1
  have hempty : fs.isEmpty = false := by simpa using hfs
  rw [scan_of_digits hds (by rintro _ ⟨⟩; rfl)]
  simp only [htake, hdrop, hempty]
  cases rest with
  | nil => rfl
  | cons c rest =>
    obtain ⟨-, -, he, hE⟩ := hrest c rfl
    simp [he, hE]

/-- The sign and the digits of an exponent. -/
def exponentText (e : ℤ) : List Char := (if e < 0 then '-' else '+') :: Nat.toDigits 10 e.natAbs

theorem scanExponent_exponentText {negative : Bool} {ds fs rest : List Char} (e : ℤ)
    (hrest : Ends rest) : scanExponent negative ds fs (exponentText e ++ rest) =
      (.decimal negative ds fs e, (exponentText e).length) := by
  obtain ⟨htake, -⟩ := takeWhile_digits (wholeDigits_toDigits e.natAbs).digits
    fun c hc => (hrest c hc).1
  have hempty : (Nat.toDigits 10 e.natAbs).isEmpty = false := by simp
  unfold scanExponent exponentText
  by_cases he : e < 0
  · have habs : -(e.natAbs : ℤ) = e := by omega
    simp only [he, if_true, List.cons_append, htake, hempty, Nat.ofDigitChars_ten_toDigits,
      Bool.false_eq_true, if_false, habs]
    simp [Nat.add_comm]
  · have habs : (e.natAbs : ℤ) = e := by omega
    simp only [he, if_false, List.cons_append, htake, hempty, Nat.ofDigitChars_ten_toDigits,
      Bool.false_eq_true, habs]
    simp [Nat.add_comm]

theorem scan_exponent {negative : Bool} {ds fs rest : List Char} (hds : WholeDigits ds)
    (hfs : ∀ c ∈ fs, c.isDigit = true) (e : ℤ) (hrest : Ends rest) :
    scan negative (ds ++ ((if fs.isEmpty then [] else '.' :: fs) ++ 'e' :: (exponentText e ++ rest))) =
      (.decimal negative ds fs e,
        (ds ++ ((if fs.isEmpty then [] else '.' :: fs) ++ 'e' :: exponentText e)).length) := by
  cases fs with
  | nil =>
    simp only [List.isEmpty_nil, if_true, List.nil_append]
    rw [scan_of_digits hds (by rintro _ ⟨⟩; rfl)]
    simp only [scanExponent_exponentText e hrest, Prod.map, id, List.length_append, List.length_cons]
    exact Prod.ext rfl (by dsimp only; omega)
  | cons f fs =>
    obtain ⟨htake, hdrop⟩ := @takeWhile_digits _ ('e' :: (exponentText e ++ rest)) hfs
      (by rintro _ ⟨⟩; rfl)
    simp only [List.isEmpty_cons, Bool.false_eq_true, if_false, List.cons_append]
    rw [scan_of_digits hds (by rintro _ ⟨⟩; rfl)]
    rw [List.cons_append] at htake hdrop
    simp only [htake, hdrop, List.isEmpty_cons, Bool.false_eq_true, if_false,
      scanExponent_exponentText e hrest, Prod.map, id, List.length_append, List.length_cons]
    exact Prod.ext rfl (by dsimp only; omega)

/-- A decimal stands for the double in whose rounding interval its value lies. -/
theorem number_decimal {x : Double} (hx : x.rank.val ≠ 0) {ds fs : List Char} {e : ℤ}
    (h : x.Covers ((Nat.ofDigitChars 10 (ds ++ fs) 0 : ℚ) * (10 : ℚ) ^ (e - fs.length : ℤ))) :
    (decimal x.negative ds fs e).number = .ok (.double x) := by
  unfold number
  dsimp only
  rw [Double.ofDecimal?_eq_of_covers hx h]

end Numeral

/-! ## Layouts -/

/-- Text that is read, after the sign, as a numeral for the number, where the numeral ends. -/
structure Spells (n : Number) (negative : Bool) (body : List Char) : Prop where
  first : ∃ c cs, body = c :: cs ∧ c.isDigit = true
  scan : ∃ m, m.number = .ok n ∧
    ∀ rest, Ends rest → Numeral.scan negative (body ++ rest) = (m, body.length)

theorem exists_first {ds : List Char} (h : WholeDigits ds) (rest : List Char) :
    ∃ c cs, ds ++ rest = c :: cs ∧ c.isDigit = true := by
  cases ds with
  | nil => exact absurd rfl h.ne_nil
  | cons c ds => exact ⟨c, ds ++ rest, rfl, h.digits c (List.mem_cons_self ..)⟩

/-- Digits around a point. -/
theorem Spells.fraction {n : Number} {negative : Bool} {ds fs : List Char} (hds : WholeDigits ds)
    (hfs : fs ≠ []) (hfs' : ∀ c ∈ fs, c.isDigit = true)
    (hn : (Numeral.decimal negative ds fs 0).number = .ok n) :
    Spells n negative (ds ++ '.' :: fs) := by
  refine ⟨exists_first hds _, _, hn, fun rest hrest => ?_⟩
  rw [List.append_assoc, List.cons_append, Numeral.scan_fraction hds hfs hfs' hrest]
  refine Prod.ext rfl ?_
  simp only [List.length_append, List.length_cons]
  omega

theorem isDigit_of_mem_zeros {n : ℕ} : ∀ c ∈ DecimalLayout.zeros n, c.isDigit = true := by
  intro c hc
  rw [List.eq_of_mem_replicate hc]
  rfl

section Layout

variable {x : Double} {c : ℕ} {p : ℤ}

/-- Positional digits have the value of the digits and their exponent. -/
theorem spells_writePositional (hx : x.rank.val ≠ 0) (hc : 0 < c)
    (h : x.Covers ((c : ℚ) * (10 : ℚ) ^ p)) :
    Spells (.double x) x.negative
      (DecimalLayout.writePositional true (Nat.toDigits 10 c) p) := by
  have hdigits := (wholeDigits_toDigits c).digits
  have hvalue : Nat.ofDigitChars 10 (Nat.toDigits 10 c) 0 = c := Nat.ofDigitChars_ten_toDigits
  unfold DecimalLayout.writePositional
  generalize hds : Nat.toDigits 10 c = ds at hdigits hvalue
  have hne : ds ≠ [] := hds ▸ Nat.toDigits_ne_nil
  have hpos : 0 < ds.length := List.length_pos_iff.2 hne
  simp only [if_true]
  split_ifs with hp hwhole
  · -- all digits before the point
    have hzeros := isDigit_of_mem_zeros (n := p.toNat)
    have hwholes : WholeDigits (ds ++ DecimalLayout.zeros p.toNat) :=
      .append hc hne (hds ▸ List.prefix_rfl) hzeros
    refine .fraction hwholes (by simp) (by simp) (Numeral.number_decimal hx ?_)
    convert h using 1
    have hexp : (10 : ℚ) ^ p.toNat = (10 : ℚ) ^ p := by rw [← zpow_natCast, Int.toNat_of_nonneg hp]
    rw [DecimalLayout.zeros, Nat.ofDigitChars_append, Nat.ofDigitChars_append, hvalue,
      Nat.ofDigitChars_replicate_zero]
    simp [Nat.ofDigitChars_cons, hexp]
    ring
  · -- the point inside
    have hsplit : ds.take (ds.length + p : ℤ).toNat ++ ds.drop (ds.length + p : ℤ).toNat = ds :=
      List.take_append_drop ..
    have hwholes : WholeDigits (ds.take (ds.length + p : ℤ).toNat) :=
      .of_start hc (List.ne_nil_of_length_pos (by rw [List.length_take]; omega))
        (hds ▸ List.take_prefix ..)
    refine .fraction hwholes (List.ne_nil_of_length_pos (by rw [List.length_drop]; omega))
      (fun d hd => hdigits d (List.mem_of_mem_drop hd)) (Numeral.number_decimal hx ?_)
    rw [hsplit, hvalue]
    convert h using 3
    rw [List.length_drop]
    omega
  · -- zeros between the point and the digits
    refine @Spells.fraction _ _ ['0'] (DecimalLayout.zeros (-(ds.length + p : ℤ)).toNat ++ ds)
      ⟨by simp, by simp, fun _ => rfl⟩ (by simp [hne]) (fun d hd => ?_) (Numeral.number_decimal hx ?_)
    · rcases List.mem_append.1 hd with hd | hd
      · exact isDigit_of_mem_zeros d hd
      · exact hdigits d hd
    · have hzeros : Nat.ofDigitChars 10
          (['0'] ++ (DecimalLayout.zeros (-(ds.length + p : ℤ)).toNat ++ ds)) 0 = c := by
        rw [DecimalLayout.zeros, Nat.ofDigitChars_append, Nat.ofDigitChars_append,
          Nat.ofDigitChars_replicate_zero]
        simpa [Nat.ofDigitChars_cons] using hvalue
      rw [hzeros]
      convert h using 3
      rw [List.length_append, DecimalLayout.zeros, List.length_replicate]
      omega

/-- One digit before the point, the others behind it, and the exponent that makes up for it. -/
theorem spells_writeScientific (hx : x.rank.val ≠ 0) (hc : 0 < c)
    (h : x.Covers ((c : ℚ) * (10 : ℚ) ^ p)) :
    Spells (.double x) x.negative
      (DecimalLayout.writeScientific (Nat.toDigits 10 c) ((Nat.toDigits 10 c).length + p - 1)) := by
  have hdigits := (wholeDigits_toDigits c).digits
  have hvalue : Nat.ofDigitChars 10 (Nat.toDigits 10 c) 0 = c := Nat.ofDigitChars_ten_toDigits
  unfold DecimalLayout.writeScientific
  generalize hds : Nat.toDigits 10 c = ds at hdigits hvalue
  have hne : ds ≠ [] := hds ▸ Nat.toDigits_ne_nil
  have hwholes : WholeDigits (ds.take 1) := .of_start hc (by simp [hne]) (hds ▸ List.take_prefix ..)
  have hfs : ∀ d ∈ ds.drop 1, d.isDigit = true := fun d hd => hdigits d (List.mem_of_mem_drop hd)
  have hpos : 0 < ds.length := List.length_pos_iff.2 hne
  dsimp only
  rw [List.append_assoc]
  refine ⟨exists_first hwholes _, _, @Numeral.number_decimal x hx (ds.take 1) (ds.drop 1)
    (ds.length + p - 1) ?_, fun rest hrest => ?_⟩
  · rw [List.take_append_drop, hvalue]
    convert h using 3
    rw [List.length_drop]
    omega
  · have hscan := @Numeral.scan_exponent x.negative _ _ _ hwholes hfs (ds.length + p - 1) hrest
    rw [List.append_assoc, List.append_assoc, List.cons_append]
    exact hscan

end Layout

theorem spells_double (x : Double) : ∃ body, Spells (.double x) x.negative body ∧
    (Number.double x).write = if x.negative then '-' :: body else body := by
  rw [Number.write, DecimalLayout.write]
  by_cases hx : x.rank.val = 0
  · rw [Double.shortest_zero hx]
    refine ⟨['0', '.', '0'], @Spells.fraction _ _ ['0'] ['0'] ⟨by simp, by simp, fun _ => rfl⟩
      (by simp) (by simp) ?_, by rfl⟩
    have hzero : Double.zero x.negative = x := by
      cases x
      exact congrArg _ (Fin.ext hx.symm)
    unfold Numeral.number
    dsimp only
    rw [show Nat.ofDigitChars 10 (['0'] ++ ['0']) 0 = 0 from rfl, Double.ofDecimal?_zero, hzero]
  · have hcovers := Double.covers_shortest hx DecimalLayout.json.tie
    generalize x.shortest DecimalLayout.json.tie = cp at hcovers
    obtain ⟨c, p⟩ := cp
    have hc : 0 < c := by
      have hpos := hcovers.pos hx
      rcases Nat.eq_zero_or_pos c with rfl | hc
      · simp at hpos
      · exact hc
    refine ⟨_, ?_, rfl⟩
    split_ifs
    · exact spells_writePositional hx hc hcovers
    · exact spells_writeScientific hx hc hcovers

/-! ## Numbers -/

theorem spells_integer {n : Number} {negative : Bool} {k : ℕ}
    (h : Number.ofInteger? negative k = some n) : Spells n negative (Nat.toDigits 10 k) := by
  have hwholes := wholeDigits_toDigits k
  refine ⟨?_, .integer negative (Nat.toDigits 10 k), ?_, fun rest hrest => ?_⟩
  · simpa using exists_first hwholes []
  · unfold Numeral.number
    dsimp only
    rw [Nat.ofDigitChars_ten_toDigits, h]
  · exact Numeral.scan_integer hwholes hrest

/-- Every number is written as a sign and a text that is read as the number. -/
theorem spells_write (n : Number) : ∃ negative body, Spells n negative body ∧
    n.write = if negative then '-' :: body else body := by
  cases n with
  | natural n =>
    refine ⟨false, _, spells_integer ?_, rfl⟩
    unfold Number.ofInteger?
    rw [if_neg (by simp), if_pos n.toNat_lt, UInt64.ofNat_toNat]
  | negative n =>
    refine ⟨true, _, spells_integer ?_, rfl⟩
    have := n.isLt
    unfold Number.ofInteger?
    rw [if_pos rfl, dif_pos (by omega)]
    rfl
  | double x =>
    obtain ⟨body, hspells, hwrite⟩ := spells_double x
    exact ⟨x.negative, body, hspells, hwrite⟩

theorem ends_nil : Ends [] := fun _ h => nomatch h

/-- A digit starts a numeral and nothing else. -/
theorem scan_digit {c : Char} (hc : c.isDigit = true) (cs : List Char) :
    isBlank c = false ∧ c ≠ '-' ∧
      Token.scan c cs = (Numeral.scan false (c :: cs)).map .numeral id := by
  have hne : ∀ d : Char, d.isDigit = false → c ≠ d := by
    rintro d hd rfl
    rw [hc] at hd
    cases hd
  refine ⟨?_, hne _ (by decide), ?_⟩
  · simp [isBlank, hne]
  · unfold Token.scan
    split
    case h_12 => rw [if_pos hc]
    all_goals exact absurd rfl (hne _ (by decide))

/-- The text of a number is one token, a numeral that stands for the number. -/
theorem Number.scan_write (n : Number) : ∃ c cs, n.write = c :: cs ∧ isBlank c = false ∧
    n.numeral.number = .ok n ∧
    ∀ rest, Ends rest → Token.scan c (cs ++ rest) = (.numeral n.numeral, cs.length + 1) := by
  obtain ⟨negative, body, ⟨⟨c, cs, rfl, hc⟩, m, hm, hscan⟩, hwrite⟩ := spells_write n
  have halone := hscan [] ends_nil
  rw [List.append_nil] at halone
  have hnumeral : n.numeral = (Numeral.scan negative (c :: cs)).1 := by
    unfold Number.numeral
    rw [hwrite]
    cases negative with
    | true => rfl
    | false =>
      simp only [Bool.false_eq_true, if_false]
      split
      · exact absurd (List.cons.inj ‹_›).1 (scan_digit hc []).2.1
      · rfl
  rw [halone] at hnumeral
  subst hnumeral
  cases negative with
  | true =>
    refine ⟨'-', c :: cs, hwrite, rfl, hm, fun rest hrest => ?_⟩
    rw [Token.scan, hscan rest hrest]
    rfl
  | false =>
    obtain ⟨hblank, -⟩ := scan_digit hc []
    refine ⟨c, cs, hwrite, hblank, hm, fun rest hrest => ?_⟩
    obtain ⟨-, -, htoken⟩ := scan_digit hc (cs ++ rest)
    rw [htoken, ← List.cons_append, hscan rest hrest]
    rfl

theorem Number.number_numeral (n : Number) : n.numeral.number = .ok n := by
  obtain ⟨_, _, -, -, hnumber, -⟩ := n.scan_write
  exact hnumber

end Json

end ContractInterface
