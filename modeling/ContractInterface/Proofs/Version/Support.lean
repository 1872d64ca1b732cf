/-
The versions that are supported. The requirement on them names no pre-release, so no pre-release meets
it, not even one of a version that lies in its range; of the releases it is met by those before `1.0.0`
whose minor number is positive. With the texts of versions this says which texts pass the check, and
what every other one is told (`checkVersion_exact`).
-/
import ContractInterface.Document.Loading
import ContractInterface.Proofs.Version.Text

namespace ContractInterface

/-! ## Requirements -/

/-- A requirement that names no pre-release is met by releases alone. -/
theorem Requirement.meets_iff_of_releases {r : Requirement} (h : ∀ c ∈ r.comparators, c.pre = [])
    (v : Version) : r.meets v = true ↔ v.pre = [] ∧ ∀ c ∈ r.comparators, c.meets v = true := by
  have hnone : r.comparators.any (·.admitsPreOf v) = false := by
    rw [List.any_eq_false]
    intro c hc
    simp [Comparator.admitsPreOf, h c hc]
  rw [Requirement.meets, hnone, Bool.or_false, Bool.and_eq_true, List.all_eq_true, List.isEmpty_iff,
    and_comm]

theorem compare_then_of_ne {m n : ℕ} (h : m ≠ n) (o : Ordering) :
    (compare m n).then o = compare m n := by
  have hne : compare m n ≠ .eq := mt Nat.compare_eq_eq.1 h
  cases hcompare : compare m n with
  | eq => exact absurd hcompare hne
  | lt => rfl
  | gt => rfl

namespace Version

/-- How the numbers of a version stand to given ones. -/
def order (v : Version) (major minor patch : ℕ) : Ordering :=
  (compare v.major major).then ((compare v.minor minor).then (compare v.patch patch))

theorem order_eq_lt_iff {v : Version} {major minor patch : ℕ} : v.order major minor patch = .lt ↔
    v.major < major ∨ v.major = major ∧ (v.minor < minor ∨ v.minor = minor ∧ v.patch < patch) := by
  simp only [order, Ordering.then_eq_lt, Nat.compare_eq_lt, Nat.compare_eq_eq]

theorem order_eq_eq_iff {v : Version} {major minor patch : ℕ} : v.order major minor patch = .eq ↔
    v.major = major ∧ v.minor = minor ∧ v.patch = patch := by
  simp only [order, Ordering.then_eq_eq, Nat.compare_eq_eq]

end Version

namespace Comparator

/-- The comparator names a release of its major number, with no part left open. -/
structure NamesRelease (c : Comparator) (minor patch : ℕ) : Prop where
  minor : c.minor = some minor
  patch : c.patch = some patch
  release : c.pre = []

variable {c : Comparator} {minor patch : ℕ} {v : Version}

theorem order?_of_release (h : c.NamesRelease minor patch) (hv : v.pre = []) :
    c.order? v = some (v.order c.major minor patch) := by
  unfold order? Version.order
  rw [h.minor, h.patch, h.release, hv]
  by_cases hmajor : v.major = c.major
  · by_cases hminor : v.minor = minor
    · by_cases hpatch : v.patch = patch
      · simp [hmajor, hminor, hpatch, comparePre]
      · simp [hmajor, hminor, hpatch]
    · simp [hmajor, hminor, compare_then_of_ne hminor]
  · simp [hmajor, compare_then_of_ne hmajor]

theorem meets_less_iff (hless : c.comparison = .less) (h : c.NamesRelease minor patch)
    (hv : v.pre = []) : c.meets v = true ↔ v.order c.major minor patch = .lt := by
  rw [meets, hless]
  simp [meetsLess, order?_of_release h hv]

theorem meetsExact_iff (h : c.NamesRelease minor patch) (hv : v.pre = []) :
    c.meetsExact v = true ↔ v.order c.major minor patch = .eq := by
  rw [Version.order_eq_eq_iff]
  simp [meetsExact, h.minor, h.patch, h.release, hv, comparePre, and_assoc]

theorem meets_greaterEq_iff (hge : c.comparison = .greaterEq) (h : c.NamesRelease minor patch)
    (hv : v.pre = []) : c.meets v = true ↔ v.order c.major minor patch ≠ .lt := by
  rw [meets, hge]
  simp only [Bool.or_eq_true, meetsExact_iff h hv, meetsGreater, order?_of_release h hv]
  cases v.order c.major minor patch <;> decide

end Comparator

/-! ## Support -/

/-- The comparators of the requirement on the versions of documents. -/
def supportedRange : List Comparator :=
  [⟨.greaterEq, 0, some 1, some 0, []⟩, ⟨.less, 1, some 0, some 0, []⟩]

theorem parse_supportedVersions : Requirement.parse supportedVersions = .ok ⟨supportedRange⟩ := rfl

/-- A release before `1.0.0`, from `0.1.0` on. What is said of the build does not matter. -/
structure Version.IsSupported (v : Version) : Prop where
  major : v.major = 0
  minor : 1 ≤ v.minor
  release : v.pre = []

theorem meets_supportedRange_iff (v : Version) :
    Requirement.meets ⟨supportedRange⟩ v = true ↔ v.IsSupported := by
  have hnames : ∀ c ∈ supportedRange, c.pre = [] := by decide
  rw [Requirement.meets_iff_of_releases (r := ⟨supportedRange⟩) hnames]
  have hmeets (hv : v.pre = []) : (∀ c ∈ supportedRange, c.meets v = true) ↔
      v.order 0 1 0 ≠ .lt ∧ v.order 1 0 0 = .lt := by
    have hfirst := Comparator.meets_greaterEq_iff (c := ⟨.greaterEq, 0, some 1, some 0, []⟩) rfl
      ⟨rfl, rfl, rfl⟩ hv
    have hlast := Comparator.meets_less_iff (c := ⟨.less, 1, some 0, some 0, []⟩) rfl
      ⟨rfl, rfl, rfl⟩ hv
    rw [supportedRange, List.forall_mem_cons, List.forall_mem_singleton, hfirst, hlast]
  constructor
  · rintro ⟨hv, hall⟩
    have hrange := (hmeets hv).1 hall
    rw [ne_eq, Version.order_eq_lt_iff, Version.order_eq_lt_iff] at hrange
    exact ⟨by omega, by omega, hv⟩
  · rintro ⟨hmajor, hminor, hv⟩
    refine ⟨hv, (hmeets hv).2 ?_⟩
    rw [ne_eq, Version.order_eq_lt_iff, Version.order_eq_lt_iff]
    omega

theorem checkVersion_of_parse {text : String} {v : Version} (h : Version.parse text = .ok v) :
    checkVersion text =
      if Requirement.meets ⟨supportedRange⟩ v then .ok () else .error (.unmet v supportedVersions) := by
  unfold checkVersion checkVersionAgainst
  rw [parse_supportedVersions, h]
  rfl

theorem checkVersion_of_parse_error {text : String} {cause : VersionError}
    (h : Version.parse text = .error cause) :
    checkVersion text = .error (.badVersion text cause) := by
  unfold checkVersion checkVersionAgainst
  rw [parse_supportedVersions, h]
  rfl

/-- The check is passed by the texts of supported versions and by no other text. Of every other text it
is told whether it is that of a version, and a document with such a text is refused for it. -/
theorem checkVersion_exact (text : String) :
    (checkVersion text = .ok () ↔ ∃ v, VersionSpells text v ∧ v.IsSupported) ∧
      (∀ v, VersionSpells text v → ¬ v.IsSupported →
        checkVersion text = .error (.unmet v supportedVersions)) ∧
      ((∀ v, ¬ VersionSpells text v) → ∃ cause, checkVersion text = .error (.badVersion text cause)) ∧
      ∀ d : Document, d.schemaVersion = text → ∀ cause, checkVersion text = .error cause →
        d.check = .error (.version cause) := by
  have hspelled : ∀ v, VersionSpells text v → checkVersion text =
      if Requirement.meets ⟨supportedRange⟩ v then .ok () else .error (.unmet v supportedVersions) :=
    fun v hv => checkVersion_of_parse (Version.parse_eq_ok_iff.2 hv)
  have hother : (∀ v, ¬ VersionSpells text v) →
      ∃ cause, checkVersion text = .error (.badVersion text cause) := by
    intro hnone
    cases hparse : Version.parse text with
    | ok v => exact absurd (Version.parse_eq_ok_iff.1 hparse) (hnone v)
    | error cause => exact ⟨cause, checkVersion_of_parse_error hparse⟩
  refine ⟨⟨fun h => ?_, ?_⟩, fun v hv hsupported => ?_, hother, ?_⟩
  · by_cases hsome : ∃ v, VersionSpells text v
    · obtain ⟨v, hv⟩ := hsome
      rw [hspelled v hv] at h
      split at h
      · exact ⟨v, hv, (meets_supportedRange_iff v).1 ‹_›⟩
      · cases h
    · obtain ⟨cause, hcause⟩ := hother (not_exists.1 hsome)
      cases h.symm.trans hcause
  · rintro ⟨v, hv, hsupported⟩
    rw [hspelled v hv, if_pos ((meets_supportedRange_iff v).2 hsupported)]
  · rw [hspelled v hv, if_neg (mt (meets_supportedRange_iff v).1 hsupported)]
  · rintro d rfl cause hcause
    unfold Document.check
    rw [hcause]
    rfl

example : checkVersion "1.0.0-alpha" =
    .error (.unmet ⟨1, 0, 0, [.word "alpha"], []⟩ supportedVersions) :=
  rfl

end ContractInterface
