import HostProbe.Version.Basic
import Mathlib.Tactic.Common

/-! Versions are ordered by their numbers and prereleases, whatever the texts of these are. Identifiers
fall in two classes, within each of which and between which they are compared in one way, so that the
comparison is one of a total preorder at each level: identifiers, lists of them, prereleases and
versions. -/

namespace HostProbe.Version

open Std HostProbe.Decimal

lemma compareIdentifier_swap (a b : List Char) :
    compareIdentifier a b = (compareIdentifier b a).swap := by
  cases ha : readUInt64? a <;> cases hb : readUInt64? b <;> simp only [compareIdentifier, ha, hb]
  · exact OrientedOrd.eq_swap
  · rfl
  · rfl
  · exact OrientedOrd.eq_swap

instance : TransCmp compareIdentifier where
  eq_swap := compareIdentifier_swap _ _
  isLE_trans {a b c} hab hbc := by
    -- A number stands below all that is none, so the classes of `a`, `b` and `c` can only ascend.
    cases ha : readUInt64? a <;> cases hb : readUInt64? b <;> cases hc : readUInt64? c <;>
      simp only [compareIdentifier, ha, hb, hc] at hab hbc ⊢
    case none.none.none => exact TransOrd.isLE_trans hab hbc
    case some.some.some => exact TransOrd.isLE_trans hab hbc
    all_goals first | rfl | contradiction

lemma comparePrerelease_swap (p q : Option String) :
    comparePrerelease p q = (comparePrerelease q p).swap := by
  cases p <;> cases q
  · rfl
  · rfl
  · rfl
  · have h : OrientedCmp (List.compareLex compareIdentifier) := inferInstance
    exact h.eq_swap

instance : TransCmp comparePrerelease where
  eq_swap := comparePrerelease_swap _ _
  isLE_trans {p q r} hpq hqr := by
    cases p <;> cases q <;> cases r
    case some.some.some =>
      have h : TransCmp (List.compareLex compareIdentifier) := inferInstance
      exact h.isLE_trans hpq hqr
    all_goals first | rfl | contradiction

instance : TransCmp Version.compare :=
  have h : TransCmp comparePrerelease := inferInstance
  have : TransCmp fun v w : Version => comparePrerelease v.prerelease w.prerelease :=
    { eq_swap := comparePrerelease_swap _ _
      isLE_trans := h.isLE_trans }
  inferInstanceAs (TransCmp (compareLex (compareOn Version.major) (compareLex (compareOn Version.minor)
    (compareLex (compareOn Version.patch) fun v w => comparePrerelease v.prerelease w.prerelease))))

lemma same_iff {v w : Version} : v.same w = true ↔ v.compare w = .eq := beq_iff_eq

lemma equivalence_same : Equivalence fun v w : Version => v.same w = true where
  refl _ := same_iff.mpr ReflCmp.compare_self
  symm h := same_iff.mpr (OrientedCmp.eq_symm (same_iff.mp h))
  trans h h' := same_iff.mpr (TransCmp.eq_trans (same_iff.mp h) (same_iff.mp h'))

section Compare

variable {u v w : Version}

lemma compare_of_ne_gt (huv : u.compare v ≠ .gt) (hvw : v.compare w ≠ .gt) :
    u.compare w = (u.compare v).then (v.compare w) := by
  cases h : u.compare v with
  | lt => exact TransCmp.lt_of_lt_of_isLE h (Ordering.isLE_iff_ne_gt.mpr hvw)
  | eq => exact TransCmp.congr_left h
  | gt => exact absurd h huv

lemma compare_of_ne_lt (huv : u.compare v ≠ .lt) (hvw : v.compare w ≠ .lt) :
    u.compare w = (u.compare v).then (v.compare w) := by
  cases h : u.compare v with
  | lt => exact absurd h huv
  | eq => exact TransCmp.congr_left h
  | gt => exact TransCmp.gt_of_gt_of_isGE h (Ordering.isGE_iff_ne_lt.mpr hvw)

end Compare

/-- Versions with any texts for a prerelease are in a total preorder: the other order gives the reversed
answer, and two answers of which neither goes against the other give the third one. Versions are the
same where the comparison tells no difference, and build metadata makes none. -/
theorem compare_totalPreorder_without_build :
    (∀ u v : Version, v.compare u = (u.compare v).swap) ∧
    (∀ u v w : Version, u.compare v ≠ .gt → v.compare w ≠ .gt →
      u.compare w = (u.compare v).then (v.compare w)) ∧
    (∀ u v w : Version, u.compare v ≠ .lt → v.compare w ≠ .lt →
      u.compare w = (u.compare v).then (v.compare w)) ∧
    (∀ u v : Version, u.same v = true ↔ u.compare v = .eq) ∧
    Equivalence (fun u v : Version => u.same v = true) ∧
    ∀ (u v : Version) (b c : Option String),
      Version.compare { u with build := b } { v with build := c } = u.compare v ∧
        Version.same { u with build := b } { v with build := c } = u.same v :=
  ⟨fun _ _ => OrientedCmp.eq_swap, fun _ _ _ => compare_of_ne_gt, fun _ _ _ => compare_of_ne_lt,
    fun _ _ => same_iff, equivalence_same, fun _ _ _ _ => ⟨rfl, rfl⟩⟩

end HostProbe.Version
