import Mathlib.Algebra.Order.Ring.Rat
import Mathlib.Data.Rat.Floor
import Mathlib.Tactic.Linarith
import SynthBridge.Sound.Amplitude

/-!
# Reckoning with exact values

What the operations of `Amplitude` come to on `Extended`. On rational numbers they are those of the
rationals; `Extended.AtMost` is the order of all values that are numbers, the infinities included,
and the larger of a number and of anything else is never below that number. A rational within the
range of a sample is rounded to the nearest integer and not clamped (`Extended.toInt_toSample`).
-/

namespace SynthBridge

open Amplitude

namespace Extended

/-! ## Rational numbers -/

section Finite

variable (p q : Rat)

@[simp] theorem finite_add : (.finite p + .finite q : Extended) = .finite (p + q) := rfl

@[simp] theorem finite_mul : (.finite p * .finite q : Extended) = .finite (p * q) := rfl

@[simp] theorem finite_sub : (.finite p - .finite q : Extended) = .finite (p - q) := by
  change Extended.finite (p + -q) = _
  rw [sub_eq_add_neg]

theorem finite_div {q : Rat} (h : q ≠ 0) : (.finite p / .finite q : Extended) = .finite (p / q) :=
  if_neg h

theorem magnitude_finite : magnitude (.finite q : Extended) = .finite |q| := by
  change Extended.finite (if 0 ≤ q then q else -q) = _
  split
  · rw [abs_of_nonneg ‹_›]
  · rw [abs_of_neg (lt_of_not_ge ‹_›)]

@[simp] theorem lt_finite :
    Amplitude.lt (.finite p : Extended) (.finite q) = decide (p < q) := rfl

@[simp] theorem larger_finite :
    larger (.finite p : Extended) (.finite q) = .finite (max p q) := by
  change (if decide (p < q) = true then Extended.finite q else .finite p) = _
  rw [max_def_lt]
  split <;> simp_all

theorem zero_eq : (zero : Extended) = .finite 0 := rfl

theorem unity_eq : (unity : Extended) = .finite 1 := rfl

theorem fullScale_eq : (fullScale : Extended) = .finite 32767 := rfl

theorem release_eq : (release : Extended) = .finite (1 / 10) := rfl

theorem threshold_eq : (threshold : Extended) = .finite (1 / 8388608) := rfl

end Finite

/-! ## Order -/

/-- Two numbers, of which the first is not the larger one. -/
def AtMost (x y : Extended) : Prop :=
  x.isNaN = false ∧ y.isNaN = false ∧ y.lt x = false

section AtMost

variable {x y z : Extended} {p q : Rat}

theorem atMost_finite : (finite p).AtMost (finite q) ↔ p ≤ q := by
  simp [AtMost, isNaN, Extended.lt]

theorem nan_or_atMost_self (x : Extended) : x = .nan ∨ x.AtMost x := by
  cases x with
  | nan => exact .inl rfl
  | infinite s => cases s <;> exact .inr ⟨rfl, rfl, rfl⟩
  | finite q => exact .inr (atMost_finite.2 le_rfl)

theorem AtMost.refl (number : x.isNaN = false) : x.AtMost x := by
  rcases nan_or_atMost_self x with rfl | le
  · cases number
  · exact le

theorem AtMost.trans (h : x.AtMost y) (h' : y.AtMost z) : x.AtMost z := by
  obtain ⟨hx, hy, hyx⟩ := h
  obtain ⟨-, hz, hzy⟩ := h'
  refine ⟨hx, hz, ?_⟩
  cases x <;> cases y <;> cases z <;> simp_all [Extended.lt, isNaN]
  linarith

theorem AtMost.lt_trans (below : z.lt x = true) (h : x.AtMost y) : z.lt y = true := by
  obtain ⟨-, hy, hyx⟩ := h
  cases x <;> cases y <;> cases z <;> simp_all [Extended.lt, isNaN]
  linarith

/-- The larger of two values is one of them: the one that is a number, or that is no smaller. -/
theorem larger_cases (x y : Extended) :
    larger x y = y ∧ (x = .nan ∨ x.AtMost y) ∨ larger x y = x ∧ (y = .nan ∨ y.AtMost x) := by
  unfold larger
  split
  · rename_i none
    refine .inl ⟨rfl, .inl ?_⟩
    cases x <;> first | rfl | cases none
  · rename_i some
    split
    · rename_i none
      refine .inr ⟨rfl, .inl ?_⟩
      cases y <;> first | rfl | cases none
    · rename_i some'
      have number : x.isNaN = false := Bool.eq_false_iff.2 some
      have number' : y.isNaN = false := Bool.eq_false_iff.2 some'
      split
      · rename_i below
        refine .inl ⟨rfl, .inr ⟨number, number', ?_⟩⟩
        change x.lt y = true at below
        cases x <;> cases y <;> simp_all [Extended.lt]
        linarith
      · rename_i above
        exact .inr ⟨rfl, .inr ⟨number', number, Bool.eq_false_iff.2 above⟩⟩

theorem atMost_larger_left (x y : Extended) : x = .nan ∨ x.AtMost (larger x y) := by
  rcases larger_cases x y with ⟨same, h⟩ | ⟨same, -⟩
  · rwa [same]
  · rw [same]
    exact nan_or_atMost_self x

theorem atMost_larger_right (x y : Extended) : y = .nan ∨ y.AtMost (larger x y) := by
  rcases larger_cases x y with ⟨same, -⟩ | ⟨same, h⟩
  · rw [same]
    exact nan_or_atMost_self y
  · rwa [same]

/-- The larger of a number and of anything is no smaller than that number. -/
theorem AtMost.larger (h : x.AtMost y) (z : Extended) : x.AtMost (larger y z) := by
  rcases atMost_larger_left y z with rfl | le
  · cases h.2.1
  · exact h.trans le

/-- Nothing is comparable to what is no number. -/
theorem lt_nan (x : Extended) : x.lt .nan = false := by
  cases x <;> rfl

/-- The larger of two values is above whatever one of them is above. -/
theorem lt_larger (x y z : Extended) :
    Amplitude.lt z (Amplitude.larger x y) = (Amplitude.lt z x || Amplitude.lt z y) := by
  change z.lt (Amplitude.larger x y) = (z.lt x || z.lt y)
  have absorbed {x y : Extended} (h : x = .nan ∨ x.AtMost y) : (z.lt x || z.lt y) = z.lt y := by
    rcases h with rfl | le
    · rw [lt_nan, Bool.false_or]
    · rw [Bool.or_eq_right_iff_imp]
      exact fun below => le.lt_trans below
  rcases larger_cases x y with ⟨same, h⟩ | ⟨same, h⟩
  · rw [same, absorbed h]
  · rw [same, Bool.or_comm, absorbed h]

theorem larger_eq_infinite_iff :
    Amplitude.larger x y = .infinite false ↔ x = .infinite false ∨ y = .infinite false := by
  have top {x : Extended} (h : (infinite false).AtMost x) : x = .infinite false := by
    obtain ⟨-, number, above⟩ := h
    cases x <;> simp_all [Extended.lt, isNaN]
  rcases larger_cases x y with ⟨same, h⟩ | ⟨same, h⟩
  · rw [same, or_iff_right_of_imp]
    rintro rfl
    exact top (h.resolve_left (by rintro ⟨⟩))
  · rw [same, or_iff_left_of_imp]
    rintro rfl
    exact top (h.resolve_left (by rintro ⟨⟩))

/-- A number that is not negative is rational, or infinite. -/
theorem AtMost.finite_or_infinite (h : (zero : Extended).AtMost x) :
    (∃ q, x = .finite q ∧ 0 ≤ q) ∨ x = .infinite false := by
  obtain ⟨-, number, above⟩ := h
  cases x with
  | nan => cases number
  | infinite negative =>
    cases negative with
    | false => exact .inr rfl
    | true => cases above
  | finite q =>
    refine .inl ⟨q, rfl, ?_⟩
    rw [zero_eq] at above
    simpa [Extended.lt] using above

end AtMost

/-! ## Rounding -/

/-- An integer nearest to a number; of two that are as near it is the one farther from zero. -/
def Nearest (q : Rat) (n : Int) : Prop :=
  |q - n| ≤ 1 / 2 ∧ (|q - n| = 1 / 2 → |q| < |(n : Rat)|)

section Nearest

variable {p q : Rat} {n m : Int}

theorem Nearest.neg (h : Nearest q n) : Nearest (-q) (-n) := by
  have same : |-q - ((-n : Int) : Rat)| = |q - n| := by
    rw [Int.cast_neg, ← neg_sub', abs_neg]
  refine ⟨same ▸ h.1, fun tie => ?_⟩
  rw [Int.cast_neg, abs_neg, abs_neg]
  exact h.2 (same ▸ tie)

theorem nearest_floor (h : 0 ≤ q) : Nearest q ⌊q + 1 / 2⌋ := by
  have low := Int.floor_le (q + 1 / 2)
  have high := Int.lt_floor_add_one (q + 1 / 2)
  refine ⟨abs_le.2 ⟨by linarith, by linarith⟩, fun tie => ?_⟩
  rcases (abs_eq (by norm_num)).1 tie with below | above
  · exact absurd below (by linarith)
  · rw [abs_of_nonneg h, abs_of_nonneg (by linarith)]
    linarith

theorem roundHalfAway_eq (q : Rat) :
    roundHalfAway q = if q < 0 then -⌊-q + 1 / 2⌋ else ⌊q + 1 / 2⌋ := rfl

theorem nearest_roundHalfAway (q : Rat) : Nearest q (roundHalfAway q) := by
  rw [roundHalfAway_eq]
  split
  · rename_i negative
    simpa using (nearest_floor (q := -q) (by linarith)).neg
  · exact nearest_floor (by linarith)

/-- Rounding does not depend on the sign. -/
theorem abs_roundHalfAway (q : Rat) : |roundHalfAway q| = ⌊|q| + 1 / 2⌋ := by
  rw [roundHalfAway_eq]
  split
  · rename_i negative
    rw [abs_neg, abs_of_neg negative]
    exact abs_of_nonneg (Int.floor_nonneg.2 (by linarith))
  · rename_i positive
    rw [abs_of_nonneg (not_lt.1 positive)]
    exact abs_of_nonneg (Int.floor_nonneg.2 (by linarith))

theorem abs_roundHalfAway_mono (h : |p| ≤ |q|) : |roundHalfAway p| ≤ |roundHalfAway q| := by
  rw [abs_roundHalfAway, abs_roundHalfAway]
  exact Int.floor_mono (by linarith)

theorem abs_roundHalfAway_of_abs_eq {n : Nat} (h : |q| = n) : |roundHalfAway q| = n := by
  rw [abs_roundHalfAway, h, Int.floor_eq_iff]
  push_cast
  exact ⟨by linarith, by linarith⟩

theorem abs_roundHalfAway_le {n : Nat} (h : |q| ≤ n) : |roundHalfAway q| ≤ n := by
  have whole : |(n : Rat)| = n := abs_of_nonneg (Nat.cast_nonneg n)
  rw [← abs_roundHalfAway_of_abs_eq whole]
  exact abs_roundHalfAway_mono (h.trans_eq whole.symm)

/-- What lies within the range of playback is rounded and not clamped. -/
theorem toInt_toSample (h : |q| ≤ 32767) :
    (Amplitude.toSample (.finite q : Extended)).toInt = roundHalfAway q := by
  have bound := abs_le.1 (abs_roundHalfAway_le (n := 32767) (by exact_mod_cast h))
  have inside : max (-32768) (min 32767 (roundHalfAway q)) = roundHalfAway q := by omega
  change (Int16.ofInt (max (-32768) (min 32767 (roundHalfAway q)))).toInt = _
  rw [inside]
  exact Int16.toInt_ofInt_of_le (by omega) (by omega)

end Nearest

/-- A sample of 16 bits stands for its share of the unit range. -/
theorem ofSample_eq (x : Int16) : (ofSample x : Extended) = .finite (x.toInt / 32768) := by
  have count : (ofCount x.toInt.natAbs : Extended) = .finite (|x.toInt| : Int) :=
    congrArg Extended.finite (Nat.cast_natAbs x.toInt)
  have signed : (if x.toInt < 0 then zero - ofCount x.toInt.natAbs else ofCount x.toInt.natAbs :
      Extended) = .finite x.toInt := by
    rw [count]
    split
    · rename_i negative
      rw [zero_eq, finite_sub, zero_sub, abs_of_neg negative, Int.cast_neg, neg_neg]
    · rename_i positive
      rw [abs_of_nonneg (not_lt.1 positive)]
  unfold ofSample
  simp only [signed]
  exact finite_div _ (q := 32768) (by norm_num)

end Extended

end SynthBridge
