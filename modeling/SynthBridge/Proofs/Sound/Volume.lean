import SynthBridge.Proofs.Sound.Extended
import SynthBridge.Sound.Limiter

/-!
# A volume in exact arithmetic

Volumes may be anything: negative, infinite, or no number. `Volume.split` makes of two of them a
gain that is rational and divides both by it (`Volume.split_audible`), or it silences both
(`Volume.split_silent`). The limiter takes from a side its share of the gain, which is nothing for a
side that is negative, infinite or no number (`Volume.share`).
-/

namespace SynthBridge

open Amplitude Extended

/-- Exact arithmetic but for division. -/
abbrev Extended.dividing (divide : Extended → Extended → Extended) : Amplitude Extended :=
  { (inferInstance : Amplitude Extended) with div := divide }

namespace Volume

variable {left right side : Extended} {gain : Rat}

/-! ## The gain -/

/-- The larger of two volumes is the gain where it is rational and can be heard. -/
def Audible (left right : Extended) (gain : Rat) : Prop :=
  larger left right = .finite gain ∧ 1 / 8388608 < gain

theorem Audible.pos (h : Audible left right gain) : 0 < gain := lt_trans (by norm_num) h.2

/-- Neither volume can be heard, or one is infinitely large. -/
def Silent (left right : Extended) : Prop :=
  Amplitude.lt threshold left = false ∧ Amplitude.lt threshold right = false ∨
    left = .infinite false ∨ right = .infinite false

/-- Whatever division is, audible volumes are divided by their gain and by nothing else. -/
theorem split_audible (divide : Extended → Extended → Extended) (h : Audible left right gain) :
    @split Extended (dividing divide) left right =
      ⟨.finite gain, divide left (.finite gain), divide right (.finite gain)⟩ := by
  have loud : (Amplitude.isFinite (larger left right) &&
      Amplitude.lt threshold (larger left right)) = true := by
    rw [h.1, threshold_eq, lt_finite, decide_eq_true h.2]
    rfl
  change (if _ then (⟨larger left right, divide left (larger left right),
    divide right (larger left right)⟩ : Volume Extended) else _) = _
  exact (if_pos loud).trans (by rw [h.1])

theorem split_silent (divide : Extended → Extended → Extended) (h : Silent left right) :
    @split Extended (dividing divide) left right = ⟨.finite 0, .finite 0, .finite 0⟩ := by
  have quiet : (Amplitude.isFinite (larger left right) &&
      Amplitude.lt threshold (larger left right)) = false := by
    rcases h with ⟨left, right⟩ | infinite
    · rw [lt_larger, left, right]
      exact Bool.and_false _
    · rw [larger_eq_infinite_iff.2 infinite]
      rfl
  unfold split
  exact if_neg (Bool.eq_false_iff.1 quiet)

/-- Two volumes have a gain, or they are silenced. -/
theorem audible_or_silent (left right : Extended) :
    (∃ gain, Audible left right gain) ∨ Silent left right := by
  cases loud : Amplitude.lt threshold (larger left right) with
  | false =>
    rw [lt_larger, Bool.or_eq_false_iff] at loud
    exact .inr (.inl loud)
  | true =>
    cases louder : larger left right with
    | nan =>
      rw [louder] at loud
      cases loud
    | infinite negative =>
      cases negative with
      | true =>
        rw [louder] at loud
        cases loud
      | false => exact .inr (.inr (larger_eq_infinite_iff.1 louder))
    | finite gain =>
      rw [louder] at loud
      exact .inl ⟨gain, louder, by simpa [threshold_eq] using loud⟩

theorem not_silent_of_audible (h : Audible left right gain) : ¬Silent left right := by
  rintro (⟨quiet, quiet'⟩ | infinite)
  · have loud := lt_larger left right threshold
    rw [h.1, quiet, quiet', threshold_eq, lt_finite, decide_eq_true h.2] at loud
    cases loud
  · rw [Audible, larger_eq_infinite_iff.2 infinite] at h
    cases h.1

/-! ## Levels -/

/-- The part of the gain that a side asks for. -/
def share (gain : Rat) : Extended → Rat
  | .finite q => max q 0 / gain
  | _ => 0

theorem share_nonneg (pos : 0 < gain) (side : Extended) : 0 ≤ share gain side := by
  cases side with
  | finite q => exact div_nonneg (le_max_right q 0) pos.le
  | _ => exact le_rfl

theorem share_le_one (pos : 0 < gain) (below : side = .nan ∨ side.AtMost (.finite gain)) :
    share gain side ≤ 1 := by
  cases side with
  | finite q =>
    have le := atMost_finite.1 (below.resolve_left (by rintro ⟨⟩))
    exact (div_le_one pos).2 (max_le le pos.le)
  | _ => exact zero_le_one

theorem channelRange_finite (q : Rat) :
    Limiter.channelRange fullScale (finite q) = .finite (max q 0 * 32767) := by
  change larger (finite q) zero * fullScale = _
  rw [zero_eq, larger_finite, fullScale_eq, finite_mul]

/-- **The limiter takes a side at its share**: what is divided by the gain to something negative,
infinite or to no number is silent. -/
theorem channelRange_div (pos : 0 < gain) (side : Extended) :
    Limiter.channelRange fullScale (side / .finite gain) =
      .finite (share gain side * 32767) := by
  cases side with
  | nan =>
    change (zero : Extended) = .finite (0 * 32767)
    rw [zero_eq, zero_mul]
  | infinite negative =>
    change (zero : Extended) = .finite (0 * 32767)
    rw [zero_eq, zero_mul]
  | finite q =>
    rw [finite_div q pos.ne', channelRange_finite, share, ← max_div_div_right pos.le, zero_div]

end Volume

end SynthBridge
