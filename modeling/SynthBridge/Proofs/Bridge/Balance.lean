import SynthBridge.Bridge.Sequential
import SynthBridge.Proofs.Bridge.Volumes
import SynthBridge.Proofs.Sound.Volume

/-!
# The balance of the two sides

A level change gives the engine a gain and the limiter two levels (`Bridge.setLevel_eq`). Whatever
the two volumes are, in exact arithmetic the gain is a rational number and the levels lie between
silence and unity; the louder side is at unity, and gain and level together make of each side the
volume that was asked for: `Bridge.volume_balanced`.
-/

namespace SynthBridge

open Amplitude Extended

namespace Volume

variable {left right side : Extended} {gain : Rat}

/-! ## One side -/

/-- What a side gets: a level between silence and unity, and with the gain the volume that was asked
for, if that is a number; silence, if it is negative or none. -/
structure Fair (gain level : Rat) (side : Extended) : Prop where
  nonneg : 0 ≤ level
  le_one : level ≤ 1
  product : gain ≠ 0 → ∀ q, side = .finite q → q ≤ gain ∧ gain * level = max q 0
  unity : gain ≠ 0 → side = .finite gain → level = 1
  silent : gain = 0 ∨ side = .nan ∨ side = .infinite true → level = 0

theorem fair_share (pos : 0 < gain) (below : side = .nan ∨ side.AtMost (.finite gain)) :
    Fair gain (share gain side) side where
  nonneg := share_nonneg pos side
  le_one := share_le_one pos below
  product _ q is := by
    subst is
    refine ⟨atMost_finite.1 (below.resolve_left (by rintro ⟨⟩)), ?_⟩
    rw [share, mul_div_cancel₀ _ pos.ne']
  unity _ is := by
    subst is
    rw [share, max_eq_left pos.le, div_self pos.ne']
  silent none := by
    rcases none with zero | rfl | rfl
    · exact absurd zero pos.ne'
    · rfl
    · rfl

/-- Without a gain there is silence. -/
theorem fair_zero (side : Extended) : Fair 0 0 side :=
  ⟨le_rfl, zero_le_one, fun gain => absurd rfl gain, fun gain => absurd rfl gain, fun _ => rfl⟩

end Volume

namespace Limiter

/-- The levels of a limiter at whose ranges full scale is multiplied. -/
theorem levels_setLevels (l : Limiter Extended) {levels : Stereo Extended} {left right : Rat}
    (hl : channelRange fullScale levels.left = .finite (left * 32767))
    (hr : channelRange fullScale levels.right = .finite (right * 32767)) :
    (l.setLevels levels fullScale).levels = ⟨.finite left, .finite right⟩ := by
  have read (q : Rat) : (.finite (q * 32767) / fullScale : Extended) = .finite q := by
    rw [fullScale_eq, finite_div _ (by norm_num), mul_div_cancel_right₀ _ (by norm_num)]
  unfold Limiter.levels setLevels
  rw [hl, hr, read, read]

end Limiter

namespace Bridge

/-! ## A level change -/

/-- A level change sends its gain to the engine, if there is one, and its levels to the limiter. -/
theorem setLevel_eq {α σ : Type} [Amplitude α] (E : Engine α σ) (b : Bridge α σ) (left right : α) :
    (b.setLevel E left right).calls = b.calls ++
        b.engine.toList.map (fun i => (i.number, .gain (Volume.split left right).gain)) ∧
      (b.setLevel E left right).limiter =
        b.limiter.setLevels (Volume.split left right).levels fullScale := by
  obtain ⟨halfDone, limiter⟩ := halfDone_setGain E b left right
  have calls : (b.setGain E left right).calls = b.calls ++
      b.engine.toList.map (fun i => (i.number, .gain (Volume.split left right).gain)) := by
    unfold setGain
    cases b.engine with
    | none => exact (List.append_nil _).symm
    | some i => rfl
  have last : (b.setGain E left right).halfDone[(b.setGain E left right).halfDone.length - 1]? =
      some (Volume.split left right).levels := by
    simp [halfDone]
  unfold setLevel setLevels
  simp only [last, Option.map_some, Option.getD_some]
  exact ⟨calls, by rw [limiter]⟩

section Balance

variable {σ : Type} {divide : Extended → Extended → Extended}

/-- A division that agrees with the exact one by every rational number but zero. -/
def Divides (divide : Extended → Extended → Extended) : Prop :=
  ∀ x q, q ≠ 0 → divide x (.finite q) = x / .finite q

/-- A level change divides by its gain alone, which is not zero. -/
theorem split_dividing (h : Divides divide) (left right : Extended) :
    @Volume.split Extended (dividing divide) left right = Volume.split left right := by
  rcases Volume.audible_or_silent left right with ⟨gain, audible⟩ | silent
  · rw [Volume.split_audible divide audible, h left gain audible.pos.ne',
      h right gain audible.pos.ne']
    exact (Volume.split_audible (· / ·) audible).symm
  · rw [Volume.split_silent divide silent]
    exact (Volume.split_silent (· / ·) silent).symm

theorem setLevel_dividing (h : Divides divide) (E : Engine Extended σ) (b : Bridge Extended σ)
    (left right : Extended) :
    @setLevel Extended σ (dividing divide) E b left right = b.setLevel E left right := by
  unfold setLevel setGain
  rw [split_dividing h]
  rfl

theorem levels_dividing (h : Divides divide) (l : Limiter Extended) :
    @Limiter.levels Extended (dividing divide) l = l.levels := by
  have full (x : Extended) : divide x fullScale = x / fullScale := h x 32767 (by norm_num)
  change (⟨divide l.range.left fullScale, divide l.range.right fullScale⟩ : Stereo Extended) = _
  rw [full, full]
  rfl

/-- **The two sides are balanced.** Whatever volumes are asked for, the engine is sent a gain that
is rational and not negative, and the limiter is left at rational levels that are fair to both
sides. Unless there is no gain, it is the volume of one of the sides, the louder one; there is none
where neither side can be heard or one is infinitely large. On the way nothing is divided by zero or
by what is no rational number, for it makes no difference what such a quotient would be. -/
theorem volume_balanced (E : Engine Extended σ) (b : Bridge Extended σ) (left right : Extended) :
    ∃ (gain : Rat) (level : Stereo Rat),
      (b.setLevel E left right).calls =
          b.calls ++ b.engine.toList.map (fun i => (i.number, .gain (.finite gain))) ∧
      (b.setLevel E left right).limiter.levels = ⟨.finite level.left, .finite level.right⟩ ∧
      0 ≤ gain ∧ Volume.Fair gain level.left left ∧ Volume.Fair gain level.right right ∧
      (gain ≠ 0 → left = .finite gain ∨ right = .finite gain) ∧
      (gain = 0 ↔ Volume.Silent left right) ∧
      ∀ divide, Divides divide →
        @setLevel Extended σ (dividing divide) E b left right = b.setLevel E left right ∧
        @Limiter.levels Extended (dividing divide) (b.setLevel E left right).limiter =
          (b.setLevel E left right).limiter.levels := by
  obtain ⟨calls, limiter⟩ := setLevel_eq E b left right
  have undivided : ∀ divide, Divides divide →
      @setLevel Extended σ (dividing divide) E b left right = b.setLevel E left right ∧
      @Limiter.levels Extended (dividing divide) (b.setLevel E left right).limiter =
        (b.setLevel E left right).limiter.levels :=
    fun divide h => ⟨setLevel_dividing h E b left right, levels_dividing h _⟩
  rcases Volume.audible_or_silent left right with ⟨gain, audible⟩ | silent
  · have pos := audible.pos
    have split : Volume.split left right = _ := Volume.split_audible (· / ·) audible
    refine ⟨gain, ⟨Volume.share gain left, Volume.share gain right⟩, ?_, ?_, pos.le, ?_, ?_, ?_, ?_,
      undivided⟩
    · rw [calls, split]
    · rw [limiter, split]
      exact Limiter.levels_setLevels _ (Volume.channelRange_div pos left)
        (Volume.channelRange_div pos right)
    · refine Volume.fair_share pos ?_
      rw [← audible.1]
      exact atMost_larger_left left right
    · refine Volume.fair_share pos ?_
      rw [← audible.1]
      exact atMost_larger_right left right
    · rintro -
      rcases larger_cases left right with ⟨same, -⟩ | ⟨same, -⟩
      · exact .inr (same.symm.trans audible.1)
      · exact .inl (same.symm.trans audible.1)
    · exact iff_of_false pos.ne' (Volume.not_silent_of_audible audible)
  · have split : Volume.split left right = _ := Volume.split_silent (· / ·) silent
    refine ⟨0, ⟨0, 0⟩, ?_, ?_, le_rfl, Volume.fair_zero left, Volume.fair_zero right,
      fun gain => absurd rfl gain, iff_of_true rfl silent, undivided⟩
    · rw [calls, split]
    · rw [limiter, split]
      have none : Limiter.channelRange fullScale (finite 0) = .finite (0 * 32767) := by
        rw [Volume.channelRange_finite, max_self]
      exact Limiter.levels_setLevels _ none none

/-- One side is no number: the other one is at unity, also where there are no quotients but by
rational numbers. -/
theorem volume_balanced_one_sided :
    let b : Bridge Extended (Scripted.State Extended) := Bridge.new pocketSetup pocketCatalog
    let divide : Extended → Extended → Extended := fun x y =>
      if y.isFinite = true ∧ y ≠ .finite 0 then x / y else .nan
    Divides divide ∧
      (@setLevel _ _ (dividing divide) pocketEngine b (.finite (1 / 2)) .nan).limiter.levels =
        ⟨.finite 1, .finite 0⟩ := by
  intro b divide
  have divides : Divides divide := fun x q nonzero => if_pos ⟨rfl, by simpa using nonzero⟩
  obtain ⟨gain, level, -, levels, -, left, right, louder, silent, undivided⟩ :=
    volume_balanced pocketEngine b (.finite (1 / 2)) .nan
  have sounds : gain ≠ 0 := fun none => absurd (silent.1 none) (by
    simp [Volume.Silent, threshold_eq]
    norm_num)
  refine ⟨divides, ?_⟩
  rw [(undivided divide divides).1, levels, right.silent (.inr (.inl rfl)),
    left.unity sounds ((louder sounds).resolve_right (by rintro ⟨⟩))]

end Balance

end Bridge

end SynthBridge
