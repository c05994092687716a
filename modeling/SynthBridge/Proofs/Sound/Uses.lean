import SynthBridge.Proofs.Sound.Attenuation
import SynthBridge.Proofs.Sound.Volume

/-!
# Whatever is done to a limiter

A limiter is given volumes and blocks, and it is reset, in any order (`Limiter.Use`), and in exact
arithmetic volumes and samples may be anything: infinite, or no number. It stays sane through all
of it (`Limiter.Sane.use`): an infinite sample silences its own block, and then the attenuation is
back at a tenth. So whatever has been done, a later block of rational samples is neither muted nor
amplified: `Limiter.stays_sane`.
-/

namespace SynthBridge

open Amplitude Stereo

/-- A rational number that is neither below one bound nor above the other. -/
def Extended.Within (low high : Rat) (x : Extended) : Prop :=
  ∃ q, x = .finite q ∧ low ≤ q ∧ q ≤ high

namespace Limiter

/-! ## Uses -/

/-- What is done to a limiter. -/
inductive Use (α : Type)
  | volume (left right : α)
  /-- Limit the first frames of an input over an output. -/
  | block (input : List α) (frames : Nat) (output : List Int16)
  | reset

section Uses

variable {α : Type} [Amplitude α]

/-- The limiter after a use. A block that its input or output is too short for is refused, and
leaves the limiter as it was. -/
def use (l : Limiter α) : Use α → Limiter α
  | .volume left right => l.setLevels (Volume.split left right).levels fullScale
  | .block input frames output => ((l.processInto? input frames output).map Prod.fst).getD l
  | .reset => l.reset

/-- The limiter after some uses. -/
def after (l : Limiter α) (uses : List (Use α)) : Limiter α := uses.foldl use l

theorem after_append (l : Limiter α) (uses more : List (Use α)) :
    l.after (uses ++ more) = (l.after uses).after more := List.foldl_append

/-- A block is refused, or it goes through. -/
theorem use_block (l : Limiter α) (input : List α) (frames : Nat) (output : List Int16) :
    l.use (.block input frames output) = l ∨
      ∃ block, l.use (.block input frames output) = (l.process block).1 := by
  simp only [use, processInto?]
  split
  · exact .inr ⟨_, rfl⟩
  · exact .inl rfl

end Uses

/-! ## Sanity -/

/-- What nothing can take from a limiter in exact arithmetic. -/
structure Sane (l : Limiter Extended) : Prop where
  left : l.range.left.Within 0 32767
  right : l.range.right.Within 0 32767
  attenuation : l.attenuation.Within (1 / 10) 1
  /-- The peak is a number that is not negative. -/
  peak : (zero : Extended).AtMost l.peak
  limited : l.limited ≤ l.blocks

section Sane

variable {l : Limiter Extended} {a c p : Extended}

theorem sane_new (name : String) : (Limiter.new name : Limiter Extended).Sane :=
  ⟨⟨32767, rfl, by norm_num, le_rfl⟩, ⟨32767, rfl, by norm_num, le_rfl⟩,
    ⟨1, rfl, by norm_num, le_rfl⟩, .refl rfl, le_rfl⟩

/-- A volume, whatever it is, leaves both multipliers between silence and full scale. -/
theorem Sane.volume (h : l.Sane) (left right : Extended) : (l.use (.volume left right)).Sane := by
  rcases Volume.audible_or_silent left right with ⟨gain, audible⟩ | silent
  · have split : Volume.split left right = _ := Volume.split_audible (· / ·) audible
    have within {side : Extended} (below : side = .nan ∨ side.AtMost (.finite gain)) :
        (channelRange fullScale (side / .finite gain)).Within 0 32767 := by
      rw [Volume.channelRange_div audible.pos]
      have nonneg := Volume.share_nonneg audible.pos side
      have le_one := Volume.share_le_one audible.pos below
      exact ⟨_, rfl, by linarith, by linarith⟩
    have left_below := Extended.atMost_larger_left left right
    have right_below := Extended.atMost_larger_right left right
    rw [audible.1] at left_below right_below
    refine ⟨?_, ?_, h.attenuation, h.peak, h.limited⟩
    · simp only [use, setLevels, split]
      exact within left_below
    · simp only [use, setLevels, split]
      exact within right_below
  · have split : Volume.split left right = _ := Volume.split_silent (· / ·) silent
    have within : (channelRange fullScale (.finite 0 : Extended)).Within 0 32767 := by
      rw [Volume.channelRange_finite, max_self, zero_mul]
      exact ⟨0, rfl, le_rfl, by norm_num⟩
    refine ⟨?_, ?_, h.attenuation, h.peak, h.limited⟩
    · simp only [use, setLevels, split]
      exact within
    · simp only [use, setLevels, split]
      exact within

theorem atMost_foldl_larger {x peak : Extended} (samples : List Extended) (h : x.AtMost peak) :
    x.AtMost (samples.foldl (fun peak y => larger peak (magnitude y)) peak) := by
  induction samples generalizing peak with
  | nil => exact h
  | cons y rest ih => exact ih (h.larger (magnitude y))

theorem zero_atMost_blockPeak (samples : List Extended) :
    (zero : Extended).AtMost (blockPeak samples) := atMost_foldl_larger samples (.refl rfl)

/-- The factor on a block is never above the attenuation, and an infinite peak alone brings it
down to nothing. -/
theorem within_factor (ha : a.Within (1 / 10) 1) (hp : (zero : Extended).AtMost p) :
    (factor a p).Within 0 1 := by
  obtain ⟨a, rfl, low, high⟩ := ha
  rcases hp.finite_or_infinite with ⟨p, rfl, nonneg⟩ | rfl
  · rw [factor_finite nonneg]
    exact ⟨_, rfl, (damped_pos (by linarith) nonneg).le, (damped_le a p).trans high⟩
  · have endless : (.infinite false * .finite a : Extended) = .infinite false := by
      change (if a = 0 then Extended.nan else .infinite (decide (a < 0) != false)) = _
      rw [if_neg (by linarith), decide_eq_false (by linarith)]
      rfl
    unfold factor
    rw [endless]
    exact ⟨0, rfl, le_rfl, zero_le_one⟩

/-- Whatever the factor was, the attenuation comes back to a tenth at least. -/
theorem within_ease (h : c.Within 0 1) : (ease c).Within (1 / 10) 1 := by
  obtain ⟨c, rfl, low, high⟩ := h
  rw [ease_finite]
  exact ⟨_, rfl, by unfold eased; linarith, by unfold eased; linarith⟩

/-- A block, whatever is in it, leaves the limiter sane. -/
theorem Sane.process (h : l.Sane) (block : List Extended) : (l.process block).1.Sane := by
  rw [process_eq]
  refine ⟨h.left, h.right, ?_, h.peak.larger _, ?_⟩
  · exact within_ease (within_factor h.attenuation (zero_atMost_blockPeak _))
  · have := h.limited
    simp only
    split <;> omega

/-- **Every use leaves a limiter sane.** -/
theorem Sane.use (h : l.Sane) (u : Use Extended) : (l.use u).Sane := by
  cases u with
  | volume left right => exact h.volume left right
  | block input frames output =>
    rcases use_block l input frames output with same | ⟨block, goes⟩
    · rwa [same]
    · rw [goes]
      exact h.process block
  | reset => exact ⟨h.left, h.right, (sane_new l.name).attenuation, .refl rfl, le_rfl⟩

theorem Sane.after (h : l.Sane) (uses : List (Use Extended)) : (l.after uses).Sane := by
  induction uses generalizing l with
  | nil => exact h
  | cons u rest ih => exact ih (h.use u)

/-- Nothing but a reset brings the peak down. -/
theorem Sane.peak_use (h : l.Sane) {u : Use Extended} (other : u ≠ .reset) :
    l.peak.AtMost (l.use u).peak := by
  have number : l.peak.AtMost l.peak := .refl h.peak.2.1
  cases u with
  | volume left right => exact number
  | block input frames output =>
    rcases use_block l input frames output with same | ⟨block, goes⟩
    · rwa [same]
    · rw [goes, process_eq]
      exact number.larger _
  | reset => exact absurd rfl other

theorem Sane.peak_after (h : l.Sane) {more : List (Use Extended)} (others : Use.reset ∉ more) :
    l.peak.AtMost (l.after more).peak := by
  induction more generalizing l with
  | nil => exact .refl h.peak.2.1
  | cons u rest ih =>
    obtain ⟨other, others⟩ := List.ne_and_not_mem_of_not_mem_cons others
    exact (h.peak_use other.symm).trans (ih (h.use u) others)

/-- What a sane limiter is at. -/
theorem Sane.rational (h : l.Sane) : ∃ (m : Stereo Rat) (a : Rat),
    l.range = m.map .finite ∧ l.attenuation = .finite a ∧ 0 < a ∧ a ≤ 1 := by
  obtain ⟨left, hl, -⟩ := h.left
  obtain ⟨right, hr, -⟩ := h.right
  obtain ⟨a, ha, low, high⟩ := h.attenuation
  refine ⟨⟨left, right⟩, a, ?_, ha, by linarith, high⟩
  rw [Stereo.map, ← hl, ← hr]

end Sane

/-! ## Every run -/

/-- **No volume and no sample can spoil a limiter.** Whatever has been done to it since it was made,
it is sane, and its peak has not come down since the last reset. And a block of rational samples
that comes next is rounded after it was scaled by the multipliers and one rational factor, which
neither mutes nor amplifies it. -/
theorem stays_sane (name : String) (uses : List (Use Extended)) :
    ((Limiter.new name).after uses).Sane ∧
      (∀ more, Use.reset ∉ more →
        ((Limiter.new name).after uses).peak.AtMost
          ((Limiter.new name).after (uses ++ more)).peak) ∧
      ∀ block, ∃ m c heard, ((Limiter.new name).after uses).range = m.map .finite ∧
        0 < c ∧ c ≤ 1 ∧
        (((Limiter.new name).after uses).process (exactly block)).2 = interleaved heard ∧
        List.Forall₂ (Rounds m c) block heard := by
  have sane := (sane_new name).after uses
  refine ⟨sane, fun more others => ?_, fun block => ?_⟩
  · rw [after_append]
    exact sane.peak_after others
  · obtain ⟨m, a, range, attenuation, pos, le_one⟩ := sane.rational
    obtain ⟨heard, samples, limits⟩ := limits_exactly range attenuation pos block
    exact ⟨m, damped a (peakOf m block), heard, range, damped_pos pos (peakOf_nonneg m block),
      (damped_le a _).trans le_one, samples, limits.rounds⟩

/-- A volume of which one side is no number, and a block with an infinite sample: the attenuation
comes back from nothing, and a loud block afterwards is limited. -/
theorem stays_sane_endless :
    let uses : List (Use Extended) :=
      [.volume (.finite 1) .nan, .block [.infinite false, .nan] 1 [0, 0]]
    let more : List (Use Extended) := [.block [.finite 20, .finite 1] 1 [0, 0]]
    let l := (Limiter.new "" : Limiter Extended).after uses
    Use.reset ∉ more ∧ l.attenuation = .finite (1 / 10) ∧
      l.peak.AtMost ((Limiter.new "").after (uses ++ more)).peak ∧
      ((Limiter.new "" : Limiter Extended).after (uses ++ more)).limited = 2 := by
  intro uses more l
  have others : Use.reset ∉ more := by simp [more]
  exact ⟨others, by decide +kernel, (stays_sane "" uses).2.1 more others, by decide +kernel⟩

end Limiter

end SynthBridge
