import Mathlib.Data.List.Forall2
import SynthBridge.Proofs.Sound.Block
import SynthBridge.Proofs.Sound.Extended

/-!
# One block in exact arithmetic

A block goes through the limiter in two passes: its peak decides on one factor for the whole block,
and then every sample is scaled by it (`Limiter.process_eq`). Where range, attenuation and samples
are rational, the factor is `damped`, the attenuation brought down so far that the loudest sample
stays in the range of playback: `Limiter.process_exactly` says what is heard.
-/

namespace SynthBridge

open Amplitude Extended

/-! ## Frames -/

namespace Stereo

variable {α β : Type}

def map (f : α → β) (s : Stereo α) : Stereo β := ⟨f s.left, f s.right⟩

/-- A frame whose channels are scaled by the two multipliers. -/
def times (f m : Stereo Rat) : Stereo Rat := ⟨f.left * m.left, f.right * m.right⟩

/-- The samples of some frames, one after the other. -/
def interleaved (frames : List (Stereo α)) : List α := frames.flatMap fun f => [f.left, f.right]

@[simp] theorem interleaved_nil : interleaved ([] : List (Stereo α)) = [] := rfl

@[simp] theorem interleaved_cons (f : Stereo α) (frames : List (Stereo α)) :
    interleaved (f :: frames) = f.left :: f.right :: interleaved frames := rfl

@[simp] theorem length_interleaved (frames : List (Stereo α)) :
    (interleaved frames).length = 2 * frames.length := by
  induction frames with
  | nil => rfl
  | cons f rest ih =>
    rw [interleaved_cons, List.length_cons, List.length_cons, List.length_cons, ih]
    omega

theorem map_interleaved (f : α → β) (frames : List (Stereo α)) :
    (interleaved frames).map f = interleaved (frames.map (Stereo.map f)) := by
  induction frames with
  | nil => rfl
  | cons x rest ih => simp [Stereo.map, ih]

theorem mem_interleaved {x : α} {frames : List (Stereo α)} :
    x ∈ interleaved frames ↔ ∃ f ∈ frames, x = f.left ∨ x = f.right := by
  simp [interleaved]

/-- Frames of rational samples, as samples of exact arithmetic. -/
def exactly (frames : List (Stereo Rat)) : List Extended := (interleaved frames).map .finite

end Stereo

open Stereo

/-! ## The loudest sample -/

/-- The largest magnitude among rational samples; zero if there is none. -/
def loudest (samples : List Rat) : Rat := samples.foldl (fun peak q => max peak |q|) 0

section Loudest

variable {samples : List Rat} {q : Rat}

theorem le_foldl_max (samples : List Rat) (start : Rat) :
    start ≤ samples.foldl (fun peak q => max peak |q|) start := by
  induction samples generalizing start with
  | nil => exact le_rfl
  | cons x rest ih => exact (le_max_left start |x|).trans (ih _)

theorem loudest_nonneg (samples : List Rat) : 0 ≤ loudest samples := le_foldl_max samples 0

theorem abs_le_loudest (mem : q ∈ samples) : |q| ≤ loudest samples := by
  unfold loudest
  generalize (0 : Rat) = start
  induction samples generalizing start with
  | nil => cases mem
  | cons x rest ih =>
    rcases List.mem_cons.1 mem with rfl | mem
    · exact (le_max_right start |q|).trans (le_foldl_max rest _)
    · exact ih mem _

theorem foldl_max_eq (samples : List Rat) (start : Rat) :
    samples.foldl (fun peak q => max peak |q|) start = start ∨
      ∃ q ∈ samples, |q| = samples.foldl (fun peak q => max peak |q|) start := by
  induction samples generalizing start with
  | nil => exact .inl rfl
  | cons x rest ih =>
    rcases ih (max start |x|) with here | ⟨q, mem, same⟩
    · rw [List.foldl_cons, here]
      rcases max_choice start |x| with first | first
      · exact .inl first
      · exact .inr ⟨x, List.mem_cons_self, first.symm⟩
    · exact .inr ⟨q, List.mem_cons_of_mem _ mem, same⟩

/-- Unless all is silent, some sample is the loudest. -/
theorem exists_loudest (sounds : loudest samples ≠ 0) : ∃ q ∈ samples, |q| = loudest samples :=
  (foldl_max_eq samples 0).resolve_left sounds

end Loudest

namespace Limiter

/-! ## Two passes -/

/-- The factor on a block of the given peak. -/
def factor {α : Type} [Amplitude α] (attenuation peak : α) : α :=
  if Amplitude.lt fullScale (peak * attenuation) then fullScale / peak else attenuation

theorem process_eq {α : Type} [Amplitude α] (l : Limiter α) (block : List α) :
    l.process block =
      ({ l with
          attenuation := ease (factor l.attenuation (blockPeak (scaled l.range block)))
          blocks := l.blocks + 1
          limited :=
            if Amplitude.lt fullScale (blockPeak (scaled l.range block) * l.attenuation) then
              l.limited + 1
            else l.limited
          peak := larger l.peak (blockPeak (scaled l.range block)) },
        (scaled l.range block).map fun x =>
          toSample (x * factor l.attenuation (blockPeak (scaled l.range block)))) := rfl

/-! ## The peak -/

theorem scaled_exactly (m : Stereo Rat) (frames : List (Stereo Rat)) :
    scaled (m.map .finite) (exactly frames) = exactly (frames.map (·.times m)) := by
  induction frames with
  | nil => rfl
  | cons f rest ih =>
    change _ :: _ :: scaled (m.map .finite) (exactly rest) = _
    rw [ih]
    rfl

theorem blockPeak_finite (samples : List Rat) :
    blockPeak (samples.map .finite) = Extended.finite (loudest samples) := by
  unfold blockPeak loudest
  rw [zero_eq]
  generalize (0 : Rat) = start
  induction samples generalizing start with
  | nil => rfl
  | cons x rest ih =>
    rw [List.map_cons, List.foldl_cons, List.foldl_cons, magnitude_finite, larger_finite, ih]

/-! ## The factor -/

/-- The attenuation `a`, brought down so far that the peak `p` is in the range of playback. -/
def damped (a p : Rat) : Rat := if p = 0 then a else min a (32767 / p)

section Damped

variable {a p q : Rat}

theorem damped_of_le (h : 0 ≤ p) (le : p * a ≤ 32767) : damped a p = a := by
  unfold damped
  split
  · rfl
  · rename_i sounds
    exact min_eq_left ((le_div_iff₀' (lt_of_le_of_ne h (Ne.symm sounds))).2 le)

theorem damped_of_lt (h : 0 ≤ p) (lt : 32767 < p * a) : damped a p = 32767 / p ∧ p ≠ 0 := by
  have sounds : p ≠ 0 := by
    rintro rfl
    rw [zero_mul] at lt
    exact absurd lt (by norm_num)
  refine ⟨?_, sounds⟩
  rw [damped, if_neg sounds]
  exact min_eq_right ((div_le_iff₀' (lt_of_le_of_ne h (Ne.symm sounds))).2 lt.le)

theorem damped_le (a p : Rat) : damped a p ≤ a := by
  unfold damped
  split
  · exact le_rfl
  · exact min_le_left ..

theorem damped_pos (pos : 0 < a) (h : 0 ≤ p) : 0 < damped a p := by
  unfold damped
  split
  · exact pos
  · rename_i sounds
    exact lt_min pos (div_pos (by norm_num) (lt_of_le_of_ne h (Ne.symm sounds)))

theorem factor_finite (h : 0 ≤ p) :
    factor (.finite a) (.finite p) = Extended.finite (damped a p) := by
  unfold factor
  rw [finite_mul, fullScale_eq, lt_finite]
  split
  · rename_i loud
    obtain ⟨factor, sounds⟩ := damped_of_lt h (of_decide_eq_true loud)
    rw [finite_div _ sounds, factor]
  · rename_i quiet
    rw [damped_of_le h (not_lt.1 fun loud => quiet (decide_eq_true loud))]

/-- **One factor is enough for every sample** that is no louder than the peak. -/
theorem abs_mul_damped_le (pos : 0 < a) (h : |q| ≤ p) : |q * damped a p| ≤ 32767 := by
  have nonneg : 0 ≤ p := (abs_nonneg q).trans h
  rw [abs_mul, abs_of_pos (damped_pos pos nonneg)]
  refine (mul_le_mul_of_nonneg_right h (damped_pos pos nonneg).le).trans ?_
  rcases le_or_gt (p * a) 32767 with quiet | loud
  · rwa [damped_of_le nonneg quiet]
  · obtain ⟨factor, sounds⟩ := damped_of_lt nonneg loud
    rw [factor, mul_div_cancel₀ _ sounds]

/-- The loudest sample of a block that is limited comes to full scale. -/
theorem abs_mul_damped_eq (pos : 0 < a) (h : |q| = p) (lt : 32767 < p * a) :
    |q * damped a p| = 32767 := by
  have nonneg : 0 ≤ p := h ▸ abs_nonneg q
  obtain ⟨factor, sounds⟩ := damped_of_lt nonneg lt
  rw [abs_mul, abs_of_pos (damped_pos pos nonneg), h, factor, mul_div_cancel₀ _ sounds]

end Damped

/-! ## What is heard -/

/-- One step of the attenuation back to unity. -/
def eased (a : Rat) : Rat := a + (1 - a) * (1 / 10)

theorem ease_finite (a : Rat) : ease (.finite a) = Extended.finite (eased a) := by
  unfold ease
  rw [unity_eq, release_eq, finite_sub, finite_mul, finite_add, eased]

/-- What is heard of a frame. -/
def heardAt (m : Stereo Rat) (c : Rat) (f : Stereo Rat) : Stereo Int16 :=
  (f.times m).map fun q => Amplitude.toSample (Extended.finite (q * c))

/-- The peak of a block. -/
def peakOf (m : Stereo Rat) (block : List (Stereo Rat)) : Rat :=
  loudest (interleaved (block.map (·.times m)))

theorem peakOf_nonneg (m : Stereo Rat) (block : List (Stereo Rat)) : 0 ≤ peakOf m block :=
  loudest_nonneg _

/-- **A block of rational samples** is scaled by one rational factor. -/
theorem process_exactly {l : Limiter Extended} {m : Stereo Rat} {a : Rat}
    (range : l.range = m.map .finite) (attenuation : l.attenuation = .finite a)
    (block : List (Stereo Rat)) :
    l.process (exactly block) =
      ({ l with
          attenuation := .finite (eased (damped a (peakOf m block)))
          blocks := l.blocks + 1
          limited := if 32767 < peakOf m block * a then l.limited + 1 else l.limited
          peak := larger l.peak (.finite (peakOf m block)) },
        interleaved (block.map (heardAt m (damped a (peakOf m block))))) := by
  have peak : blockPeak (scaled l.range (exactly block)) = .finite (peakOf m block) := by
    rw [range, scaled_exactly, exactly, blockPeak_finite, peakOf]
  have samples : (scaled l.range (exactly block)).map
      (fun x => Amplitude.toSample (x * Extended.finite (damped a (peakOf m block)))) =
        interleaved (block.map (heardAt m (damped a (peakOf m block)))) := by
    rw [range, scaled_exactly, exactly, List.map_map, map_interleaved, List.map_map]
    rfl
  rw [process_eq, peak, attenuation, factor_finite (peakOf_nonneg m block), samples, ease_finite,
    finite_mul, fullScale_eq, lt_finite]
  simp only [decide_eq_true_eq]

/-- A frame is heard as the nearest samples to its own, scaled by the multipliers and the factor. -/
def Rounds (m : Stereo Rat) (c : Rat) (f : Stereo Rat) (heard : Stereo Int16) : Prop :=
  Nearest (f.left * m.left * c) heard.left.toInt ∧ Nearest (f.right * m.right * c) heard.right.toInt

/-- What comes of a block that finds the limiter at multipliers `m` and attenuation `a`. -/
structure Limits (m : Stereo Rat) (a : Rat) (block : List (Stereo Rat)) (l l' : Limiter Extended)
    (heard : List (Stereo Int16)) : Prop where
  rounds : List.Forall₂ (Rounds m (damped a (peakOf m block))) block heard
  within : ∀ y ∈ interleaved heard, |y.toInt| ≤ 32767
  blocks : l'.blocks = l.blocks + 1
  limited : l'.limited = if 32767 < a * peakOf m block then l.limited + 1 else l.limited
  full : 32767 < a * peakOf m block → ∃ y ∈ interleaved heard, |y.toInt| = 32767
  range : l'.range = l.range
  attenuation : l'.attenuation = .finite (eased (damped a (peakOf m block)))

section Heard

variable {m f : Stereo Rat} {a c q : Rat} {block : List (Stereo Rat)}

theorem abs_le_peakOf (mem : q ∈ interleaved (block.map (·.times m))) : |q| ≤ peakOf m block :=
  abs_le_loudest mem

theorem abs_times_le_peakOf (mem : f ∈ block) (side : q = f.left * m.left ∨ q = f.right * m.right) :
    |q| ≤ peakOf m block :=
  abs_le_peakOf (mem_interleaved.2 ⟨f.times m, List.mem_map_of_mem mem, side⟩)

/-- A sample that comes to the range of playback is rounded there. -/
theorem rounds_heardAt (left : |f.left * m.left * c| ≤ 32767)
    (right : |f.right * m.right * c| ≤ 32767) : Rounds m c f (heardAt m c f) := by
  unfold Rounds heardAt
  simp only [Stereo.map, Stereo.times]
  rw [toInt_toSample left, toInt_toSample right]
  exact ⟨nearest_roundHalfAway _, nearest_roundHalfAway _⟩

theorem interleaved_heardAt (m : Stereo Rat) (c : Rat) (block : List (Stereo Rat)) :
    interleaved (block.map (heardAt m c)) =
      (interleaved (block.map (·.times m))).map fun q =>
        Amplitude.toSample (Extended.finite (q * c)) := by
  rw [map_interleaved, List.map_map]
  rfl

/-- **A block of rational samples is limited exactly**: one factor keeps all of it in the range of
playback, and where that is not the attenuation that was there no larger one would. -/
theorem limits_exactly {l : Limiter Extended} (range : l.range = m.map .finite)
    (attenuation : l.attenuation = .finite a) (pos : 0 < a) (block : List (Stereo Rat)) :
    ∃ heard, (l.process (exactly block)).2 = interleaved heard ∧
      Limits m a block l (l.process (exactly block)).1 heard := by
  refine ⟨block.map (heardAt m (damped a (peakOf m block))), ?_⟩
  rw [process_exactly range attenuation]
  refine ⟨rfl, ?_, ?_, rfl, ?_, ?_, rfl, rfl⟩
  · rw [List.forall₂_map_right_iff, List.forall₂_same]
    intro f mem
    exact rounds_heardAt (abs_mul_damped_le pos (abs_times_le_peakOf mem (.inl rfl)))
      (abs_mul_damped_le pos (abs_times_le_peakOf mem (.inr rfl)))
  · intro y mem
    rw [interleaved_heardAt, List.mem_map] at mem
    obtain ⟨q, mem, rfl⟩ := mem
    have inside := abs_mul_damped_le pos (abs_le_peakOf mem)
    rw [toInt_toSample inside]
    exact abs_roundHalfAway_le (n := 32767) (by exact_mod_cast inside)
  · rw [mul_comm a]
  · intro loud
    rw [mul_comm a] at loud
    obtain ⟨-, sounds⟩ := damped_of_lt (peakOf_nonneg m block) loud
    obtain ⟨q, mem, most⟩ := exists_loudest sounds
    have full : |q * damped a (peakOf m block)| = 32767 := abs_mul_damped_eq pos most loud
    refine ⟨Amplitude.toSample (Extended.finite (q * damped a (peakOf m block))), ?_, ?_⟩
    · rw [interleaved_heardAt]
      exact List.mem_map_of_mem mem
    · rw [toInt_toSample full.le]
      exact abs_roundHalfAway_of_abs_eq (n := 32767) (by exact_mod_cast full)

end Heard

end Limiter

end SynthBridge
