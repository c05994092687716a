import Mathlib.Tactic.Ring
import SynthBridge.Proofs.Sound.Attenuation

/-!
# Release

Blocks go through a limiter one after the other (`Limiter.processEach`). While none of them is
limited, each recovers a tenth of what the attenuation lacks of unity, so after `n` blocks the gap
has shrunk by `(9 / 10) ^ n`; and no sample is heard softer than the same sample of an earlier
block: `Limiter.quiet_run`.
-/

namespace SynthBridge

open Amplitude Extended Stereo

namespace Limiter

/-! ## Blocks in a row -/

section Blocks

variable {α : Type} [Amplitude α]

/-- Limits blocks one after the other. -/
def processEach (l : Limiter α) : List (List α) → Limiter α × List (List Int16)
  | [] => (l, [])
  | block :: rest =>
    let (next, heard) := l.process block
    let (last, others) := next.processEach rest
    (last, heard :: others)

theorem limited_le_process (l : Limiter α) (block : List α) :
    l.limited ≤ (l.process block).1.limited := by
  rw [process_eq]
  simp only
  split <;> omega

theorem limited_le_processEach (l : Limiter α) (blocks : List (List α)) :
    l.limited ≤ (l.processEach blocks).1.limited := by
  induction blocks generalizing l with
  | nil => exact le_rfl
  | cons block rest ih => exact (l.limited_le_process block).trans (ih _)

end Blocks

/-! ## The way back -/

/-- The attenuation `n` blocks after it was `a`, if none of them was limited. -/
def released (a : Rat) (n : Nat) : Rat := 1 - (1 - a) * (9 / 10) ^ n

theorem released_eased (a : Rat) (n : Nat) : released (eased a) n = released a (n + 1) := by
  unfold released eased
  ring

theorem le_eased {a : Rat} (h : a ≤ 1) : a ≤ eased a ∧ eased a ≤ 1 := by
  unfold eased
  exact ⟨by linarith, by linarith⟩

/-! ## Nothing gets softer -/

/-- A frame that was played, and what was heard of it. -/
abbrev Played : Type := Stereo Rat × Stereo Int16

/-- What is the same in an earlier and in a later block is heard no softer in the later one. -/
def NoSofter (earlier later : List Played) : Prop :=
  ∀ x ∈ earlier, ∀ y ∈ later,
    (x.1.left = y.1.left → |x.2.left.toInt| ≤ |y.2.left.toInt|) ∧
      (x.1.right = y.1.right → |x.2.right.toInt| ≤ |y.2.right.toInt|)

/-- A frame is heard at a factor that keeps it in the range of playback. -/
structure HeardAt (m : Stereo Rat) (c : Rat) (x : Played) : Prop where
  left : |x.1.left * m.left * c| ≤ 32767
  right : |x.1.right * m.right * c| ≤ 32767
  heard : x.2 = heardAt m c x.1

/-- The frames of a block, with what is heard of them at a factor. -/
def playedAt (m : Stereo Rat) (c : Rat) (block : List (Stereo Rat)) : List Played :=
  block.map fun f => (f, heardAt m c f)

theorem map_fst_playedAt (m : Stereo Rat) (c : Rat) (block : List (Stereo Rat)) :
    (playedAt m c block).map Prod.fst = block := by
  simp [playedAt, Function.comp_def]

theorem map_snd_playedAt (m : Stereo Rat) (c : Rat) (block : List (Stereo Rat)) :
    (playedAt m c block).map Prod.snd = block.map (heardAt m c) := by
  simp [playedAt, Function.comp_def]

/-- A block is heard at some factor that is no smaller than `a`. -/
def HeardFrom (m : Stereo Rat) (a : Rat) (block : List Played) : Prop :=
  ∃ c, a ≤ c ∧ ∀ x ∈ block, HeardAt m c x

section Softer

variable {m : Stereo Rat} {a c q : Rat} {x y : Played}

theorem abs_toInt_toSample_mono (pos : 0 < a) (le : a ≤ c) (h : |q * c| ≤ 32767) :
    |(Amplitude.toSample (finite (q * a))).toInt| ≤
      |(Amplitude.toSample (finite (q * c))).toInt| := by
  have less : |q * a| ≤ |q * c| := by
    rw [abs_mul, abs_mul, abs_of_pos pos, abs_of_pos (pos.trans_le le)]
    exact mul_le_mul_of_nonneg_left le (abs_nonneg q)
  rw [toInt_toSample h, toInt_toSample (less.trans h)]
  exact abs_roundHalfAway_mono less

/-- A block that is not limited at an attenuation is in the range of playback. -/
theorem heardAt_of_low {block : List (Stereo Rat)} (pos : 0 < a)
    (low : peakOf m block * a ≤ 32767) : ∀ x ∈ playedAt m a block, HeardAt m a x := by
  intro x played
  obtain ⟨f, mem, rfl⟩ := List.mem_map.1 played
  have inside {q : Rat} (le : |q| ≤ peakOf m block) : |q * a| ≤ 32767 := by
    rw [abs_mul, abs_of_pos pos]
    exact (mul_le_mul_of_nonneg_right le pos.le).trans low
  exact ⟨inside (abs_times_le_peakOf mem (.inl rfl)), inside (abs_times_le_peakOf mem (.inr rfl)),
    rfl⟩

/-- **At a larger factor** the same samples are heard no softer. -/
theorem noSofter_of_le {earlier later : List Played} (pos : 0 < a)
    (first : ∀ x ∈ earlier, HeardAt m a x) (second : HeardFrom m a later) :
    NoSofter earlier later := by
  obtain ⟨c, le, second⟩ := second
  intro x memx y memy
  obtain ⟨-, -, heard⟩ := first x memx
  obtain ⟨left, right, heard'⟩ := second y memy
  rw [heard, heard']
  refine ⟨fun same => ?_, fun same => ?_⟩
  · simp only [heardAt, Stereo.map, Stereo.times, same]
    exact abs_toInt_toSample_mono pos le left
  · simp only [heardAt, Stereo.map, Stereo.times, same]
    exact abs_toInt_toSample_mono pos le right

/-- What is the same within one block is heard alike. -/
theorem HeardFrom.noSofter {block : List Played} (pos : 0 < a) (h : HeardFrom m a block) :
    NoSofter block block := by
  obtain ⟨c, le, all⟩ := h
  exact noSofter_of_le (pos.trans_le le) all ⟨c, le_rfl, all⟩

end Softer

/-! ## Quiet runs -/

section Quiet

variable {l : Limiter Extended} {m : Stereo Rat} {a : Rat}

/-- A block that is not limited is heard at the attenuation that was there. -/
theorem quiet_block (range : l.range = m.map .finite) (attenuation : l.attenuation = .finite a)
    (block : List (Stereo Rat)) (quiet : (l.process (exactly block)).1.limited = l.limited) :
    peakOf m block * a ≤ 32767 ∧
      (l.process (exactly block)).1.attenuation = .finite (eased a) ∧
      (l.process (exactly block)).2 = interleaved (block.map (heardAt m a)) := by
  rw [process_exactly range attenuation] at quiet ⊢
  have low : peakOf m block * a ≤ 32767 := by
    by_contra loud
    simp only [if_pos (not_le.1 loud)] at quiet
    omega
  rw [damped_of_le (peakOf_nonneg m block) low]
  exact ⟨low, rfl, rfl⟩

/-- **A run of blocks none of which is limited** lets the attenuation come back towards unity, and
nothing gets softer in it. -/
theorem quiet_run (range : l.range = m.map .finite) (attenuation : l.attenuation = .finite a)
    (pos : 0 < a) (le_one : a ≤ 1) {blocks : List (List (Stereo Rat))}
    (quiet : (l.processEach (blocks.map exactly)).1.limited = l.limited) :
    (l.processEach (blocks.map exactly)).1.attenuation = .finite (released a blocks.length) ∧
      ∃ played : List (List Played), played.map (·.map Prod.fst) = blocks ∧
        (l.processEach (blocks.map exactly)).2 =
          played.map (fun block => interleaved (block.map Prod.snd)) ∧
        (∀ block ∈ played, HeardFrom m a block) ∧ played.Pairwise NoSofter := by
  induction blocks generalizing l a with
  | nil =>
    refine ⟨?_, [], rfl, rfl, List.forall_mem_nil _, .nil⟩
    rw [List.map_nil, processEach, attenuation, List.length_nil, released, pow_zero, mul_one,
      sub_sub_cancel]
  | cons block rest ih =>
    have first_le := l.limited_le_process (exactly block)
    have rest_le := (l.process (exactly block)).1.limited_le_processEach (rest.map exactly)
    change ((l.process (exactly block)).1.processEach (rest.map exactly)).1.limited = _ at quiet
    obtain ⟨low, next, heard⟩ := quiet_block range attenuation block (by omega)
    obtain ⟨higher, next_le⟩ := le_eased le_one
    obtain ⟨last, played, blocks, others, later, softer⟩ := ih (l := (l.process (exactly block)).1)
      (by rw [← range]; rfl) next (pos.trans_le higher) next_le (by omega)
    have at_first := heardAt_of_low pos low
    have from_here : ∀ block ∈ played, HeardFrom m a block := by
      intro block mem
      obtain ⟨c, le, all⟩ := later block mem
      exact ⟨c, higher.trans le, all⟩
    refine ⟨?_, playedAt m a block :: played, ?_, ?_, ?_, ?_⟩
    · rw [List.length_cons, ← released_eased]
      exact last
    · rw [List.map_cons, map_fst_playedAt, blocks]
    · change (l.process (exactly block)).2 ::
        ((l.process (exactly block)).1.processEach (rest.map exactly)).2 = _
      rw [heard, others, List.map_cons, map_snd_playedAt]
    · exact List.forall_mem_cons.2 ⟨⟨a, le_rfl, at_first⟩, from_here⟩
    · exact List.pairwise_cons.2
        ⟨fun block mem => noSofter_of_le pos at_first (from_here block mem), softer⟩

end Quiet

end Limiter

end SynthBridge
