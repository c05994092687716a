import SynthBridge.Sound.Limiter

/-!
# One block through the limiter

A block of whole frames comes out of the limiter as long as it went in, and where input and
output both have the length of the block nothing else of the output is left over.
-/

namespace SynthBridge

namespace Limiter

variable {α : Type} [Amplitude α]

theorem length_scaled (range : Stereo α) (frames : Nat) (block : List α)
    (h : block.length = 2 * frames) : (scaled range block).length = 2 * frames := by
  induction frames generalizing block with
  | zero => rw [List.length_eq_zero_iff.1 h]; rfl
  | succ frames ih =>
    match block, h with
    | left :: right :: rest, h =>
      have rest_length : rest.length = 2 * frames := by
        simp only [List.length_cons] at h
        omega
      simp only [scaled, List.length_cons, ih rest rest_length]
      omega
    | [_], h => simp at h; omega
    | [], h => simp at h

theorem length_process (l : Limiter α) {frames : Nat} {block : List α}
    (h : block.length = 2 * frames) : (l.process block).2.length = 2 * frames := by
  simpa [process] using length_scaled l.range frames block h

/-- Of the input the block alone is read, and of the output its own length is written over. -/
theorem processInto?_append (l : Limiter α) {frames : Nat} {block : List α}
    {output : List Int16} (rest : List α) (tail : List Int16) (hi : block.length = 2 * frames)
    (ho : output.length = 2 * frames) :
    l.processInto? (block ++ rest) frames (output ++ tail) =
      some ((l.process block).1, (l.process block).2 ++ tail) := by
  have fits : 2 * frames ≤ (block ++ rest).length ∧ 2 * frames ≤ (output ++ tail).length := by
    rw [List.length_append, List.length_append]
    omega
  unfold processInto?
  rw [if_pos fits, ← hi, List.take_left, hi, ← ho, List.drop_left]

/-- A quantum over a buffer of its own length is limited whole. -/
theorem processInto?_of_length (l : Limiter α) {frames : Nat} {input : List α}
    {output : List Int16} (hi : input.length = 2 * frames) (ho : output.length = 2 * frames) :
    l.processInto? input frames output = some (l.process input) := by
  simpa using l.processInto?_append [] [] hi ho

/-- Audio leaves what a reset keeps as it is: the name and the levels. -/
theorem reset_processInto? {l l' : Limiter α} {frames : Nat} {input : List α}
    {output output' : List Int16} (h : l.processInto? input frames output = some (l', output')) :
    l'.reset = l.reset := by
  unfold processInto? at h
  split at h
  · simp only [Option.some.injEq, Prod.mk.injEq] at h
    rw [← h.1]
    rfl
  · cases h

end Limiter

end SynthBridge
