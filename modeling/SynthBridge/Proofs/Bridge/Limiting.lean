import SynthBridge.Proofs.Bridge.Volumes
import SynthBridge.Proofs.Sound.Release
import SynthBridge.Proofs.Sound.Uses

/-!
# The limiter of a bridge

A bridge has one limiter for all its sessions. Render threads put their blocks through it, level
changes set its levels, and the end of a session resets it, in whatever order the threads come to
it. So the limiter has always been made and used (`Bridge.Handled`), and it is sane: the
next blocks of rational samples are limited exactly, each as a whole, and while none has to be, the
sound only comes back (`Bridge.limits_whole_blocks`).
-/

namespace SynthBridge

open Amplitude Stereo

namespace Bridge

variable {α σ : Type}

/-! ## Who uses the limiter -/

section Handled

variable [Amplitude α] {E : Engine α σ} {t : FileTree} {b b' : Bridge α σ} {label : Label α}

/-- A step that changes no level uses the limiter once, or not at all. -/
theorem use_of_move (m : Bridge.Move E t b label b') (other : label.isLevel = false) :
    b'.halfDone = b.halfDone ∧
      (b'.limiter = b.limiter ∨ ∃ u, b'.limiter = b.limiter.use u) := by
  obtain ⟨halfDone, same | reset | ⟨samples, frames, output, heard, fits⟩⟩ :=
    limiting_of_move m other
  · exact ⟨halfDone, .inl same⟩
  · exact ⟨halfDone, .inr ⟨.reset, reset⟩⟩
  · refine ⟨halfDone, .inr ⟨.block samples frames output, ?_⟩⟩
    simp only [Limiter.use, fits, Option.map_some, Option.getD_some]

/-- The limiter is one that has been used since it was made, and the levels that are to be set next
are those of volumes. -/
structure Handled (b : Bridge α σ) : Prop where
  limiter : ∃ uses, b.limiter = (Limiter.new channelName).after uses
  halfDone : ∀ levels ∈ b.halfDone, ∃ left right, levels = (Volume.split left right).levels

theorem handled_new (setup : Setup) (catalog : Catalog) :
    (Bridge.new setup catalog : Bridge α σ).Handled :=
  ⟨⟨[], rfl⟩, List.forall_mem_nil _⟩

/-- One more use of the limiter. -/
theorem Handled.used (h : b.Handled) {u : Limiter.Use α} (used : b'.limiter = b.limiter.use u) :
    ∃ uses, b'.limiter = (Limiter.new channelName).after uses := by
  obtain ⟨uses, same⟩ := h.limiter
  refine ⟨uses ++ [u], ?_⟩
  rw [used, same, Limiter.after_append]
  rfl

theorem Handled.setGain (h : b.Handled) (E : Engine α σ) (left right : α) :
    (b.setGain E left right).Handled := by
  obtain ⟨halfDone, limiter⟩ := halfDone_setGain E b left right
  refine ⟨by rw [limiter]; exact h.limiter, ?_⟩
  rw [halfDone]
  exact List.forall_mem_append.2 ⟨h.halfDone, List.forall_mem_singleton.2 ⟨left, right, rfl⟩⟩

/-- The levels that are set make up a use with the volume that they are of. -/
theorem Handled.setLevels (h : b.Handled) {place : Nat} (step : b.setLevels place = some b') :
    b'.Handled := by
  simp only [Bridge.setLevels, Option.map_eq_some_iff] at step
  obtain ⟨levels, here, rfl⟩ := step
  obtain ⟨left, right, rfl⟩ := h.halfDone levels (List.mem_of_getElem? here)
  exact ⟨h.used (u := .volume left right) rfl, fun other mem =>
    h.halfDone other (List.mem_of_mem_eraseIdx mem)⟩

/-- **Every step handles the limiter** as it may be. -/
theorem Handled.step (h : b.Handled) (m : Bridge.Move E t b label b') : b'.Handled := by
  by_cases level : label.isLevel = false
  · obtain ⟨halfDone, used⟩ := use_of_move m level
    refine ⟨?_, by rw [halfDone]; exact h.halfDone⟩
    rcases used with same | ⟨u, used⟩
    · rw [same]
      exact h.limiter
    · exact h.used used
  · cases m with
    | aside aside step =>
      cases label with
      | setGain left right =>
        obtain ⟨rfl⟩ := step
        exact h.setGain E left right
      | setLevels place => exact h.setLevels step
      | _ => exact absurd rfl level
    | _ => exact absurd rfl level

end Handled

/-! ## Every run -/

section Limiting

variable {b : Bridge Extended σ} {turns : List (Turn Extended σ)}

/-- **Blocks are limited as a whole.** Wherever a bridge has got to, its limiter is at rational
multipliers and at an attenuation between silence and unity. A block of rational samples is then
limited exactly, and what lies behind it is neither read nor written over. And through a run of
blocks none of which is limited the attenuation comes back towards unity, while nothing gets
softer. -/
theorem limits_whole_blocks (setup : Setup) (catalog : Catalog)
    (run : (Bridge.new setup catalog : Bridge Extended σ).after? turns = some b) :
    ∃ (m : Stereo Rat) (a : Rat), b.limiter.range = m.map .finite ∧
      b.limiter.attenuation = .finite a ∧ 0 < a ∧ a ≤ 1 ∧
      (∀ block, ∃ l' heard, Limiter.Limits m a block b.limiter l' heard ∧
        ∀ rest output tail, output.length = 2 * block.length →
          b.limiter.processInto? (exactly block ++ rest) block.length (output ++ tail) =
            some (l', interleaved heard ++ tail)) ∧
      ∀ blocks : List (List (Stereo Rat)),
        (b.limiter.processEach (blocks.map exactly)).1.limited = b.limiter.limited →
          (b.limiter.processEach (blocks.map exactly)).1.attenuation =
            .finite (Limiter.released a blocks.length) ∧
          ∃ played : List (List Limiter.Played), played.map (·.map Prod.fst) = blocks ∧
            (b.limiter.processEach (blocks.map exactly)).2 =
              played.map (fun block => interleaved (block.map Prod.snd)) ∧
            (∀ block ∈ played, Limiter.NoSofter block block) ∧
            played.Pairwise Limiter.NoSofter := by
  have handled : b.Handled := after?_induction (fun h m => h.step m) (handled_new ..) run
  obtain ⟨uses, used⟩ := handled.limiter
  have sane : b.limiter.Sane := used ▸ (Limiter.sane_new channelName).after uses
  obtain ⟨m, a, range, attenuation, pos, le_one⟩ := sane.rational
  refine ⟨m, a, range, attenuation, pos, le_one, fun block => ?_, fun blocks quiet => ?_⟩
  · obtain ⟨heard, samples, limits⟩ := Limiter.limits_exactly range attenuation pos block
    have length : (exactly block).length = 2 * block.length := by
      rw [exactly, List.length_map, length_interleaved]
    refine ⟨_, heard, limits, fun rest output tail fits => ?_⟩
    rw [b.limiter.processInto?_append rest tail length fits, samples]
  · obtain ⟨last, played, blocks, samples, here, softer⟩ :=
      Limiter.quiet_run range attenuation pos le_one quiet
    exact ⟨last, played, blocks, samples, fun block mem => (here block mem).noSofter pos, softer⟩

/-- A loud engine is limited once; then the attenuation recovers over two blocks that are not. -/
theorem limits_whole_blocks_released :
    let loud : List (Label Extended) := [.setGain (.finite 2) (.finite 1), .setLevels 0] ++
      List.replicate 4 .render
    let turns := (openingLabels ++ loud).map (⟨pocketEngine, pocketFiles, ·⟩)
    let blocks : List (List (Stereo Rat)) := [[⟨1, -1⟩], [⟨1, 1 / 2⟩]]
    ∃ b, (Bridge.new pocketSetup pocketCatalog).after? turns = some b ∧ b.limiter.limited = 1 ∧
      (b.limiter.processEach (blocks.map exactly)).1.limited = 1 ∧
      (b.limiter.processEach (blocks.map exactly)).1.attenuation =
        .finite (Limiter.released (11 / 20) 2) := by
  intro loud turns blocks
  have runs : ((Bridge.new pocketSetup pocketCatalog).after? turns).any (fun b =>
      b.limiter.limited == 1 && decide (b.limiter.attenuation = .finite (11 / 20)) &&
        (b.limiter.processEach (blocks.map exactly)).1.limited == 1) = true := by
    decide +kernel
  obtain ⟨b, run, facts⟩ := (Option.any_eq_true ..).1 runs
  simp only [Bool.and_eq_true, beq_iff_eq, decide_eq_true_eq] at facts
  obtain ⟨⟨once, attenuation⟩, quiet⟩ := facts
  obtain ⟨m, a, -, same, -, -, -, releases⟩ := limits_whole_blocks pocketSetup pocketCatalog run
  obtain rfl : (11 / 20 : Rat) = a := Extended.finite.inj (attenuation.symm.trans same)
  exact ⟨b, run, once, quiet, (releases blocks (quiet.trans once.symm)).1⟩

end Limiting

end Bridge

end SynthBridge
