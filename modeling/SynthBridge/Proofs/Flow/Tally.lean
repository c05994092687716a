import Mathlib.Algebra.GroupWithZero.Nat
import SynthBridge.Proofs.Flow.Deliveries
import SynthBridge.Proofs.Flow.Supply

/-!
# The count of frames

A player counts the frames that it hands out by its position: buffers played, and frames of the
present one. When a pull is over, the position is published, and a teardown reads what was
published last. `Crew.Tallied` says that all of these agree with the deliveries; every step of a
crew whose player is primed keeps it.
-/

namespace SynthBridge

variable {α σ : Type}

/-- The frames that some pulls have copied out of buffers. -/
def framesOf (ds : List Delivery) : Nat := (ds.map fun d => d.copied.length / 2).sum

theorem framesOf_concat (ds : List Delivery) (d : Delivery) :
    framesOf (ds ++ [d]) = framesOf ds + d.copied.length / 2 := by
  simp [framesOf, List.sum_append]

namespace Crew

/-- What was delivered is what the player, the pipeline and a teardown say. -/
structure Tallied (c : Crew α) (ds : List Delivery) : Prop where
  position : ∀ pl, c.player = some pl → framesOf ds + pl.underway.length / 2 =
    pl.cursor.buffersPlayed * c.pipeline.frames + pl.cursor.frameOffset
  used : ∀ pl, c.player = some pl → pl.current = none →
    pl.cursor.frameOffset = c.pipeline.frames
  primed : ∀ pl, c.player = some pl → pl.task ≠ .priming
  published : (∀ pl, c.player = some pl → pl.isFree = true) →
    c.pipeline.played = UInt64.ofNat (framesOf ds)
  counted : ∀ recovered played, c.teardown = some (.await recovered played) ∨
    c.teardown = some (.reclaim recovered played) → played = UInt64.ofNat (framesOf ds)

namespace Tallied

variable {p p' : Pipeline} {r r' : Renderer α} {pl pl' : Player} {renderer : Option (Renderer α)}
  {player player' : Option Player} {t t' : Teardown} {teardown : Option Teardown}
  {ds : List Delivery}

/-- While there is a player, a teardown has counted nothing. -/
theorem not_counted (orderly : Orderly ⟨p, renderer, some pl, teardown⟩) {recovered : Nat}
    {played : UInt64} (late : teardown = some (.await recovered played) ∨
      teardown = some (.reclaim recovered played)) : False := by
  have early := orderly.phase_le
  rcases late with rfl | rfl <;> simp at early

/-! ## Steps of the player -/

/-- The position moves with what is delivered and under way. -/
theorem position_eq (m : Player.Move pl p pl' p') (primed : pl.task ≠ .priming)
    (used : pl.current = none → pl.cursor.frameOffset = p.frames)
    (length : ∀ b, pl.current = some b → b.samples.length = 2 * p.frames)
    (position : framesOf ds + pl.underway.length / 2 =
      pl.cursor.buffersPlayed * p.frames + pl.cursor.frameOffset) :
    framesOf (ds ++ pl.delivery pl') + pl'.underway.length / 2 =
      pl'.cursor.buffersPlayed * p.frames + pl'.cursor.frameOffset := by
  cases m with
  | giveBack spent held room =>
    rcases spent with task | ⟨⟨wanted, out, length, task⟩, -⟩
    · exact absurd task primed
    · simpa [Player.delivery, task, Player.underway] using position
  | primed task empty ready => exact absurd task primed
  | unprimed task empty ready woken => exact absurd task primed
  | @copy b wanted asked n out task held left count =>
    have within : pl.cursor.frameOffset + n ≤ p.frames := by omega
    have copied := Player.length_slice (length b held) within
    simp only [Player.underway, task, Array.length_toList] at position
    simp only [Player.delivery, task, List.append_nil, Player.underway, Array.toList_appendList,
      List.length_append, Array.length_toList, copied]
    omega
  | @next b rest wanted asked out task empty ready =>
    have full := used empty
    simp only [Player.underway, task, full] at position
    simp only [Player.delivery, task, List.append_nil, Player.underway, Nat.succ_mul]
    omega
  | finish task complete =>
    simp only [Player.underway, task] at position
    simp only [Player.delivery, task, framesOf_concat, Player.underway, List.length_nil]
    omega

theorem play (h : Tallied ⟨p, renderer, some pl, teardown⟩ ds)
    (conserved : Conserved ⟨p, renderer, some pl, teardown⟩)
    (orderly : Orderly ⟨p, renderer, some pl, teardown⟩) (m : Player.Move pl p pl' p') :
    Tallied ⟨p', renderer, some pl', teardown⟩ (ds ++ pl.delivery pl') := by
  have primed := h.primed pl rfl
  have used := h.used pl rfl
  have moved := position_eq m primed used (fun b => conserved.length_held) (h.position pl rfl)
  have frames : p'.frames = p.frames := congrArg Sizes.frames m.sizes_eq
  refine ⟨?_, ?_, ?_, ?_, fun _ _ late => (not_counted orderly late).elim⟩
  · rintro _ ⟨⟩
    simpa only [frames] using moved
  · rintro _ ⟨⟩ empty'
    rw [frames]
    cases m with
    | giveBack spent held room =>
      rcases spent with task | ⟨-, complete⟩
      · exact absurd task primed
      · exact Nat.le_antisymm (conserved.cursor pl rfl).offset_le complete
    | finish task complete => exact used empty'
    | primed task empty ready => exact absurd task primed
    | unprimed task empty ready woken => exact absurd task primed
    | copy task held left count => cases empty'
    | next task empty ready => cases empty'
  · rintro _ ⟨⟩ task'
    cases m with
    | giveBack spent held room => exact primed task'
    | _ => cases task'
  · intro free
    have free := free pl' rfl
    cases m with
    | giveBack spent held room =>
      rcases spent with task | ⟨⟨wanted, out, length, task⟩, -⟩ <;>
        simp [Player.isFree, task] at free
    | finish task complete =>
      rw [Player.underway] at moved
      simp only [List.length_nil, Nat.zero_div, Nat.add_zero] at moved
      exact congrArg UInt64.ofNat moved.symm
    | primed task empty ready => exact absurd task primed
    | unprimed task empty ready woken => exact absurd task primed
    | copy task held left count => simp [Player.isFree] at free
    | next task empty ready => simp [Player.isFree] at free

/-- Priming goes on, or the player stands at the start of the first rendered buffer. -/
theorem of_priming (m : Player.Move pl p pl' p') (task : pl.task = .priming)
    (orderly : Orderly ⟨p, renderer, some pl, none⟩) :
    pl'.task = .priming ∨
      pl'.isFree = true ∧ Tallied ⟨p', renderer, some pl', none⟩ [] := by
  cases m with
  | giveBack spent held room => exact .inl task
  | primed task empty ready =>
    refine .inr ⟨rfl, ?_, ?_, ?_, fun _ => rfl, by simp⟩
    · rintro _ ⟨⟩
      simp [framesOf, Player.underway]
    · rintro _ ⟨⟩ ⟨⟩
    · rintro _ ⟨⟩ ⟨⟩
  | unprimed task empty ready woken =>
    exact absurd (woken.symm.trans orderly.woken) (by simp)
  | copy task' held left count => simp [task] at task'
  | next task' empty ready => simp [task] at task'
  | finish task' complete => simp [task] at task'

/-- A pull begins. -/
theorem startPull (h : Tallied ⟨p, renderer, some pl, teardown⟩ ds)
    (orderly : Orderly ⟨p, renderer, some pl, teardown⟩) (free : pl.isFree = true)
    (samples : Nat) :
    Tallied ⟨p, renderer, some (pl.startPull samples), teardown⟩ ds := by
  have position := h.position pl rfl
  rw [Player.underway_of_free free] at position
  refine ⟨?_, ?_, ?_, fun free => ?_, fun _ _ late => (not_counted orderly late).elim⟩
  · rintro _ ⟨⟩
    exact position
  · rintro _ ⟨⟩
    exact h.used pl rfl
  · rintro _ ⟨⟩ ⟨⟩
  · exact absurd (free _ rfl) (by simp [Player.isFree, Player.startPull])

/-! ## Steps of the others -/

theorem render [Amplitude α] {source : Source α σ} {s s' : Shared α σ}
    (h : Tallied ⟨s.pipeline, some r, player, teardown⟩ ds) (m : Renderer.Move source r s r' s') :
    Tallied ⟨s'.pipeline, some r', player, teardown⟩ ds := by
  have frame : s'.pipeline.frames = s.pipeline.frames ∧ s'.pipeline.played = s.pipeline.played := by
    cases m <;> exact ⟨rfl, rfl⟩
  obtain ⟨frames, played⟩ := frame
  refine ⟨?_, ?_, h.primed, fun free => played.trans (h.published free), h.counted⟩
  · simpa only [frames] using h.position
  · simpa only [frames] using h.used

theorem startTeardown (h : Tallied ⟨p, renderer, player, none⟩ ds) :
    Tallied ⟨p, renderer, player, some .clearFlag⟩ ds :=
  ⟨h.position, h.used, h.primed, h.published, by simp⟩

theorem tearDown {gone : Bool} (h : Tallied ⟨p, renderer, player, some t⟩ ds)
    (orderly : Orderly ⟨p, renderer, player, some t⟩)
    (m : Teardown.Move t p player gone t' p' player') :
    Tallied ⟨p', renderer, player', some t'⟩ ds := by
  cases m with
  | takePlayer stage free =>
    exact ⟨nofun, nofun, nofun, fun _ => h.published free, by simp⟩
  | drained stage ready =>
    subst stage
    obtain rfl : player = none := orderly.released (by simp)
    refine ⟨nofun, nofun, nofun, h.published, ?_⟩
    simp only [Option.some.injEq, Teardown.await.injEq, reduceCtorEq, or_false]
    rintro _ _ ⟨rfl, rfl⟩
    exact h.published nofun
  | join stage left =>
    subst stage
    refine ⟨h.position, h.used, h.primed, h.published, ?_⟩
    simp only [Option.some.injEq, Teardown.reclaim.injEq, reduceCtorEq, false_or]
    rintro _ _ ⟨rfl, rfl⟩
    exact h.counted _ _ (.inl rfl)
  | _ => exact ⟨h.position, h.used, h.primed, h.published, by simp⟩

end Tallied

end Crew

end SynthBridge
