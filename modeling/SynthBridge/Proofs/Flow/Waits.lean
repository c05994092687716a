import SynthBridge.Proofs.Flow.Moves

/-!
# Where a thread waits

The counterpart of the moves: a player, a render thread or a teardown that has no step has either
nothing to do, or it waits in one of the places listed here. `Player.Waits`, `Renderer.Waits` and
`Teardown.Waits` have one constructor for each place.
-/

namespace SynthBridge

/-! ## The player -/

namespace Player

/-- The task at hand needs a buffer that the player does not have. -/
def IsHungry (pl : Player) : Prop :=
  pl.task = .priming ∨ ∃ wanted out length, pl.task = .pulling (wanted + 1) out length

/-- The places where a player waits. -/
inductive Waits (pl : Player) (p : Pipeline) : Prop
  /-- For room in backstock. -/
  | room {b : Buffer} (spent : pl.IsSpent p) (held : pl.current = some b)
      (full : p.backstock.capacity ≤ p.backstock.size)
  /-- For a rendered buffer. -/
  | buffer (hungry : pl.IsHungry) (empty : pl.current = none) (none_ready : p.playable.items = [])
      (unbroken : p.playable.interrupted = false)

variable {pl : Player} {p : Pipeline}

theorem giveBack?_eq_none {b : Buffer} (h : pl.giveBack? b p = none) :
    p.backstock.capacity ≤ p.backstock.size := by
  simpa [giveBack?, Queue.put?_eq_none] using h

theorem waits_of_take (hungry : pl.IsHungry) (empty : pl.current = none)
    (found : p.playable.take = .wait) : pl.Waits p := by
  obtain ⟨none_ready, unbroken⟩ := Queue.take_eq_wait.1 found
  exact .buffer hungry empty none_ready unbroken

theorem priming_waits (task : pl.task = .priming) (h : pl.advance p = none) : pl.Waits p := by
  simp only [advance, task] at h
  cases held : pl.current with
  | some b =>
    rw [held] at h
    exact .room (.inl task) held (giveBack?_eq_none h)
  | none =>
    rw [held] at h
    cases found : p.playable.take with
    | item b rest => simp [found] at h
    | nothing => simp [found] at h
    | wait => exact waits_of_take (.inl task) held found

theorem pulling_waits {wanted length : Nat} {out : Array Int16}
    (task : pl.task = .pulling wanted out length) (h : pl.advance p = none) : pl.Waits p := by
  cases wanted with
  | zero => simp [advance, task] at h
  | succ wanted =>
    simp only [advance, task] at h
    cases held : pl.current with
    | some b =>
      simp only [held] at h
      by_cases left : pl.cursor.frameOffset < p.frames
      · simp [left] at h
      · simp only [left, if_false] at h
        exact .room (.inr ⟨⟨_, _, _, task⟩, Nat.le_of_not_lt left⟩) held (giveBack?_eq_none h)
    | none =>
      simp only [held] at h
      cases found : p.playable.take with
      | item b rest => simp [found] at h
      | nothing => simp [found] at h
      | wait => exact waits_of_take (.inr ⟨_, _, _, task⟩) held found

/-- **A player without a step is free or waits.** -/
theorem waits_of_advance (h : pl.advance p = none) : pl.isFree = true ∨ pl.Waits p := by
  cases task : pl.task with
  | idle => exact .inl (by simp [isFree, task])
  | pulled out => exact .inl (by simp [isFree, task])
  | priming => exact .inr (priming_waits task h)
  | pulling wanted out length => exact .inr (pulling_waits task h)

end Player

/-! ## The render thread -/

namespace Renderer

variable {α σ : Type} [Amplitude α]

/-- The places where a render thread waits. -/
inductive Waits (r : Renderer α) (p : Pipeline) : Prop
  /-- For room in backstock, at its start. -/
  | room {left : Nat} (stage : r.stage = .filling (left + 1))
      (full : p.backstock.capacity ≤ p.backstock.size)
  /-- For an idle buffer. -/
  | buffer {samples : List α} (stage : r.stage = .taking samples)
      (empty : p.backstock.items = []) (unbroken : p.backstock.interrupted = false)
  /-- For room among the rendered buffers. -/
  | push {b : Buffer} (stage : r.stage = .queueing b)
      (full : p.playable.capacity ≤ p.playable.size)

variable {source : Source α σ} {r : Renderer α} {s : Shared α σ}

/-- **A render thread without a step has left or waits.** -/
theorem waits_of_advance (h : r.advance source s = none) :
    r.isGone = true ∨ r.Waits s.pipeline := by
  cases stage : r.stage with
  | filling left =>
    cases left with
    | zero => simp [advance, stage] at h
    | succ left =>
      refine .inr (.room stage ?_)
      simpa [advance, stage, Pipeline.newBuffer, Queue.put?_eq_none] using h
  | deciding =>
    simp only [advance, stage] at h
    split at h <;> cases h
  | rendering =>
    simp only [advance, stage] at h
    split at h <;> cases h
  | taking samples =>
    simp only [advance, stage] at h
    cases found : s.pipeline.backstock.take with
    | item b rest => simp [found] at h
    | nothing => simp [found] at h
    | wait =>
      obtain ⟨empty, unbroken⟩ := Queue.take_eq_wait.1 found
      exact .inr (.buffer stage empty unbroken)
  | limiting samples b =>
    simp only [advance, stage] at h
    split at h <;> cases h
  | queueing b =>
    refine .inr (.push stage ?_)
    simpa [advance, stage, Queue.put?_eq_none] using h
  | stopped => exact .inl (by simp [isGone, stage])
  | panicked => exact .inl (by simp [isGone, stage])

end Renderer

/-! ## The teardown -/

namespace Teardown

/-- The places where a teardown waits. -/
inductive Waits (t : Teardown) (p : Pipeline) (slot : Option Player) (gone : Bool) : Prop
  /-- For the end of a pull. -/
  | pull {pl : Player} (stage : t = .takePlayer) (held : slot = some pl)
      (busy : pl.isFree = false)
  /-- For room in backstock. -/
  | room {b : Buffer} (stage : t = .handOver b) (full : p.backstock.capacity ≤ p.backstock.size)
  /-- For the render thread to leave. -/
  | join {recovered : Nat} {played : UInt64} (stage : t = .await recovered played)
      (running : gone = false)

variable {t : Teardown} {p : Pipeline} {slot : Option Player} {gone : Bool}

/-- **A teardown without a step is finished or waits.** -/
theorem waits_of_advance (h : t.advance p slot gone = none) :
    (∃ recovered played, t = .finished recovered played) ∨ t.Waits p slot gone := by
  cases t with
  | clearFlag => cases h
  | wake => cases h
  | takePlayer =>
    simp only [advance] at h
    cases slot with
    | none => simp at h
    | some pl =>
      cases busy : pl.isFree with
      | true => simp [busy] at h
      | false => exact .inr (.pull rfl rfl busy)
  | inspect player =>
    simp only [advance] at h
    split at h
    · split at h <;> cases h
    · cases h
  | handOver b => exact .inr (.room rfl (by simpa [advance, Queue.put?_eq_none] using h))
  | drain recovered =>
    simp only [advance] at h
    split at h <;> cases h
  | await recovered played =>
    cases gone with
    | true => cases h
    | false => exact .inr (.join rfl rfl)
  | reclaim recovered played => cases h
  | finished recovered played => exact .inl ⟨_, _, rfl⟩

end Teardown

end SynthBridge
