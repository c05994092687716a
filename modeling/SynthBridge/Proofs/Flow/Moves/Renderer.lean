import SynthBridge.Flow.Renderer
import SynthBridge.Proofs.Flow.Queue

/-!
# What a render thread can do

The steps of a render thread, with one constructor for every kind of step: `Renderer.Move`.
-/

namespace SynthBridge

namespace Renderer

variable {α σ : Type} [Amplitude α]

/-- The steps of a render thread. What they report does not matter here. -/
inductive Move (source : Source α σ) (r : Renderer α) (s : Shared α σ) :
    Renderer α → Shared α σ → Prop
  /-- The last buffer is made. -/
  | filled {log : List (Log α)} (stage : r.stage = .filling 0) :
      Move source r s { r with stage := .deciding, log } s
  /-- A new buffer goes to backstock. -/
  | fill {left : Nat} (stage : r.stage = .filling (left + 1))
      (room : s.pipeline.backstock.size < s.pipeline.backstock.capacity) :
      Move source r s { r with stage := .filling left }
        { s with
          pipeline.backstock.items :=
            s.pipeline.backstock.items ++ [s.pipeline.newBuffer.1]
          pipeline.made := s.pipeline.made + 1 }
  /-- The flag is still set. -/
  | goOn (stage : r.stage = .deciding) (flag : s.pipeline.rendering = true) :
      Move source r s { r with stage := .rendering } s
  /-- The flag is cleared. -/
  | obey {log : List (Log α)} (stage : r.stage = .deciding)
      (flag : s.pipeline.rendering = false) :
      Move source r s { r with stage := .stopped, log } s
  | render {samples : List α} {service : Option σ} (stage : r.stage = .rendering)
      (rendered : quantum source s.pipeline.frames s.service = some (samples, service)) :
      Move source r s { r with stage := .taking samples } { s with service }
  /-- The engine panics. -/
  | panic (stage : r.stage = .rendering)
      (rendered : quantum source s.pipeline.frames s.service = none) :
      Move source r s { r with stage := .panicked } s
  | take {samples : List α} {b : Buffer} {rest : List Buffer} (stage : r.stage = .taking samples)
      (ready : s.pipeline.backstock.items = b :: rest) :
      Move source r s { r with stage := .limiting samples b }
        { s with pipeline.backstock.items := rest }
  /-- Backstock is interrupted. -/
  | quit {samples : List α} {log : List (Log α)} (stage : r.stage = .taking samples)
      (ready : s.pipeline.backstock.items = [])
      (broken : s.pipeline.backstock.interrupted = true) :
      Move source r s { r with stage := .stopped, log } s
  | limit {samples : List α} {b : Buffer} {limiter : Limiter α} {filled : List Int16}
      (stage : r.stage = .limiting samples b)
      (fits : s.limiter.processInto? samples s.pipeline.frames b.samples =
        some (limiter, filled)) :
      Move source r s { r with stage := .queueing { b with samples := filled } } { s with limiter }
  /-- A buffer is too short. -/
  | overrun {samples : List α} {b : Buffer} (stage : r.stage = .limiting samples b)
      (fits : s.limiter.processInto? samples s.pipeline.frames b.samples = none) :
      Move source r s { r with stage := .panicked } s
  | queue {b : Buffer} (stage : r.stage = .queueing b)
      (room : s.pipeline.playable.size < s.pipeline.playable.capacity) :
      Move source r s { r with stage := .deciding, quanta := r.quanta + 1 }
        { s with pipeline.playable.items := s.pipeline.playable.items ++ [b] }

variable {source : Source α σ} {r r' : Renderer α} {s s' : Shared α σ}

theorem Move.sizes_eq (m : Move source r s r' s') : s'.pipeline.sizes = s.pipeline.sizes := by
  cases m <;> rfl

theorem filling_move {left : Nat} (stage : r.stage = .filling left)
    (h : r.advance source s = some (r', s')) : Move source r s r' s' := by
  cases left with
  | zero =>
    simp only [advance, stage, Option.some.injEq, Prod.mk.injEq] at h
    obtain ⟨rfl, rfl⟩ := h
    exact .filled stage
  | succ left =>
    simp only [advance, stage, Pipeline.newBuffer, Option.map_eq_some_iff, Queue.put?_eq_some,
      Prod.mk.injEq] at h
    obtain ⟨q, ⟨room, rfl⟩, rfl, rfl⟩ := h
    exact .fill stage room

theorem taking_move {samples : List α} (stage : r.stage = .taking samples)
    (h : r.advance source s = some (r', s')) : Move source r s r' s' := by
  simp only [advance, stage] at h
  cases found : s.pipeline.backstock.take with
  | item b rest =>
    obtain ⟨items, ready, rfl⟩ := Queue.take_eq_item.1 found
    simp only [found, Option.some.injEq, Prod.mk.injEq] at h
    obtain ⟨rfl, rfl⟩ := h
    exact .take stage ready
  | nothing =>
    obtain ⟨ready, broken⟩ := Queue.take_eq_nothing.1 found
    simp only [found, leave, Option.some.injEq, Prod.mk.injEq] at h
    obtain ⟨rfl, rfl⟩ := h
    exact .quit stage ready broken
  | wait => simp [found] at h

theorem limiting_move {samples : List α} {b : Buffer} (stage : r.stage = .limiting samples b)
    (h : r.advance source s = some (r', s')) : Move source r s r' s' := by
  simp only [advance, stage] at h
  cases fits : s.limiter.processInto? samples s.pipeline.frames b.samples with
  | none =>
    simp only [fits, Option.some.injEq, Prod.mk.injEq] at h
    obtain ⟨rfl, rfl⟩ := h
    exact .overrun stage fits
  | some limited =>
    simp only [fits, Option.some.injEq, Prod.mk.injEq] at h
    obtain ⟨rfl, rfl⟩ := h
    exact .limit stage fits

/-- **Every step of a render thread is one of its moves.** -/
theorem move_of_advance (h : r.advance source s = some (r', s')) : Move source r s r' s' := by
  cases stage : r.stage with
  | filling left => exact filling_move stage h
  | deciding =>
    cases flag : s.pipeline.rendering with
    | true =>
      simp only [advance, stage, flag, if_true, Option.some.injEq, Prod.mk.injEq] at h
      obtain ⟨rfl, rfl⟩ := h
      exact .goOn stage flag
    | false =>
      simp only [advance, stage, flag, leave, Bool.false_eq_true, if_false, Option.some.injEq,
        Prod.mk.injEq] at h
      obtain ⟨rfl, rfl⟩ := h
      exact .obey stage flag
  | rendering =>
    simp only [advance, stage] at h
    cases rendered : quantum source s.pipeline.frames s.service with
    | none =>
      simp only [rendered, Option.some.injEq, Prod.mk.injEq] at h
      obtain ⟨rfl, rfl⟩ := h
      exact .panic stage rendered
    | some q =>
      simp only [rendered, Option.some.injEq, Prod.mk.injEq] at h
      obtain ⟨rfl, rfl⟩ := h
      exact .render stage rendered
  | taking samples => exact taking_move stage h
  | limiting samples b => exact limiting_move stage h
  | queueing b =>
    simp only [advance, stage, Option.map_eq_some_iff, Queue.put?_eq_some, Prod.mk.injEq] at h
    obtain ⟨q, ⟨room, rfl⟩, rfl, rfl⟩ := h
    exact .queue stage room
  | stopped => simp [advance, stage] at h
  | panicked => simp [advance, stage] at h

end Renderer

end SynthBridge
