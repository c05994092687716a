import SynthBridge.Flow.Player
import SynthBridge.Proofs.Flow.Queue

/-!
# What a player can do

The steps of a player, with one constructor for every kind of step: `Player.Move`. A constructor
says when the step is taken and what it leaves.
-/

namespace SynthBridge

namespace Player

/-- The task at hand is done with the buffer in the player's hands. -/
def IsSpent (pl : Player) (p : Pipeline) : Prop :=
  pl.task = .priming ∨
    (∃ wanted out length, pl.task = .pulling (wanted + 1) out length) ∧
      p.frames ≤ pl.cursor.frameOffset

/-- The steps of a player on a pipeline. -/
inductive Move (pl : Player) (p : Pipeline) : Player → Pipeline → Prop
  /-- A spent buffer goes to backstock. -/
  | giveBack {b : Buffer} (spent : pl.IsSpent p) (held : pl.current = some b)
      (room : p.backstock.size < p.backstock.capacity) :
      Move pl p { pl with current := none } { p with backstock.items := p.backstock.items ++ [b] }
  /-- The first rendered buffer has come. -/
  | primed {b : Buffer} {rest : List Buffer} (task : pl.task = .priming)
      (empty : pl.current = none) (ready : p.playable.items = b :: rest) :
      Move pl p { current := some b, cursor := {}, task := .idle }
        { p with playable.items := rest, played := 0 }
  /-- None will come. -/
  | unprimed (task : pl.task = .priming) (empty : pl.current = none)
      (ready : p.playable.items = []) (woken : p.playable.interrupted = true) :
      Move pl p { current := none, cursor := {}, task := .idle } { p with played := 0 }
  /-- Frames are copied out of the buffer, as many as are there and wanted. -/
  | copy {b : Buffer} {wanted length n : Nat} {out : Array Int16}
      (task : pl.task = .pulling (wanted + 1) out length) (held : pl.current = some b)
      (left : pl.cursor.frameOffset < p.frames)
      (count : n = min (p.frames - pl.cursor.frameOffset) (wanted + 1)) :
      Move pl p
        { current := some b
          cursor := ⟨pl.cursor.buffersPlayed, pl.cursor.frameOffset + n⟩
          task := .pulling (wanted + 1 - n) (out ++ slice b pl.cursor.frameOffset n) length }
        p
  /-- The next rendered buffer has come. -/
  | next {b : Buffer} {rest : List Buffer} {wanted length : Nat} {out : Array Int16}
      (task : pl.task = .pulling (wanted + 1) out length) (empty : pl.current = none)
      (ready : p.playable.items = b :: rest) :
      Move pl p
        { current := some b
          cursor := ⟨pl.cursor.buffersPlayed + 1, 0⟩
          task := .pulling (wanted + 1) out length }
        { p with playable.items := rest }
  /-- The region is full, or no further buffer will come. -/
  | finish {wanted length : Nat} {out : Array Int16} (task : pl.task = .pulling wanted out length)
      (complete : wanted = 0 ∨
        pl.current = none ∧ p.playable.items = [] ∧ p.playable.interrupted = true) :
      Move pl p
        { pl with task := .pulled (out.toList ++ List.replicate (length - out.size) 0) }
        { p with played := pl.cursor.playedFrames p.frames }

variable {pl pl' : Player} {p p' : Pipeline}

theorem giveBack_move {b : Buffer} (spent : pl.IsSpent p) (held : pl.current = some b)
    (h : pl.giveBack? b p = some (pl', p')) : Move pl p pl' p' := by
  simp only [giveBack?, Option.map_eq_some_iff, Queue.put?_eq_some, Prod.mk.injEq] at h
  obtain ⟨q, ⟨room, rfl⟩, rfl, rfl⟩ := h
  exact .giveBack spent held room

theorem priming_move (task : pl.task = .priming) (h : pl.advance p = some (pl', p')) :
    Move pl p pl' p' := by
  simp only [advance, task] at h
  cases held : pl.current with
  | some b =>
    rw [held] at h
    exact giveBack_move (.inl task) held h
  | none =>
    rw [held] at h
    cases found : p.playable.take with
    | item b rest =>
      obtain ⟨items, ready, rfl⟩ := Queue.take_eq_item.1 found
      simp only [found, finishPrime, publish, Option.some.injEq, Prod.mk.injEq] at h
      obtain ⟨rfl, rfl⟩ := h
      simpa [Cursor.playedFrames] using Move.primed task held ready
    | nothing =>
      obtain ⟨ready, woken⟩ := Queue.take_eq_nothing.1 found
      simp only [found, finishPrime, publish, held, Option.some.injEq, Prod.mk.injEq] at h
      obtain ⟨rfl, rfl⟩ := h
      simpa [Cursor.playedFrames] using Move.unprimed task held ready woken
    | wait => simp [found] at h

theorem pulling_move {wanted length : Nat} {out : Array Int16}
    (task : pl.task = .pulling wanted out length) (h : pl.advance p = some (pl', p')) :
    Move pl p pl' p' := by
  cases wanted with
  | zero =>
    simp only [advance, task, finishPull, publish, Option.some.injEq, Prod.mk.injEq] at h
    obtain ⟨rfl, rfl⟩ := h
    exact .finish task (.inl rfl)
  | succ wanted =>
    simp only [advance, task] at h
    cases held : pl.current with
    | some b =>
      simp only [held] at h
      by_cases left : pl.cursor.frameOffset < p.frames
      · simp only [left, if_true, Option.some.injEq, Prod.mk.injEq] at h
        obtain ⟨rfl, rfl⟩ := h
        exact .copy task held left rfl
      · simp only [left, if_false] at h
        exact giveBack_move (.inr ⟨⟨_, _, _, task⟩, Nat.le_of_not_lt left⟩) held h
    | none =>
      simp only [held] at h
      cases found : p.playable.take with
      | item b rest =>
        obtain ⟨items, ready, rfl⟩ := Queue.take_eq_item.1 found
        simp only [found, Option.some.injEq, Prod.mk.injEq] at h
        obtain ⟨rfl, rfl⟩ := h
        exact .next task held ready
      | nothing =>
        simp only [found, finishPull, publish, Option.some.injEq, Prod.mk.injEq] at h
        obtain ⟨rfl, rfl⟩ := h
        exact .finish task (.inr ⟨held, Queue.take_eq_nothing.1 found⟩)
      | wait => simp [found] at h

/-- **Every step of a player is one of its moves.** -/
theorem move_of_advance (h : pl.advance p = some (pl', p')) : Move pl p pl' p' := by
  cases task : pl.task with
  | idle => simp [advance, task] at h
  | pulled out => simp [advance, task] at h
  | priming => exact priming_move task h
  | pulling wanted out length => exact pulling_move task h

/-- And every move is a step. -/
theorem Move.advance_eq (m : Move pl p pl' p') : pl.advance p = some (pl', p') := by
  cases m with
  | @giveBack b spent held room =>
    have put : pl.giveBack? b p = some ({ pl with current := none },
        { p with backstock.items := p.backstock.items ++ [b] }) := by
      rw [giveBack?, Queue.put?_eq_some.2 ⟨room, rfl⟩]
      rfl
    rcases spent with task | ⟨⟨wanted, out, length, task⟩, complete⟩
    · simpa only [advance, task, held] using put
    · simpa only [advance, task, held, Nat.not_lt_of_le complete, if_false] using put
  | primed task empty ready =>
    simp [advance, task, empty, Queue.take_eq_item.2 ⟨_, ready, rfl⟩, finishPrime, publish,
      Cursor.playedFrames]
  | unprimed task empty ready woken =>
    simp [advance, task, empty, Queue.take_eq_nothing.2 ⟨ready, woken⟩, finishPrime, publish,
      Cursor.playedFrames]
  | copy task held left count => simp [advance, task, held, left, count]
  | next task empty ready => simp [advance, task, empty, Queue.take_eq_item.2 ⟨_, ready, rfl⟩]
  | @finish wanted length out task complete =>
    cases wanted with
    | zero => simp [advance, task, finishPull, publish]
    | succ wanted =>
      obtain ⟨⟨⟩⟩ | ⟨empty, ready, woken⟩ := complete
      simp [advance, task, empty, Queue.take_eq_nothing.2 ⟨ready, woken⟩, finishPull, publish]

/-- Only a player that has something under way has a step. -/
theorem Move.busy (m : Move pl p pl' p') : pl.isFree = false := by
  cases m with
  | giveBack spent held room =>
    rcases spent with task | ⟨⟨wanted, out, length, task⟩, -⟩ <;> simp [isFree, task]
  | _ => simp [isFree, *]

/-- A step of a player changes nothing of a pipeline but the queued items and the position. -/
theorem Move.pipeline_eq (m : Move pl p pl' p') :
    ∃ spare ready played, p' = { p with
      backstock.items := spare, playable.items := ready, played := played } := by
  cases m <;> exact ⟨_, _, _, rfl⟩

theorem Move.sizes_eq (m : Move pl p pl' p') : p'.sizes = p.sizes := by
  obtain ⟨spare, ready, played, rfl⟩ := m.pipeline_eq
  rfl

end Player

end SynthBridge
