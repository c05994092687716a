import SynthBridge.Flow.Teardown
import SynthBridge.Proofs.Flow.Queue

/-!
# What a teardown can do

The steps of taking a session apart, with one constructor for every kind of step:
`Teardown.Move`.
-/

namespace SynthBridge

namespace Teardown

/-- The steps of taking a session apart. -/
inductive Move (t : Teardown) (p : Pipeline) (slot : Option Player) (gone : Bool) :
    Teardown → Pipeline → Option Player → Prop
  | clearFlag (stage : t = .clearFlag) : Move t p slot gone .wake p.clearFlag slot
  | wake (stage : t = .wake) : Move t p slot gone .takePlayer p.wake slot
  | takePlayer (stage : t = .takePlayer) (free : ∀ pl, slot = some pl → pl.isFree = true) :
      Move t p slot gone (.inspect slot) p none
  /-- The renderer may be waiting for a buffer. -/
  | lend {player : Option Player} {b : Buffer} (stage : t = .inspect player)
      (held : player.bind Player.current = some b) (empty : p.backstock.items = []) :
      Move t p slot gone (.handOver b) p slot
  /-- It has buffers enough, and the player's is counted. -/
  | keep {player : Option Player} {b : Buffer} (stage : t = .inspect player)
      (held : player.bind Player.current = some b) (stocked : p.backstock.items ≠ []) :
      Move t p slot gone (.drain 1) p slot
  /-- The player has no buffer. -/
  | without {player : Option Player} (stage : t = .inspect player)
      (held : player.bind Player.current = none) : Move t p slot gone (.drain 0) p slot
  | handOver {b : Buffer} (stage : t = .handOver b)
      (room : p.backstock.size < p.backstock.capacity) :
      Move t p slot gone (.drain 0) { p with backstock.items := p.backstock.items ++ [b] } slot
  | drain {recovered : Nat} {b : Buffer} {rest : List Buffer} (stage : t = .drain recovered)
      (ready : p.playable.items = b :: rest) :
      Move t p slot gone (.drain (recovered + 1)) { p with playable.items := rest } slot
  | drained {recovered : Nat} (stage : t = .drain recovered) (ready : p.playable.items = []) :
      Move t p slot gone (.await recovered p.played) p slot
  | join {recovered : Nat} {played : UInt64} (stage : t = .await recovered played)
      (left : gone = true) : Move t p slot gone (.reclaim recovered played) p slot
  | reclaim {recovered : Nat} {played : UInt64} (stage : t = .reclaim recovered played) :
      Move t p slot gone (.finished (recovered + (p.backstock.size + p.playable.size)) played)
        { p with backstock.items := [], playable.items := [] } slot

variable {t t' : Teardown} {p p' : Pipeline} {slot slot' : Option Player} {gone : Bool}

theorem Move.sizes_eq (m : Move t p slot gone t' p' slot') : p'.sizes = p.sizes := by
  cases m <;> rfl

/-- The player is only ever taken out of its slot. -/
theorem Move.slot_eq (m : Move t p slot gone t' p' slot') : slot' = slot ∨ slot' = none := by
  cases m with
  | takePlayer stage free => exact .inr rfl
  | _ => exact .inl rfl

theorem inspect_move {player : Option Player} (stage : t = .inspect player)
    (h : t.advance p slot gone = some (t', p', slot')) : Move t p slot gone t' p' slot' := by
  simp only [advance, stage] at h
  cases held : player.bind Player.current with
  | none =>
    simp only [held, Option.some.injEq, Prod.mk.injEq] at h
    obtain ⟨rfl, rfl, rfl⟩ := h
    exact .without stage held
  | some b =>
    simp only [held] at h
    cases empty : p.backstock.isEmpty with
    | true =>
      simp only [empty, if_true, Option.some.injEq, Prod.mk.injEq] at h
      obtain ⟨rfl, rfl, rfl⟩ := h
      exact .lend stage held (Queue.isEmpty_iff.1 empty)
    | false =>
      simp only [empty, Bool.false_eq_true, if_false, Option.some.injEq, Prod.mk.injEq] at h
      obtain ⟨rfl, rfl, rfl⟩ := h
      refine .keep stage held fun items => ?_
      simp [Queue.isEmpty_iff.2 items] at empty

theorem drain_move {recovered : Nat} (stage : t = .drain recovered)
    (h : t.advance p slot gone = some (t', p', slot')) : Move t p slot gone t' p' slot' := by
  simp only [advance, stage] at h
  cases found : p.playable.pop? with
  | none =>
    simp only [found, Option.some.injEq, Prod.mk.injEq] at h
    obtain ⟨rfl, rfl, rfl⟩ := h
    exact .drained stage (Queue.pop?_eq_none.1 found)
  | some taken =>
    obtain ⟨b, q⟩ := taken
    obtain ⟨rest, ready, rfl⟩ := Queue.pop?_eq_some.1 found
    simp only [found, Option.some.injEq, Prod.mk.injEq] at h
    obtain ⟨rfl, rfl, rfl⟩ := h
    exact .drain stage ready

/-- **Every step of a teardown is one of its moves.** -/
theorem move_of_advance (h : t.advance p slot gone = some (t', p', slot')) :
    Move t p slot gone t' p' slot' := by
  cases stage : t with
  | clearFlag =>
    simp only [advance, stage, Option.some.injEq, Prod.mk.injEq] at h
    obtain ⟨rfl, rfl, rfl⟩ := h
    exact .clearFlag rfl
  | wake =>
    simp only [advance, stage, Option.some.injEq, Prod.mk.injEq] at h
    obtain ⟨rfl, rfl, rfl⟩ := h
    exact .wake rfl
  | takePlayer =>
    simp only [advance, stage, Option.ite_none_right_eq_some, Option.some.injEq,
      Prod.mk.injEq, Option.all_eq_true] at h
    obtain ⟨free, rfl, rfl, rfl⟩ := h
    exact .takePlayer rfl free
  | inspect player => exact stage ▸ inspect_move stage h
  | handOver b =>
    simp only [advance, stage, Option.map_eq_some_iff, Queue.put?_eq_some, Prod.mk.injEq] at h
    obtain ⟨q, ⟨room, rfl⟩, rfl, rfl, rfl⟩ := h
    exact .handOver rfl room
  | drain recovered => exact stage ▸ drain_move stage h
  | await recovered played =>
    simp only [advance, stage, Option.ite_none_right_eq_some, Option.some.injEq,
      Prod.mk.injEq] at h
    obtain ⟨left, rfl, rfl, rfl⟩ := h
    exact .join rfl left
  | reclaim recovered played =>
    simp only [advance, stage, Pipeline.reclaim, Queue.drain, Option.some.injEq,
      Prod.mk.injEq] at h
    obtain ⟨rfl, rfl, rfl⟩ := h
    exact .reclaim rfl
  | finished recovered played => simp [advance, stage] at h

end Teardown

end SynthBridge
