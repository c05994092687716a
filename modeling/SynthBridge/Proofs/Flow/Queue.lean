import SynthBridge.Flow.Queue

/-!
# What the operations of a queue do

Each operation of a bounded queue in terms of the items: `put?` appends at the end if there is
room, `pop?` takes the head, and `take` tells an empty queue that was interrupted from one that
was not.
-/

namespace SynthBridge

namespace Queue

variable {β : Type} {q q' : Queue β} {b : β}

theorem put?_eq_some : q.put? b = some q' ↔
    q.size < q.capacity ∧ { q with items := q.items ++ [b] } = q' := by
  simp [put?, isFull]

theorem isSome_put? (h : q.size < q.capacity) (b : β) : (q.put? b).isSome :=
  Option.isSome_iff_exists.2 ⟨_, put?_eq_some.2 ⟨h, rfl⟩⟩

theorem put?_eq_none : q.put? b = none ↔ q.capacity ≤ q.size := by
  simp [put?, isFull]

theorem isEmpty_iff : q.isEmpty = true ↔ q.items = [] := List.isEmpty_iff

theorem pop?_eq_none : q.pop? = none ↔ q.items = [] := by
  unfold pop?
  split <;> simp [*]

theorem pop?_eq_some : q.pop? = some (b, q') ↔
    ∃ rest, q.items = b :: rest ∧ { q with items := rest } = q' := by
  unfold pop?
  split <;> simp [*, and_assoc]

theorem take_eq_item : q.take = .item b q' ↔
    ∃ rest, q.items = b :: rest ∧ { q with items := rest } = q' := by
  rw [← pop?_eq_some]
  unfold take
  split <;> rename_i h
  · simp [h]
  · split <;> simp [h]

theorem take_eq_nothing : q.take = .nothing ↔ q.items = [] ∧ q.interrupted = true := by
  rw [← pop?_eq_none]
  unfold take
  split <;> rename_i h
  · simp [h]
  · split <;> simp_all

/-- An interruptible caller waits on an empty queue that was never interrupted, and only there. -/
theorem take_eq_wait : q.take = .wait ↔ q.items = [] ∧ q.interrupted = false := by
  rw [← pop?_eq_none]
  unfold take
  split <;> rename_i h
  · simp [h]
  · split <;> simp_all

end Queue

end SynthBridge
