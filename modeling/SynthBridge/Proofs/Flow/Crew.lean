import Mathlib.Data.List.Perm.Subperm
import SynthBridge.Proofs.Flow.Moves

/-!
# Where the buffers are

A *crew* is a pipeline with those who handle its buffers: the render thread, the player and
whoever takes the line apart. `Crew.buffers` lists all buffers by where they are, and a
`Ledger` says of such a list that it accounts for every buffer that was ever made: no two
entries are the same piece of storage, each has the length of one quantum, and together with
those already counted and let go they are as many as were made.
-/

namespace SynthBridge

/-! ## Hands -/

/-- The buffer between backstock and the playable queue. -/
def Renderer.hands {α : Type} (r : Renderer α) : List Buffer :=
  match r.stage with
  | .limiting _ b | .queueing b => [b]
  | _ => []

/-- How many buffers the start of the thread has still to make. -/
def Renderer.left {α : Type} (r : Renderer α) : Nat :=
  match r.stage with
  | .filling left => left
  | _ => 0

def Player.hands (pl : Player) : List Buffer := pl.current.toList

namespace Teardown

/-- The buffer of a player that was taken out of the mixer's reach. -/
def hands : Teardown → List Buffer
  | .inspect player => (player.bind Player.current).toList
  | .handOver b => [b]
  | _ => []

/-- The buffers counted so far. -/
def recovered : Teardown → Nat
  | .drain n | .await n _ | .reclaim n _ | .finished n _ => n
  | _ => 0

end Teardown

/-- A pipeline and those who work on it. -/
structure Crew (α : Type) where
  pipeline : Pipeline
  renderer : Option (Renderer α)
  player : Option Player
  teardown : Option Teardown

def Line.crew {α σ : Type} (l : Line α σ) : Crew α :=
  ⟨l.pipeline, l.renderer, l.player, l.teardown⟩

namespace Crew

variable {α : Type}

def renderHands (c : Crew α) : List Buffer := c.renderer.elim [] Renderer.hands

def playHands (c : Crew α) : List Buffer := c.player.elim [] Player.hands

/-- The buffers in backstock, in the render thread's hands, in the playable queue and in the
player's hands. -/
def circulating (c : Crew α) : List Buffer :=
  c.pipeline.backstock.items ++ c.renderHands ++ c.pipeline.playable.items ++ c.playHands

/-- All buffers, those of a player on its way out included. -/
def buffers (c : Crew α) : List Buffer := c.circulating ++ c.teardown.elim [] Teardown.hands

def recovered (c : Crew α) : Nat := c.teardown.elim 0 Teardown.recovered

/-- The buffers that are still to be made: those of the render thread's start and the player's
own. -/
def unmade (c : Crew α) : Nat :=
  c.renderer.elim 0 Renderer.left + if c.player.isNone ∧ c.teardown.isNone then 1 else 0

end Crew

/-! ## Accounting -/

/-- What does not change when a buffer is filled: the piece of storage and its length. -/
def Buffer.shape (b : Buffer) : Nat × Nat := (b.tag, b.samples.length)

/-- `bs` and `recovered` further buffers are all that were made, each of the given length. -/
structure Ledger (made recovered length : Nat) (bs : List Buffer) : Prop where
  nodup : (bs.map Buffer.tag).Nodup
  tag_lt : ∀ b ∈ bs, b.tag < made
  length_eq : ∀ b ∈ bs, b.samples.length = length
  count : bs.length + recovered = made

namespace Ledger

variable {made recovered length : Nat} {bs bs' : List Buffer} {b : Buffer}

theorem nil (length : Nat) : Ledger 0 0 length [] :=
  ⟨List.nodup_nil, by simp, by simp, rfl⟩

/-- An account does not depend on where buffers are or on what they hold. -/
theorem perm (h : Ledger made recovered length bs)
    (hp : (bs'.map Buffer.shape).Perm (bs.map Buffer.shape)) :
    Ledger made recovered length bs' := by
  have tags : (bs'.map Buffer.tag).Perm (bs.map Buffer.tag) := by
    simpa [Function.comp_def, Buffer.shape] using hp.map Prod.fst
  have shapes : ∀ b ∈ bs', ∃ b₀ ∈ bs, b₀.shape = b.shape := fun b hb =>
    List.mem_map.1 (hp.subset (List.mem_map_of_mem hb))
  refine ⟨tags.nodup_iff.2 h.nodup, fun b hb => ?_, fun b hb => ?_, ?_⟩
  · obtain ⟨b₀, hb₀, e⟩ := shapes b hb
    have tag : b₀.tag = b.tag := congrArg Prod.fst e
    exact tag ▸ h.tag_lt b₀ hb₀
  · obtain ⟨b₀, hb₀, e⟩ := shapes b hb
    have len : b₀.samples.length = b.samples.length := congrArg Prod.snd e
    exact len ▸ h.length_eq b₀ hb₀
  · have := hp.length_eq
    simp only [List.length_map] at this
    rw [this, h.count]

/-- A new buffer has a tag of its own. -/
theorem cons (h : Ledger made recovered length bs) (hb : b.shape = (made, length)) :
    Ledger (made + 1) recovered length (b :: bs) := by
  have tag : b.tag = made := congrArg Prod.fst hb
  refine ⟨?_, ?_, ?_, ?_⟩
  · refine List.nodup_cons.2 ⟨fun mem => ?_, h.nodup⟩
    obtain ⟨b', hb', e⟩ := List.mem_map.1 mem
    have := h.tag_lt b' hb'
    omega
  · refine List.forall_mem_cons.2 ⟨by omega, fun b' hb' => ?_⟩
    have := h.tag_lt b' hb'
    omega
  · exact List.forall_mem_cons.2 ⟨congrArg Prod.snd hb, h.length_eq⟩
  · have := h.count
    simp only [List.length_cons]
    omega

/-- Buffers are counted and let go. -/
theorem release (h : Ledger made recovered length (bs ++ bs')) :
    Ledger made (recovered + bs.length) length bs' := by
  refine ⟨?_, fun b hb => h.tag_lt b (List.mem_append_right _ hb),
    fun b hb => h.length_eq b (List.mem_append_right _ hb), ?_⟩
  · have := h.nodup
    rw [List.map_append] at this
    exact (List.nodup_append.1 this).2.1
  · have := h.count
    simp only [List.length_append] at this
    omega

/-- **Where none was let go, every buffer made is there, and there once.** -/
theorem perm_range (h : Ledger made 0 length bs) :
    (bs.map Buffer.tag).Perm (List.range made) := by
  have sub : bs.map Buffer.tag ⊆ List.range made := fun i hi => by
    obtain ⟨b, hb, rfl⟩ := List.mem_map.1 hi
    exact List.mem_range.2 (h.tag_lt b hb)
  refine (h.nodup.subperm sub).perm_of_length_le ?_
  have := h.count
  simp only [List.length_range, List.length_map]
  omega

end Ledger

end SynthBridge
