import SynthBridge.Proofs.Bridge.Moves
import SynthBridge.Proofs.Flow.Supply
import SynthBridge.Proofs.Flow.Tally

/-!
# What the slots of a bridge hold

From the first step of opening a session to the last of closing it, the slots of a bridge hold
what the controller has put there, and those who work on the pipeline in between keep its buffers
conserved, in order, and counted. `Bridge.Sound` says this for every point at which the controller
may be.
-/

namespace SynthBridge

namespace Bridge

variable {α σ : Type}

/-! ## The deliveries of a session -/

/-- The deliveries of the present session: they begin anew when there is a player again. -/
def record (ds : List Delivery) : Option Player → Option Player → List Delivery
  | none, some _ => []
  | before, after => ds ++ Delivery.ofStep before after

/-- Nothing is delivered where the player stays as it is or is taken away. -/
theorem record_eq_self (ds : List Delivery) {player player' : Option Player}
    (slot : player' = player ∨ player' = none) : record ds player player' = ds := by
  rcases slot with rfl | rfl
  · cases player' <;> simp [record]
  · cases player <;> simp [record, Delivery.ofStep]

/-- The state after a schedule, if every label of it has a step, and the deliveries of the session
then. -/
def listen? [Amplitude α] (E : Engine α σ) (t : FileTree) (b : Bridge α σ) (ds : List Delivery) :
    List (Label α) → Option (Bridge α σ × List Delivery)
  | [] => some (b, ds)
  | label :: rest =>
    (b.step E t label).bind fun b' => b'.listen? E t (record ds b.player b'.player) rest

/-- What every step keeps holds after every run. -/
theorem listen?_induction [Amplitude α] {E : Engine α σ} {t : FileTree}
    {P : Bridge α σ → List Delivery → Prop} (allowed : Label α → Prop)
    (step : ∀ b ds label b', P b ds → allowed label → Move E t b label b' →
      P b' (record ds b.player b'.player))
    {b b' : Bridge α σ} {ds ds' : List Delivery} {schedule : List (Label α)} (start : P b ds)
    (labels : ∀ x ∈ schedule, allowed x) (run : b.listen? E t ds schedule = some (b', ds')) :
    P b' ds' := by
  induction schedule generalizing b ds with
  | nil =>
    obtain ⟨rfl, rfl⟩ := run
    exact start
  | cons label rest ih =>
    simp only [listen?, Option.bind_eq_some_iff] at run
    obtain ⟨b₁, first, run⟩ := run
    obtain ⟨here, labels⟩ := List.forall_mem_cons.1 labels
    exact ih (step b ds label b₁ start here (move_of_step first)) labels run

/-! ## The slots -/

/-- What a session's buffers depend on. -/
structure Slots (α : Type) where
  /-- The capacity that is asked for. -/
  capacity : Nat
  player : Option Player
  pipeline : Option Pipeline
  renderer : Option (Renderer α)

def slots (b : Bridge α σ) : Slots α := ⟨b.setup.capacity, b.player, b.pipeline, b.renderer⟩

theorem Aside.slots {b b' : Bridge α σ} (h : b.Aside b') : b'.slots = b.slots := by
  simp only [Bridge.slots, h.setup, h.player, h.pipeline, h.renderer]

namespace Slots

/-- There is no session, nor any part of one. -/
structure Vacant (x : Slots α) : Prop where
  player : x.player = none
  pipeline : x.pipeline = none
  renderer : x.renderer = none

/-- A pipeline of the right size, whose buffers are conserved and in order; the player and the
teardown are not always in the slots. -/
structure Staffed (x : Slots α) (p : Pipeline) (player : Option Player)
    (t : Option Teardown) : Prop where
  present : x.pipeline = some p
  capacity : p.capacity = x.capacity
  conserved : Crew.Conserved ⟨p, x.renderer, player, t⟩
  orderly : Crew.Orderly ⟨p, x.renderer, player, t⟩

/-- The player is primed and in its slot, until it is taken out, and the frames are counted. -/
def Running (x : Slots α) (t : Option Teardown) (ds : List Delivery) : Prop :=
  ∃ p, x.Staffed p x.player t ∧ Crew.Tallied ⟨p, x.renderer, x.player, t⟩ ds ∧
    (t = none → x.player.isSome)

end Slots

/-- The render thread has left, and what was not counted lies in the queues. -/
structure Settled (total : Nat) (ds : List Delivery) (t : Teardown) (p : Pipeline) : Prop where
  capacity : p.capacity = total
  stage : ∃ recovered, t = .reclaim recovered (UInt64.ofNat (framesOf ds)) ∧
    recovered + (p.backstock.size + p.playable.size) = total

/-- The report of a session whose buffers are all there. -/
def Report.ofSession (total : Nat) (ds : List Delivery) : Report :=
  ⟨total, total, UInt64.ofNat (framesOf ds)⟩

/-- What the slots hold while a session is opened. -/
def Opening.Holds (x : Slots α) (ds : List Delivery) : Opening σ → Prop
  | .fillEngine _ _ sizes | .fillPipeline _ sizes => x.Vacant ∧ sizes.capacity = x.capacity
  | .spawn _ | .withdrawEngine .. | .withdrawPipeline .. => x.player = none ∧ x.renderer = none ∧
    ∃ sizes, x.pipeline = some (.new sizes) ∧ sizes.capacity = x.capacity
  | .makePlayer _ => x.player = none ∧ ∃ p, x.Staffed p none none
  | .prime _ pl => x.player = none ∧ ∃ p, x.Staffed p (some pl) none ∧
    (pl.task = .priming ∨ pl.isFree = true ∧ Crew.Tallied ⟨p, x.renderer, some pl, none⟩ [])
  | .fillPlayer _ pl => x.player = none ∧ ∃ p, x.Staffed p (some pl) none ∧
    Crew.Tallied ⟨p, x.renderer, some pl, none⟩ []
  | .enable _ | .finish _ => x.Running none ds
  | _ => x.Vacant

/-- What the slots hold while a session is closed. -/
def Closing.Holds (x : Slots α) (ds : List Delivery) : Closing → Prop
  | .disable => x.Running none ds
  | .tearing t => x.Running (some t) ds ∧ t.phase ≤ 7
  | .closeEngine t | .clearPipeline t => x.player = none ∧ x.renderer = none ∧
    ∃ p, x.pipeline = some p ∧ Settled x.capacity ds t p
  | .dropChannel t p | .count t p => x.Vacant ∧ Settled x.capacity ds t p
  | .clearLimiter report | .finish report => x.Vacant ∧ report = .ofSession x.capacity ds

/-- What the slots hold, wherever the controller is. -/
def Sound (b : Bridge α σ) (ds : List Delivery) : Prop :=
  match b.controller with
  | .idle => (b.session = none ∧ b.slots.Vacant) ∨ (b.session.isSome ∧ b.slots.Running none ds)
  | .opening _ stage => b.session = none ∧ stage.Holds b.slots ds
  | .closing _ stage _ => b.session = none ∧ stage.Holds b.slots ds

end Bridge

end SynthBridge
