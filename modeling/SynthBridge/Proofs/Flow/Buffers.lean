import SynthBridge.Proofs.Flow.Crew
import SynthBridge.Proofs.Sound.Block

/-!
# The buffers of a crew

No step of a render thread, a player or a teardown loses, doubles or cuts a buffer: each of them
keeps `Crew.Conserved`, by which the buffers in the queues and in everybody's hands are those that
were made, but for those that a teardown has counted.
-/

namespace SynthBridge

variable {α σ : Type}

/-! ## What fits -/

/-- A rendered quantum on its way is as long as it has to be. -/
def Renderer.Fits (frames : Nat) (r : Renderer α) : Prop :=
  match r.stage with
  | .taking samples | .limiting samples _ => samples.length = 2 * frames
  | _ => True

theorem Renderer.length_quantum [Amplitude α] {source : Source α σ} {frames : Nat}
    {service service' : Option σ} {samples : List α}
    (rendered : Renderer.quantum source frames service = some (samples, service')) :
    samples.length = 2 * frames := by
  cases service with
  | none =>
    cases rendered
    exact List.length_replicate
  | some s =>
    simp only [Renderer.quantum, Option.map_eq_some_iff, Prod.mk.injEq] at rendered
    obtain ⟨⟨xs, s'⟩, h, rfl, -⟩ := rendered
    exact source.length_render s frames xs s' h

/-- The position lies in the buffer, and what is wanted is what is missing in the region. -/
structure Player.Fits (frames : Nat) (pl : Player) : Prop where
  offset_le : pl.cursor.frameOffset ≤ frames
  region : ∀ wanted out length, pl.task = .pulling wanted out length →
    out.size + 2 * wanted = 2 * (length / 2)

theorem Player.length_slice {b : Buffer} {offset n frames : Nat}
    (length : b.samples.length = 2 * frames) (h : offset + n ≤ frames) :
    (Player.slice b offset n).length = 2 * n := by
  simp only [Player.slice, List.length_take, List.length_drop, length]
  omega

/-- A step of a player keeps its position in the buffer, if its buffer has the right length. -/
theorem Player.Fits.move {pl pl' : Player} {p p' : Pipeline} (fits : pl.Fits p.frames)
    (length : ∀ b, pl.current = some b → b.samples.length = 2 * p.frames)
    (m : Player.Move pl p pl' p') : pl'.Fits p.frames := by
  cases m with
  | giveBack spent held room => exact ⟨fits.offset_le, fits.region⟩
  | primed task empty ready => exact ⟨Nat.zero_le _, by simp⟩
  | unprimed task empty ready woken => exact ⟨Nat.zero_le _, by simp⟩
  | @copy b wanted asked n out task held left count =>
    have within : pl.cursor.frameOffset + n ≤ p.frames := by omega
    refine ⟨within, ?_⟩
    rintro _ _ _ ⟨⟩
    have := fits.region _ _ _ task
    have := Player.length_slice (length b held) within
    rw [← Array.length_toList, Array.toList_appendList, List.length_append, Array.length_toList]
    omega
  | next task empty ready =>
    refine ⟨Nat.zero_le _, ?_⟩
    rintro _ _ _ ⟨⟩
    exact fits.region _ _ _ task
  | finish task complete => exact ⟨fits.offset_le, by simp⟩

/-! ## Counting buffers -/

/-- How often a shape occurs in a list of buffers. -/
def occurs (x : Nat × Nat) (bs : List Buffer) : Nat := (bs.map Buffer.shape).count x

@[simp] theorem occurs_append (x : Nat × Nat) (bs bs' : List Buffer) :
    occurs x (bs ++ bs') = occurs x bs + occurs x bs' := by
  simp [occurs, List.count_append]

@[simp] theorem occurs_cons (x : Nat × Nat) (b : Buffer) (bs : List Buffer) :
    occurs x (b :: bs) = occurs x bs + if b.shape = x then 1 else 0 := by
  simp [occurs, List.count_cons]

@[simp] theorem occurs_nil (x : Nat × Nat) : occurs x [] = 0 := rfl

theorem perm_of_occurs {bs bs' : List Buffer} (h : ∀ x, occurs x bs' = occurs x bs) :
    (bs'.map Buffer.shape).Perm (bs.map Buffer.shape) :=
  List.perm_iff_count.2 h

/-- A step of a player moves a buffer between its hands and the queues, or none. -/
theorem Player.Move.occurs_eq {pl pl' : Player} {p p' : Pipeline} (m : Player.Move pl p pl' p')
    (x : Nat × Nat) :
    occurs x p'.backstock.items + occurs x p'.playable.items + occurs x pl'.hands =
      occurs x p.backstock.items + occurs x p.playable.items + occurs x pl.hands := by
  cases m with
  | giveBack spent held room => simp [Player.hands, held]; omega
  | primed task empty ready => simp [Player.hands, empty, ready]; omega
  | unprimed task empty ready woken => simp [Player.hands, empty]
  | copy task held left count => simp [Player.hands, held]
  | next task empty ready => simp [Player.hands, empty, ready]; omega
  | finish task complete => rfl

namespace Crew

/-- No buffer is lost, doubled or cut, and no queue grows beyond its capacity. -/
structure Conserved (c : Crew α) : Prop where
  backstock_capacity : c.pipeline.backstock.capacity = c.pipeline.capacity
  playable_capacity : c.pipeline.playable.capacity = c.pipeline.capacity
  ledger : Ledger c.pipeline.made c.recovered (2 * c.pipeline.frames) c.buffers
  made : c.pipeline.made + c.unmade = c.pipeline.capacity
  left_lt : c.renderer.elim 0 Renderer.left < c.pipeline.capacity
  quantum : ∀ r, c.renderer = some r → r.Fits c.pipeline.frames
  cursor : ∀ pl, c.player = some pl → pl.Fits c.pipeline.frames

theorem buffers_mk {p : Pipeline} {renderer : Option (Renderer α)} {player : Option Player}
    {teardown : Option Teardown} :
    (⟨p, renderer, player, teardown⟩ : Crew α).buffers =
      p.backstock.items ++ renderer.elim [] Renderer.hands ++ p.playable.items ++
        player.elim [] Player.hands ++ teardown.elim [] Teardown.hands := rfl

theorem unmade_of_teardown {p : Pipeline} {renderer : Option (Renderer α)}
    {player : Option Player} {t : Teardown} :
    (⟨p, renderer, player, some t⟩ : Crew α).unmade = renderer.elim 0 Renderer.left := by
  simp [unmade]

namespace Conserved

variable {c : Crew α} {p p' : Pipeline} {r r' : Renderer α} {pl pl' : Player}
  {renderer : Option (Renderer α)} {player player' : Option Player} {t t' : Teardown}
  {teardown : Option Teardown} {gone : Bool}

theorem length_held (h : Conserved ⟨p, renderer, some pl, teardown⟩) {b : Buffer}
    (held : pl.current = some b) : b.samples.length = 2 * p.frames :=
  h.ledger.length_eq b (by simp [buffers_mk, Player.hands, held])

theorem length_hands (h : Conserved ⟨p, some r, player, teardown⟩) {b : Buffer}
    (mem : b ∈ r.hands) : b.samples.length = 2 * p.frames :=
  h.ledger.length_eq b (by simp [buffers_mk, mem])

/-- What is limited and what it is limited into are both one quantum long. -/
theorem length_limiting (h : Conserved ⟨p, some r, player, teardown⟩) {samples : List α}
    {b : Buffer} (stage : r.stage = .limiting samples b) :
    samples.length = 2 * p.frames ∧ b.samples.length = 2 * p.frames := by
  refine ⟨?_, h.length_hands (by simp [Renderer.hands, stage])⟩
  simpa [Renderer.Fits, stage] using h.quantum r rfl

/-- At the start there are no buffers, and the render thread is to make all but one. -/
theorem start (sizes : Sizes) :
    Conserved ⟨.new sizes, some (.new (.new sizes) : Renderer α), none, none⟩ := by
  have := sizes.two_le_capacity
  refine ⟨rfl, rfl, .nil _, ?_, ?_, ?_, ?_⟩
  · simp [unmade, Pipeline.new, Renderer.new, Renderer.left, Pipeline.capacity]
    omega
  · simp [Pipeline.new, Renderer.new, Renderer.left, Pipeline.capacity]
    omega
  · rintro _ ⟨⟩
    trivial
  · rintro _ ⟨⟩

/-! ## Steps of the player -/

theorem play (h : Conserved ⟨p, renderer, some pl, teardown⟩) (m : Player.Move pl p pl' p') :
    Conserved ⟨p', renderer, some pl', teardown⟩ := by
  have fits : pl'.Fits p.frames := (h.cursor pl rfl).move (fun b => h.length_held) m
  have count := m.occurs_eq
  obtain ⟨spare, ready, played, rfl⟩ := m.pipeline_eq
  refine ⟨h.backstock_capacity, h.playable_capacity, h.ledger.perm (perm_of_occurs fun x => ?_),
    h.made, h.left_lt, h.quantum, ?_⟩
  · have := count x
    simp only [buffers_mk, occurs_append, Option.elim] at this ⊢
    omega
  · rintro _ ⟨⟩
    exact fits

/-! ## Steps of the controller -/

/-- The player is made while there is none. -/
theorem makePlayer (h : Conserved ⟨p, renderer, none, none⟩) :
    Conserved ⟨(Player.new p).2, renderer, some (Player.new p).1, none⟩ := by
  refine ⟨h.backstock_capacity, h.playable_capacity, ?_, ?_, h.left_lt, h.quantum, ?_⟩
  · have fresh : (p.newBuffer.1).shape = (p.made, 2 * p.frames) := by
      simp [Pipeline.newBuffer, Buffer.shape]
    refine (h.ledger.cons fresh).perm (perm_of_occurs fun x => ?_)
    simp [Player.new, Pipeline.newBuffer, buffers_mk, Player.hands]
    omega
  · have := h.made
    simp [unmade, Player.new, Pipeline.newBuffer, Pipeline.capacity] at this ⊢
    omega
  · rintro _ ⟨⟩
    exact ⟨Nat.le_refl _, by simp [Player.new]⟩

/-- The player begins with something else. -/
theorem begin (h : Conserved ⟨p, renderer, some pl, teardown⟩) {task : Player.Task}
    (region : ∀ wanted out length, task = .pulling wanted out length →
      out.size + 2 * wanted = 2 * (length / 2)) :
    Conserved ⟨p, renderer, some { pl with task }, teardown⟩ := by
  refine ⟨h.backstock_capacity, h.playable_capacity, h.ledger, h.made, h.left_lt, h.quantum, ?_⟩
  rintro _ ⟨⟩
  exact ⟨(h.cursor pl rfl).offset_le, region⟩

theorem startTeardown (h : Conserved ⟨p, renderer, some pl, none⟩) :
    Conserved ⟨p, renderer, some pl, some .clearFlag⟩ :=
  ⟨h.backstock_capacity, h.playable_capacity, h.ledger, h.made, h.left_lt, h.quantum, h.cursor⟩

/-- The controller has moved or counted buffers: those in `gone` are counted. -/
theorem account (h : Conserved ⟨p, renderer, player, some t⟩) (gone : List Buffer)
    (frame : p'.sizes = p.sizes ∧ p'.made = p.made ∧
      p'.backstock.capacity = p.backstock.capacity ∧ p'.playable.capacity = p.playable.capacity)
    (taken : ∀ pl, player' = some pl → player = some pl)
    (recovered : t'.recovered = t.recovered + gone.length)
    (count : ∀ x, occurs x gone + occurs x p'.backstock.items + occurs x p'.playable.items +
        occurs x (player'.elim [] Player.hands) + occurs x t'.hands =
      occurs x p.backstock.items + occurs x p.playable.items +
        occurs x (player.elim [] Player.hands) + occurs x t.hands) :
    Conserved ⟨p', renderer, player', some t'⟩ := by
  obtain ⟨sizes, made, backstock, playable⟩ := frame
  have frames : p'.frames = p.frames := by rw [Pipeline.frames, sizes, Pipeline.frames]
  have capacity : p'.capacity = p.capacity := by rw [Pipeline.capacity, sizes, Pipeline.capacity]
  have ledger : Ledger p.made t.recovered (2 * p.frames)
      (gone ++ buffers ⟨p', renderer, player', some t'⟩) := by
    refine h.ledger.perm (perm_of_occurs fun x => ?_)
    have := count x
    simp only [buffers_mk, occurs_append, Option.elim] at this ⊢
    omega
  refine ⟨?_, ?_, ?_, ?_, ?_, ?_, ?_⟩
  · exact backstock.trans (h.backstock_capacity.trans capacity.symm)
  · exact playable.trans (h.playable_capacity.trans capacity.symm)
  · have := ledger.release
    rw [← recovered, ← made, ← frames] at this
    exact this
  · have := h.made
    simp only [unmade_of_teardown, made, capacity] at this ⊢
    exact this
  · simpa only [capacity] using h.left_lt
  · simpa only [frames] using h.quantum
  · intro pl hpl
    exact frames ▸ h.cursor pl (taken pl hpl)

theorem tearDown (h : Conserved ⟨p, renderer, player, some t⟩)
    (m : Teardown.Move t p player gone t' p' player') :
    Conserved ⟨p', renderer, player', some t'⟩ := by
  have same : ∀ pl, player = some pl → player = some pl := fun _ => id
  cases m with
  | clearFlag stage =>
    exact h.account [] ⟨rfl, rfl, rfl, rfl⟩ same (by simp [stage, Teardown.recovered])
      fun x => by simp [stage, Teardown.hands, Pipeline.clearFlag]
  | wake stage =>
    exact h.account [] ⟨rfl, rfl, rfl, rfl⟩ same (by simp [stage, Teardown.recovered])
      fun x => by simp [stage, Teardown.hands, Pipeline.wake, Queue.interrupt]
  | takePlayer stage free =>
    refine h.account [] ⟨rfl, rfl, rfl, rfl⟩ (by simp) (by simp [stage, Teardown.recovered])
      fun x => ?_
    cases player <;> simp [stage, Teardown.hands, Player.hands]
  | lend stage held empty =>
    exact h.account [] ⟨rfl, rfl, rfl, rfl⟩ same (by simp [stage, Teardown.recovered])
      fun x => by simp [stage, Teardown.hands, held]
  | @keep _ b stage held stocked =>
    refine h.account [b] ⟨rfl, rfl, rfl, rfl⟩ same (by simp [stage, Teardown.recovered])
      fun x => ?_
    simp [stage, Teardown.hands, held]
    omega
  | without stage held =>
    exact h.account [] ⟨rfl, rfl, rfl, rfl⟩ same (by simp [stage, Teardown.recovered])
      fun x => by simp [stage, Teardown.hands, held]
  | handOver stage room =>
    refine h.account [] ⟨rfl, rfl, rfl, rfl⟩ same (by simp [stage, Teardown.recovered])
      fun x => ?_
    simp [stage, Teardown.hands]
    omega
  | @drain recovered b rest stage ready =>
    refine h.account [b] ⟨rfl, rfl, rfl, rfl⟩ same (by simp [stage, Teardown.recovered])
      fun x => ?_
    simp [stage, Teardown.hands, ready]
    omega
  | drained stage ready =>
    exact h.account [] ⟨rfl, rfl, rfl, rfl⟩ same (by simp [stage, Teardown.recovered])
      fun x => by simp [stage, Teardown.hands]
  | join stage left =>
    exact h.account [] ⟨rfl, rfl, rfl, rfl⟩ same (by simp [stage, Teardown.recovered])
      fun x => by simp [stage, Teardown.hands]
  | reclaim stage =>
    refine h.account (p.backstock.items ++ p.playable.items) ⟨rfl, rfl, rfl, rfl⟩ same
      (by simp [stage, Teardown.recovered, Queue.size]) fun x => ?_
    simp [stage, Teardown.hands]

/-! ## Steps of the render thread -/

/-- Buffers in the render thread's reach have been moved or refilled. -/
theorem reorder (h : Conserved ⟨p, some r, player, teardown⟩) (spare ready : List Buffer)
    (left : r'.left = r.left) (fits : r'.Fits p.frames)
    (count : ∀ x, occurs x spare + occurs x ready + occurs x r'.hands =
      occurs x p.backstock.items + occurs x p.playable.items + occurs x r.hands) :
    Conserved ⟨{ p with backstock.items := spare, playable.items := ready }, some r', player,
      teardown⟩ := by
  refine ⟨h.backstock_capacity, h.playable_capacity, h.ledger.perm (perm_of_occurs fun x => ?_),
    ?_, ?_, ?_, h.cursor⟩
  · have := count x
    simp only [buffers_mk, occurs_append, Option.elim] at this ⊢
    omega
  · have := h.made
    simp only [unmade, Option.elim, left] at this ⊢
    exact this
  · have := h.left_lt
    simp only [Option.elim, left] at this ⊢
    exact this
  · rintro _ ⟨⟩
    exact fits

/-- The render thread goes on with what it has in its hands. -/
theorem proceed (h : Conserved ⟨p, some r, player, teardown⟩) (left : r'.left = r.left)
    (fits : r'.Fits p.frames) (hands : r'.hands = r.hands) :
    Conserved ⟨p, some r', player, teardown⟩ :=
  h.reorder _ _ left fits fun x => by rw [hands]

/-- A buffer is made and goes to backstock. -/
theorem make (h : Conserved ⟨p, some r, player, teardown⟩) {left : Nat}
    (stage : r.stage = .filling (left + 1)) :
    Conserved ⟨{ p with
      backstock.items := p.backstock.items ++ [p.newBuffer.1]
      made := p.made + 1 }, some { r with stage := .filling left }, player, teardown⟩ := by
  refine ⟨h.backstock_capacity, h.playable_capacity, ?_, ?_, ?_, ?_, h.cursor⟩
  · have fresh : (p.newBuffer.1).shape = (p.made, 2 * p.frames) := by
      simp [Pipeline.newBuffer, Buffer.shape]
    refine (h.ledger.cons fresh).perm (perm_of_occurs fun x => ?_)
    simp [buffers_mk, Renderer.hands, stage]
    omega
  · have := h.made
    simp only [unmade, Option.elim, Renderer.left, stage, Pipeline.capacity] at this ⊢
    omega
  · have := h.left_lt
    simp only [Option.elim, Renderer.left, stage, Pipeline.capacity] at this ⊢
    omega
  · rintro _ ⟨⟩
    trivial

variable [Amplitude α] {source : Source α σ} {s s' : Shared α σ}

theorem render (h : Conserved ⟨s.pipeline, some r, player, teardown⟩)
    (m : Renderer.Move source r s r' s') :
    Conserved ⟨s'.pipeline, some r', player, teardown⟩ := by
  have quantum : r.Fits s.pipeline.frames := h.quantum r rfl
  cases m with
  | filled stage =>
    exact h.proceed (by simp [Renderer.left, stage]) trivial (by simp [Renderer.hands, stage])
  | fill stage room => exact h.make stage
  | goOn stage flag =>
    exact h.proceed (by simp [Renderer.left, stage]) trivial (by simp [Renderer.hands, stage])
  | obey stage flag =>
    exact h.proceed (by simp [Renderer.left, stage]) trivial (by simp [Renderer.hands, stage])
  | render stage rendered =>
    exact h.proceed (by simp [Renderer.left, stage]) (Renderer.length_quantum rendered)
      (by simp [Renderer.hands, stage])
  | panic stage rendered =>
    exact h.proceed (by simp [Renderer.left, stage]) trivial (by simp [Renderer.hands, stage])
  | @take samples b rest stage ready =>
    refine h.reorder rest s.pipeline.playable.items (by simp [Renderer.left, stage])
      (by simpa [Renderer.Fits, stage] using quantum) fun x => ?_
    simp [Renderer.hands, stage, ready]
    omega
  | quit stage ready broken =>
    exact h.proceed (by simp [Renderer.left, stage]) trivial (by simp [Renderer.hands, stage])
  | limit stage fits =>
    obtain ⟨input, output⟩ := h.length_limiting stage
    rw [Limiter.processInto?_of_length _ input output, Option.some.injEq] at fits
    have filled := s.limiter.length_process input
    rw [fits] at filled
    refine h.reorder s.pipeline.backstock.items s.pipeline.playable.items
      (by simp [Renderer.left, stage]) trivial fun x => ?_
    simp [Renderer.hands, stage, Buffer.shape, output, filled]
  | overrun stage fits =>
    obtain ⟨input, output⟩ := h.length_limiting stage
    rw [Limiter.processInto?_of_length _ input output] at fits
    cases fits
  | @queue b stage room =>
    refine h.reorder s.pipeline.backstock.items (s.pipeline.playable.items ++ [b])
      (by simp [Renderer.left, stage]) trivial fun x => ?_
    simp [Renderer.hands, stage]
    omega

end Conserved

end Crew

end SynthBridge
