import SynthBridge.Proofs.Bridge.Threads

/-!
# Steps of the controller

Every step of closing a session (`Bridge.Closing.Holds.step`) and every step of opening one
(`Bridge.Opening.Holds.step`) leaves in the slots of a bridge what is to be there then.
-/

namespace SynthBridge

namespace Bridge

variable {α σ : Type}

/-! ## Steps of closing -/

section Close

variable {x : Slots α} {p : Pipeline} {t t' : Teardown} {ds : List Delivery}

theorem Slots.Running.startTeardown (h : x.Running none ds) :
    x.Running (some .clearFlag) ds := by
  obtain ⟨p, ⟨present, capacity, conserved, orderly⟩, tallied, held⟩ := h
  obtain ⟨pl, here⟩ := Option.isSome_iff_exists.1 (held rfl)
  obtain ⟨total, slot, pipeline, renderer⟩ := x
  obtain rfl : slot = some pl := here
  exact ⟨p, ⟨present, capacity, conserved.startTeardown, orderly.startTeardown⟩,
    tallied.startTeardown, nofun⟩

/-- The slots after a step of the teardown. -/
def Slots.torn (x : Slots α) (player : Option Player) (p : Pipeline) : Slots α :=
  { x with player, pipeline := some p }

theorem Slots.Running.tearDown {player' : Option Player} {p' : Pipeline}
    (h : x.Running (some t) ds) (present : x.pipeline = some p)
    (m : Teardown.Move t p x.player (x.renderer.all Renderer.isGone) t' p' player') :
    (x.torn player' p').Running (some t') ds := by
  obtain ⟨p₀, ⟨same, capacity, conserved, orderly⟩, tallied, -⟩ := h
  obtain rfl : p₀ = p := Option.some.inj (same.symm.trans present)
  have sizes : p'.capacity = p₀.capacity := congrArg Sizes.capacity m.sizes_eq
  refine ⟨p', ⟨rfl, sizes.trans capacity, conserved.tearDown m, orderly.tearDown ?_ m⟩,
    tallied.tearDown orderly m, nofun⟩
  intro gone r here
  simpa [here] using gone

/-- **When the render thread has left, every buffer is counted or queued.** -/
theorem Slots.Running.settled {recovered : Nat} {played : UInt64}
    (h : x.Running (some (.reclaim recovered played)) ds) :
    x.player = none ∧ ∃ p, x.pipeline = some p ∧
      Settled x.capacity ds (.reclaim recovered played) p := by
  obtain ⟨p, ⟨present, capacity, conserved, orderly⟩, tallied, -⟩ := h
  have taken : x.player = none := orderly.released (by simp)
  have counted := tallied.counted _ _ (.inr rfl)
  refine ⟨taken, p, present, capacity, recovered, by rw [counted], ?_⟩
  have idle : x.renderer.elim [] Renderer.hands = [] ∧ x.renderer.elim 0 Renderer.left = 0 := by
    cases here : x.renderer with
    | none => exact ⟨rfl, rfl⟩
    | some r =>
      have gone := orderly.gone (by simp) r here
      unfold Renderer.isGone at gone
      split at gone <;> simp_all [Renderer.hands, Renderer.left]
  have count := conserved.ledger.count
  have made := conserved.made
  simp only [Crew.buffers_mk, Crew.unmade_of_teardown, idle, taken, Option.elim_none,
    Option.elim_some, Crew.recovered, Teardown.recovered, Teardown.hands, List.append_nil,
    List.length_append] at count made
  simp only [Queue.size]
  omega

variable [Amplitude α] {b b' : Bridge α σ} {s : Session} {stage : Closing} {next : Option UInt32}

omit [Amplitude α] in
/-- The controller goes on to another stage of closing. -/
theorem sound_closing (here : b'.controller = .closing s stage next) (closed : b'.session = none)
    (slot : b'.player = b.player ∨ b'.player = none) (holds : stage.Holds b'.slots ds) :
    b'.Sound (record ds b.player b'.player) := by
  rw [record_eq_self ds slot, Sound, here]
  exact ⟨closed, holds⟩

omit [Amplitude α] in
/-- The controller is done, or goes on to open a session. -/
theorem sound_vacant (free : b'.controller = .idle ∨ ∃ rate, b'.controller = .opening rate .create)
    (closed : b'.session = none) (slot : b'.player = b.player ∨ b'.player = none)
    (vacant : b'.slots.Vacant) : b'.Sound (record ds b.player b'.player) := by
  rw [record_eq_self ds slot, Sound]
  rcases free with idle | ⟨rate, opens⟩
  · rw [idle]
    exact .inl ⟨closed, vacant⟩
  · rw [opens]
    exact ⟨closed, vacant⟩

/-- **Every step of closing a session keeps a bridge sound.** -/
theorem Closing.Holds.step (closed : b.session = none) (h : stage.Holds b.slots ds)
    (step : b.stepClosing s next stage = some b') : b'.Sound (record ds b.player b'.player) := by
  cases move_of_stepClosing step with
  | disable =>
    exact sound_closing rfl closed (.inl rfl) ⟨Slots.Running.startTeardown h, by simp⟩
  | tear unfinished present move =>
    exact sound_closing rfl closed move.slot_eq
      ⟨h.1.tearDown present move, move.phase_le unfinished⟩
  | join =>
    obtain ⟨taken, p, present, settled⟩ := h.1.settled
    exact sound_closing rfl closed (.inl rfl) ⟨taken, rfl, p, present, settled⟩
  | closeEngine =>
    obtain ⟨calls, same⟩ := closeEngine_eq b
    rw [same]
    exact sound_closing rfl closed (.inl rfl) h
  | clearPipeline present =>
    obtain ⟨taken, gone, p, present', settled⟩ := h
    obtain rfl := Option.some.inj (present'.symm.trans present)
    exact sound_closing rfl closed (.inl rfl) ⟨⟨taken, rfl, gone⟩, settled⟩
  | dropChannel => exact sound_closing rfl closed (.inl rfl) h
  | count counted =>
    obtain ⟨vacant, capacity, recovered, rfl, whole⟩ := h
    simp only [Teardown.advance, Option.some.injEq, Prod.mk.injEq, Teardown.finished.injEq,
      Pipeline.reclaim, whole] at counted
    obtain ⟨⟨rfl, rfl⟩, -, -⟩ := counted
    refine sound_closing rfl closed (.inl rfl) ⟨vacant, ?_⟩
    rw [capacity]
    rfl
  | clearLimiter => exact sound_closing rfl closed (.inl rfl) h
  | finish last => exact sound_vacant (.inl rfl) closed (.inl rfl) h.1
  | reopen more => exact sound_vacant (.inr ⟨_, rfl⟩) closed (.inl rfl) h.1

end Close

/-! ## Steps of opening -/

section Open

variable {b b' : Bridge α σ} {s : Session} {stage : Opening σ} {rate : UInt32}
  {ds : List Delivery} {p p' : Pipeline} {pl pl' : Player}

/-- The controller goes on to another stage of opening. -/
theorem sound_opening (here : b'.controller = .opening rate stage) (closed : b'.session = none)
    (slot : b'.player = b.player ∨ b'.player = none) (holds : stage.Holds b'.slots ds) :
    b'.Sound (record ds b.player b'.player) := by
  rw [record_eq_self ds slot, Sound, here]
  exact ⟨closed, holds⟩

/-- The bridge is open. -/
theorem sound_open (idle : b'.controller = .idle) (session : b'.session = some s)
    (slot : b'.player = b.player) (running : b'.slots.Running none ds) :
    b'.Sound (record ds b.player b'.player) := by
  rw [record_eq_self ds (.inl slot), Sound, idle]
  exact .inr ⟨by simp [session], running⟩

theorem Slots.Staffed.makePlayer {x : Slots α} (h : x.Staffed p none none) :
    Slots.Staffed { x with pipeline := some (Player.new p).2 } (Player.new p).2
      (some (Player.new p).1.startPrime) none :=
  ⟨rfl, h.capacity, h.conserved.makePlayer.begin (by simp), h.orderly.makePlayer.begin rfl .priming⟩

theorem capacity_of_check {frames capacity : Nat} {sizes : Sizes}
    (h : Sizes.check frames capacity = .ok sizes) : sizes.capacity = capacity := by
  unfold Sizes.check at h
  split at h
  · split at h
    · obtain ⟨rfl⟩ := h
      rfl
    · cases h
  · cases h

variable {E : Engine α σ} {t : FileTree}

theorem prime_step (closed : b.session = none)
    (h : Opening.Holds (σ := σ) b.slots ds (.prime s pl)) (busy : ¬pl.isFree = true)
    (present : b.pipeline = some p) (move : Player.Move pl p pl' p') :
    Sound { b.opening rate (.prime s pl') with pipeline := some p' }
      (record ds b.player b.player) := by
  obtain ⟨slot, p₀, staffed, primed⟩ := h
  obtain rfl : p₀ = p := Option.some.inj (staffed.present.symm.trans present)
  have priming : pl.task = .priming := primed.resolve_right fun free => busy free.1
  exact sound_opening rfl closed (.inl rfl)
    ⟨slot, p', staffed.play move _, Crew.Tallied.of_priming move priming staffed.orderly⟩

/-- **Every step of opening a session keeps a bridge sound.** -/
theorem Opening.Holds.step (closed : b.session = none) (h : stage.Holds b.slots ds)
    (m : Opening.Move E t b rate stage b') : b'.Sound (record ds b.player b'.player) := by
  cases m with
  | missing => exact sound_vacant (.inl rfl) closed (.inl rfl) h
  | leave => exact sound_vacant (.inl rfl) closed (.inl rfl) h
  | fits checked => exact sound_opening rfl closed (.inl rfl) ⟨h, capacity_of_check checked⟩
  | fillPipeline =>
    obtain ⟨vacant, capacity⟩ := h
    exact sound_opening rfl closed (.inl rfl)
      ⟨vacant.player, vacant.renderer, _, rfl, capacity⟩
  | spawn present =>
    obtain ⟨slot, gone, sizes, present', capacity⟩ := h
    obtain rfl := Option.some.inj (present'.symm.trans present)
    refine sound_opening rfl closed (.inl rfl) ⟨slot, .new sizes, ?_⟩
    exact ⟨present, capacity, .start sizes, .start sizes⟩
  | withdrawEngine =>
    obtain ⟨calls, same⟩ := closeEngine_eq b
    rw [same]
    exact sound_opening rfl closed (.inl rfl) h
  | withdrawPipeline =>
    obtain ⟨slot, gone, -⟩ := h
    exact sound_opening rfl closed (.inl rfl) ⟨slot, rfl, gone⟩
  | makePlayer present =>
    obtain ⟨slot, p, staffed⟩ := h
    obtain rfl := Option.some.inj (staffed.present.symm.trans present)
    exact sound_opening rfl closed (.inl rfl) ⟨slot, _, staffed.makePlayer, .inl rfl⟩
  | prime busy present move => exact prime_step closed h busy present move
  | primed free =>
    obtain ⟨slot, p, staffed, primed⟩ := h
    refine sound_opening rfl closed (.inl rfl) ⟨slot, p, staffed, ?_⟩
    exact (primed.resolve_left fun task => by simp [Player.isFree, task] at free).2
  | @fillPlayer _ pl =>
    obtain ⟨slot, p, staffed, tallied⟩ := h
    have anew : record ds b.player (some pl) = [] := by
      rw [show b.player = none from slot, record]
    have running : Slots.Running { b.slots with player := some pl } none [] :=
      ⟨p, ⟨staffed.present, staffed.capacity, staffed.conserved, staffed.orderly⟩, tallied,
        fun _ => rfl⟩
    rw [← anew] at running
    exact ⟨closed, running⟩
  | finish => exact sound_open rfl rfl rfl h
  | _ => exact sound_opening rfl closed (.inl rfl) h

end Open

end Bridge

end SynthBridge
