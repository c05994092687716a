import SynthBridge.Proofs.Flow.Effort
import SynthBridge.Proofs.Flow.Supply

/-!
# Nobody waits for ever

Buffers are conserved, so there is room in a queue whenever somebody has a buffer for it. What is
left to wait for is a rendered buffer, an idle buffer, the end of a pull, and the end of the
render thread; each of them comes, because somebody else then has a step (`Line.Lively`). That
holds at every moment of every run: `Line.never_stuck`.
-/

namespace SynthBridge

variable {α σ : Type}

/-! ## What is waited for -/

namespace Crew

variable {p : Pipeline} {r : Renderer α} {pl : Player} {renderer : Option (Renderer α)}
  {player : Option Player} {t : Teardown} {teardown : Option Teardown} {gone : Bool}

theorem Conserved.fill_room (h : Conserved ⟨p, some r, player, teardown⟩) {left : Nat}
    (stage : r.stage = .filling (left + 1)) : p.backstock.size < p.backstock.capacity := by
  have unmade : 0 < unmade ⟨p, some r, player, teardown⟩ := by
    simp only [unmade, Option.elim, Renderer.left, stage]
    omega
  exact (h.room (.inl unmade)).1

theorem Conserved.push_room (h : Conserved ⟨p, some r, player, teardown⟩) {b : Buffer}
    (stage : r.stage = .queueing b) : p.playable.size < p.playable.capacity :=
  (h.room (.inr (.inl (by simp [renderHands, Renderer.hands, stage])))).2

theorem Conserved.giveBack_room (h : Conserved ⟨p, renderer, some pl, teardown⟩) {b : Buffer}
    (held : pl.current = some b) : p.backstock.size < p.backstock.capacity :=
  (h.room (.inr (.inr (.inl (by simp [playHands, Player.hands, held]))))).1

theorem Conserved.handOver_room {b : Buffer}
    (h : Conserved ⟨p, renderer, player, some (.handOver b)⟩) :
    p.backstock.size < p.backstock.capacity :=
  (h.room (.inr (.inr (.inr (by simp [Teardown.hands]))))).1

/-- A player waits for a rendered buffer, never for room. -/
theorem Conserved.player_waits (h : Conserved ⟨p, renderer, some pl, teardown⟩)
    (w : pl.Waits p) : pl.current = none ∧ p.playable.items = [] ∧
      p.playable.interrupted = false := by
  cases w with
  | room spent held full => exact absurd (h.giveBack_room held) (Nat.not_lt_of_le full)
  | buffer hungry empty none_ready unbroken => exact ⟨empty, none_ready, unbroken⟩

/-- A render thread waits for an idle buffer, never for room. -/
theorem Conserved.renderer_waits (h : Conserved ⟨p, some r, player, teardown⟩)
    (w : r.Waits p) : r.NeedsBuffer ∧ p.backstock.items = [] := by
  cases w with
  | room stage full => exact absurd (h.fill_room stage) (Nat.not_lt_of_le full)
  | buffer stage empty unbroken => exact ⟨by simp [Renderer.NeedsBuffer, stage], empty⟩
  | push stage full => exact absurd (h.push_room stage) (Nat.not_lt_of_le full)

/-- A teardown waits for a pull and for the render thread, never for room. -/
theorem Conserved.teardown_waits (h : Conserved ⟨p, renderer, player, some t⟩)
    (w : t.Waits p player gone) :
    (∃ pl, t = .takePlayer ∧ player = some pl ∧ pl.isFree = false) ∨
      ∃ recovered played, t = .await recovered played ∧ gone = false := by
  cases w with
  | pull stage held busy => exact .inl ⟨_, stage, held, busy⟩
  | room stage full =>
    subst stage
    exact absurd h.handOver_room (Nat.not_lt_of_le full)
  | join stage running => exact .inr ⟨_, _, stage, running⟩

/-- **Once it is woken, a player waits for nothing.** -/
theorem Conserved.player_goes_on (h : Conserved ⟨p, renderer, some pl, teardown⟩)
    (woken : p.playable.interrupted = true) (busy : pl.isFree = false) :
    (pl.advance p).isSome := by
  refine Option.isSome_iff_ne_none.2 fun stuck => ?_
  rcases Player.waits_of_advance stuck with free | waits
  · exact absurd (free.symm.trans busy) (by simp)
  · obtain ⟨-, -, unbroken⟩ := h.player_waits waits
    exact absurd (woken.symm.trans unbroken) (by simp)

variable [Amplitude α] {source : Source α σ} {s : Shared α σ}

/-- **While a player waits for a buffer and the flag is set, the render thread is at work.** -/
theorem Orderly.renderer_feeds (h : Orderly ⟨s.pipeline, some r, some pl, teardown⟩)
    (conserved : Conserved ⟨s.pipeline, some r, some pl, teardown⟩)
    (running : s.pipeline.rendering = true) (empty : pl.current = none)
    (none_ready : s.pipeline.playable.items = []) (sane : r.stage ≠ .panicked) :
    (r.advance source s).isSome := by
  refine Option.isSome_iff_ne_none.2 fun stuck => ?_
  rcases Renderer.waits_of_advance stuck with gone | waits
  · have stage : r.stage = .stopped := by
      unfold Renderer.isGone at gone
      split at gone <;> simp_all
    exact absurd (running.symm.trans (h.stopped r rfl stage)) (by simp)
  · obtain ⟨needs, none_idle⟩ := conserved.renderer_waits waits
    exact conserved.stocked h.phase_le needs empty none_ready none_idle

/-- **While it is awaited, the render thread is at work or has left.** -/
theorem Orderly.renderer_leaves {recovered : Nat} {played : UInt64}
    (h : Orderly ⟨s.pipeline, some r, player, some (.await recovered played)⟩)
    (conserved : Conserved ⟨s.pipeline, some r, player, some (.await recovered played)⟩)
    (running : r.isGone = false) : (r.advance source s).isSome := by
  refine Option.isSome_iff_ne_none.2 fun stuck => ?_
  rcases Renderer.waits_of_advance stuck with gone | waits
  · exact absurd (gone.symm.trans running) (by simp)
  · obtain ⟨needs, none_idle⟩ := conserved.renderer_waits waits
    exact h.ready _ rfl trivial r rfl needs none_idle

/-- A teardown that is not finished goes on, or somebody for whom it waits does. -/
theorem Orderly.teardown_goes_on (source : Source α σ) (s : Shared α σ)
    (h : Orderly ⟨s.pipeline, renderer, player, some t⟩)
    (conserved : Conserved ⟨s.pipeline, renderer, player, some t⟩)
    (unfinished : ∀ recovered played, t ≠ .finished recovered played) :
    (t.advance s.pipeline player (renderer.all Renderer.isGone)).isSome ∨
      (∃ pl, player = some pl ∧ (pl.advance s.pipeline).isSome) ∨
      ∃ r, renderer = some r ∧ (r.advance source s).isSome := by
  cases stuck : t.advance s.pipeline player (renderer.all Renderer.isGone) with
  | some next => exact .inl rfl
  | none =>
    refine .inr ?_
    rcases Teardown.waits_of_advance stuck with ⟨_, _, complete⟩ | waits
    · exact absurd complete (unfinished _ _)
    · rcases conserved.teardown_waits waits with ⟨pl, rfl, rfl, busy⟩ | ⟨_, _, rfl, running⟩
      · exact .inl ⟨pl, rfl, conserved.player_goes_on h.woken busy⟩
      · cases renderer with
        | none => cases running
        | some r => exact .inr ⟨r, rfl, h.renderer_leaves conserved running⟩

/-- A task of a player goes on, or the render thread or the controller does. -/
theorem Orderly.task_goes_on (source : Source α σ) (s : Shared α σ)
    (h : Orderly ⟨s.pipeline, some r, some pl, teardown⟩)
    (conserved : Conserved ⟨s.pipeline, some r, some pl, teardown⟩) (busy : pl.isFree = false)
    (sane : r.stage ≠ .panicked) :
    (pl.advance s.pipeline).isSome ∨ (r.advance source s).isSome ∨
      teardown = some .wake := by
  cases stuck : pl.advance s.pipeline with
  | some next => exact .inl rfl
  | none =>
    refine .inr ?_
    rcases Player.waits_of_advance stuck with free | waits
    · exact absurd (free.symm.trans busy) (by simp)
    · obtain ⟨empty, none_ready, unbroken⟩ := conserved.player_waits waits
      cases running : s.pipeline.rendering with
      | true => exact .inl (h.renderer_feeds conserved running empty none_ready sane)
      | false =>
        have begun : phase ⟨s.pipeline, some r, some pl, teardown⟩ ≠ 0 :=
          of_decide_eq_false (h.flag.symm.trans running)
        have asleep : ¬1 < phase ⟨s.pipeline, some r, some pl, teardown⟩ :=
          of_decide_eq_false (h.woken.symm.trans unbroken)
        cases teardown with
        | none => exact absurd rfl begun
        | some t => cases t <;> simp at begun asleep ⊢

end Crew

/-! ## Engines that do not panic -/

/-- Whatever is rendered from this state on, the engine does not panic. -/
def Source.Calm (source : Source α σ) (s : σ) : Prop :=
  ∃ calm : σ → Prop, calm s ∧ ∀ s frames, calm s →
    ∃ samples s', source.render s frames = some (samples, s') ∧ calm s'

theorem Source.Calm.quantum [Amplitude α] {source : Source α σ} {service : Option σ}
    (h : ∀ s, service = some s → source.Calm s) (frames : Nat) :
    ∃ samples service', Renderer.quantum source frames service = some (samples, service') ∧
      ∀ s, service' = some s → source.Calm s := by
  cases service with
  | none => exact ⟨_, none, rfl, nofun⟩
  | some s =>
    obtain ⟨calm, now, always⟩ := h s rfl
    obtain ⟨samples, s', rendered, still⟩ := always s frames now
    refine ⟨samples, some s', by simp [Renderer.quantum, rendered], ?_⟩
    rintro _ ⟨⟩
    exact ⟨calm, still, always⟩

/-- A render thread whose engine does not panic does not panic. -/
theorem Renderer.Move.sane [Amplitude α] {source : Source α σ} {r r' : Renderer α}
    {s s' : Shared α σ} (m : Renderer.Move source r s r' s')
    (calm : ∀ x, s.service = some x → source.Calm x)
    (length : ∀ samples b, r.stage = .limiting samples b →
      samples.length = 2 * s.pipeline.frames ∧ b.samples.length = 2 * s.pipeline.frames) :
    r'.stage ≠ .panicked ∧ ∀ x, s'.service = some x → source.Calm x := by
  obtain ⟨samples, service, quantum, still⟩ := Source.Calm.quantum calm s.pipeline.frames
  cases m with
  | render stage rendered =>
    rw [quantum] at rendered
    obtain ⟨rfl, rfl⟩ := rendered
    exact ⟨nofun, still⟩
  | panic stage rendered =>
    rw [quantum] at rendered
    cases rendered
  | overrun stage fits =>
    obtain ⟨input, output⟩ := length _ _ stage
    rw [Limiter.processInto?_of_length _ input output] at fits
    cases fits
  | _ => exact ⟨nofun, calm⟩

/-! ## Whole runs -/

namespace Line

/-- A prime or a pull is under way, or the line is being taken apart. -/
def Busy (l : Line α σ) : Prop :=
  (∃ pl, l.player = some pl ∧ pl.isFree = false) ∨
    ∃ t, l.teardown = some t ∧ ∀ recovered played, t ≠ .finished recovered played

/-- The steps of threads that are at work. -/
def Label.IsWork (label : Label) : Prop := label = .render ∨ label = .play ∨ label = .tearDown

variable [Amplitude α]

/-- Nobody waits in vain. -/
structure Lively (source : Source α σ) (l : Line α σ) : Prop where
  /-- Nobody finds a queue full: not the render thread at its start, -/
  fill : ∀ r left b, l.renderer = some r → r.stage = .filling (left + 1) →
    (l.pipeline.backstock.put? b).isSome
  /-- nor with a rendered buffer, -/
  push : ∀ r b, l.renderer = some r → r.stage = .queueing b → (l.pipeline.playable.put? b).isSome
  /-- nor a player with a spent one, -/
  giveBack : ∀ pl b, l.player = some pl → pl.IsSpent l.pipeline → pl.current = some b →
    (l.pipeline.backstock.put? b).isSome
  /-- nor the controller with the player's. -/
  handOver : ∀ b, l.teardown = some (.handOver b) → (l.pipeline.backstock.put? b).isSome
  /-- While a player waits for a buffer, the render thread does not, unless it is to leave. -/
  feeds : ∀ pl, l.player = some pl → pl.IsHungry → pl.current = none →
    l.pipeline.playable.items = [] → l.pipeline.rendering = true → (l.stepRender source).isSome
  /-- Once it is woken, a player waits for nothing. -/
  woken : ∀ pl, l.player = some pl → pl.isFree = false → l.pipeline.playable.interrupted = true →
    l.stepPlay.isSome
  /-- While it is awaited, the render thread has left or does not wait. -/
  join : ∀ recovered played, l.teardown = some (.await recovered played) →
    l.rendererGone = true ∨ (l.stepRender source).isSome
  /-- While there is something to do, somebody does something, -/
  goesOn : l.Busy → ∃ label : Label, label.IsWork ∧ (l.step source label).isSome
  /-- and not for ever. -/
  ends : ∃ bound, ∀ rest : List Label, (∀ x ∈ rest, x.IsWork) →
    (l.follow? source rest).isSome → rest.length ≤ bound

/-- What is kept by every step that does not stop the pipeline out of turn. -/
structure Sound (source : Source α σ) (l : Line α σ) : Prop where
  conserved : l.crew.Conserved
  orderly : l.crew.Orderly
  running : ∃ r, l.renderer = some r ∧ r.stage ≠ .panicked
  calm : ∀ s, l.shared.service = some s → source.Calm s

/-- Playback is stopped only in the course of a teardown. -/
def Label.InTurn (label : Label) : Prop :=
  label ≠ .clearFlag ∧ label ≠ .wake ∧ label ≠ .interrupt

variable {source : Source α σ} {l l' : Line α σ} {label : Label}

/-- **Every step that does not stop the pipeline out of turn keeps things orderly.** -/
theorem Move.orderly (m : Move source l label l') (conserved : l.crew.Conserved)
    (h : l.crew.Orderly) (turn : label.InTurn) : l'.crew.Orderly := by
  obtain ⟨shared, renderer, player, teardown⟩ := l
  cases m with
  | render here move =>
    obtain rfl : renderer = some _ := here
    exact Crew.Orderly.render h move
  | makePlayer here intact =>
    obtain rfl : player = none := here
    obtain rfl : teardown = none := intact
    exact Crew.Orderly.makePlayer h
  | play here move =>
    obtain rfl : player = some _ := here
    exact Crew.Orderly.play h conserved move
  | startPrime here free =>
    obtain rfl : player = some _ := here
    exact Crew.Orderly.begin h free .priming
  | startPull here free =>
    obtain rfl : player = some _ := here
    exact Crew.Orderly.begin h free _
  | clearFlag => exact absurd rfl turn.1
  | wake => exact absurd rfl turn.2.1
  | interrupt => exact absurd rfl turn.2.2
  | startTeardown here intact =>
    obtain rfl : player = some _ := here
    obtain rfl : teardown = none := intact
    exact Crew.Orderly.startTeardown h
  | tearDown here move =>
    obtain rfl : teardown = some _ := here
    refine Crew.Orderly.tearDown h (fun gone r here => ?_) move
    obtain rfl : renderer = some r := here
    exact gone

theorem Sound.step (h : l.Sound source) (m : Move source l label l') (turn : label.InTurn) :
    l'.Sound source := by
  obtain ⟨r, here, sane⟩ := h.running
  have conserved := m.conserved h.conserved
  have orderly := m.orderly h.conserved h.orderly turn
  obtain ⟨shared, renderer, player, teardown⟩ := l
  obtain rfl : renderer = some r := here
  cases m with
  | render here move =>
    obtain ⟨rfl⟩ := here
    obtain ⟨sane', calm'⟩ := move.sane h.calm fun _ _ stage =>
      Crew.Conserved.length_limiting h.conserved stage
    exact ⟨conserved, orderly, ⟨_, rfl, sane'⟩, calm'⟩
  | _ => exact ⟨conserved, orderly, ⟨r, rfl, sane⟩, h.calm⟩

omit [Amplitude α] in
theorem sound_spawn (sizes : Sizes) {service : Option σ} (limiter : Limiter α)
    (calm : ∀ s, service = some s → source.Calm s) :
    ((bare sizes service limiter).spawn).Sound source :=
  ⟨conserved_spawn .., Crew.Orderly.start sizes, ⟨_, rfl, nofun⟩, calm⟩

theorem cost_of_work {rest : List Label} (work : ∀ x ∈ rest, x.IsWork) :
    (rest.map Label.cost).sum = 0 := by
  refine List.sum_eq_zero_iff_forall_eq_nat.2 fun x mem => ?_
  obtain ⟨label, here, rfl⟩ := List.mem_map.1 mem
  rcases work label here with rfl | rfl | rfl <;> rfl

/-- The threads have an end of their work in sight. -/
theorem ends_of_effort (source : Source α σ) (l : Line α σ) : ∃ bound, ∀ rest : List Label,
    (∀ x ∈ rest, x.IsWork) → (l.follow? source rest).isSome → rest.length ≤ bound := by
  refine ⟨l.crew.effort, fun rest work run => ?_⟩
  obtain ⟨l', run⟩ := Option.isSome_iff_exists.1 run
  have bounded := length_le_of_follow? run
  rw [cost_of_work work] at bounded
  omega

theorem isSome_stepRender {r : Renderer α} (here : l.renderer = some r)
    (steps : (r.advance source l.shared).isSome) : (l.stepRender source).isSome := by
  simpa [stepRender, here] using steps

omit [Amplitude α] in
theorem isSome_stepPlay {pl : Player} (here : l.player = some pl)
    (steps : (pl.advance l.pipeline).isSome) : l.stepPlay.isSome := by
  simpa [stepPlay, here] using steps

omit [Amplitude α] in
theorem isSome_stepTeardown {t : Teardown} (here : l.teardown = some t)
    (steps : (t.advance l.pipeline l.player l.rendererGone).isSome) : l.stepTeardown.isSome := by
  simpa [stepTeardown, here] using steps

/-- **Where a line is sound, nobody waits in vain.** -/
theorem Sound.lively (h : l.Sound source) : l.Lively source := by
  obtain ⟨conserved, orderly, ⟨r, here, sane⟩, -⟩ := h
  obtain ⟨shared, renderer, player, teardown⟩ := l
  obtain rfl : renderer = some r := here
  refine ⟨?_, ?_, ?_, ?_, ?_, ?_, ?_, ?_, ends_of_effort source _⟩
  · rintro _ left b ⟨⟩ stage
    exact Queue.isSome_put? (Crew.Conserved.fill_room conserved stage) b
  · rintro _ b ⟨⟩ stage
    exact Queue.isSome_put? (Crew.Conserved.push_room conserved stage) b
  · rintro pl b rfl spent held
    exact Queue.isSome_put? (Crew.Conserved.giveBack_room conserved held) b
  · rintro b rfl
    exact Queue.isSome_put? (Crew.Conserved.handOver_room conserved) b
  · rintro pl rfl hungry empty none_ready running
    exact isSome_stepRender rfl
      (Crew.Orderly.renderer_feeds orderly conserved running empty none_ready sane)
  · rintro pl rfl busy woken
    exact isSome_stepPlay rfl (Crew.Conserved.player_goes_on conserved woken busy)
  · rintro recovered played rfl
    cases gone : r.isGone with
    | true => exact .inl gone
    | false =>
      exact .inr (isSome_stepRender rfl (Crew.Orderly.renderer_leaves orderly conserved gone))
  · rintro (⟨pl, rfl, busy⟩ | ⟨t, rfl, unfinished⟩)
    · rcases Crew.Orderly.task_goes_on source shared orderly conserved busy sane with
        plays | renders | rfl
      · exact ⟨.play, .inr (.inl rfl), isSome_stepPlay rfl plays⟩
      · exact ⟨.render, .inl rfl, isSome_stepRender rfl renders⟩
      · exact ⟨.tearDown, .inr (.inr rfl), isSome_stepTeardown rfl rfl⟩
    · rcases Crew.Orderly.teardown_goes_on source shared orderly conserved unfinished with
        tears | ⟨pl, rfl, plays⟩ | ⟨_, ⟨⟩, renders⟩
      · exact ⟨.tearDown, .inr (.inr rfl), isSome_stepTeardown rfl tears⟩
      · exact ⟨.play, .inr (.inl rfl), isSome_stepPlay rfl plays⟩
      · exact ⟨.render, .inl rfl, isSome_stepRender rfl renders⟩

/-- **No reachable state is a deadlock.** The render thread of an engine that does not panic, a
mixer that pulls regions of any sizes, and a controller that makes a player, primes it and takes
everything apart: however they interleave, nobody finds a queue full, nobody waits for what will
not come, and what is under way comes to an end. -/
theorem never_stuck (source : Source α σ) (sizes : Sizes) {service : Option σ}
    (limiter : Limiter α) (calm : ∀ s, service = some s → source.Calm s) {schedule : List Label}
    (turn : ∀ x ∈ schedule, x.InTurn)
    (run : ((bare sizes service limiter).spawn).follow? source schedule = some l) :
    l.Lively source := by
  have sound : l.Sound source :=
    follow?_induction (fun _ _ _ h turn m => h.step m turn) (sound_spawn sizes limiter calm) turn
      run
  exact sound.lively

theorem calm_scripted {s : Scripted.State α} (unscripted : s.failAt = none) :
    Source.Calm Scripted.source s := by
  refine ⟨fun s => s.failAt = none, unscripted, fun s frames calm => ?_⟩
  have on : s.failAt ≠ some (s.renders + 1) := by simp [calm]
  exact ⟨_, _, if_neg on, calm⟩

/-- A pull waits for a buffer while the controller waits for the pull. -/
theorem never_stuck_in_a_pull :
    let schedule : List Label := [.render, .render, .makePlayer, .startPrime, .play, .render,
      .render, .render, .render, .render, .play, .startPull 5, .play, .play, .startTeardown,
      .tearDown, .tearDown]
    (∀ s, pocket.shared.service = some s → Source.Calm Scripted.source s) ∧
      (∀ x ∈ schedule, x.InTurn) ∧
      ∃ l, pocket.follow? Scripted.source schedule = some l ∧ l.stepTeardown.isNone ∧ l.Busy ∧
        l.Lively Scripted.source := by
  intro schedule
  have calm : ∀ s, pocket.shared.service = some s → Source.Calm Scripted.source s := by
    rintro _ ⟨⟩
    exact calm_scripted rfl
  have turn : ∀ x ∈ schedule, x.InTurn := by
    simp [schedule, Label.InTurn]
  have runs : (pocket.follow? Scripted.source schedule).any (fun l =>
      l.stepTeardown.isNone && l.player.any fun pl => !pl.isFree) = true := by decide +kernel
  obtain ⟨l, run, facts⟩ := Option.any_eq_true _ _ |>.1 runs
  simp only [Bool.and_eq_true, Option.any_eq_true, Bool.not_eq_true'] at facts
  exact ⟨calm, turn, l, run, facts.1, .inl facts.2, never_stuck _ _ _ calm turn run⟩

end Line

end SynthBridge
