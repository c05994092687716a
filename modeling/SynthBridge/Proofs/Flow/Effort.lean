import Mathlib.Algebra.GroupWithZero.Nat
import SynthBridge.Proofs.Flow.Crew

/-!
# How much work is left

Every step of a thread uses up some of the work that is left: `Crew.effort` bounds what a render
thread, a player and a teardown can do before somebody begins something new. An idle buffer is
worth a pass of the render thread, a frame that is asked for is worth giving a buffer back and
taking the next one, and a task that is not over is worth its own steps.
-/

namespace SynthBridge

variable {α σ : Type}

/-! ## Shares -/

/-- What a player may still do. A spent buffer will be idle, which is worth a pass. -/
def Player.effort (frames : Nat) (pl : Player) : Nat :=
  match pl.task, pl.current with
  | .idle, _ | .pulled _, _ => 0
  | .priming, some _ => 9
  | .priming, none => 2
  | .pulling wanted _ _, none => 9 * wanted + 2
  | .pulling wanted _ _, some _ =>
    9 * wanted + if pl.cursor.frameOffset < frames then 1 else 9

/-- What a render thread may still do in its present pass, and in those of the buffers that it
has still to make. -/
def Renderer.effort (r : Renderer α) : Nat :=
  match r.stage with
  | .filling left => 7 * left + 4
  | .deciding => 3
  | .rendering => 2
  | .taking _ => 1
  -- What the idle buffer was worth is now to be done.
  | .limiting .. => 6
  | .queueing _ => 5
  | .stopped | .panicked => 0

/-- What a teardown may still do, but for emptying the playable queue. -/
def Teardown.effort : Teardown → Nat
  | .clearFlag => 14
  | .wake => 13
  | .takePlayer => 12
  | .inspect _ => 11
  | .handOver _ => 10
  -- The player's buffer may have become idle, which is worth a pass.
  | .drain _ => 3
  | .await .. => 2
  | .reclaim .. => 1
  | .finished .. => 0

/-- What the queued buffers are worth. -/
def Pipeline.effort (p : Pipeline) : Nat := 6 * p.backstock.size + p.playable.size

/-- More steps than a crew can take before something new begins. -/
def Crew.effort (c : Crew α) : Nat :=
  c.pipeline.effort + c.renderer.elim 0 Renderer.effort +
    c.player.elim 0 (Player.effort c.pipeline.frames) + c.teardown.elim 0 Teardown.effort

theorem Player.effort_of_free {pl : Player} (frames : Nat) (free : pl.isFree = true) :
    pl.effort frames = 0 := by
  unfold isFree at free
  unfold effort
  split at free <;> simp_all

theorem Player.effort_startPull_le (pl : Player) (frames samples : Nat) :
    (pl.startPull samples).effort frames ≤ 9 * (samples / 2) + 9 := by
  simp only [startPull, effort]
  cases pl.current with
  | none => simp
  | some b => by_cases left : pl.cursor.frameOffset < frames <;> simp [left]

/-- A player that gives a buffer back has all but the pass that this is worth before it. -/
theorem Player.effort_giveBack {pl : Player} {p : Pipeline} {b : Buffer} (spent : pl.IsSpent p)
    (held : pl.current = some b) :
    pl.effort p.frames = effort p.frames { pl with current := none } + 7 := by
  rcases spent with task | ⟨⟨wanted, out, length, task⟩, complete⟩
  · simp [effort, task, held]
  · simp [effort, task, held, Nat.not_lt_of_le complete]

/-! ## Every step uses some of it up -/

theorem Player.Move.effort_lt {pl pl' : Player} {p p' : Pipeline} (m : Player.Move pl p pl' p') :
    p'.effort + pl'.effort p'.frames < p.effort + pl.effort p.frames := by
  cases m with
  | giveBack spent held room =>
    have := effort_giveBack spent held
    simp only [Pipeline.effort, Queue.size, List.length_append, List.length_singleton,
      Pipeline.frames] at this ⊢
    omega
  | primed task empty ready =>
    simp only [Pipeline.effort, Queue.size, ready, effort, task, empty, List.length_cons]
    omega
  | unprimed task empty ready woken =>
    simp only [Pipeline.effort, effort, task, empty]
    omega
  | @copy b wanted length n out task held left count =>
    simp only [effort, task, held, left, if_true]
    split <;> omega
  | next task empty ready =>
    have := p.sizes.frames_pos
    simp only [Pipeline.effort, Queue.size, ready, effort, task, empty, List.length_cons,
      Pipeline.frames, this, if_true]
    omega
  | finish task complete =>
    have idle : ∀ region, effort p.frames { pl with task := .pulled region } = 0 :=
      fun _ => effort_of_free _ rfl
    have under : 0 < pl.effort p.frames := by
      simp only [effort, task]
      cases pl.current
      · simp
      · simp only
        split <;> omega
    simp only [Pipeline.effort, Pipeline.frames] at idle under ⊢
    rw [idle]
    omega

theorem Renderer.Move.effort_lt [Amplitude α] {source : Source α σ} {r r' : Renderer α}
    {s s' : Shared α σ} (m : Renderer.Move source r s r' s') :
    s'.pipeline.effort + r'.effort < s.pipeline.effort + r.effort := by
  cases m with
  | fill stage room =>
    simp only [Pipeline.effort, Queue.size, List.length_append, List.length_singleton, effort,
      stage]
    omega
  | take stage ready =>
    simp only [Pipeline.effort, Queue.size, ready, List.length_cons, effort, stage]
    omega
  | queue stage room =>
    simp only [Pipeline.effort, Queue.size, List.length_append, List.length_singleton, effort,
      stage]
    omega
  | filled stage => simp [effort, stage]
  | goOn stage flag => simp [effort, stage]
  | obey stage flag => simp [effort, stage]
  | render stage rendered => simp [effort, stage]
  | panic stage rendered => simp [effort, stage]
  | quit stage ready broken => simp [effort, stage]
  | limit stage fits => simp [effort, stage]
  | overrun stage fits => simp [effort, stage]

theorem Teardown.Move.effort_lt {t t' : Teardown} {p p' : Pipeline} {slot slot' : Option Player}
    {gone : Bool} (m : Teardown.Move t p slot gone t' p' slot') :
    p'.effort + slot'.elim 0 (Player.effort p'.frames) + t'.effort <
      p.effort + slot.elim 0 (Player.effort p.frames) + t.effort := by
  cases m with
  | clearFlag stage =>
    simp only [stage, effort, Pipeline.effort, Pipeline.clearFlag, Pipeline.frames]
    omega
  | wake stage =>
    simp only [stage, effort, Pipeline.effort, Pipeline.wake, Pipeline.frames, Queue.interrupt,
      Queue.size]
    omega
  | takePlayer stage free =>
    simp only [stage, effort, Option.elim]
    omega
  | lend stage held empty =>
    simp only [stage, effort]
    omega
  | keep stage held stocked =>
    simp only [stage, effort]
    omega
  | without stage held =>
    simp only [stage, effort]
    omega
  | handOver stage room =>
    simp only [stage, effort, Pipeline.effort, Pipeline.frames, Queue.size, List.length_append,
      List.length_singleton]
    omega
  | drain stage ready =>
    simp only [stage, effort, Pipeline.effort, Pipeline.frames, Queue.size, ready,
      List.length_cons]
    omega
  | drained stage ready =>
    simp only [stage, effort]
    omega
  | join stage left =>
    simp only [stage, effort]
    omega
  | reclaim stage =>
    simp only [stage, effort, Pipeline.effort, Pipeline.frames, Queue.size, List.length_nil]
    omega

/-! ## Runs of a line -/

namespace Line

/-- What a label adds to the work that is left, and its own step. -/
def Label.cost : Label → Nat
  | .render | .play | .tearDown => 0
  | .startPrime => 10
  | .startPull samples => 9 * (samples / 2) + 10
  | .startTeardown => 15
  | .makePlayer | .clearFlag | .wake | .interrupt => 1

variable [Amplitude α] {source : Source α σ} {l l' : Line α σ} {label : Label}

theorem Move.effort_le (m : Move source l label l') :
    l'.crew.effort + 1 ≤ l.crew.effort + label.cost := by
  obtain ⟨shared, renderer, player, teardown⟩ := l
  cases m with
  | @render r r' s' here move =>
    obtain rfl : renderer = some r := here
    have less := move.effort_lt
    have frames : s'.pipeline.frames = shared.pipeline.frames :=
      congrArg Sizes.frames move.sizes_eq
    simp only [crew, Crew.effort, Option.elim_some, Label.cost, pipeline, frames] at less ⊢
    omega
  | makePlayer here intact =>
    obtain rfl : player = none := here
    exact Nat.le_refl _
  | @play pl pl' p' here move =>
    obtain rfl : player = some pl := here
    have less := move.effort_lt
    simp only [crew, Crew.effort, Option.elim_some, Label.cost, pipeline, withPipeline] at less ⊢
    omega
  | @startPrime pl here free =>
    obtain rfl : player = some pl := here
    have before := Player.effort_of_free shared.pipeline.frames free
    have after : pl.startPrime.effort shared.pipeline.frames ≤ 9 := by
      simp only [Player.startPrime, Player.effort]
      cases pl.current <;> simp
    simp only [crew, Crew.effort, Option.elim_some, Label.cost, pipeline, before] at after ⊢
    omega
  | @startPull pl samples here free =>
    obtain rfl : player = some pl := here
    have before := Player.effort_of_free shared.pipeline.frames free
    have after := pl.effort_startPull_le shared.pipeline.frames samples
    simp only [crew, Crew.effort, Option.elim_some, Label.cost, pipeline, before] at after ⊢
    omega
  | clearFlag => exact Nat.le_refl _
  | wake => exact Nat.le_refl _
  | interrupt => exact Nat.le_refl _
  | startTeardown here intact =>
    obtain rfl : teardown = none := intact
    exact Nat.le_refl _
  | @tearDown t t' p' player' here move =>
    obtain rfl : teardown = some t := here
    have less := move.effort_lt
    simp only [crew, Crew.effort, Option.elim_some, Label.cost, pipeline, withPipeline] at less ⊢
    omega

/-- **The threads of a line do only so much** before somebody begins something new. -/
theorem length_le_of_follow? {schedule : List Label}
    (run : l.follow? source schedule = some l') :
    schedule.length + l'.crew.effort ≤ l.crew.effort + (schedule.map Label.cost).sum := by
  induction schedule generalizing l with
  | nil =>
    obtain ⟨rfl⟩ := run
    simp
  | cons label rest ih =>
    simp only [follow?, Option.bind_eq_some_iff] at run
    obtain ⟨l₁, first, run⟩ := run
    have step := (move_of_step first).effort_le
    have more := ih run
    simp only [List.length_cons, List.map_cons, List.sum_cons]
    omega

end Line

end SynthBridge
