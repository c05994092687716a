import SynthBridge.Proofs.Flow.Progress
import SynthBridge.Proofs.Histories

/-!
# Stopping between two quanta

A render thread reads the flag once in each pass. When the flag is cleared, the thread may stand at
any step of a pass: what that pass has still to do is done, and nothing else. `Renderer.toBegin`,
`Renderer.toTake` and `Renderer.toGo` say for each place how much that is, and every step of the
thread uses up as much of it as is seen of the step (`Renderer.Ending.step`). A run of a whole line
is no different, since nobody sets the flag again: `Line.stops_between_quanta`.
-/

namespace SynthBridge

variable {α σ : Type}

/-! ## What is seen of a render thread -/

/-- What a render thread was seen to do. -/
structure Doings where
  /-- Steps of its own. -/
  steps : Nat := 0
  /-- Quanta begun, each of them one call of the engine if there is one. -/
  begun : Nat := 0
  /-- The tags of the buffers taken from backstock, in order. -/
  taken : List Nat := []
  /-- The tags of the buffers queued for playback, in order. -/
  queued : List Nat := []
  deriving DecidableEq

namespace Queue

/-- The tags of the buffers that have left the front of a queue. -/
def departed (q q' : Queue Buffer) : List Nat := (q.items.take (q.size - q'.size)).map Buffer.tag

/-- The tags of the buffers that have come to the end of a queue. -/
def arrived (q q' : Queue Buffer) : List Nat := (q'.items.drop q.size).map Buffer.tag

variable {q : Queue Buffer} {b : Buffer} {rest : List Buffer}

@[simp] theorem departed_self (q : Queue Buffer) : q.departed q = [] := by simp [departed]

@[simp] theorem arrived_self (q : Queue Buffer) : q.arrived q = [] := by simp [arrived, size]

@[simp] theorem departed_concat (q : Queue Buffer) (b : Buffer) :
    q.departed { q with items := q.items ++ [b] } = [] := by
  simp [departed, size]

@[simp] theorem arrived_concat (q : Queue Buffer) (b : Buffer) :
    q.arrived { q with items := q.items ++ [b] } = [b.tag] := by
  simp [arrived, size]

theorem departed_of_cons (ready : q.items = b :: rest) :
    q.departed { q with items := rest } = [b.tag] := by
  simp [departed, size, ready]

end Queue

/-! ## What a pass has still to do -/

namespace Renderer

/-- The tag of the buffer in the hands of a render thread. -/
def tags (r : Renderer α) : List Nat := r.hands.map Buffer.tag

/-- The quanta that the present pass has still to begin. -/
def toBegin (r : Renderer α) : Nat :=
  match r.stage with
  | .rendering => 1
  | _ => 0

/-- The buffers that the present pass has still to take. -/
def toTake (r : Renderer α) : Nat :=
  match r.stage with
  | .rendering | .taking _ => 1
  | _ => 0

/-- The steps that are left to a render thread when the flag is cleared. -/
def toGo (r : Renderer α) : Nat :=
  match r.stage with
  | .filling left => left + 2
  | .deciding => 1
  | .rendering => 5
  | .taking _ => 4
  | .limiting .. => 3
  | .queueing _ => 2
  | .stopped | .panicked => 0

end Renderer

/-- What is seen of a step of a thread that stands at `r`: it begins the quantum that is next, and
it moves buffers. -/
def Doings.add (d : Doings) (r : Renderer α) (p p' : Pipeline) : Doings where
  steps := d.steps + 1
  begun := d.begun + r.toBegin
  taken := d.taken ++ p.backstock.departed p'.backstock
  queued := d.queued ++ p.playable.arrived p'.playable

namespace Renderer

variable {r r₀ r' : Renderer α}

theorem toBegin_le (r : Renderer α) : r.toBegin ≤ 1 := by
  unfold toBegin
  split <;> decide

/-- A pass handles one buffer. -/
theorem toTake_add_length_tags_le (r : Renderer α) : r.toTake + r.tags.length ≤ 1 := by
  cases stage : r.stage <;> simp [toTake, tags, hands, stage]

theorem of_isGone (gone : r.isGone = true) : r.toBegin = 0 ∧ r.toTake = 0 ∧ r.tags = [] := by
  unfold isGone at gone
  split at gone <;> simp_all [toBegin, toTake, tags, hands]

/-- With a buffer in its hands, a thread has nothing to take, and two steps at most to the end of
the pass. -/
theorem of_tags_ne_nil (held : r.tags ≠ []) : r.toTake = 0 ∧ r.toGo ≤ 3 := by
  unfold tags hands at held
  split at held <;> simp_all [toTake, toGo]

/-- A thread with a single step to go has its hands free. -/
theorem tags_of_toGo_le (late : r.toGo ≤ 1) : r.tags = [] := by
  unfold toGo at late
  split at late <;> simp_all [tags, hands]

variable [Amplitude α] {source : Source α σ} {s s' : Shared α σ}

/-- A thread that has left takes no step. -/
theorem Move.not_isGone (m : Move source r s r' s') : r.isGone = false := by
  cases m <;> simp [isGone, *]

/-- A render thread neither sets the flag nor interrupts backstock. -/
theorem Move.flags_eq (m : Move source r s r' s') :
    s'.pipeline.rendering = s.pipeline.rendering ∧
      s'.pipeline.backstock.interrupted = s.pipeline.backstock.interrupted := by
  cases m <;> exact ⟨rfl, rfl⟩

/-- No quantum is begun behind the one that is under way when the flag is cleared. -/
theorem Move.toBegin_eq_zero (m : Move source r s r' s')
    (cleared : s.pipeline.rendering = false) : r'.toBegin = 0 := by
  cases m with
  | goOn stage flag => exact absurd (flag.symm.trans cleared) (by simp)
  | _ => rfl

theorem Move.toGo_lt (m : Move source r s r' s') (cleared : s.pipeline.rendering = false) :
    r'.toGo < r.toGo := by
  cases m with
  | goOn stage flag => exact absurd (flag.symm.trans cleared) (by simp)
  | _ => simp [toGo, *]

/-- What is to be taken is taken, unless the engine panics or backstock is interrupted. -/
theorem Move.toTake_spec (m : Move source r s r' s') (cleared : s.pipeline.rendering = false) :
    (s.pipeline.backstock.departed s'.pipeline.backstock).length + r'.toTake ≤ r.toTake ∧
      (r'.stage = .panicked ∨ s'.pipeline.backstock.interrupted = true ∨
        (s.pipeline.backstock.departed s'.pipeline.backstock).length + r'.toTake = r.toTake) := by
  cases m with
  | goOn stage flag => exact absurd (flag.symm.trans cleared) (by simp)
  | take stage ready => simp [Queue.departed_of_cons ready, toTake, stage]
  | quit stage ready broken => simp [toTake, stage, broken]
  | _ => simp [toTake, *]

/-- **What is taken comes into the thread's hands, and what leaves them is queued.** -/
theorem Move.tags_eq (m : Move source r s r' s')
    (length : ∀ samples b, r.stage = .limiting samples b →
      samples.length = 2 * s.pipeline.frames ∧ b.samples.length = 2 * s.pipeline.frames) :
    r.tags ++ s.pipeline.backstock.departed s'.pipeline.backstock =
      s.pipeline.playable.arrived s'.pipeline.playable ++ r'.tags := by
  cases m with
  | take stage ready => simp [Queue.departed_of_cons ready, tags, hands, stage]
  | overrun stage fits =>
    obtain ⟨input, output⟩ := length _ _ stage
    rw [Limiter.processInto?_of_length _ input output] at fits
    cases fits
  | _ => simp [tags, hands, *]

/-! ## The end of a pass -/

/-- Of what a thread had to do at `r₀`, when the flag was cleared, it was seen to do `d`, and the
rest is before it at `r`. -/
structure Ending (r₀ : Renderer α) (p : Pipeline) (r : Renderer α) (d : Doings) : Prop where
  steps : d.steps + r.toGo ≤ r₀.toGo
  begun : d.begun + r.toBegin = r₀.toBegin
  taken : d.taken.length + r.toTake ≤ r₀.toTake
  /-- A pass is only cut short by a panic of the engine or an interrupted backstock. -/
  whole : r.stage = .panicked ∨ p.backstock.interrupted = true ∨
    d.taken.length + r.toTake = r₀.toTake
  /-- The buffer that was in hand at `r₀` and those taken since are queued or in hand at `r`. -/
  handed : r₀.tags ++ d.taken = d.queued ++ r.tags

namespace Ending

variable {p p' : Pipeline} {d : Doings}

omit [Amplitude α] in
theorem start (r : Renderer α) (p : Pipeline) : r.Ending p r {} :=
  ⟨by simp, by simp, by simp, by simp, by simp⟩

omit [Amplitude α] in
theorem mono (h : r₀.Ending p r d)
    (broken : p.backstock.interrupted = true → p'.backstock.interrupted = true) :
    r₀.Ending p' r d :=
  ⟨h.steps, h.begun, h.taken, h.whole.imp_right (Or.imp_left broken), h.handed⟩

theorem step (h : r₀.Ending s.pipeline r d) (m : Move source r s r' s')
    (cleared : s.pipeline.rendering = false)
    (length : ∀ samples b, r.stage = .limiting samples b →
      samples.length = 2 * s.pipeline.frames ∧ b.samples.length = 2 * s.pipeline.frames) :
    r₀.Ending s'.pipeline r' (d.add r s.pipeline s'.pipeline) := by
  have less := m.toGo_lt cleared
  have none_begun := m.toBegin_eq_zero cleared
  obtain ⟨most, complete⟩ := m.toTake_spec cleared
  -- What the step is seen to do is what there is less to do behind it.
  have steps := h.steps
  have begun := h.begun
  have taken := h.taken
  refine ⟨?_, ?_, ?_, ?_, ?_⟩
  · simp only [Doings.add]
    omega
  · simp only [Doings.add]
    omega
  · simp only [Doings.add, List.length_append]
    omega
  · simp only [Doings.add, List.length_append]
    -- A thread that has panicked takes no step, and backstock stays interrupted.
    rcases h.whole with panicked | broken | whole
    · exact absurd m.not_isGone (by simp [isGone, panicked])
    · exact .inr (.inl (m.flags_eq.2.trans broken))
    · exact complete.imp_right (Or.imp_right fun complete => by omega)
  · simp only [Doings.add]
    rw [← List.append_assoc, h.handed, List.append_assoc, m.tags_eq length, List.append_assoc]

end Ending

end Renderer

/-! ## The line -/

namespace Line

/-- Notes what the render thread does. -/
def noteDoings (l : Line α σ) (label : Label) (l' : Line α σ) (d : Doings) : Doings :=
  match label, l.renderer with
  | .render, some r => d.add r l.pipeline l'.pipeline
  | _, _ => d

/-- The flag is cleared, and the render thread has come from `r₀` to where it is. -/
structure Stopping (r₀ : Renderer α) (l : Line α σ) (d : Doings) : Prop where
  conserved : l.crew.Conserved
  cleared : l.pipeline.rendering = false
  ending : ∃ r, l.renderer = some r ∧ r₀.Ending l.pipeline r d

variable [Amplitude α] {source : Source α σ} {l l' : Line α σ} {label : Label} {r₀ r : Renderer α}
  {d d' : Doings}

/-- Nobody else moves the render thread, sets the flag or repairs backstock. -/
theorem Move.beside (m : Move source l label l') (other : label ≠ .render) :
    l'.renderer = l.renderer ∧
      (l.pipeline.rendering = false → l'.pipeline.rendering = false) ∧
      (l.pipeline.backstock.interrupted = true → l'.pipeline.backstock.interrupted = true) := by
  cases m with
  | render here move => exact absurd rfl other
  | play here move =>
    obtain ⟨spare, ready, played, rfl⟩ := move.pipeline_eq
    exact ⟨rfl, id, id⟩
  | clearFlag => exact ⟨rfl, fun _ => rfl, id⟩
  | interrupt => exact ⟨rfl, id, fun _ => rfl⟩
  | tearDown here move =>
    cases move with
    | clearFlag stage => exact ⟨rfl, fun _ => rfl, id⟩
    | _ => exact ⟨rfl, id, id⟩
  | _ => exact ⟨rfl, id, id⟩

theorem Stopping.step (h : l.Stopping r₀ d) (m : Move source l label l') :
    l'.Stopping r₀ (noteDoings l label l' d) := by
  have conserved := m.conserved h.conserved
  obtain ⟨r, here, ending⟩ := h.ending
  by_cases other : label = .render
  · subst other
    have before := h.conserved
    cases m with
    | @render r₁ r' s' there move =>
      obtain rfl : r = r₁ := Option.some.inj (here.symm.trans there)
      obtain ⟨flag, -⟩ := move.flags_eq
      refine ⟨conserved, flag.trans h.cleared, r', rfl, ?_⟩
      obtain ⟨shared, renderer, player, teardown⟩ := l
      obtain rfl : renderer = some r := here
      exact ending.step move h.cleared fun _ _ stage => Crew.Conserved.length_limiting before stage
  · obtain ⟨same, flag, broken⟩ := m.beside other
    have unseen : noteDoings l label l' d = d := by
      unfold noteDoings
      split
      · exact absurd rfl other
      · rfl
    rw [unseen]
    exact ⟨conserved, flag h.cleared, r, same.trans here, ending.mono broken⟩

omit [Amplitude α] in
theorem Stopping.start (conserved : l.crew.Conserved) (cleared : l.pipeline.rendering = false)
    (here : l.renderer = some r) : l.Stopping r {} :=
  ⟨conserved, cleared, r, here, .start r l.pipeline⟩

theorem Stopping.of_run {labels : List Label} (h : l.Stopping r₀ d)
    (run : noted? (Line.step source) noteDoings l d labels = some (l', d')) : l'.Stopping r₀ d' :=
  noted?_induction (P := fun l d => l.Stopping r₀ d) (fun h first => h.step (move_of_step first)) h
    run

/-- **A render thread that has left touches nothing any more.** -/
theorem silent_of_isGone {labels : List Label} (here : l.renderer = some r)
    (gone : r.isGone = true) (run : l.follow? source labels = some l') :
    .render ∉ labels ∧ l'.renderer = some r := by
  induction labels generalizing l with
  | nil =>
    obtain ⟨rfl⟩ := run
    exact ⟨List.not_mem_nil, here⟩
  | cons label rest ih =>
    simp only [follow?, Option.bind_eq_some_iff] at run
    obtain ⟨l₁, first, run⟩ := run
    have m := move_of_step first
    have other : label ≠ .render := by
      rintro rfl
      cases m with
      | render there move =>
        obtain rfl := Option.some.inj (here.symm.trans there)
        exact absurd (gone.symm.trans move.not_isGone) (by simp)
    obtain ⟨none, same⟩ := ih ((m.beside other).1.trans here) run
    exact ⟨by simp [other.symm, none], same⟩

/-- What becomes of a render thread that stood at `r₀` when the flag was cleared: it was seen to do
`d` since, and stands at `r` in the line `l`. -/
structure Farewell (source : Source α σ) (r₀ r : Renderer α) (l : Line α σ) (d : Doings) :
    Prop where
  begun_le : d.begun ≤ 1
  taken_le : d.taken.length ≤ 1
  queued_le : d.queued.length ≤ 1
  /-- No more is done than the pass at `r₀` had still to do, -/
  within : d.begun ≤ r₀.toBegin ∧ d.taken.length ≤ r₀.toTake ∧ d.steps ≤ r₀.toGo
  /-- and, once the thread has left, no less, unless backstock was interrupted. -/
  finishes : r.stage = .stopped → l.pipeline.backstock.interrupted = false →
    d.begun = r₀.toBegin ∧ d.taken.length = r₀.toTake
  /-- The buffer in hand at `r₀` and those taken are queued in this order, or still in hand. -/
  handed : r₀.tags ++ d.taken = d.queued ++ r.tags
  /-- With a buffer in hand the thread does not wait, and its next two steps queue the buffer. -/
  queues : r.tags ≠ [] → (l.stepRender source).isSome ∧
    ∀ labels l' d', noted? (step source) noteDoings l {} labels = some (l', d') →
      2 ≤ d'.steps → d'.queued = r.tags
  /-- A thread that has left has no buffer in hand and never acts again. -/
  silent : r.isGone = true → r.tags = [] ∧
    ∀ labels l', l.follow? source labels = some l' → .render ∉ labels ∧ l'.renderer = some r

/-- A thread with a buffer in hand finds room for it. -/
theorem Stopping.isSome_stepRender (h : l.Stopping r₀ d) (here : l.renderer = some r)
    (held : r.tags ≠ []) : (l.stepRender source).isSome := by
  have conserved := h.conserved
  obtain ⟨shared, renderer, player, teardown⟩ := l
  obtain rfl : renderer = some r := here
  refine Line.isSome_stepRender rfl (Option.isSome_iff_ne_none.2 fun stuck => ?_)
  rcases Renderer.waits_of_advance stuck with gone | waits
  · exact held (Renderer.of_isGone gone).2.2
  · obtain ⟨needs, -⟩ := Crew.Conserved.renderer_waits conserved waits
    unfold Renderer.NeedsBuffer at needs
    split at needs <;> simp_all [Renderer.tags, Renderer.hands]

/-- **With a buffer in hand**, two steps queue it. -/
theorem Stopping.queued_eq (h : l.Stopping r {}) (held : r.tags ≠ []) {labels : List Label}
    (run : noted? (Line.step source) noteDoings l {} labels = some (l', d)) (two : 2 ≤ d.steps) :
    d.queued = r.tags := by
  obtain ⟨r', -, ending⟩ := (h.of_run run).ending
  -- Nothing is to be taken, and two of at most three steps leave a thread with its hands free.
  obtain ⟨none_to_take, near⟩ := Renderer.of_tags_ne_nil held
  have steps := ending.steps
  have taken := ending.taken
  have none_taken : d.taken = [] := List.length_eq_zero_iff.1 (by omega)
  have free : r'.tags = [] := Renderer.tags_of_toGo_le (by omega)
  simpa [none_taken, free] using ending.handed.symm

theorem Stopping.farewell (h : l.Stopping r₀ d) (here : l.renderer = some r) :
    Farewell source r₀ r l d := by
  obtain ⟨r', there, ending⟩ := h.ending
  obtain rfl : r = r' := Option.some.inj (here.symm.trans there)
  obtain ⟨steps, begun, taken, whole, handed⟩ := ending
  have once := r₀.toBegin_le
  have one_buffer := r₀.toTake_add_length_tags_le
  have length := congrArg List.length handed
  simp only [List.length_append] at length
  refine ⟨by omega, by omega, by omega, ⟨by omega, by omega, by omega⟩, ?_, handed, ?_, ?_⟩
  · intro stage unbroken
    have gone : r.isGone = true := by simp [Renderer.isGone, stage]
    obtain ⟨none_begun, none_taken, -⟩ := Renderer.of_isGone gone
    rcases whole with panicked | broken | whole
    · exact absurd (stage.symm.trans panicked) (by simp)
    · exact absurd (broken.symm.trans unbroken) (by simp)
    · exact ⟨by omega, by omega⟩
  · intro held
    exact ⟨h.isSome_stepRender here held, fun _ _ _ run two =>
      (Stopping.start h.conserved h.cleared here).queued_eq held run two⟩
  · intro gone
    exact ⟨(Renderer.of_isGone gone).2.2, fun _ _ run => silent_of_isGone here gone run⟩

/-- Whatever the threads of a line have done, there is a render thread, and no buffer is lost. -/
theorem conserved_of_follow? {sizes : Sizes} {service : Option σ} {limiter : Limiter α}
    {schedule : List Label}
    (run : ((bare sizes service limiter).spawn).follow? source schedule = some l) :
    l.crew.Conserved ∧ l.renderer.isSome := by
  have every : ∀ x ∈ schedule, True := fun _ _ => trivial
  refine follow?_induction (P := fun l => l.crew.Conserved ∧ l.renderer.isSome) ?_
    ⟨conserved_spawn .., rfl⟩ every run
  rintro l label l' ⟨conserved, started⟩ - m
  exact ⟨m.conserved conserved, m.frame.2.1 started⟩

/-- **Stopping takes effect between two quanta.** Once the flag is cleared, in whatever state a line
has come to and however its threads interleave from there, and even if the engine panics, the render
thread begins at most one more quantum, takes at most one more buffer and queues at most one more:
what the present pass had still to do. A buffer that it has taken is always queued, and once the
thread has left it never acts again. -/
theorem stops_between_quanta (source : Source α σ) (sizes : Sizes) (service : Option σ)
    (limiter : Limiter α) {before after : List Label} {l₀ l : Line α σ} {d : Doings}
    (reached : ((bare sizes service limiter).spawn).follow? source before = some l₀)
    (cleared : l₀.pipeline.rendering = false)
    (run : noted? (step source) noteDoings l₀ {} after = some (l, d)) :
    ∃ r₀ r, l₀.renderer = some r₀ ∧ l.renderer = some r ∧ Farewell source r₀ r l d := by
  obtain ⟨conserved, started⟩ := conserved_of_follow? reached
  obtain ⟨r₀, here⟩ := Option.isSome_iff_exists.1 started
  have stopping := (Stopping.start conserved cleared here).of_run run
  obtain ⟨r, there, -⟩ := stopping.ending
  exact ⟨r₀, r, here, there, stopping.farewell there⟩

/-- The flag is cleared just after the thread has read it: a whole quantum follows. -/
theorem stops_between_quanta_after_the_check :
    let before : List Label := [.render, .render, .makePlayer, .render, .clearFlag]
    let after : List Label := [.render, .render, .wake, .render, .render, .render]
    let d : Doings := { steps := 5, begun := 1, taken := [0], queued := [0] }
    ∃ l₀ l r₀ r, pocket.follow? Scripted.source before = some l₀ ∧
      l₀.pipeline.rendering = false ∧
      noted? (step Scripted.source) noteDoings l₀ {} after = some (l, d) ∧
      l₀.renderer = some r₀ ∧ l.renderer = some r ∧ r.isGone = true ∧
      Farewell Scripted.source r₀ r l d := by
  intro before after d
  have runs : ((pocket.follow? Scripted.source before).bind fun l₀ =>
      (noted? (step Scripted.source) noteDoings l₀ {} after).map fun x =>
        (l₀.pipeline.rendering, x.2, x.1.rendererGone)) = some (false, d, true) := by
    decide +kernel
  obtain ⟨l₀, reached, rest⟩ := Option.bind_eq_some_iff.1 runs
  obtain ⟨⟨l, d'⟩, run, seen⟩ := Option.map_eq_some_iff.1 rest
  simp only [Prod.mk.injEq] at seen
  obtain ⟨cleared, rfl, left⟩ := seen
  obtain ⟨r₀, r, here, there, farewell⟩ :=
    stops_between_quanta Scripted.source _ _ _ reached cleared run
  have gone : r.isGone = true := by simpa [rendererGone, there] using left
  exact ⟨l₀, l, r₀, r, reached, cleared, run, here, there, gone, farewell⟩

end Line

end SynthBridge
