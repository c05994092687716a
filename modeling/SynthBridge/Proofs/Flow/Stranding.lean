import SynthBridge.Proofs.Flow.Order
import SynthBridge.Proofs.Flow.Progress

/-!
# After a panic of the engine

An engine that panics takes the render thread with it, and nobody tells the player. What was queued
by then is still played. A task that asks for more waits for a buffer that will not come: the line
is `Line.Forsaken`, and so it stays until somebody stops the pipeline (`Line.Forsaken.step`).

`Line.stranded_by_panic` says when that happens: not before all quanta of the calls before the panic
were heard, and then to every task that asks for more.
-/

namespace SynthBridge

variable {α σ : Type}

/-! ## The last rendition -/

namespace Rendition

variable [Amplitude α] {source : Source α σ} {frames n m : Nat} {service : Option σ}
  {limiter : Limiter α} {ρ ρ' : Rendition α σ}

theorem take?_eq_none_of_le (ends : take? source frames service limiter n = none) (le : n ≤ m) :
    take? source frames service limiter m = none := by
  induction le with
  | refl => exact ends
  | step _ ih => rw [take?, ih, Option.bind_none]

/-- No rendition is longer than one after which the engine panics. -/
theorem le_of_last (taken : take? source frames service limiter n = some ρ)
    (last : ρ.next? source frames = none)
    (taken' : take? source frames service limiter m = some ρ') : m ≤ n := by
  have ends : take? source frames service limiter (n + 1) = none := by
    rw [take?, taken, Option.bind_some, last]
  by_contra longer
  rw [take?_eq_none_of_le ends (by omega)] at taken'
  cases taken'

/-- An engine panics in one call only. -/
theorem eq_of_last (taken : take? source frames service limiter n = some ρ)
    (last : ρ.next? source frames = none)
    (taken' : take? source frames service limiter m = some ρ')
    (last' : ρ'.next? source frames = none) : ρ' = ρ := by
  obtain rfl : m = n :=
    Nat.le_antisymm (le_of_last taken last taken') (le_of_last taken' last' taken)
  exact Option.some.inj (taken'.symm.trans taken)

/-- One more quantum is a block of two samples for each frame. -/
theorem sound_next? (next : ρ.next? source frames = some ρ') :
    ∃ block, ρ'.sound = ρ.sound ++ block ∧ block.length = 2 * frames := by
  simp only [next?, Option.map_eq_some_iff] at next
  obtain ⟨⟨samples, service⟩, rendered, rfl⟩ := next
  exact ⟨_, rfl, Limiter.length_process _ (Renderer.length_quantum rendered)⟩

theorem length_sound (taken : take? source frames service limiter n = some ρ) :
    ρ.sound.length = n * (2 * frames) := by
  induction n generalizing ρ with
  | zero =>
    obtain ⟨rfl⟩ := taken
    simp
  | succ n ih =>
    obtain ⟨ρ₀, before, next⟩ := Option.bind_eq_some_iff.1 taken
    obtain ⟨block, sound, length⟩ := sound_next? next
    rw [sound, List.length_append, ih before, length, Nat.add_one_mul n]

/-- A rendition begins as every shorter one. -/
theorem sound_prefix (le : n ≤ m) (taken : take? source frames service limiter n = some ρ)
    (taken' : take? source frames service limiter m = some ρ') : ρ.sound <+: ρ'.sound := by
  induction le generalizing ρ' with
  | refl =>
    obtain rfl := Option.some.inj (taken.symm.trans taken')
    exact List.prefix_refl _
  | step _ ih =>
    obtain ⟨ρ₀, before, next⟩ := Option.bind_eq_some_iff.1 taken'
    obtain ⟨block, sound, -⟩ := sound_next? next
    exact (ih before).trans (sound ▸ List.prefix_append _ _)

end Rendition

namespace Line

/-! ## Waiting in vain -/

/-- The player waits for a rendered buffer, but the render thread is gone, and nobody has stopped
the pipeline. -/
structure Forsaken (l : Line α σ) : Prop where
  waits : ∃ pl, l.player = some pl ∧ pl.IsHungry ∧ pl.current = none
  none_ready : l.pipeline.playable.items = []
  unbroken : l.pipeline.playable.interrupted = false
  unstopped : l.pipeline.rendering = true
  gone : l.rendererGone = true

instance (pl : Player) : Decidable pl.IsHungry :=
  match task : pl.task with
  | .priming => isTrue (.inl task)
  | .pulling (_ + 1) _ _ => isTrue (.inr ⟨_, _, _, task⟩)
  | .pulling 0 _ _ => isFalse (by simp [Player.IsHungry, task])
  | .idle => isFalse (by simp [Player.IsHungry, task])
  | .pulled _ => isFalse (by simp [Player.IsHungry, task])

theorem forsaken_iff {l : Line α σ} : l.Forsaken ↔
    (∃ pl ∈ l.player, pl.IsHungry ∧ pl.current = none) ∧ l.pipeline.playable.items = [] ∧
      l.pipeline.playable.interrupted = false ∧ l.pipeline.rendering = true ∧
      l.rendererGone = true :=
  ⟨fun h => ⟨h.waits, h.none_ready, h.unbroken, h.unstopped, h.gone⟩,
    fun ⟨waits, none_ready, unbroken, unstopped, gone⟩ =>
      ⟨waits, none_ready, unbroken, unstopped, gone⟩⟩

instance (l : Line α σ) : Decidable l.Forsaken := decidable_of_iff' _ forsaken_iff

/-- The labels that stop a pipeline: each half of it, and the steps of a teardown. -/
def Label.Stops (label : Label) : Prop := label = .clearFlag ∨ label = .wake ∨ label = .tearDown

variable [Amplitude α] {source : Source α σ} {l l' : Line α σ} {label : Label}

/-- **Nothing but stopping the pipeline ends a wait in vain.** -/
theorem Forsaken.step (h : l.Forsaken) (m : Move source l label l') (other : ¬label.Stops) :
    l'.Forsaken ∧ l'.player = l.player := by
  obtain ⟨pl, held, hungry, empty⟩ := h.waits
  cases m with
  | @render r r' s' here move =>
    have gone : r.isGone = true := by simpa [rendererGone, here] using h.gone
    cases move <;> simp_all [Renderer.isGone]
  | makePlayer here intact => exact absurd (held.symm.trans here) (by simp)
  | @play pl' _ _ here move =>
    obtain rfl : pl = pl' := Option.some.inj (held.symm.trans here)
    cases move with
    | giveBack spent full room => exact absurd (empty.symm.trans full) (by simp)
    | primed task _ ready => exact absurd (h.none_ready.symm.trans ready) (by simp)
    | unprimed task _ ready woken => exact absurd (h.unbroken.symm.trans woken) (by simp)
    | copy task full left count => exact absurd (empty.symm.trans full) (by simp)
    | next task _ ready => exact absurd (h.none_ready.symm.trans ready) (by simp)
    | finish task complete =>
      rcases complete with rfl | ⟨-, -, woken⟩
      · rcases hungry with primes | ⟨_, _, _, pulls⟩
        · exact absurd (primes.symm.trans task) (by simp)
        · exact absurd (pulls.symm.trans task) (by simp)
      · exact absurd (h.unbroken.symm.trans woken) (by simp)
  | @startPrime pl' here free =>
    obtain rfl : pl = pl' := Option.some.inj (held.symm.trans here)
    exact absurd hungry (Player.not_isHungry_of_isFree free)
  | @startPull pl' _ here free =>
    obtain rfl : pl = pl' := Option.some.inj (held.symm.trans here)
    exact absurd hungry (Player.not_isHungry_of_isFree free)
  | clearFlag => exact absurd (.inl rfl) other
  | wake => exact absurd (.inr (.inl rfl)) other
  | interrupt => exact ⟨⟨h.waits, h.none_ready, h.unbroken, h.unstopped, h.gone⟩, rfl⟩
  | startTeardown here intact =>
    exact ⟨⟨h.waits, h.none_ready, h.unbroken, h.unstopped, h.gone⟩, rfl⟩
  | tearDown here move => exact absurd (.inr (.inr rfl)) other

theorem Forsaken.stays (h : l.Forsaken) {rest : List Label} (others : ∀ x ∈ rest, ¬x.Stops)
    (run : l.follow? source rest = some l') : l'.Forsaken ∧ l'.player = l.player := by
  refine follow?_induction (P := fun l' => l'.Forsaken ∧ l'.player = l.player) ?_ ⟨h, rfl⟩ others
    run
  rintro l₁ label l₂ ⟨forsaken, same⟩ other m
  obtain ⟨forsaken', same'⟩ := forsaken.step m other
  exact ⟨forsaken', same'.trans same⟩

omit [Amplitude α] in
/-- Stopping the pipeline lets the player go on. -/
theorem Forsaken.released (h : l.Forsaken) : (l.withPipeline l.pipeline.stop).stepPlay.isSome := by
  obtain ⟨pl, held, hungry, empty⟩ := h.waits
  refine isSome_stepPlay held (Option.isSome_iff_ne_none.2 fun stuck => ?_)
  rcases Player.waits_of_advance stuck with free | waits
  · exact absurd hungry (Player.not_isHungry_of_isFree free)
  · cases waits with
    | room spent full _ => exact absurd (empty.symm.trans full) (by simp)
    | buffer _ _ _ unbroken => cases unbroken

/-! ## Whole runs -/

/-- Backstock is not interrupted, and the render thread leaves only if it is told to. -/
structure Loyal (l : Line α σ) : Prop where
  deaf : l.pipeline.backstock.interrupted = false
  stopped : ∀ r, l.renderer = some r → r.stage = .stopped → l.pipeline.rendering = false

theorem Loyal.step (h : l.Loyal) (m : Move source l label l') (other : label ≠ .interrupt) :
    l'.Loyal := by
  cases m with
  | render here move =>
    refine ⟨?_, ?_⟩
    · have deaf := h.deaf
      cases move <;> exact deaf
    · rintro _ ⟨⟩ stage
      cases move with
      | obey before cleared => exact cleared
      | quit before ready broken => exact absurd (h.deaf.symm.trans broken) (by simp)
      | _ => cases stage
  | play here move =>
    obtain ⟨spare, ready, played, rfl⟩ := move.pipeline_eq
    exact ⟨h.deaf, h.stopped⟩
  | clearFlag => exact ⟨h.deaf, fun _ _ _ => rfl⟩
  | interrupt => exact absurd rfl other
  | tearDown here move =>
    have deaf := h.deaf
    have stopped := h.stopped
    cases move with
    | clearFlag stage => exact ⟨deaf, fun _ _ _ => rfl⟩
    | _ => exact ⟨deaf, stopped⟩
  | _ => exact ⟨h.deaf, h.stopped⟩

/-- **Where a task is under way and nobody can go on**, the player waits in vain. -/
theorem Loyal.forsaken (h : l.Loyal) (conserved : l.crew.Conserved) (whole : l.teardown = none)
    (unstopped : l.pipeline.rendering = true) {pl : Player} (held : l.player = some pl)
    (busy : pl.isFree = false) (stuck : l.stepPlay = none) (rest : l.stepRender source = none) :
    l.Forsaken := by
  obtain ⟨shared, renderer, player, teardown⟩ := l
  obtain rfl : player = some pl := held
  obtain rfl : teardown = none := whole
  rcases Player.waits_of_advance (by simpa [stepPlay] using stuck) with free | waits
  · exact absurd (free.symm.trans busy) (by simp)
  · cases waits with
    | room spent full crowded =>
      exact absurd (Crew.Conserved.giveBack_room conserved full) (Nat.not_lt_of_le crowded)
    | buffer hungry empty none_ready unbroken =>
      refine ⟨⟨pl, rfl, hungry, empty⟩, none_ready, unbroken, unstopped, ?_⟩
      cases renderer with
      | none => rfl
      | some r =>
        rcases Renderer.waits_of_advance (by simpa [stepRender] using rest) with gone | waits
        · exact gone
        · obtain ⟨needs, none_idle⟩ := Crew.Conserved.renderer_waits conserved waits
          exact absurd none_idle
            (Crew.Conserved.stocked conserved (Nat.zero_le 2) needs empty none_ready)

omit [Amplitude α] in
/-- The render thread of a player that waits in vain has panicked. -/
theorem Loyal.panicked (h : l.Loyal) (forsaken : l.Forsaken) {r : Renderer α}
    (here : l.renderer = some r) : r.stage = .panicked := by
  have gone : r.isGone = true := by simpa [rendererGone, here] using forsaken.gone
  unfold Renderer.isGone at gone
  split at gone
  · rename_i stage
    exact absurd ((h.stopped r here stage).symm.trans forsaken.unstopped) (by simp)
  · assumption
  · cases gone

/-- What was heard, what the player has left and what is queued for it. -/
def soundings (l : Line α σ) (ds : List Delivery) : List Int16 :=
  ds.flatMap Delivery.copied ++ l.underway ++ l.remaining ++ samplesOf l.pipeline.playable.items

/-- Once the engine has panicked, what was heard and what is still to be heard are all that it has
rendered. -/
def CutOff (ρ : Rendition α σ) (l : Line α σ) (ds : List Delivery) : Prop :=
  ∀ r, l.renderer = some r → r.stage = .panicked → l.soundings ds = ρ.sound

variable {sizes : Sizes} {service : Option σ} {limiter : Limiter α} {past : List Label}
  {ds : List Delivery} {calls : Nat} {ρ : Rendition α σ}

/-- Only the render thread adds to what is heard. -/
theorem Recorded.soundings_eq (h : Recorded source sizes service limiter past l ds)
    (m : Move source l label l') (whole : label ≠ .startTeardown) (other : label ≠ .render) :
    l'.soundings (ds ++ Delivery.ofStep l.player l'.player) = l.soundings ds := by
  obtain ⟨shared, renderer, player, teardown⟩ := l
  have intact : teardown = none := h.whole
  cases m with
  | render here move => exact absurd rfl other
  | makePlayer here _ =>
    obtain rfl : player = none := here
    have idle : (Player.new shared.pipeline).1.underway = [] := rfl
    simp only [soundings, Line.underway, Line.remaining, Option.elim, pipeline, remaining_new, idle]
    simp [Delivery.ofStep, Player.new, Pipeline.newBuffer, withPipeline]
  | @play pl pl' p' here move =>
    obtain rfl : player = some pl := here
    have same := move.heard_eq (h.tune.primed pl rfl) fun b =>
      Crew.Conserved.length_held h.conserved
    simp only [soundings, Line.underway, Line.remaining, Option.elim, pipeline, withPipeline,
      Delivery.ofStep, List.flatMap_append, List.append_assoc] at same ⊢
    rw [same]
  | @startPrime pl here free =>
    obtain rfl : player = some pl := here
    have quiet : pl.delivery pl.startPrime = [] :=
      Player.delivery_eq_nil (by simp [Player.startPrime])
    simp only [soundings, Line.underway, Line.remaining, Delivery.ofStep, quiet, Option.elim,
      Player.underway_of_free free, pipeline]
    simp [Player.underway, Player.startPrime, Player.remaining]
  | @startPull pl samples here free =>
    obtain rfl : player = some pl := here
    have quiet : pl.delivery (pl.startPull samples) = [] :=
      Player.delivery_eq_nil (by simp [Player.startPull])
    simp only [soundings, Line.underway, Line.remaining, Delivery.ofStep, quiet, Option.elim,
      Player.underway_of_free free, pipeline]
    simp [Player.underway, Player.startPull, Player.remaining]
  | tearDown here move => exact absurd (intact.symm.trans here) (by simp)
  | startTeardown here _ => exact absurd rfl whole
  | _ => simp [soundings, Line.underway, Line.remaining, pipeline, withPipeline,
      Pipeline.clearFlag, Pipeline.wake, Queue.interrupt]

theorem Recorded.cutOff (h : Recorded source sizes service limiter past l ds)
    (taken : Rendition.take? source sizes.frames service limiter calls = some ρ)
    (last : ρ.next? source sizes.frames = none) (cut : l.CutOff ρ ds) (m : Move source l label l')
    (whole : label ≠ .startTeardown) :
    l'.CutOff ρ (ds ++ Delivery.ofStep l.player l'.player) := by
  intro r' here' stage'
  by_cases renders : label = .render
  · subst renders
    obtain ⟨n, ρ', r, here, taken', heard, follows⟩ := h.tune.rendition
    have frames : l.pipeline.frames = sizes.frames := congrArg Sizes.frames h.sizes_eq
    have conserved := h.conserved
    obtain ⟨shared, renderer, player, teardown⟩ := l
    obtain rfl : renderer = some r := here
    cases m with
    | render here move =>
      obtain ⟨rfl⟩ := here
      obtain ⟨rfl⟩ := here'
      cases move with
      | panic stage rendered =>
        -- The quantum that is not rendered is the next one of the rendition heard so far.
        have service : shared.service = ρ'.service := by
          simp only [Renderer.Follows, stage] at follows
          exact follows.2
        have last' : ρ'.next? source sizes.frames = none := by
          rw [← frames]
          simp [Rendition.next?, ← service, pipeline, rendered]
        rw [← Rendition.eq_of_last taken last (frames ▸ taken') last', ← heard]
        simp [soundings, Line.underway, Line.remaining, Renderer.queued, Renderer.ready, stage,
          pipeline]
      | overrun stage fits =>
        obtain ⟨input, output⟩ := Crew.Conserved.length_limiting conserved stage
        have done := shared.limiter.processInto?_of_length input output
        exact absurd (fits.symm.trans done) (by simp)
      | _ => cases stage'
  · rw [h.soundings_eq m whole renders]
    refine cut r' ?_ stage'
    rw [← here']
    cases m with
    | render here move => exact absurd rfl renders
    | _ => rfl

/-- What is kept by every step of a player that primes once and pulls holds after every such
run, together with the record of the run. -/
theorem recorded_induction {P : Line α σ → List Delivery → Prop} {allowed : Label → Prop}
    (step : ∀ past l ds label l', Recorded source sizes service limiter past l ds → P l ds →
      allowed label → label ≠ .startTeardown → Move source l label l' →
        P l' (ds ++ Delivery.ofStep l.player l'.player))
    (start : P (bare sizes service limiter).spawn []) {opening playing : List Label}
    (opens : ∀ x ∈ opening, x ≠ .startTeardown ∧ x ≠ .startPrime ∧ x.asked? = none)
    (plays : ∀ x ∈ playing, x ≠ .startTeardown ∧ x ≠ .startPrime)
    (labels : ∀ x ∈ opening ++ .startPrime :: playing, allowed x)
    (run : (bare sizes service limiter).spawn.listen? source (opening ++ .startPrime :: playing) =
      some (l, ds)) :
    Recorded source sizes service limiter (opening ++ .startPrime :: playing) l ds ∧ P l ds := by
  obtain ⟨l₁, ds₁, ds', opened, rest, rfl⟩ := listen?_append run
  obtain ⟨before, others⟩ := List.forall_mem_append.1 labels
  obtain ⟨atPrime, after⟩ := List.forall_mem_cons.1 others
  have early : ∀ x ∈ opening,
      (x ≠ .startTeardown ∧ x ≠ .startPrime ∧ x.asked? = none) ∧ allowed x :=
    fun x mem => ⟨opens x mem, before x mem⟩
  have late : ∀ x ∈ playing, (x ≠ .startTeardown ∧ x ≠ .startPrime) ∧ allowed x :=
    fun x mem => ⟨plays x mem, after x mem⟩
  have first : (Recorded source sizes service limiter ([] ++ opening) l₁ ([] ++ ds₁) ∧
      l₁.Untouched) ∧ P l₁ ([] ++ ds₁) := by
    refine listen?_induction (P := fun past l ds =>
      (Recorded source sizes service limiter past l ds ∧ l.Untouched) ∧ P l ds) ?_
      ⟨⟨.start, by rintro _ ⟨⟩⟩, start⟩ early opened
    rintro past l ds label l' ⟨⟨h, untouched⟩, kept⟩ ⟨⟨whole, unprimed, unasked⟩, allowed⟩ m
    exact ⟨⟨h.step m whole fun _ => untouched, untouched.step m unprimed unasked⟩,
      step past l ds label l' h kept allowed whole m⟩
  obtain ⟨⟨h, untouched⟩, kept⟩ := first
  obtain ⟨l₂, ds₂, primes, played, rfl⟩ := listen?_cons rest
  have m := move_of_step primes
  have primed := h.step m (by simp) fun _ => untouched
  have kept' := step _ _ _ _ _ h kept atPrime (by simp) m
  have second : Recorded source sizes service limiter
      ([] ++ opening ++ [.startPrime] ++ playing) l
        ([] ++ ds₁ ++ Delivery.ofStep l₁.player l₂.player ++ ds₂) ∧
      P l ([] ++ ds₁ ++ Delivery.ofStep l₁.player l₂.player ++ ds₂) := by
    refine listen?_induction (P := fun past l ds =>
      Recorded source sizes service limiter past l ds ∧ P l ds) ?_ ⟨primed, kept'⟩ late played
    rintro past l ds label l' ⟨h, kept⟩ ⟨⟨whole, other⟩, allowed⟩ m
    exact ⟨h.step m whole fun primes => absurd primes other,
      step past l ds label l' h kept allowed whole m⟩
  simpa using second

/-- What becomes of playback where the engine renders the given rendition in its first `calls` calls
and panics in the next. -/
structure Stranding (source : Source α σ) (sizes : Sizes) (calls : Nat) (ρ : Rendition α σ)
    (past : List Label) (l : Line α σ) (ds : List Delivery) : Prop where
  /-- Nothing is heard but what was rendered before the panic, -/
  heard : ds.flatMap Delivery.copied ++ l.underway <+: ρ.sound
  /-- and only pulls that ask for no more are answered before somebody wakes the player. -/
  answered : .wake ∉ past → (ds.map fun d => d.asked / 2).sum ≤ calls * sizes.frames
  /-- A player that waits in vain has come to the end of it. -/
  spent : l.Forsaken → ds.flatMap Delivery.copied ++ l.underway = ρ.sound ∧
    ∃ r, l.renderer = some r ∧ r.stage = .panicked
  /-- It waits until the pipeline is stopped, whatever else is done, -/
  stays : l.Forsaken → ∀ rest l', (∀ x ∈ rest, ¬Label.Stops x) → l.follow? source rest = some l' →
    l'.Forsaken ∧ l'.player = l.player
  /-- and then goes on. -/
  released : l.Forsaken → (l.withPipeline l.pipeline.stop).stepPlay.isSome
  /-- Until then, a task under way has somebody who works on it, or waits in vain. -/
  forsaken : l.pipeline.rendering = true → ∀ pl, l.player = some pl → pl.isFree = false →
    l.stepPlay.isSome ∨ (l.stepRender source).isSome ∨ l.Forsaken
  /-- There is only so much work to do. -/
  ends : ∃ bound, ∀ rest : List Label, (∀ x ∈ rest, x.IsWork) →
    (l.follow? source rest).isSome → rest.length ≤ bound

/-- Pulls that are answered in full have copied what they asked for. -/
theorem asked_le_copied (full : ∀ d ∈ ds, 2 * (d.asked / 2) ≤ d.copied.length) :
    2 * (ds.map fun d => d.asked / 2).sum ≤ (ds.flatMap Delivery.copied).length := by
  induction ds with
  | nil => simp
  | cons d rest ih =>
    obtain ⟨here, others⟩ := List.forall_mem_cons.1 full
    have := ih others
    simp only [List.map_cons, List.sum_cons, List.flatMap_cons, List.length_append]
    omega

theorem Recorded.asked_le (h : Recorded source sizes service limiter past l ds)
    (taken : Rendition.take? source sizes.frames service limiter calls = some ρ)
    (heard : ds.flatMap Delivery.copied ++ l.underway <+: ρ.sound) (asleep : .wake ∉ past) :
    (ds.map fun d => d.asked / 2).sum ≤ calls * sizes.frames := by
  have full : ∀ d ∈ ds, 2 * (d.asked / 2) ≤ d.copied.length := by
    intro d mem
    have genuine := h.answered.genuine d mem
    have filled : ¬d.copied.length + 2 ≤ d.asked := fun missing => asleep (genuine.silence missing)
    have even := genuine.whole
    omega
  have asked := asked_le_copied full
  have most := heard.length_le
  rw [List.length_append, Rendition.length_sound taken, Nat.mul_left_comm] at most
  omega

/-- **A panic of the engine leaves playback waiting for ever**, just when all that was rendered
before it has been played. However the threads interleave, what the `calls` calls before the panic
have rendered is heard as if nothing were to happen; a prime or a pull that asks for more comes to
wait on the empty queue, with nobody there to fill it, until the pipeline is stopped. -/
theorem stranded_by_panic (source : Source α σ) (sizes : Sizes) (service : Option σ)
    (limiter : Limiter α) {calls : Nat} {ρ : Rendition α σ}
    (rendered : Rendition.take? source sizes.frames service limiter calls = some ρ)
    (panics : ρ.next? source sizes.frames = none) {opening playing : List Label} {l : Line α σ}
    {ds : List Delivery}
    (opens : ∀ x ∈ opening, x ≠ .startTeardown ∧ x ≠ .startPrime ∧ x.asked? = none)
    (plays : ∀ x ∈ playing, x ≠ .startTeardown ∧ x ≠ .startPrime)
    (deaf : .interrupt ∉ opening ++ playing)
    (run : (bare sizes service limiter).spawn.listen? source (opening ++ .startPrime :: playing) =
      some (l, ds)) :
    l.Stranding source sizes calls ρ (opening ++ .startPrime :: playing) ds := by
  have labels : ∀ x ∈ opening ++ .startPrime :: playing, x ≠ .interrupt := by
    rintro x mem rfl
    simp at mem deaf
    tauto
  obtain ⟨h, loyal, cut⟩ := recorded_induction (P := fun l ds => l.Loyal ∧ l.CutOff ρ ds)
    (fun _ _ _ _ _ h kept other whole m =>
      ⟨kept.1.step m other, h.cutOff rendered panics kept.2 m whole⟩)
    ⟨⟨rfl, by rintro _ ⟨⟩ ⟨⟩⟩, by rintro _ ⟨⟩ ⟨⟩⟩ opens plays labels run
  obtain ⟨n, ρ', r, here, taken, sound, -⟩ := h.tune.rendition
  rw [Pipeline.frames, h.sizes_eq] at taken
  have heard : ds.flatMap Delivery.copied ++ l.underway <+: ρ.sound := by
    refine .trans ?_ (Rendition.sound_prefix (Rendition.le_of_last rendered panics taken) taken
      rendered)
    rw [← sound, List.append_assoc (_ ++ _)]
    exact List.prefix_append _ _
  refine ⟨heard, h.asked_le rendered heard, fun forsaken => ?_,
    fun forsaken _ _ others run => forsaken.stays others run, Forsaken.released, ?_,
    ends_of_effort source l⟩
  · have panicked := loyal.panicked forsaken here
    obtain ⟨pl, held, hungry, empty⟩ := forsaken.waits
    refine ⟨?_, r, here, panicked⟩
    rw [← cut r here panicked]
    simp [soundings, remaining, held, Player.remaining, empty, forsaken.none_ready, samplesOf]
  · intro unstopped pl held busy
    cases stuck : l.stepPlay with
    | some next => exact .inl rfl
    | none =>
      cases rest : l.stepRender source with
      | some next => exact .inr (.inl rfl)
      | none =>
        exact .inr (.inr (loyal.forsaken h.conserved h.whole unstopped held busy stuck rest))

/-- The smallest line, with an engine that panics in the given call. -/
def fragile (failAt : Nat) : Line Extended (Scripted.State Extended) :=
  (bare pocket.pipeline.sizes (some (Scripted.new #[.finite 1] (some failAt)))
    (.new "pocket")).spawn

/-- The first frame is played, and the pull waits in vain for the second. -/
theorem stranded_by_panic_in_second_call :
    let opening : List Label := [.render, .render, .makePlayer]
    let playing : List Label := [.play, .render, .render, .render, .render, .render, .play,
      .startPull 5, .play, .play, .render, .render]
    (∀ x ∈ opening, x ≠ .startTeardown ∧ x ≠ .startPrime ∧ x.asked? = none) ∧
      (∀ x ∈ playing, x ≠ .startTeardown ∧ x ≠ .startPrime) ∧ .interrupt ∉ opening ++ playing ∧
      ∃ ρ : Rendition Extended (Scripted.State Extended),
        Rendition.take? Scripted.source 1 (fragile 2).shared.service (.new "pocket") 1 = some ρ ∧
        ρ.next? Scripted.source 1 = none ∧
        ∃ l, (fragile 2).listen? Scripted.source (opening ++ .startPrime :: playing) =
            some (l, []) ∧ l.Forsaken ∧ l.underway = ρ.sound := by
  intro opening playing
  have opens : ∀ x ∈ opening, x ≠ .startTeardown ∧ x ≠ .startPrime ∧ x.asked? = none := by decide
  have plays : ∀ x ∈ playing, x ≠ .startTeardown ∧ x ≠ .startPrime := by decide
  have deaf : .interrupt ∉ opening ++ playing := by decide
  have taken : (Rendition.take? Scripted.source 1 (fragile 2).shared.service
      (.new "pocket") 1).any (fun ρ => (ρ.next? Scripted.source 1).isNone) = true := by
    decide +kernel
  obtain ⟨ρ, rendered, panics⟩ := (Option.any_eq_true ..).1 taken
  have runs : ((fragile 2).listen? Scripted.source (opening ++ .startPrime :: playing)).any
      (fun x => decide x.1.Forsaken && decide (x.2 = [])) = true := by
    decide +kernel
  obtain ⟨⟨l, ds⟩, run, facts⟩ := (Option.any_eq_true ..).1 runs
  simp only [Bool.and_eq_true, decide_eq_true_eq] at facts
  obtain ⟨forsaken, rfl⟩ := facts
  have stranding := stranded_by_panic _ _ _ _ rendered (Option.isNone_iff_eq_none.1 panics) opens
    plays deaf run
  exact ⟨opens, plays, deaf, ρ, rendered, Option.isNone_iff_eq_none.1 panics, l, run, forsaken,
    (stranding.spent forsaken).1⟩

/-- **Playback can wait for ever**: an opening, if the first call panics, and a pull of the mixer,
if the second one does. -/
theorem forsaken_after_panic :
    (∃ l, (fragile 1).follow? Scripted.source [.render, .render, .makePlayer, .startPrime, .play,
        .render, .render] = some l ∧ l.Forsaken ∧ l.player.map Player.task = some .priming) ∧
    (∃ l, (fragile 2).follow? Scripted.source [.render, .render, .makePlayer, .startPrime, .play,
        .render, .render, .render, .render, .render, .play, .startPull 5, .play, .play, .render,
        .render] = some l ∧ l.Forsaken ∧ l.asked = [5]) := by
  have primes : ((fragile 1).follow? Scripted.source [.render, .render, .makePlayer, .startPrime,
      .play, .render, .render]).any (fun l =>
        decide l.Forsaken && decide (l.player.map Player.task = some .priming)) = true := by
    decide +kernel
  have pulls : ((fragile 2).follow? Scripted.source [.render, .render, .makePlayer, .startPrime,
      .play, .render, .render, .render, .render, .render, .play, .startPull 5, .play, .play,
      .render, .render]).any (fun l => decide l.Forsaken && decide (l.asked = [5])) = true := by
    decide +kernel
  obtain ⟨l, run, facts⟩ := (Option.any_eq_true ..).1 primes
  obtain ⟨l', run', facts'⟩ := (Option.any_eq_true ..).1 pulls
  simp only [Bool.and_eq_true, decide_eq_true_eq] at facts facts'
  exact ⟨⟨l, run, facts⟩, ⟨l', run', facts'⟩⟩

end Line

end SynthBridge
