import SynthBridge.Proofs.Flow.Deliveries

/-!
# The order of what is heard

One engine and one limiter, used in turn and by nobody else, make of a session a `Rendition`: the
sound of its first `n` quanta, and the engine and the limiter after them. Whatever the threads of
a line do, what was copied into regions, what is left in the player's buffer, what is queued for
playback and what the render thread is about to queue are together such a rendition, in that
order (`Line.InTune`). So the mixer hears a prefix of it: `Line.heard_in_order`.
-/

namespace SynthBridge

variable {α σ : Type}

/-! ## Renditions -/

/-- Some quanta one after the other, with the engine and the limiter after them. -/
structure Rendition (α σ : Type) where
  sound : List Int16
  service : Option σ
  limiter : Limiter α

namespace Rendition

variable [Amplitude α]

/-- One more quantum; `none` if the engine panics. -/
def next? (source : Source α σ) (frames : Nat) (r : Rendition α σ) : Option (Rendition α σ) :=
  (Renderer.quantum source frames r.service).map fun (samples, service) =>
    let (limiter, block) := r.limiter.process samples
    ⟨r.sound ++ block, service, limiter⟩

/-- The first `n` quanta. -/
def take? (source : Source α σ) (frames : Nat) (service : Option σ) (limiter : Limiter α) :
    Nat → Option (Rendition α σ)
  | 0 => some ⟨[], service, limiter⟩
  | n + 1 => (take? source frames service limiter n).bind (next? source frames)

end Rendition

/-! ## What is still to be heard -/

/-- The samples of some buffers, one buffer after the other. -/
def samplesOf (bs : List Buffer) : List Int16 := bs.flatMap Buffer.samples

/-- What the player has left of its buffer. -/
def Player.remaining (pl : Player) : List Int16 :=
  pl.current.elim [] fun b => b.samples.drop (2 * pl.cursor.frameOffset)

/-- The filled buffer in the hands of a render thread. -/
def Renderer.ready (r : Renderer α) : List Buffer :=
  match r.stage with
  | .queueing b => [b]
  | _ => []

namespace Player

variable {pl pl' : Player} {p p' : Pipeline}

/-- A player that is to give its buffer back has played all of it. -/
theorem remaining_of_spent (spent : pl.IsSpent p) (primed : pl.task = .priming → pl.remaining = [])
    (length : ∀ b, pl.current = some b → b.samples.length = 2 * p.frames) : pl.remaining = [] := by
  rcases spent with task | ⟨-, complete⟩
  · exact primed task
  · cases held : pl.current with
    | none => simp [remaining, held]
    | some b =>
      have := length b held
      simp only [remaining, held, Option.elim, List.drop_eq_nil_iff]
      omega

/-- **A step of a player changes nothing of what was or will be heard**, nor of its order. -/
theorem Move.heard_eq (m : Move pl p pl' p') (primed : pl.task = .priming → pl.remaining = [])
    (length : ∀ b, pl.current = some b → b.samples.length = 2 * p.frames) :
    (pl.delivery pl').flatMap Delivery.copied ++ pl'.underway ++ pl'.remaining ++
        samplesOf p'.playable.items =
      pl.underway ++ pl.remaining ++ samplesOf p.playable.items := by
  cases m with
  | giveBack spent held room =>
    rw [remaining_of_spent spent primed length]
    rcases spent with task | ⟨⟨wanted, out, length, task⟩, -⟩ <;>
      simp [delivery, underway, remaining, task]
  | primed task empty ready => simp [delivery, underway, remaining, task, empty, ready, samplesOf]
  | unprimed task empty ready woken => simp [delivery, underway, remaining, task, empty]
  | @copy b wanted length n out task held left count =>
    have cut : slice b pl.cursor.frameOffset n ++
        b.samples.drop (2 * (pl.cursor.frameOffset + n)) =
          b.samples.drop (2 * pl.cursor.frameOffset) := by
      have := List.take_append_drop (2 * n) (b.samples.drop (2 * pl.cursor.frameOffset))
      rwa [List.drop_drop, ← Nat.mul_add] at this
    simp [delivery, underway, remaining, task, held, ← cut]
  | next task empty ready => simp [delivery, underway, remaining, task, empty, ready, samplesOf]
  | finish task complete => simp [delivery, underway, remaining, task]

/-- A player that primes has nothing left of its buffer, and so it stays. -/
theorem Move.still_primed (m : Move pl p pl' p') (task' : pl'.task = .priming) :
    pl'.remaining = [] := by
  cases m with
  | giveBack spent held room => rfl
  | primed task empty ready => cases task'
  | unprimed task empty ready woken => cases task'
  | copy task held left count => cases task'
  | next task empty ready => cases task'
  | finish task complete => cases task'

end Player

namespace Renderer

/-- What is queued for playback, and what the render thread is about to queue. -/
def queued (r : Renderer α) (p : Pipeline) : List Int16 := samplesOf (p.playable.items ++ r.ready)

variable [Amplitude α]

/-- The engine and the limiter stand where a rendition has left them, but for a quantum that is
rendered and not yet limited. -/
def Follows (source : Source α σ) (ρ : Rendition α σ) (r : Renderer α) (s : Shared α σ) : Prop :=
  match r.stage with
  | .taking samples | .limiting samples _ =>
    s.limiter = ρ.limiter ∧ quantum source s.pipeline.frames ρ.service = some (samples, s.service)
  | .stopped | .panicked => True
  | _ => s.limiter = ρ.limiter ∧ s.service = ρ.service

variable {source : Source α σ} {ρ : Rendition α σ} {r r' : Renderer α} {s s' : Shared α σ}

/-- **A step of a render thread adds at most the next quantum of the rendition that it follows**,
and adds it behind all that is queued. -/
theorem Move.follows (m : Move source r s r' s') (h : r.Follows source ρ s)
    (length : ∀ samples b, r.stage = .limiting samples b →
      samples.length = 2 * s.pipeline.frames ∧ b.samples.length = 2 * s.pipeline.frames) :
    ∃ ρ' block, (ρ' = ρ ∨ ρ.next? source s.pipeline.frames = some ρ') ∧
      ρ'.sound = ρ.sound ++ block ∧ r'.queued s'.pipeline = r.queued s.pipeline ++ block ∧
      r'.Follows source ρ' s' := by
  cases m with
  | filled stage =>
    refine ⟨ρ, [], .inl rfl, by simp, by simp [queued, ready, stage], ?_⟩
    simpa [Follows, stage] using h
  | fill stage room =>
    refine ⟨ρ, [], .inl rfl, by simp, by simp [queued, ready, stage], ?_⟩
    simpa [Follows, stage] using h
  | goOn stage flag =>
    refine ⟨ρ, [], .inl rfl, by simp, by simp [queued, ready, stage], ?_⟩
    simpa [Follows, stage] using h
  | obey stage flag =>
    exact ⟨ρ, [], .inl rfl, by simp, by simp [queued, ready, stage], trivial⟩
  | render stage rendered =>
    obtain ⟨limiter, service⟩ : s.limiter = ρ.limiter ∧ s.service = ρ.service := by
      simpa [Follows, stage] using h
    exact ⟨ρ, [], .inl rfl, by simp, by simp [queued, ready, stage], limiter,
      service ▸ rendered⟩
  | panic stage rendered =>
    exact ⟨ρ, [], .inl rfl, by simp, by simp [queued, ready, stage], trivial⟩
  | take stage full =>
    obtain ⟨limiter, rendered⟩ :
        s.limiter = ρ.limiter ∧ quantum source s.pipeline.frames ρ.service =
          some (_, s.service) := by
      simpa [Follows, stage] using h
    exact ⟨ρ, [], .inl rfl, by simp, by simp [queued, ready, stage], limiter, rendered⟩
  | quit stage full broken =>
    exact ⟨ρ, [], .inl rfl, by simp, by simp [queued, ready, stage], trivial⟩
  | @limit samples b limiter filled stage fits =>
    obtain ⟨same, rendered⟩ :
        s.limiter = ρ.limiter ∧ quantum source s.pipeline.frames ρ.service =
          some (samples, s.service) := by
      simpa [Follows, stage] using h
    obtain ⟨input, output⟩ := length samples b stage
    rw [Limiter.processInto?_of_length _ input output, same, Option.some.injEq] at fits
    refine ⟨⟨ρ.sound ++ filled, s.service, limiter⟩, filled, .inr ?_, rfl, ?_, rfl, rfl⟩
    · simp [Rendition.next?, rendered, fits]
    · simp [queued, ready, stage, samplesOf]
  | overrun stage fits =>
    obtain ⟨input, output⟩ := length _ _ stage
    rw [Limiter.processInto?_of_length _ input output] at fits
    cases fits
  | queue stage room =>
    refine ⟨ρ, [], .inl rfl, by simp, by simp [queued, ready, stage], ?_⟩
    simpa [Follows, stage] using h

end Renderer

/-! ## Whole runs -/

namespace Line

def remaining (l : Line α σ) : List Int16 := l.player.elim [] Player.remaining

variable [Amplitude α]

/-- What was heard and what is still to be heard are together a rendition, the present one. -/
structure InTune (source : Source α σ) (service : Option σ) (limiter : Limiter α)
    (l : Line α σ) (ds : List Delivery) : Prop where
  rendition : ∃ n ρ r, l.renderer = some r ∧
    Rendition.take? source l.pipeline.frames service limiter n = some ρ ∧
    ds.flatMap Delivery.copied ++ l.underway ++ l.remaining ++ r.queued l.pipeline = ρ.sound ∧
    r.Follows source ρ l.shared
  primed : ∀ pl, l.player = some pl → pl.task = .priming → pl.remaining = []

/-- Nothing is asked for, and the player has nothing to play: it is as it was made. -/
def Untouched (l : Line α σ) : Prop :=
  ∀ pl, l.player = some pl → pl.isFree = true ∧ pl.remaining = []

variable {source : Source α σ} {service : Option σ} {limiter : Limiter α} {l l' : Line α σ}
  {ds : List Delivery} {label : Label}

omit [Amplitude α] in
theorem remaining_new (p : Pipeline) : (Player.new p).1.remaining = [] := by
  simp [Player.new, Pipeline.newBuffer, Player.remaining, Pipeline.frames]

/-- Who is not the render thread keeps a line in tune by not touching what is heard. -/
theorem InTune.undisturbed {shared : Shared α σ} {renderer : Option (Renderer α)}
    {player player' : Option Player} {teardown teardown' : Option Teardown} {p' : Pipeline}
    {ds' : List Delivery}
    (h : InTune source service limiter ⟨shared, renderer, player, teardown⟩ ds)
    (frames : p'.frames = shared.pipeline.frames)
    (same : (ds ++ ds').flatMap Delivery.copied ++ player'.elim [] Player.underway ++
        player'.elim [] Player.remaining ++ samplesOf p'.playable.items =
      ds.flatMap Delivery.copied ++ player.elim [] Player.underway ++
        player.elim [] Player.remaining ++ samplesOf shared.pipeline.playable.items)
    (primed : ∀ pl, player' = some pl → pl.task = .priming → pl.remaining = []) :
    InTune source service limiter ⟨{ shared with pipeline := p' }, renderer, player', teardown'⟩
      (ds ++ ds') := by
  obtain ⟨⟨n, ρ, r, rfl, taken, heard, follows⟩, -⟩ := h
  refine ⟨⟨n, ρ, r, rfl, frames.symm ▸ taken, ?_, ?_⟩, primed⟩
  · rw [← heard]
    simp only [Line.underway, Line.remaining, pipeline, Renderer.queued, samplesOf,
      List.flatMap_append, ← List.append_assoc] at same ⊢
    rw [same]
  · unfold Renderer.Follows at follows ⊢
    simpa only [frames] using follows

/-- **Every step of a whole line but the one that begins to prime keeps it in tune.** -/
theorem InTune.step (h : InTune source service limiter l ds) (m : Move source l label l')
    (conserved : l.crew.Conserved) (whole : l.teardown = none) (after : label ≠ .startPrime) :
    InTune source service limiter l' (ds ++ Delivery.ofStep l.player l'.player) := by
  obtain ⟨shared, renderer, player, teardown⟩ := l
  cases m with
  | @render r r' s' here move =>
    obtain ⟨⟨n, ρ, _, rfl, taken, heard, follows⟩, primed⟩ := h
    obtain ⟨rfl⟩ := here
    obtain ⟨ρ', block, quantum, sound, queued, follows'⟩ :=
      move.follows follows fun _ _ stage => Crew.Conserved.length_limiting conserved stage
    have frames : s'.pipeline.frames = shared.pipeline.frames :=
      congrArg Sizes.frames move.sizes_eq
    have heard' : ds.flatMap Delivery.copied ++ underway ⟨s', some r', player, teardown⟩ ++
        remaining ⟨s', some r', player, teardown⟩ ++ r'.queued s'.pipeline = ρ'.sound := by
      rw [queued, sound, ← heard]
      simp [underway, remaining, pipeline]
    refine ⟨?_, primed⟩
    simp only [Delivery.ofStep_self, List.append_nil]
    rcases quantum with rfl | next
    · exact ⟨n, _, r', rfl, frames ▸ taken, heard', follows'⟩
    · refine ⟨n + 1, ρ', r', rfl, ?_, heard', follows'⟩
      simp only [pipeline, frames] at taken ⊢
      rw [Rendition.take?, taken, Option.bind_some, next]
  | makePlayer here intact =>
    obtain rfl : player = none := here
    refine h.undisturbed rfl ?_ ?_
    · have idle : (Player.new shared.pipeline).1.underway = [] := rfl
      simp only [Option.elim, pipeline, remaining_new, idle]
      simp [Delivery.ofStep, Player.new, Pipeline.newBuffer]
    · rintro _ ⟨⟩ _
      exact remaining_new _
  | @play pl pl' p' here move =>
    obtain rfl : player = some pl := here
    have length : ∀ b, pl.current = some b → b.samples.length = 2 * shared.pipeline.frames :=
      fun b => Crew.Conserved.length_held conserved
    have same := move.heard_eq (h.primed pl rfl) length
    refine h.undisturbed (congrArg Sizes.frames move.sizes_eq) ?_ ?_
    · simp only [Delivery.ofStep, Option.elim, List.flatMap_append, List.append_assoc,
        pipeline] at same ⊢
      rw [same]
    · rintro _ ⟨⟩
      exact move.still_primed
  | startPrime here free => exact absurd rfl after
  | @startPull pl samples here free =>
    obtain rfl : player = some pl := here
    have quiet : pl.delivery (pl.startPull samples) = [] :=
      Player.delivery_eq_nil (by simp [Player.startPull])
    refine h.undisturbed rfl ?_ (by simp [Player.startPull])
    simp only [Delivery.ofStep, quiet, Option.elim, Player.underway_of_free free]
    simp [Player.underway, Player.startPull, Player.remaining]
  | clearFlag =>
    exact h.undisturbed rfl (by simp [withPipeline, Pipeline.clearFlag, pipeline]) h.primed
  | wake =>
    exact h.undisturbed rfl
      (by simp [withPipeline, Pipeline.wake, Queue.interrupt, pipeline]) h.primed
  | interrupt => exact h.undisturbed rfl (by simp [withPipeline, pipeline]) h.primed
  | startTeardown here intact =>
    exact h.undisturbed rfl (by simp) h.primed
  | tearDown here move => exact absurd (whole.symm.trans here) (by simp)

/-- A player that has nothing left may begin to prime. -/
theorem InTune.prime (h : InTune source service limiter l ds) (m : Move source l .startPrime l')
    (untouched : l.Untouched) :
    InTune source service limiter l' (ds ++ Delivery.ofStep l.player l'.player) := by
  obtain ⟨shared, renderer, player, teardown⟩ := l
  cases m with
  | @startPrime pl here free =>
    obtain rfl : player = some pl := here
    have quiet : pl.delivery pl.startPrime = [] :=
      Player.delivery_eq_nil (by simp [Player.startPrime])
    refine h.undisturbed rfl ?_ ?_
    · simp only [Delivery.ofStep, quiet, Option.elim, Player.underway_of_free free]
      simp [Player.underway, Player.startPrime, Player.remaining]
    · rintro _ ⟨⟩ _
      exact (untouched pl rfl).2

theorem Untouched.step (h : l.Untouched) (m : Move source l label l') (before : label ≠ .startPrime)
    (unasked : label.asked? = none) : l'.Untouched := by
  cases m with
  | render here move => exact h
  | makePlayer here intact =>
    rintro _ ⟨⟩
    exact ⟨rfl, remaining_new _⟩
  | @play pl pl' p' here move => exact absurd ((h pl here).1.symm.trans move.busy) (by simp)
  | startPrime here free => exact absurd rfl before
  | startPull here free => cases unasked
  | tearDown here move =>
    cases move with
    | takePlayer stage free => rintro _ ⟨⟩
    | _ => exact h
  | _ => exact h

/-- What a run from the start of a line has brought about. -/
structure Recorded (source : Source α σ) (sizes : Sizes) (service : Option σ)
    (limiter : Limiter α) (past : List Label) (l : Line α σ) (ds : List Delivery) : Prop where
  conserved : l.crew.Conserved
  sizes_eq : l.pipeline.sizes = sizes
  whole : l.teardown = none
  answered : Answered past l ds
  tune : InTune source service limiter l ds

variable {sizes : Sizes} {past : List Label}

theorem Recorded.start :
    Recorded source sizes service limiter [] (bare sizes service limiter).spawn [] := by
  refine ⟨conserved_spawn .., rfl, rfl, ⟨rfl, by simp, by simp [bare, spawn, pipeline,
    Pipeline.new]⟩, ?_, by rintro _ ⟨⟩⟩
  exact ⟨0, _, _, rfl, rfl, rfl, rfl, rfl⟩

theorem Recorded.step (h : Recorded source sizes service limiter past l ds)
    (m : Move source l label l') (whole : label ≠ .startTeardown)
    (order : label = .startPrime → l.Untouched) :
    Recorded source sizes service limiter (past ++ [label]) l'
      (ds ++ Delivery.ofStep l.player l'.player) := by
  obtain ⟨same, -, intact⟩ := m.frame
  refine ⟨m.conserved h.conserved, same.trans h.sizes_eq, intact whole h.whole,
    h.answered.step m h.conserved h.whole, ?_⟩
  by_cases primes : label = .startPrime
  · subst primes
    exact h.tune.prime m (order rfl)
  · exact h.tune.step m h.conserved h.whole primes

/-- **What is heard does not depend on the schedule.** One player primes once and pulls, the
pipeline may be stopped at any point, and the threads interleave as they will. What the pulls
copy is, in their order, the start of what engine and limiter make when they take turns; the rest
of every region is silence, and a whole frame of it is there only once the player was woken. -/
theorem heard_in_order (source : Source α σ) (sizes : Sizes) (service : Option σ)
    (limiter : Limiter α) {opening playing : List Label} {l : Line α σ} {ds : List Delivery}
    (opens : ∀ x ∈ opening, x ≠ .startTeardown ∧ x ≠ .startPrime ∧ x.asked? = none)
    (plays : ∀ x ∈ playing, x ≠ .startTeardown ∧ x ≠ .startPrime)
    (run : (bare sizes service limiter).spawn.listen? source (opening ++ .startPrime :: playing) =
      some (l, ds)) :
    (∃ n ρ, Rendition.take? source sizes.frames service limiter n = some ρ ∧
      ds.flatMap Delivery.copied ++ l.underway <+: ρ.sound) ∧
    (∀ d ∈ ds, d.Genuine (.wake ∈ opening ++ .startPrime :: playing)) ∧
    ds.map Delivery.asked ++ l.asked = playing.filterMap Label.asked? := by
  obtain ⟨l₁, ds₁, ds', opened, rest, rfl⟩ := listen?_append run
  -- Until the player primes, nothing is asked for, so that priming loses nothing.
  obtain ⟨before, untouched⟩ :
      Recorded source sizes service limiter ([] ++ opening) l₁ ([] ++ ds₁) ∧ l₁.Untouched := by
    refine listen?_induction (P := fun past l ds =>
      Recorded source sizes service limiter past l ds ∧ l.Untouched) ?_
      ⟨.start, by rintro _ ⟨⟩⟩ opens opened
    rintro past l ds label l' ⟨h, untouched⟩ ⟨whole, before, unasked⟩ m
    exact ⟨h.step m whole fun _ => untouched, untouched.step m before unasked⟩
  obtain ⟨l₂, ds₂, primes, played, rfl⟩ := listen?_cons rest
  have primed := before.step (move_of_step primes) (by simp) fun _ => untouched
  have after : Recorded source sizes service limiter (opening ++ .startPrime :: playing) l
      (ds₁ ++ (Delivery.ofStep l₁.player l₂.player ++ ds₂)) := by
    simpa using listen?_induction (P := Recorded source sizes service limiter)
      (fun past l ds label l' h allowed m => h.step m allowed.1 fun primes =>
        absurd primes allowed.2) primed plays played
  obtain ⟨n, ρ, r, -, taken, heard, -⟩ := after.tune.rendition
  refine ⟨⟨n, ρ, ?_, ?_⟩, after.answered.genuine, ?_⟩
  · rwa [Pipeline.frames, after.sizes_eq] at taken
  · rw [← heard, List.append_assoc (_ ++ _)]
    exact List.prefix_append _ _
  · have unasked : opening.filterMap Label.asked? = [] :=
      List.filterMap_eq_nil_iff.2 fun x mem => (opens x mem).2.2
    rw [after.answered.asked, List.filterMap_append, unasked]
    rfl

/-- One frame is rendered and heard before the pipeline is stopped in the middle of a pull. -/
theorem heard_in_order_until_stopped :
    let opening : List Label := [.render, .render, .makePlayer]
    let playing : List Label := [.play, .render, .render, .render, .render, .render, .play,
      .startPull 5, .play, .play, .clearFlag, .wake, .play]
    (∀ x ∈ opening, x ≠ .startTeardown ∧ x ≠ .startPrime ∧ x.asked? = none) ∧
      (∀ x ∈ playing, x ≠ .startTeardown ∧ x ≠ .startPrime) ∧
      ∃ l, pocket.listen? Scripted.source (opening ++ .startPrime :: playing) =
          some (l, [⟨[32767, 32767], 5, [32767, 32767, 0, 0, 0]⟩]) ∧
        ∃ n ρ, Rendition.take? Scripted.source 1 pocket.shared.service (.new "pocket") n =
          some ρ ∧ [32767, 32767] <+: ρ.sound := by
  intro opening playing
  have opens : ∀ x ∈ opening, x ≠ .startTeardown ∧ x ≠ .startPrime ∧ x.asked? = none := by decide
  have plays : ∀ x ∈ playing, x ≠ .startTeardown ∧ x ≠ .startPrime := by decide
  have runs : (pocket.listen? Scripted.source (opening ++ .startPrime :: playing)).map Prod.snd =
      some [⟨[32767, 32767], 5, [32767, 32767, 0, 0, 0]⟩] := by decide +kernel
  obtain ⟨⟨l, ds⟩, run, rfl⟩ := Option.map_eq_some_iff.1 runs
  obtain ⟨⟨n, ρ, taken, heard⟩, -⟩ := heard_in_order _ _ _ _ opens plays run
  exact ⟨opens, plays, l, run, n, ρ, taken, (List.prefix_append _ _).trans heard⟩

end Line

end SynthBridge
