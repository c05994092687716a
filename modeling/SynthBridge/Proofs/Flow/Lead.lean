import SynthBridge.Proofs.Flow.Order
import SynthBridge.Proofs.Histories

/-!
# How far rendering is ahead

The render thread counts what the engine has rendered, the player what it has handed out. Between
the two lie the quantum that is on its way to a buffer, the buffers that are queued for playback and
what is left of the one that is played. Buffers are conserved, so all this is never more than
`capacity + 1` quanta: `Line.lead_bounded`.
-/

namespace SynthBridge

variable {α σ : Type}

/-- The frames that a position counts; `Cursor.playedFrames` is their number in 64 bits. -/
def Cursor.position (c : Cursor) (frames : Nat) : Nat := c.buffersPlayed * frames + c.frameOffset

/-! ## The render thread -/

namespace Renderer

/-- The calls of the engine that a step of the render thread completes. -/
def completed (r r' : Renderer α) : Nat :=
  match r.stage, r'.stage with
  | .rendering, .taking _ => 1
  | _, _ => 0

/-- Of `calls` quanta rendered all are queued, but for the one at hand and for the one that was at
hand when the thread ended. -/
def HasRendered (r : Renderer α) (calls : Nat) : Prop :=
  match r.stage with
  | .taking _ | .limiting .. | .queueing _ => calls = r.quanta + 1
  | .stopped | .panicked => calls = r.quanta ∨ calls = r.quanta + 1
  | _ => calls = r.quanta

variable {r r' : Renderer α} {calls : Nat}

@[simp] theorem completed_self (r : Renderer α) : r.completed r = 0 := by
  unfold completed
  split <;> simp_all

theorem HasRendered.bounds (h : r.HasRendered calls) :
    r.quanta ≤ calls ∧ calls ≤ r.quanta + 1 := by
  unfold HasRendered at h
  split at h <;> omega

variable [Amplitude α] {source : Source α σ} {s s' : Shared α σ}

/-- A step of a render thread completes a call, queues the quantum at hand, or does neither. -/
theorem Move.hasRendered (m : Move source r s r' s') (h : r.HasRendered calls) :
    r'.HasRendered (calls + r.completed r') ∧
      r'.quanta + s.pipeline.playable.size = r.quanta + s'.pipeline.playable.size := by
  cases m <;> simp_all [HasRendered, completed, Queue.size]
  omega

end Renderer

/-! ## The line -/

namespace Line

/-- The calls of the engine that a step of a line completes. -/
def completed (l l' : Line α σ) : Nat :=
  match l.renderer, l'.renderer with
  | some r, some r' => r.completed r'
  | _, _ => 0

/-- Counts the calls of the engine that are completed. -/
def noteCalls (l : Line α σ) (_ : Label) (l' : Line α σ) (calls : Nat) : Nat :=
  calls + l.completed l'

/-- No call is completed where the render thread does nothing. -/
theorem hasRendered_of_eq {l l' : Line α σ} {label : Label} {r : Renderer α} {calls : Nat}
    (same : l'.renderer = l.renderer) (h : r.HasRendered calls) :
    r.HasRendered (noteCalls l label l' calls) := by
  have none_completed : l.completed l' = 0 := by
    unfold completed
    rw [same]
    cases l.renderer with
    | none => rfl
    | some r => exact r.completed_self
  rwa [noteCalls, none_completed, Nat.add_zero]

/-- Of `calls` quanta rendered, `taken` have left the playable queue. -/
structure Paced (sizes : Sizes) (l : Line α σ) (taken calls : Nat) : Prop where
  conserved : l.crew.Conserved
  sizes_eq : l.pipeline.sizes = sizes
  whole : l.teardown = none
  rendered : ∃ r, l.renderer = some r ∧ r.HasRendered calls ∧
    r.quanta = taken + l.pipeline.playable.size

/-- The player is priming, or has come out of it with the first rendered buffer or with none. -/
def Priming (sizes : Sizes) (l : Line α σ) (calls : Nat) : Prop :=
  ∃ pl, l.player = some pl ∧ l.teardown = none ∧
    ((pl.task = .priming ∧ l.Paced sizes 0 calls) ∨
      (pl.isFree = true ∧ (pl.hasBuffer = true → pl.cursor = {} ∧ l.Paced sizes 1 calls)))

/-- The player was primed: of the buffers that it has taken it has played all but the last. -/
def Playing (sizes : Sizes) (l : Line α σ) (calls : Nat) : Prop :=
  ∃ pl, l.player = some pl ∧ pl.task ≠ .priming ∧
    (pl.current = none → pl.cursor.frameOffset = sizes.frames) ∧
    l.Paced sizes (pl.cursor.buffersPlayed + 1) calls

section Steps

variable [Amplitude α] {source : Source α σ} {sizes : Sizes} {l l' : Line α σ} {label : Label}
  {taken calls : Nat}

omit [Amplitude α] in
theorem paced_spawn (sizes : Sizes) (service : Option σ) (limiter : Limiter α) :
    (bare sizes service limiter).spawn.Paced sizes 0 0 :=
  ⟨conserved_spawn .., rfl, rfl, _, rfl, rfl, rfl⟩

/-- Nobody but the player takes rendered buffers. -/
theorem Paced.other (h : l.Paced sizes taken calls) (m : Move source l label l')
    (whole : label ≠ .startTeardown) (other : label ≠ .play) :
    l'.Paced sizes taken (noteCalls l label l' calls) := by
  obtain ⟨same, -, intact⟩ := m.frame
  refine ⟨m.conserved h.conserved, same.trans h.sizes_eq, intact whole h.whole, ?_⟩
  obtain ⟨r, here, rendered, quanta⟩ := h.rendered
  cases m with
  | @render r₀ r' s' there move =>
    obtain rfl : r = r₀ := Option.some.inj (here.symm.trans there)
    obtain ⟨rendered', queued⟩ := move.hasRendered rendered
    refine ⟨r', rfl, ?_, ?_⟩
    · simpa [noteCalls, completed, here] using rendered'
    · simp only [pipeline] at quanta queued ⊢
      omega
  | play there move => exact absurd rfl other
  | tearDown there move => exact absurd (h.whole.symm.trans there) (by simp)
  | _ => exact ⟨r, here, hasRendered_of_eq rfl rendered, quanta⟩

omit [Amplitude α] in
/-- What the player takes from the queue, it has taken. -/
theorem Paced.play {pl pl' : Player} {p' : Pipeline} {taken' : Nat} (h : l.Paced sizes taken calls)
    (here : l.player = some pl) (m : Player.Move pl l.pipeline pl' p')
    (drew : taken' + p'.playable.size = taken + l.pipeline.playable.size) :
    Paced sizes { l.withPipeline p' with player := some pl' } taken'
      (noteCalls l .play { l.withPipeline p' with player := some pl' } calls) := by
  obtain ⟨shared, renderer, player, teardown⟩ := l
  obtain rfl : player = some pl := here
  obtain ⟨r, there, rendered, quanta⟩ := h.rendered
  exact ⟨Crew.Conserved.play h.conserved m, m.sizes_eq.trans h.sizes_eq, h.whole, r, there,
    hasRendered_of_eq rfl rendered, quanta.trans drew.symm⟩

/-- The player of a whole line stays where it is. -/
theorem Move.player_stays {pl : Player} (m : Move source l label l') (here : l.player = some pl)
    (whole : l.teardown = none) (playing : label ≠ .play) (primes : label ≠ .startPrime)
    (unasked : label.asked? = none) : l'.player = some pl := by
  cases m with
  | render there move => exact here
  | makePlayer there intact => exact absurd (here.symm.trans there) (by simp)
  | play there move => exact absurd rfl playing
  | startPrime there free => exact absurd rfl primes
  | startPull there free => cases unasked
  | tearDown there move => exact absurd (whole.symm.trans there) (by simp)
  | _ => exact here

omit [Amplitude α] in
/-- What is queued for playback and what the player holds are among the buffers that were made. -/
theorem Paced.held_le {pl : Player} (h : l.Paced sizes taken calls) (here : l.player = some pl) :
    l.pipeline.playable.size + pl.hands.length ≤ l.pipeline.sizes.capacity := by
  have count := h.conserved.ledger.count
  have made := h.conserved.made
  obtain ⟨shared, renderer, player, teardown⟩ := l
  obtain rfl : player = some pl := here
  simp only [crew, Crew.buffers_mk, List.length_append, Option.elim, pipeline,
    Pipeline.capacity] at count made
  simp only [Queue.size, pipeline]
  omega

/-! ### Priming -/

theorem Priming.step (h : l.Priming sizes calls) (m : Move source l label l')
    (whole : label ≠ .startTeardown) (primes : label ≠ .startPrime)
    (unasked : label.asked? = none) : l'.Priming sizes (noteCalls l label l' calls) := by
  obtain ⟨pl, here, intact, stage⟩ := h
  by_cases playing : label = .play
  · subst playing
    cases m with
    | @play pl₀ pl' p' there move =>
      obtain rfl : pl = pl₀ := Option.some.inj (here.symm.trans there)
      refine ⟨pl', rfl, intact, ?_⟩
      rcases stage with ⟨task, paced⟩ | ⟨free, -⟩
      · cases move with
        | giveBack spent held room =>
          exact .inl ⟨task, paced.play here (.giveBack spent held room) rfl⟩
        | primed task empty ready =>
          refine .inr ⟨rfl, fun _ => ⟨rfl, paced.play here (.primed task empty ready) ?_⟩⟩
          simp [Queue.size, ready, Nat.add_comm]
        | unprimed task empty ready woken => exact .inr ⟨rfl, by simp [Player.hasBuffer]⟩
        | _ => simp_all
      · exact absurd (free.symm.trans move.busy) (by simp)
  · refine ⟨pl, m.player_stays here intact playing primes unasked, m.frame.2.2 whole intact, ?_⟩
    rcases stage with ⟨task, paced⟩ | ⟨free, held⟩
    · exact .inl ⟨task, paced.other m whole playing⟩
    · exact .inr ⟨free, fun has => (held has).imp_right fun paced => paced.other m whole playing⟩

/-! ### Playing -/

omit [Amplitude α] in
theorem Playing.play {pl pl' : Player} {p' : Pipeline} (here : l.player = some pl)
    (m : Player.Move pl l.pipeline pl' p') (begun : pl.task ≠ .priming)
    (spent : pl.current = none → pl.cursor.frameOffset = sizes.frames)
    (paced : l.Paced sizes (pl.cursor.buffersPlayed + 1) calls) :
    Playing sizes { l.withPipeline p' with player := some pl' }
      (noteCalls l .play { l.withPipeline p' with player := some pl' } calls) := by
  have step (drew : pl'.cursor.buffersPlayed + 1 + p'.playable.size =
      pl.cursor.buffersPlayed + 1 + l.pipeline.playable.size) := paced.play here m drew
  cases m with
  | giveBack used held room =>
    obtain task | ⟨-, complete⟩ := used
    · exact absurd task begun
    · have within := (paced.conserved.cursor pl here).offset_le
      exact ⟨_, rfl, begun, fun _ => paced.sizes_eq ▸ Nat.le_antisymm within complete, step rfl⟩
  | primed task => exact absurd task begun
  | unprimed task => exact absurd task begun
  | copy task held left count => exact ⟨_, rfl, by rintro ⟨⟩, by rintro ⟨⟩, step rfl⟩
  | next task empty ready =>
    refine ⟨_, rfl, by rintro ⟨⟩, by rintro ⟨⟩, step ?_⟩
    simp only [Queue.size, ready, List.length_cons]
    omega
  | finish task complete => exact ⟨_, rfl, by rintro ⟨⟩, spent, step rfl⟩

theorem Playing.step (h : l.Playing sizes calls) (m : Move source l label l')
    (whole : label ≠ .startTeardown) (primes : label ≠ .startPrime) :
    l'.Playing sizes (noteCalls l label l' calls) := by
  obtain ⟨pl, here, begun, spent, paced⟩ := h
  by_cases playing : label = .play
  · subst playing
    cases m with
    | @play pl₀ pl' p' there move =>
      obtain rfl : pl = pl₀ := Option.some.inj (here.symm.trans there)
      exact Playing.play here move begun spent paced
  · have paced' := paced.other m whole playing
    by_cases asks : label.asked? = none
    · exact ⟨pl, m.player_stays here paced.whole playing primes asks, begun, spent, paced'⟩
    · cases m with
      | @startPull pl₀ samples there free =>
        obtain rfl : pl = pl₀ := Option.some.inj (here.symm.trans there)
        exact ⟨_, rfl, by rintro ⟨⟩, spent, paced'⟩
      | _ => exact absurd rfl asks

omit [Amplitude α] in
/-- **Playback is behind rendering, and never far.** -/
theorem Playing.bounds (h : l.Playing sizes calls) :
    ∃ pl, l.player = some pl ∧ pl.cursor.position sizes.frames ≤ calls * sizes.frames ∧
      calls * sizes.frames ≤
        pl.cursor.position sizes.frames + (sizes.capacity + 1) * sizes.frames := by
  obtain ⟨pl, here, -, spent, paced⟩ := h
  obtain ⟨r, -, rendered, quanta⟩ := paced.rendered
  have within : pl.cursor.frameOffset ≤ sizes.frames :=
    paced.sizes_eq ▸ (paced.conserved.cursor pl here).offset_le
  have room := paced.held_le here
  rw [paced.sizes_eq] at room
  have bounds := rendered.bounds
  have frames := sizes.frames_pos
  refine ⟨pl, here, ?_, ?_⟩
  · calc pl.cursor.position sizes.frames
        ≤ (pl.cursor.buffersPlayed + 1) * sizes.frames := by
          rw [Cursor.position, Nat.add_mul, Nat.one_mul]
          exact Nat.add_le_add_left within _
      _ ≤ calls * sizes.frames := Nat.mul_le_mul_right _ (by omega)
  · cases held : pl.current with
    | some b =>
      rw [Player.hands, held] at room
      calc calls * sizes.frames
          ≤ (pl.cursor.buffersPlayed + (sizes.capacity + 1)) * sizes.frames :=
            Nat.mul_le_mul_right _ (by simp at room; omega)
        _ ≤ pl.cursor.position sizes.frames + (sizes.capacity + 1) * sizes.frames := by
            rw [Cursor.position, Nat.add_mul]
            omega
    | none =>
      rw [Player.hands, held] at room
      calc calls * sizes.frames
          ≤ (pl.cursor.buffersPlayed + 1 + (sizes.capacity + 1)) * sizes.frames :=
            Nat.mul_le_mul_right _ (by simp at room; omega)
        _ = pl.cursor.position sizes.frames + (sizes.capacity + 1) * sizes.frames := by
            rw [Cursor.position, spent held, Nat.add_mul, Nat.add_mul, Nat.one_mul]

end Steps

/-! ### From the start of a line -/

variable [Amplitude α]

variable {source : Source α σ} {sizes : Sizes} {l l' : Line α σ} {label : Label} {calls : Nat}

/-- Before the player begins with anything, nothing is taken. -/
theorem Paced.untouched (h : l.Paced sizes 0 calls) (free : l.Untouched)
    (m : Move source l label l') (whole : label ≠ .startTeardown) :
    l'.Paced sizes 0 (noteCalls l label l' calls) := by
  refine h.other m whole ?_
  rintro rfl
  cases m with
  | play here move => exact absurd ((free _ here).1.symm.trans move.busy) (by simp)

omit [Amplitude α] in
/-- The player comes out of priming with the first rendered buffer. -/
theorem Priming.primed (h : l.Priming sizes calls)
    (primed : ∃ pl, l.player = some pl ∧ pl.isFree = true ∧ pl.hasBuffer = true) :
    l.Playing sizes calls := by
  obtain ⟨pl, here, -, stage⟩ := h
  obtain ⟨pl', there, free, has⟩ := primed
  obtain rfl : pl = pl' := Option.some.inj (here.symm.trans there)
  rcases stage with ⟨task, -⟩ | ⟨-, held⟩
  · simp [Player.isFree, task] at free
  · obtain ⟨cursor, paced⟩ := held has
    refine ⟨pl, here, fun task => by simp [Player.isFree, task] at free, fun empty => ?_, ?_⟩
    · simp [Player.hasBuffer, empty] at has
    · rwa [cursor]

/-- **Rendering leads playback by no more than the buffers there are.** Once the player was primed
and holds a buffer, it has played no frame that was not rendered, and of the frames that were
rendered it has played all but `capacity + 1` quanta, however the threads interleave, whatever
is pulled and whenever the pipeline is stopped. -/
theorem lead_bounded (source : Source α σ) (sizes : Sizes) (service : Option σ)
    (limiter : Limiter α) {opening priming playing : List Label} {l₁ l : Line α σ}
    {calls₁ calls : Nat}
    (opens : ∀ x ∈ opening ++ priming,
      x ≠ .startTeardown ∧ x ≠ .startPrime ∧ x.asked? = none)
    (plays : ∀ x ∈ playing, x ≠ .startTeardown ∧ x ≠ .startPrime)
    (primes : noted? (step source) noteCalls (bare sizes service limiter).spawn 0
      (opening ++ .startPrime :: priming) = some (l₁, calls₁))
    (primed : ∃ pl, l₁.player = some pl ∧ pl.isFree = true ∧ pl.hasBuffer = true)
    (run : noted? (step source) noteCalls l₁ calls₁ playing = some (l, calls)) :
    ∃ pl, l.player = some pl ∧ pl.cursor.position sizes.frames ≤ calls * sizes.frames ∧
      calls * sizes.frames ≤
        pl.cursor.position sizes.frames + (sizes.capacity + 1) * sizes.frames := by
  rw [noted?_append, Option.bind_eq_some_iff] at primes
  obtain ⟨⟨l₀, calls₀⟩, opened, rest⟩ := primes
  simp only [noted?, Option.bind_eq_some_iff] at rest
  obtain ⟨l', begins, rest⟩ := rest
  obtain ⟨opens, before⟩ := List.forall_mem_append.1 opens
  obtain ⟨paced, untouched⟩ : l₀.Paced sizes 0 calls₀ ∧ l₀.Untouched := by
    refine noted?_induction_of (P := fun l calls => l.Paced sizes 0 calls ∧ l.Untouched)
      ?_ ⟨paced_spawn .., by rintro _ ⟨⟩⟩ opens opened
    rintro l calls label l' ⟨paced, untouched⟩ ⟨whole, primes, unasked⟩ first
    have m := move_of_step first
    exact ⟨paced.untouched untouched m whole, untouched.step m primes unasked⟩
  have priming : l'.Priming sizes (noteCalls l₀ .startPrime l' calls₀) := by
    have m := move_of_step begins
    have paced' := paced.untouched untouched m (by simp)
    cases m with
    | startPrime here free => exact ⟨_, rfl, paced.whole, .inl ⟨rfl, paced'⟩⟩
  have ready : l₁.Priming sizes calls₁ :=
    noted?_induction_of (P := fun l calls => l.Priming sizes calls)
      (fun h allowed first => h.step (move_of_step first) allowed.1 allowed.2.1 allowed.2.2)
      priming before rest
  have played : l.Playing sizes calls :=
    noted?_induction_of (P := fun l calls => l.Playing sizes calls)
      (fun h allowed first => h.step (move_of_step first) allowed.1 allowed.2)
      (ready.primed primed) plays run
  exact played.bounds

/-- The smallest line soon after priming: both buffers and the quantum at hand are ahead of what
was played, which is nothing. -/
theorem lead_bounded_after_priming :
    let opening : List Label := [.render, .render, .makePlayer]
    let priming : List Label := [.play, .render, .render, .render, .render, .render, .play]
    let playing : List Label := [.render, .render, .render, .render, .render, .render, .render]
    (∀ x ∈ opening ++ priming, x ≠ .startTeardown ∧ x ≠ .startPrime ∧ x.asked? = none) ∧
      (∀ x ∈ playing, x ≠ .startTeardown ∧ x ≠ .startPrime) ∧
      ∃ l₁ calls₁ l pl,
        noted? (step Scripted.source) noteCalls pocket 0 (opening ++ .startPrime :: priming) =
          some (l₁, calls₁) ∧
        (∃ pl, l₁.player = some pl ∧ pl.isFree = true ∧ pl.hasBuffer = true) ∧
        noted? (step Scripted.source) noteCalls l₁ calls₁ playing = some (l, 3) ∧
        l.player = some pl ∧ pl.cursor = {} ∧
        pl.cursor.position 1 ≤ 3 * 1 ∧ 3 * 1 ≤ pl.cursor.position 1 + (2 + 1) * 1 := by
  intro opening priming playing
  have opens : ∀ x ∈ opening ++ priming,
      x ≠ .startTeardown ∧ x ≠ .startPrime ∧ x.asked? = none := by decide
  have plays : ∀ x ∈ playing, x ≠ .startTeardown ∧ x ≠ .startPrime := by decide
  have runs : ((noted? (step Scripted.source) noteCalls pocket 0
      (opening ++ .startPrime :: priming)).bind fun x =>
        (noted? (step Scripted.source) noteCalls x.1 x.2 playing).map fun y =>
          (x.1.player.map fun pl => (pl.isFree, pl.hasBuffer), y.2,
            y.1.player.map Player.cursor)) = some (some (true, true), 3, some {}) := by
    decide +kernel
  obtain ⟨⟨l₁, calls₁⟩, primes, rest⟩ := Option.bind_eq_some_iff.1 runs
  obtain ⟨⟨l, calls⟩, run, seen⟩ := Option.map_eq_some_iff.1 rest
  simp only [Prod.mk.injEq, Option.map_eq_some_iff] at seen
  obtain ⟨⟨pl₁, here, free, has⟩, rfl, seen⟩ := seen
  obtain ⟨pl, there, bounds⟩ :=
    lead_bounded Scripted.source _ _ _ opens plays primes ⟨pl₁, here, free, has⟩ run
  obtain ⟨_, same, cursor⟩ := seen
  obtain rfl := Option.some.inj (there.symm.trans same)
  exact ⟨opens, plays, l₁, calls₁, l, pl, primes, ⟨pl₁, here, free, has⟩, run, there, cursor,
    bounds⟩

end Line

end SynthBridge
