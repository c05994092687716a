import SynthBridge.Engine.Scripted
import SynthBridge.Proofs.Flow.Buffers

/-!
# Buffers are conserved

Whatever the threads of a line do, and in whatever order, its buffers are conserved
(`Line.Move.conserved`). For a line that is not being taken apart this is
`Line.buffers_conserved`: the buffers in backstock, in the render thread's hands, in the playable
queue and in the player's hands are exactly those that were made.
-/

namespace SynthBridge

variable {α σ : Type}

namespace Line

variable {l l' : Line α σ} {label : Label}

theorem conserved_spawn (sizes : Sizes) (service : Option σ) (limiter : Limiter α) :
    ((bare sizes service limiter).spawn).crew.Conserved :=
  Crew.Conserved.start sizes

/-- What holds of the buffers of a line at every moment. -/
structure Accounted (sizes : Sizes) (l : Line α σ) : Prop where
  /-- Each buffer ever made is in one place, and in one only. -/
  everyBuffer : (l.crew.circulating.map Buffer.tag).Perm (List.range l.pipeline.made)
  /-- The buffers are the player's own and those that the start of the render thread has made. -/
  made : ∃ r, l.renderer = some r ∧
    l.pipeline.made = (if l.player.isSome then 1 else 0) + (sizes.capacity - 1 - r.left) ∧
    ((∀ left, r.stage ≠ .filling left) → l.player.isSome → l.pipeline.made = sizes.capacity)
  length : ∀ b ∈ l.crew.circulating, b.samples.length = 2 * sizes.frames
  /-- A pull finds the frames that it copies, and its region has room for them. -/
  copy : ∀ pl b wanted out length n, l.player = some pl → pl.current = some b →
    pl.task = .pulling wanted out length → n = min (sizes.frames - pl.cursor.frameOffset) wanted →
    2 * (pl.cursor.frameOffset + n) ≤ b.samples.length ∧ out.size + 2 * n ≤ length
  /-- The limiter finds a whole quantum and room for it. -/
  limit : ∀ r samples b, l.renderer = some r → r.stage = .limiting samples b →
    2 * sizes.frames ≤ samples.length ∧ 2 * sizes.frames ≤ b.samples.length

theorem Accounted.of_conserved {r : Renderer α} (h : l.crew.Conserved) (here : l.renderer = some r)
    (whole : l.teardown = none) : Accounted l.pipeline.sizes l := by
  obtain ⟨shared, renderer, player, teardown⟩ := l
  obtain rfl : renderer = some r := here
  obtain rfl : teardown = none := whole
  have made := h.made
  have ledger : Ledger shared.pipeline.made 0 (2 * shared.pipeline.frames)
      (crew ⟨shared, some r, player, none⟩).circulating := by
    simpa [Crew.buffers, Crew.recovered, crew, pipeline] using h.ledger
  have most : r.left < shared.pipeline.capacity := h.left_lt
  refine ⟨ledger.perm_range, ⟨r, rfl, ?_, fun full held => ?_⟩, ledger.length_eq, ?_, ?_⟩
  · cases player <;> simp [Crew.unmade, crew, pipeline, Pipeline.capacity] at made most ⊢ <;> omega
  · obtain ⟨pl, rfl⟩ := Option.isSome_iff_exists.1 held
    have none_left : r.left = 0 := by
      unfold Renderer.left
      split
      · rename_i left stage
        exact absurd stage (full left)
      · rfl
    simpa [Crew.unmade, crew, pipeline, none_left, Pipeline.capacity] using made
  · rintro pl b wanted out length n rfl held task rfl
    have fits := h.cursor pl rfl
    have size := Crew.Conserved.length_held h held
    have := fits.offset_le
    have := fits.region _ _ _ task
    simp only [crew, pipeline, Pipeline.frames] at *
    omega
  · rintro _ samples b ⟨⟩ stage
    obtain ⟨input, output⟩ := Crew.Conserved.length_limiting h stage
    exact ⟨Nat.le_of_eq input.symm, Nat.le_of_eq output.symm⟩

variable [Amplitude α] {source : Source α σ}

/-- **Every step of a line conserves its buffers.** -/
theorem Move.conserved (m : Move source l label l') (h : l.crew.Conserved) :
    l'.crew.Conserved := by
  obtain ⟨shared, renderer, player, teardown⟩ := l
  cases m with
  | render here move =>
    obtain rfl : renderer = _ := here
    exact Crew.Conserved.render h move
  | makePlayer here intact =>
    obtain rfl : player = none := here
    obtain rfl : teardown = none := intact
    exact Crew.Conserved.makePlayer h
  | play here move =>
    obtain rfl : player = _ := here
    exact Crew.Conserved.play h move
  | startPrime here free =>
    obtain rfl : player = _ := here
    exact Crew.Conserved.begin h (by simp)
  | startPull here free =>
    obtain rfl : player = _ := here
    refine Crew.Conserved.begin h ?_
    rintro _ _ _ ⟨⟩
    simp
  | clearFlag =>
    exact ⟨h.backstock_capacity, h.playable_capacity, h.ledger, h.made, h.left_lt, h.quantum,
      h.cursor⟩
  | wake =>
    exact ⟨h.backstock_capacity, h.playable_capacity, h.ledger, h.made, h.left_lt, h.quantum,
      h.cursor⟩
  | interrupt =>
    exact ⟨h.backstock_capacity, h.playable_capacity, h.ledger, h.made, h.left_lt, h.quantum,
      h.cursor⟩
  | @startTeardown pl here intact =>
    obtain rfl : player = some pl := here
    obtain rfl : teardown = none := intact
    exact Crew.Conserved.startTeardown h
  | tearDown here move =>
    obtain rfl : teardown = _ := here
    exact Crew.Conserved.tearDown h move

/-- A pipeline never changes its sizes, and no step but the one that begins to take a line apart
does so. -/
theorem Move.frame (m : Move source l label l') :
    l'.pipeline.sizes = l.pipeline.sizes ∧ (l.renderer.isSome → l'.renderer.isSome) ∧
      (label ≠ .startTeardown → l.teardown = none → l'.teardown = none) := by
  cases m with
  | render here move => exact ⟨move.sizes_eq, fun _ => rfl, fun _ => id⟩
  | play here move => exact ⟨move.sizes_eq, id, fun _ => id⟩
  | tearDown here move =>
    exact ⟨move.sizes_eq, id, fun _ whole => absurd (whole.symm.trans here) (by simp)⟩
  | startTeardown here intact => exact ⟨rfl, id, fun other => absurd rfl other⟩
  | _ => exact ⟨rfl, id, fun _ => id⟩

/-- **Buffers are conserved.** However the render thread, the player and the stopping of the
pipeline or of its backstock interleave, and however the engine fails, every buffer ever made is
in exactly one place and has the length of one quantum; there are as many as the line is to have
once the start of the render thread is over. -/
theorem buffers_conserved (source : Source α σ) (sizes : Sizes) (service : Option σ)
    (limiter : Limiter α) {schedule : List Label} {l : Line α σ}
    (whole : ∀ x ∈ schedule, x ≠ .startTeardown)
    (run : ((bare sizes service limiter).spawn).follow? source schedule = some l) :
    l.Accounted sizes := by
  obtain ⟨conserved, rfl, started, whole⟩ :
      l.crew.Conserved ∧ l.pipeline.sizes = sizes ∧ l.renderer.isSome ∧ l.teardown = none := by
    refine follow?_induction (P := fun l => l.crew.Conserved ∧ l.pipeline.sizes = sizes ∧
      l.renderer.isSome ∧ l.teardown = none) ?_ ⟨conserved_spawn .., rfl, rfl, rfl⟩ whole run
    rintro l label l' ⟨conserved, rfl, started, whole⟩ allowed m
    obtain ⟨same, keeps, intact⟩ := m.frame
    exact ⟨m.conserved conserved, same, keeps started, intact allowed whole⟩
  obtain ⟨r, here⟩ := Option.isSome_iff_exists.1 started
  exact .of_conserved conserved here whole

/-- The smallest line: two buffers of one frame, and an engine that renders ones. -/
def pocket : Line Extended (Scripted.State Extended) :=
  (bare ⟨1, 2, by decide, by decide⟩ (some (Scripted.new #[.finite 1] none)) (.new "pocket")).spawn

/-- The player has given its spent buffer back in the middle of a pull, and the render thread is
limiting into it. -/
theorem buffers_conserved_midway :
    let schedule : List Label := [.render, .render, .makePlayer, .startPrime, .play, .render,
      .render, .render, .render, .render, .play, .startPull 5, .play, .play, .render, .render,
      .render]
    (∀ x ∈ schedule, x ≠ .startTeardown) ∧
      ∃ l, pocket.follow? Scripted.source schedule = some l ∧
        l.Accounted ⟨1, 2, by decide, by decide⟩ := by
  intro schedule
  have whole : ∀ x ∈ schedule, x ≠ .startTeardown := by decide
  have runs : (pocket.follow? Scripted.source schedule).isSome = true := by decide
  obtain ⟨l, run⟩ := Option.isSome_iff_exists.1 runs
  exact ⟨whole, l, run, buffers_conserved _ _ _ _ whole run⟩

end Line

end SynthBridge
