import SynthBridge.Proofs.Bridge.Slots

/-!
# Steps of a session's threads

The render thread and the mixer act on the slots of a bridge without regard to where the
controller is. What the slots hold, wherever that is, stays so.
-/

namespace SynthBridge

namespace Bridge

variable {α σ : Type}

/-! ## Where there is a player -/

section Places

variable {x : Slots α} {pl : Player} {t : Option Teardown} {ds : List Delivery}

/-- When there is a player, opening is all but done. -/
theorem Opening.Holds.late {stage : Opening σ} (h : stage.Holds x ds) (held : x.player ≠ none) :
    ∃ s, stage = .enable s ∨ stage = .finish s := by
  cases stage with
  | fillEngine i c sizes => exact absurd h.1.player held
  | fillPipeline c sizes => exact absurd h.1.player held
  | spawn c => exact absurd h.1 held
  | withdrawEngine c reason => exact absurd h.1 held
  | withdrawPipeline c reason => exact absurd h.1 held
  | makePlayer c => exact absurd h.1 held
  | prime c pl => exact absurd h.1 held
  | fillPlayer c pl => exact absurd h.1 held
  | enable s => exact ⟨s, .inl rfl⟩
  | finish s => exact ⟨s, .inr rfl⟩
  | _ => exact absurd h.player held

/-- While there is a render thread or a player, closing is at the teardown at most. -/
theorem Closing.Holds.early {stage : Closing} (h : stage.Holds x ds)
    (staffed : x.renderer ≠ none ∨ x.player ≠ none) :
    stage = .disable ∨ ∃ t, stage = .tearing t := by
  have staffed : x.player = none → x.renderer ≠ none := fun slot => staffed.resolve_right (· slot)
  cases stage with
  | disable => exact .inl rfl
  | tearing t => exact .inr ⟨t, rfl⟩
  | closeEngine t => exact absurd h.2.1 (staffed h.1)
  | clearPipeline t => exact absurd h.2.1 (staffed h.1)
  | dropChannel t p => exact absurd h.1.renderer (staffed h.1.player)
  | count t p => exact absurd h.1.renderer (staffed h.1.player)
  | clearLimiter report => exact absurd h.1.renderer (staffed h.1.player)
  | finish report => exact absurd h.1.renderer (staffed h.1.player)

theorem Slots.Running.pipeline (h : x.Running t ds) : ∃ p, x.pipeline = some p := by
  obtain ⟨p, staffed, -⟩ := h
  exact ⟨p, staffed.present⟩

theorem Opening.Holds.pipeline {stage : Opening σ} (h : stage.Holds x ds)
    (here : x.player = some pl) : ∃ p, x.pipeline = some p := by
  rcases h.late (by simp [here]) with ⟨s, rfl | rfl⟩
  · exact Slots.Running.pipeline h
  · exact Slots.Running.pipeline h

theorem Closing.Holds.pipeline {stage : Closing} (h : stage.Holds x ds)
    (here : x.player = some pl) : ∃ p, x.pipeline = some p := by
  rcases h.early (.inr (by simp [here])) with rfl | ⟨t, rfl⟩
  · exact Slots.Running.pipeline h
  · exact h.1.pipeline

end Places

/-! ## Steps of the render thread -/

section Render

variable [Amplitude α] {source : Source α σ} {r r' : Renderer α} {s s' : Shared α σ}
  {x : Slots α} {player : Option Player} {t : Option Teardown} {ds : List Delivery}

/-- The slots after a step of the render thread. -/
def Slots.rendered (x : Slots α) (r : Renderer α) (p : Pipeline) : Slots α :=
  { x with renderer := some r, pipeline := some p }

theorem Slots.Staffed.render (h : x.Staffed s.pipeline player t) (here : x.renderer = some r)
    (m : Renderer.Move source r s r' s') :
    (x.rendered r' s'.pipeline).Staffed s'.pipeline player t := by
  have capacity : s'.pipeline.capacity = s.pipeline.capacity :=
    congrArg Sizes.capacity m.sizes_eq
  obtain ⟨total, slot, pipeline, renderer⟩ := x
  obtain rfl : renderer = some r := here
  exact ⟨rfl, capacity.trans h.capacity, h.conserved.render m, h.orderly.render m⟩

theorem Slots.Running.render (h : x.Running t ds) (here : x.renderer = some r)
    (present : x.pipeline = some s.pipeline) (m : Renderer.Move source r s r' s') :
    (x.rendered r' s'.pipeline).Running t ds := by
  obtain ⟨p, staffed, tallied, held⟩ := h
  obtain rfl : p = s.pipeline := Option.some.inj (staffed.present.symm.trans present)
  refine ⟨s'.pipeline, staffed.render here m, ?_, held⟩
  obtain ⟨total, slot, pipeline, renderer⟩ := x
  obtain rfl : renderer = some r := here
  exact tallied.render m

theorem Opening.Holds.render {τ : Type} {stage : Opening τ} (h : stage.Holds x ds)
    (here : x.renderer = some r) (present : x.pipeline = some s.pipeline)
    (m : Renderer.Move source r s r' s') : stage.Holds (x.rendered r' s'.pipeline) ds := by
  have occupied : ¬x.Vacant := fun vacant => by simp [vacant.renderer] at here
  have same : ∀ {p player}, x.Staffed p player none → p = s.pipeline := fun staffed =>
    Option.some.inj (staffed.present.symm.trans present)
  cases stage with
  | fillEngine i c sizes => exact absurd h.1 occupied
  | fillPipeline c sizes => exact absurd h.1 occupied
  | spawn c => exact absurd (h.2.1.symm.trans here) (by simp)
  | withdrawEngine c reason => exact absurd (h.2.1.symm.trans here) (by simp)
  | withdrawPipeline c reason => exact absurd (h.2.1.symm.trans here) (by simp)
  | makePlayer c =>
    obtain ⟨slot, p, staffed⟩ := h
    obtain rfl := same staffed
    exact ⟨slot, _, staffed.render here m⟩
  | prime c pl =>
    obtain ⟨slot, p, staffed, primed⟩ := h
    obtain rfl := same staffed
    refine ⟨slot, _, staffed.render here m, primed.imp_right fun ⟨free, tallied⟩ => ⟨free, ?_⟩⟩
    rw [here] at tallied
    exact tallied.render m
  | fillPlayer c pl =>
    obtain ⟨slot, p, staffed, tallied⟩ := h
    obtain rfl := same staffed
    refine ⟨slot, _, staffed.render here m, ?_⟩
    rw [here] at tallied
    exact tallied.render m
  | enable c => exact Slots.Running.render h here present m
  | finish c => exact Slots.Running.render h here present m
  | _ => exact absurd h occupied

theorem Closing.Holds.render {stage : Closing} (h : stage.Holds x ds)
    (here : x.renderer = some r) (present : x.pipeline = some s.pipeline)
    (m : Renderer.Move source r s r' s') : stage.Holds (x.rendered r' s'.pipeline) ds := by
  rcases h.early (.inl (by simp [here])) with rfl | ⟨t, rfl⟩
  · exact Slots.Running.render h here present m
  · exact ⟨h.1.render here present m, h.2⟩

end Render

/-! ## Steps of the mixer -/

section Mixer

variable {x : Slots α} {pl pl' : Player} {p p' : Pipeline} {t : Option Teardown}
  {ds : List Delivery}

/-- The slots after a step of the mixer. -/
def Slots.played (x : Slots α) (pl : Player) (p : Pipeline) : Slots α :=
  { x with player := some pl, pipeline := some p }

/-- What the mixer may do with a running session: go on with a pull, or begin one. -/
def Slots.Plays (x : Slots α) (pl : Player) (p : Pipeline) (pl' : Player) (p' : Pipeline) : Prop :=
  x.player = some pl ∧ x.pipeline = some p ∧
    (Player.Move pl p pl' p' ∨ pl.isFree = true ∧ p' = p ∧ ∃ samples, pl' = pl.startPull samples)

/-- The player may be in its slot or not. -/
theorem Slots.Staffed.play (h : x.Staffed p (some pl) t) (m : Player.Move pl p pl' p')
    (slot : Option Player) :
    Slots.Staffed { x with player := slot, pipeline := some p' } p' (some pl') t :=
  ⟨rfl, (congrArg Sizes.capacity m.sizes_eq).trans h.capacity, h.conserved.play m,
    h.orderly.play h.conserved m⟩

theorem Slots.Running.play (h : x.Running t ds) (plays : x.Plays pl p pl' p') :
    (x.played pl' p').Running t (ds ++ pl.delivery pl') := by
  obtain ⟨total, slot, pipeline, renderer⟩ := x
  obtain ⟨here, present, move⟩ := plays
  obtain rfl : slot = some pl := here
  obtain rfl : pipeline = some p := present
  obtain ⟨p₀, staffed, tallied, held⟩ := h
  obtain rfl : p = p₀ := Option.some.inj staffed.present
  rcases move with move | ⟨free, rfl, samples, rfl⟩
  · exact ⟨p', staffed.play move _, tallied.play staffed.conserved staffed.orderly move,
      fun _ => rfl⟩
  · have quiet : pl.delivery (pl.startPull samples) = [] :=
      Player.delivery_eq_nil (by simp [Player.startPull])
    rw [quiet, List.append_nil]
    have begun : Crew.Conserved ⟨p', renderer, some (pl.startPull samples), t⟩ := by
      refine staffed.conserved.begin ?_
      rintro _ _ _ ⟨⟩
      simp
    exact ⟨p', ⟨rfl, staffed.capacity, begun, staffed.orderly.begin free _⟩,
      tallied.startPull staffed.orderly free samples, fun _ => rfl⟩

theorem Opening.Holds.play {stage : Opening σ} (h : stage.Holds x ds)
    (plays : x.Plays pl p pl' p') : stage.Holds (x.played pl' p') (ds ++ pl.delivery pl') := by
  rcases h.late (by simp [plays.1]) with ⟨s, rfl | rfl⟩
  · exact Slots.Running.play h plays
  · exact Slots.Running.play h plays

theorem Closing.Holds.play {stage : Closing} (h : stage.Holds x ds)
    (plays : x.Plays pl p pl' p') : stage.Holds (x.played pl' p') (ds ++ pl.delivery pl') := by
  rcases h.early (.inr (by simp [plays.1])) with rfl | ⟨t, rfl⟩
  · exact Slots.Running.play h plays
  · exact ⟨h.1.play plays, h.2⟩

end Mixer

end Bridge

end SynthBridge
