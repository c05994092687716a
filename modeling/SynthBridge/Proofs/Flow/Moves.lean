import SynthBridge.Flow.Line
import SynthBridge.Proofs.Flow.Moves.Player
import SynthBridge.Proofs.Flow.Moves.Renderer
import SynthBridge.Proofs.Flow.Moves.Teardown

/-!
# What a step of a line can do

The steps of a line by who acts: `Line.Move`. Facts about all runs are proved by cases on this
relation and on those of the player, the render thread and the teardown; the definitions of the
steps are opened beside these relations and nowhere else.
-/

namespace SynthBridge

namespace Line

variable {α σ : Type} [Amplitude α]

/-- The steps of a line, by their labels. -/
inductive Move (source : Source α σ) (l : Line α σ) : Label → Line α σ → Prop
  | render {r r' : Renderer α} {s' : Shared α σ} (here : l.renderer = some r)
      (move : Renderer.Move source r l.shared r' s') :
      Move source l .render { l with renderer := some r', shared := s' }
  | makePlayer (here : l.player = none) (intact : l.teardown = none) :
      Move source l .makePlayer
        { l.withPipeline (Player.new l.pipeline).2 with player := some (Player.new l.pipeline).1 }
  | play {pl pl' : Player} {p' : Pipeline} (here : l.player = some pl)
      (move : Player.Move pl l.pipeline pl' p') :
      Move source l .play { l.withPipeline p' with player := some pl' }
  | startPrime {pl : Player} (here : l.player = some pl) (free : pl.isFree = true) :
      Move source l .startPrime { l with player := some pl.startPrime }
  | startPull {pl : Player} {samples : Nat} (here : l.player = some pl)
      (free : pl.isFree = true) :
      Move source l (.startPull samples) { l with player := some (pl.startPull samples) }
  | clearFlag : Move source l .clearFlag (l.withPipeline l.pipeline.clearFlag)
  | wake : Move source l .wake (l.withPipeline l.pipeline.wake)
  | interrupt :
      Move source l .interrupt
        (l.withPipeline { l.pipeline with backstock := l.pipeline.backstock.interrupt })
  | startTeardown {pl : Player} (here : l.player = some pl) (intact : l.teardown = none) :
      Move source l .startTeardown { l with teardown := some .clearFlag }
  | tearDown {t t' : Teardown} {p' : Pipeline} {player' : Option Player}
      (here : l.teardown = some t)
      (move : Teardown.Move t l.pipeline l.player l.rendererGone t' p' player') :
      Move source l .tearDown { l.withPipeline p' with teardown := some t', player := player' }

variable {source : Source α σ} {l l' : Line α σ}

omit [Amplitude α] in
theorem begin_eq_some {start : Player → Player} (h : l.begin start = some l') :
    ∃ pl, l.player = some pl ∧ pl.isFree = true ∧ { l with player := some (start pl) } = l' := by
  unfold begin at h
  split at h
  · rename_i pl here
    simp only [Option.ite_none_right_eq_some, Option.some.injEq] at h
    exact ⟨pl, here, h⟩
  · cases h

/-- **Every step of a line is one of its moves.** -/
theorem move_of_step {label : Label} (h : l.step source label = some l') :
    Move source l label l' := by
  cases label with
  | render =>
    simp only [step, stepRender, Option.bind_eq_some_iff, Option.map_eq_some_iff] at h
    obtain ⟨r, here, ⟨r', s'⟩, adv, rfl⟩ := h
    exact .render here (Renderer.move_of_advance adv)
  | makePlayer =>
    simp only [step, Line.makePlayer, Option.ite_none_right_eq_some, Bool.and_eq_true,
      Option.isNone_iff_eq_none, Option.some.injEq] at h
    obtain ⟨⟨here, intact⟩, rfl⟩ := h
    exact .makePlayer here intact
  | play =>
    simp only [step, stepPlay, Option.bind_eq_some_iff, Option.map_eq_some_iff] at h
    obtain ⟨pl, here, ⟨pl', p'⟩, adv, rfl⟩ := h
    exact .play here (Player.move_of_advance adv)
  | startPrime =>
    obtain ⟨pl, here, free, rfl⟩ := begin_eq_some h
    exact .startPrime here free
  | startPull samples =>
    obtain ⟨pl, here, free, rfl⟩ := begin_eq_some h
    exact .startPull here free
  | clearFlag =>
    obtain ⟨rfl⟩ := h
    exact .clearFlag
  | wake =>
    obtain ⟨rfl⟩ := h
    exact .wake
  | interrupt =>
    obtain ⟨rfl⟩ := h
    exact .interrupt
  | startTeardown =>
    simp only [step, Line.startTeardown, Option.ite_none_right_eq_some, Bool.and_eq_true,
      Option.isNone_iff_eq_none, Option.isSome_iff_exists, Option.some.injEq] at h
    obtain ⟨⟨⟨pl, here⟩, intact⟩, rfl⟩ := h
    exact .startTeardown here intact
  | tearDown =>
    simp only [step, stepTeardown, Option.bind_eq_some_iff, Option.map_eq_some_iff] at h
    obtain ⟨t, here, ⟨t', p', player'⟩, adv, rfl⟩ := h
    exact .tearDown here (Teardown.move_of_advance adv)

/-- What every step keeps holds after every run. -/
theorem follow?_induction {P : Line α σ → Prop} {allowed : Label → Prop}
    (step : ∀ l label l', P l → allowed label → Move source l label l' → P l')
    {schedule : List Label} (start : P l) (labels : ∀ x ∈ schedule, allowed x)
    (run : l.follow? source schedule = some l') : P l' := by
  induction schedule generalizing l with
  | nil =>
    cases run
    exact start
  | cons label rest ih =>
    simp only [follow?, Option.bind_eq_some_iff] at run
    obtain ⟨l₁, first, run⟩ := run
    obtain ⟨here, labels⟩ := List.forall_mem_cons.1 labels
    exact ih (step l label l₁ start here (move_of_step first)) labels run

end Line

end SynthBridge
