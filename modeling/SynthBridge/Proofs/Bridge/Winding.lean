import SynthBridge.Proofs.Bridge.Session
import SynthBridge.Proofs.Flow.Progress

/-!
# Winding up a session

Once the controller has begun to close a session, it goes on with that until it gives the report
(`Bridge.Winding.step`). Nobody can keep it from doing so: until then the controller, the render
thread or the mixer has a step (`Bridge.Winding.goes_on`).
-/

namespace SynthBridge

namespace Bridge

variable {α σ : Type}

/-! ## Winding up -/

/-- A session is being closed, or it is closed and has been reported. -/
structure Winding (setup : Setup) (b : Bridge α σ) (ds : List Delivery) : Prop where
  sound : b.Sound ds
  setup_eq : b.setup = setup
  course : (∃ s stage, b.controller = .closing s stage none) ∨
    b.controller = .idle ∧ b.session = none ∧
      b.outcome = some (.closed (some (.ofSession setup.capacity ds)))

/-- Neither an opening nor a closing begins. -/
def Label.GoesOn : Label α → Prop
  | .startOpen _ | .startClose => False
  | _ => True

variable [Amplitude α] {E : Engine α σ} {t : FileTree} {b b' : Bridge α σ} {setup : Setup}
  {label : Label α} {ds : List Delivery} {s : Session} {stage : Closing}

/-- A step of closing goes on to another, or it is the last and gives the report. -/
theorem course_of_stepClosing (step : b.stepClosing s none stage = some b') :
    (∃ stage', b'.controller = .closing s stage' none) ∨
      ∃ report, stage = .finish report ∧ b'.controller = .idle ∧ b'.session = b.session ∧
        b'.player = b.player ∧ b'.outcome = some (.closed (some report)) := by
  cases move_of_stepClosing step with
  | finish last => exact .inr ⟨_, rfl, rfl, rfl, rfl, rfl⟩
  | reopen more => cases more
  | _ => exact .inl ⟨_, rfl⟩

omit [Amplitude α] in
theorem Winding.next_eq_none (h : Winding setup b ds) {next : Option UInt32}
    (here : b.controller = .closing s stage next) : next = none := by
  rcases h.course with ⟨s', stage', closing⟩ | ⟨idle, -⟩
  · have same := closing.symm.trans here
    simp only [Controller.closing.injEq] at same
    exact same.2.2.symm
  · exact absurd (idle.symm.trans here) (by simp)

omit [Amplitude α] in
theorem Winding.not_opening (h : Winding setup b ds) {rate : UInt32} {stage : Opening σ} :
    b.controller ≠ .opening rate stage := by
  rcases h.course with ⟨s, stage, closing⟩ | ⟨idle, -⟩
  · simp [closing]
  · simp [idle]

omit [Amplitude α] in
/-- Others than the controller leave the course of things as it is. -/
theorem Winding.other (h : Winding setup b ds) {ds' : List Delivery} (sound : b'.Sound ds')
    (same : b'.setup = b.setup ∧ b'.controller = b.controller ∧ b'.session = b.session ∧
      b'.outcome = b.outcome) (delivered : b.player = none → ds' = ds) :
    Winding setup b' ds' := by
  obtain ⟨setup_eq, controller, session, outcome⟩ := same
  refine ⟨sound, setup_eq.trans h.setup_eq, ?_⟩
  rw [controller, session, outcome]
  refine h.course.imp_right fun ⟨idle, closed, reported⟩ => ?_
  have vacant : b.slots.Vacant := by
    have before := h.sound
    rw [Sound, idle] at before
    rcases before with ⟨-, vacant⟩ | ⟨open', -⟩
    · exact vacant
    · simp [closed] at open'
  rw [delivered vacant.player]
  exact ⟨idle, closed, reported⟩

/-- **Every step while a session is wound up goes on with it, or gives the report.** -/
theorem Winding.step (h : Winding setup b ds) (m : Move E t b label b') (goesOn : label.GoesOn) :
    Winding setup b' (record ds b.player b'.player) := by
  have sound := h.sound.step m
  have kept := (setup_eq_of_move m).trans h.setup_eq
  have still : b.player = none → b'.player = none → record ds b.player b'.player = ds :=
    fun _ taken => record_eq_self ds (.inr taken)
  cases m with
  | startOpen idle => cases goesOn
  | startClose idle => cases goesOn
  | @closing s stage next b' here step =>
    obtain rfl : next = none := h.next_eq_none here
    rcases course_of_stepClosing step with
      ⟨stage', here'⟩ | ⟨report, rfl, idle, session, slot, reported⟩
    · exact ⟨sound, kept, .inl ⟨s, stage', here'⟩⟩
    · have before := h.sound
      rw [Sound, here] at before
      obtain ⟨closed, -, rfl⟩ := before
      refine ⟨sound, kept, .inr ⟨idle, session.trans closed, ?_⟩⟩
      rw [reported, record_eq_self ds (.inl slot), ← h.setup_eq]
      rfl
  | opening here step => exact absurd here h.not_opening
  | refuseThread here => exact absurd here h.not_opening
  | render here present move => exact h.other sound ⟨rfl, rfl, rfl, rfl⟩ fun none => still none none
  | startPull here free =>
    exact h.other sound ⟨rfl, rfl, rfl, rfl⟩ fun none => by simp [none] at here
  | pull here present move =>
    exact h.other sound ⟨rfl, rfl, rfl, rfl⟩ fun none => by simp [none] at here
  | aside aside step =>
    have aside := aside_of_step aside step
    exact h.other sound ⟨aside.setup, aside.controller, aside.session, aside.outcome⟩ fun none =>
      still none (aside.player.trans none)

/-! ## Somebody goes on -/

/-- The steps of threads that are at work. -/
def Label.isWork : Label α → Bool
  | .control | .render | .pull => true
  | _ => false

theorem isSome_control (here : b.controller = .closing s stage none)
    (steps : (b.stepClosing s none stage).isSome) : (b.step E t .control).isSome := by
  simpa only [Bridge.step, stepControl, here] using steps

/-- While the session's threads are taken apart, one of them has a step. -/
theorem tearing_goes_on {phase : Teardown} (here : b.controller = .closing s (.tearing phase) none)
    (h : Closing.Holds b.slots ds (.tearing phase)) :
    ∃ label : Label α, label.isWork = true ∧ (b.step E t label).isSome := by
  obtain ⟨⟨p, ⟨present, -, conserved, orderly⟩, -⟩, early⟩ := h
  by_cases last : ∃ recovered played, phase = .reclaim recovered played
  · obtain ⟨recovered, played, rfl⟩ := last
    exact ⟨.control, rfl, isSome_control here rfl⟩
  · have before : ∀ recovered played, phase ≠ .reclaim recovered played := fun r p here =>
      last ⟨r, p, here⟩
    have unfinished : ∀ recovered played, phase ≠ .finished recovered played := by
      rintro r p rfl
      simp at early
    have goesOn := Crew.Orderly.teardown_goes_on E.numbered ⟨p, b.engine, b.limiter⟩ orderly
      conserved unfinished
    rcases goesOn with tears | ⟨pl, playing, plays⟩ | ⟨r, rendering, renders⟩
    · refine ⟨.control, rfl, isSome_control here ?_⟩
      rw [stepClosing_tearing before, show b.pipeline = some p from present, Option.bind_some,
        Option.isSome_map]
      exact tears
    · refine ⟨.pull, rfl, ?_⟩
      simpa [Bridge.step, stepPull, show b.player = some pl from playing,
        show b.pipeline = some p from present] using plays
    · refine ⟨.render, rfl, ?_⟩
      simpa [Bridge.step, stepRender, show b.renderer = some r from rendering,
        show b.pipeline = some p from present] using renders

/-- **Until the session is closed, somebody has a step.** -/
theorem Winding.goes_on (h : Winding setup b ds) (busy : b.isIdle = false) :
    ∃ label : Label α, label.isWork = true ∧ (b.step E t label).isSome := by
  rcases h.course with ⟨s, stage, here⟩ | ⟨idle, -⟩
  · have sound := h.sound
    rw [Sound, here] at sound
    obtain ⟨-, holds⟩ := sound
    cases stage with
    | disable => exact ⟨.control, rfl, isSome_control here rfl⟩
    | tearing phase => exact tearing_goes_on here holds
    | closeEngine phase => exact ⟨.control, rfl, isSome_control here rfl⟩
    | clearPipeline phase =>
      obtain ⟨-, -, p, present, -⟩ := holds
      refine ⟨.control, rfl, isSome_control here ?_⟩
      simp [stepClosing, show b.pipeline = some p from present]
    | dropChannel phase p => exact ⟨.control, rfl, isSome_control here rfl⟩
    | count phase p =>
      obtain ⟨-, -, recovered, rfl, -⟩ := holds
      exact ⟨.control, rfl, isSome_control here rfl⟩
    | clearLimiter report => exact ⟨.control, rfl, isSome_control here rfl⟩
    | finish report => exact ⟨.control, rfl, isSome_control here rfl⟩
  · simp [isIdle, idle] at busy

end Bridge

end SynthBridge
