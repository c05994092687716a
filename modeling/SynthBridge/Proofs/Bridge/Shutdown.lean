import SynthBridge.Proofs.Bridge.Winding
import SynthBridge.Proofs.Flow.Effort

/-!
# Closing a session

There is only so much to do until a session is closed (`Bridge.work_le`), whatever the render
thread and the mixer do. Then the controller reports every buffer of the session and every frame
that its pulls have copied: `Bridge.close_accounts`.
-/

namespace SynthBridge

namespace Bridge

variable {α σ : Type}

/-! ## There is only so much to do -/

section Effort

/-- What the controller may still do, its part in a teardown included. -/
def Closing.effort : Closing → Nat
  | .disable => 22
  | .tearing t => t.effort + 7
  | .closeEngine _ => 6
  | .clearPipeline _ => 5
  | .dropChannel .. => 4
  | .count .. => 3
  | .clearLimiter _ => 2
  | .finish _ => 1

/-- What those in the slots may still do. -/
def Slots.effort (x : Slots α) : Nat :=
  x.pipeline.elim 0 (fun p => p.effort + x.player.elim 0 (Player.effort p.frames)) +
    x.renderer.elim 0 Renderer.effort

/-- What may still be done until a session is closed. -/
def effort (b : Bridge α σ) : Nat :=
  b.slots.effort +
    match b.controller with
    | .closing _ stage _ => stage.effort
    | _ => 0

/-- The work that a pull adds. -/
def Label.cost : Label α → Nat
  | .startPull samples => 9 * (samples / 2) + 9
  | _ => 0

variable [Amplitude α] {E : Engine α σ} {t : FileTree} {b b' : Bridge α σ} {setup : Setup}
  {label : Label α} {ds ds' : List Delivery} {s : Session} {stage : Closing}

omit [Amplitude α] in
theorem effort_eq (here : b.controller = .closing s stage none) :
    b.effort = b.slots.effort + stage.effort := by
  simp only [effort, here]

theorem effort_stepClosing (here : b.controller = .closing s stage none)
    (step : b.stepClosing s none stage = some b') : b'.effort < b.effort := by
  rw [effort_eq here]
  cases move_of_stepClosing step with
  | @tear phase phase' p p' player' unfinished present move =>
    have less := move.effort_lt
    rw [effort_eq rfl]
    simp only [Slots.effort, slots, closing, Option.elim_some, Closing.effort, present] at less ⊢
    omega
  | join =>
    rw [effort_eq rfl]
    simp only [Slots.effort, slots, joined, closing, logged, Option.elim_none, Closing.effort,
      Teardown.effort]
    omega
  | @closeEngine phase =>
    have same : slots (b.closeEngine.closing s (.clearPipeline phase) none) = b.slots :=
      (aside_closeEngine b).slots
    rw [effort_eq rfl, same]
    exact Nat.lt_succ_self _
  | clearPipeline present =>
    rw [effort_eq rfl]
    simp only [Slots.effort, slots, closing, Option.elim_none, Closing.effort]
    omega
  | reopen more => cases more
  | _ => exact Nat.lt_succ_self _

omit [Amplitude α] in
/-- Others than the controller change what those in the slots may do, and nothing else. -/
theorem effort_le_of_slots (same : b'.controller = b.controller)
    (less : (if label.isWork then 1 else 0) + b'.slots.effort ≤ b.slots.effort + label.cost) :
    (if label.isWork then 1 else 0) + b'.effort ≤ b.effort + label.cost := by
  simp only [effort, same]
  omega

theorem Winding.effort_le (h : Winding setup b ds) (m : Move E t b label b')
    (goesOn : label.GoesOn) :
    (if label.isWork then 1 else 0) + b'.effort ≤ b.effort + label.cost := by
  cases m with
  | startOpen idle => cases goesOn
  | startClose idle => cases goesOn
  | @closing s stage next b' here step =>
    obtain rfl : next = none := h.next_eq_none here
    have less := effort_stepClosing here step
    simp only [Label.isWork, Label.cost, if_true]
    omega
  | opening here step => exact absurd here h.not_opening
  | refuseThread here => exact absurd here h.not_opening
  | @render r r' p s' here present move =>
    have less := move.effort_lt
    have frames : s'.pipeline.frames = p.frames := congrArg Sizes.frames move.sizes_eq
    refine effort_le_of_slots rfl ?_
    simp only [Slots.effort, slots, here, present, Option.elim_some, frames, Label.isWork,
      Label.cost, if_true] at less ⊢
    omega
  | @startPull pl samples here free =>
    refine effort_le_of_slots rfl ?_
    cases present : b.pipeline with
    | none =>
      simp only [Slots.effort, slots, present, Option.elim_none, Label.isWork, Label.cost]
      simp
    | some p =>
      have after := pl.effort_startPull_le p.frames samples
      simp only [Slots.effort, slots, here, present, Option.elim_some, Label.isWork, Label.cost]
      simp
      omega
  | @pull pl pl' p p' here present move =>
    have less := move.effort_lt
    refine effort_le_of_slots rfl ?_
    simp only [Slots.effort, slots, here, present, Option.elim_some, Label.isWork, Label.cost,
      if_true]
    omega
  | aside aside step =>
    have quiet : label.isWork = false := by
      cases label <;> first | rfl | cases aside
    have beside := aside_of_step aside step
    refine effort_le_of_slots beside.controller ?_
    rw [beside.slots, quiet]
    simp

/-- **Closing a session takes only so many steps**, and those of the pulls that come in between. -/
theorem work_le {schedule : List (Label α)} (h : Winding setup b ds)
    (goesOn : ∀ x ∈ schedule, x.GoesOn) (run : b.listen? E t ds schedule = some (b', ds')) :
    schedule.countP Label.isWork + b'.effort ≤ b.effort + (schedule.map Label.cost).sum := by
  induction schedule generalizing b ds with
  | nil =>
    obtain ⟨rfl, rfl⟩ := run
    simp
  | cons label rest ih =>
    simp only [listen?, Option.bind_eq_some_iff] at run
    obtain ⟨b₁, first, run⟩ := run
    obtain ⟨here, goesOn⟩ := List.forall_mem_cons.1 goesOn
    have move := move_of_step first
    have step := h.effort_le move here
    have more := ih (h.step move here) goesOn run
    simp only [List.countP_cons, List.map_cons, List.sum_cons]
    omega

end Effort

/-! ## The report -/

section Report

variable [Amplitude α] {E : Engine α σ} {t : FileTree} {b b' : Bridge α σ}
  {ds ds' : List Delivery}

omit [Amplitude α] in
theorem winding_startClosing (sound : b.Sound ds) (idle : b.controller = .idle) {s : Session}
    (session : b.session = some s) : Winding b.setup (b.startClosing none) ds := by
  refine ⟨sound.startClosing idle none, ?_, .inl ⟨s, .disable, ?_⟩⟩
  · simp only [startClosing, session]
  · simp only [startClosing, session]

/-- What is to be said of a session that is being closed, with the deliveries so far. -/
structure ClosesWell (E : Engine α σ) (t : FileTree) (setup : Setup) (b : Bridge α σ)
    (ds : List Delivery) : Prop where
  /-- Until it is closed, one of its threads can go on. -/
  goesOn : b.isIdle = false → ∃ label : Label α, label.isWork = true ∧ (b.step E t label).isSome
  /-- Once it is closed, all of its buffers are accounted for, and all frames that were copied. -/
  report : b.isIdle = true → b.session = none ∧
    b.outcome = some (.closed (some ⟨setup.capacity, setup.capacity, UInt64.ofNat (framesOf ds)⟩))
  /-- Closing it once more does nothing and reports nothing. -/
  again : b.isIdle = true →
    b.step E t .startClose = some { b with outcome := some (.closed none) }

theorem Winding.closesWell {setup : Setup} (h : Winding setup b ds) :
    b.ClosesWell E t setup ds := by
  refine ⟨h.goes_on, fun done => ?_, fun done => ?_⟩
  · rcases h.course with ⟨s, stage, here⟩ | ⟨-, closed, reported⟩
    · simp [isIdle, here] at done
    · exact ⟨closed, reported⟩
  · rcases h.course with ⟨s, stage, here⟩ | ⟨idle, closed, -⟩
    · simp [isIdle, here] at done
    · simp only [Bridge.step, whenIdle, done, if_true, startClosing, closed, ended, ← idle]

/-- **Closing accounts for every buffer and every frame.** A session was opened, no matter what
went on before, and is now closed, while the render thread goes on or panics and the mixer pulls
regions of any sizes. Then the closing comes to an end, and it reports as many buffers as the
pipeline has, and as many frames as the pulls of the session have copied out of buffers. -/
theorem close_accounts (E : Engine α σ) (t : FileTree) (setup : Setup) (catalog : Catalog)
    {before : List (Label α)} {s : Session}
    (opens : (Bridge.new setup catalog).listen? E t [] before = some (b, ds))
    (idle : b.isIdle = true) (session : b.session = some s) :
    ∃ bound, ∀ (after : List (Label α)) (b' : Bridge α σ) (ds' : List Delivery),
      (∀ x ∈ after, x.GoesOn) → b.listen? E t ds (.startClose :: after) = some (b', ds') →
      after.countP Label.isWork ≤ bound + (after.map Label.cost).sum ∧
        b'.ClosesWell E t setup ds' := by
  obtain ⟨sound, rfl⟩ := sound_of_listen? opens
  have winding := winding_startClosing sound (isIdle_iff.1 idle) session
  refine ⟨(b.startClosing none).effort, fun after b' ds' goesOn run => ?_⟩
  have run : (b.startClosing none).listen? E t ds after = some (b', ds') := by
    simpa only [listen?, Bridge.step, whenIdle, idle, if_true, Option.bind_some,
      record_eq_self ds (.inl (startClosing_player b none))] using run
  have wound : Winding b.setup b' ds' :=
    listen?_induction Label.GoesOn (fun _ _ _ _ h goesOn m => h.step m goesOn) winding goesOn run
  have work := work_le winding goesOn run
  exact ⟨by omega, wound.closesWell⟩

/-- A directory with the two files of one model. -/
def pocketFiles : FileTree :=
  ⟨[(["", "mt32-roms", "p"], .file "pcm".toUTF8), (["", "mt32-roms", "c"], .file "ctrl".toUTF8),
    (["", "mt32-roms"], .folder), ([""], .folder)]⟩

def pocketCatalog : Catalog :=
  ⟨[⟨"pocket", .ofFull ⟨"pcm", "p"⟩, .ofFull ⟨"ctrl", "c"⟩, by decide, by decide, by decide⟩]⟩

/-- Two buffers of one frame. -/
def pocketSetup : Setup :=
  { config := {}, platform := .xdg, env := {}, frames := 1, capacity := 2 }

def pocketEngine : Engine Extended (Scripted.State Extended) :=
  Scripted.engine { wave := #[.finite 1] }

/-- The session is closed while the render thread has a quantum and no buffer, and while a pull of
two frames waits for the second. -/
theorem close_accounts_half_way :
    let before : List (Label Extended) := [.startOpen 32000, .control, .control, .control,
      .control, .control, .control, .control, .control, .control, .control, .control, .render,
      .render, .control, .control, .render, .render, .render, .render, .render, .control, .control,
      .control, .control, .control, .startPull 4, .pull, .pull]
    let after : List (Label Extended) := [.render, .render, .control, .control, .control, .pull,
      .control, .control, .render, .render, .control, .render, .render, .control, .control,
      .control, .control, .control, .control, .control, .control]
    ∃ b ds s b' ds', (Bridge.new pocketSetup pocketCatalog).listen? pocketEngine pocketFiles []
        before = some (b, ds) ∧ b.isIdle = true ∧ b.session = some s ∧ (∀ x ∈ after, x.GoesOn) ∧
      b.listen? pocketEngine pocketFiles ds (.startClose :: after) = some (b', ds') ∧
      b'.outcome = some (.closed (some ⟨2, 2, 1⟩)) := by
  intro before after
  have runs : ((Bridge.new pocketSetup pocketCatalog).listen? pocketEngine pocketFiles []
      before).any (fun x => x.1.isIdle && x.1.session.isSome &&
        (x.1.listen? pocketEngine pocketFiles x.2 (.startClose :: after)).any fun y =>
          y.1.isIdle && framesOf y.2 == 1) = true := by decide +kernel
  obtain ⟨⟨b, ds⟩, opens, facts⟩ := (Option.any_eq_true ..).1 runs
  simp only [Bool.and_eq_true, Option.any_eq_true, beq_iff_eq, Option.isSome_iff_exists] at facts
  obtain ⟨⟨idle, s, session⟩, ⟨b', ds'⟩, closes, done, frames⟩ := facts
  have goesOn : ∀ x ∈ after, x.GoesOn := by simp [after, Label.GoesOn]
  obtain ⟨bound, accounts⟩ := close_accounts _ _ _ _ opens idle session
  obtain ⟨-, well⟩ := accounts after b' ds' goesOn closes
  obtain ⟨-, reported⟩ := well.report done
  rw [frames] at reported
  exact ⟨b, ds, s, b', ds', opens, idle, session, goesOn, closes, reported⟩

end Report

end Bridge

end SynthBridge
