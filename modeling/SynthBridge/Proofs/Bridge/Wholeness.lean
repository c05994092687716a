import SynthBridge.Bridge.Sequential
import SynthBridge.Proofs.Bridge.Fittings
import SynthBridge.Proofs.Bridge.Shutdown

/-!
# Open or closed

The parts of a session are put in place in many steps, and any of the steps in which an opening can
fail may be the last. Still, whenever the controller is done, all parts of a session are there or
none is: `Bridge.open_or_closed`. An engine that was in its slot does not get lost on the way
(`Bridge.Kept.step`).
-/

namespace SynthBridge

namespace Bridge

variable {α σ : Type} [Amplitude α] {E : Engine α σ} {t : FileTree} {b b' : Bridge α σ}
  {label : Label α}

/-! ## The engine in the slot -/

/-- An engine that was in the slot is there still, or it has been closed. -/
def Kept (b : Bridge α σ) (number : Nat) : Prop :=
  b.inSlot = some number ∨ (number, Call.close) ∈ b.calls

section Kept

variable {number : Nat}

omit [Amplitude α] in
theorem Kept.mono (h : b.Kept number) (inSlot : b'.inSlot = b.inSlot)
    (calls : b.calls ⊆ b'.calls) : b'.Kept number :=
  h.imp inSlot.trans (@calls _)

omit [Amplitude α] in
theorem Kept.closeEngine (h : b.Kept number) : b.closeEngine.Kept number := by
  unfold Bridge.closeEngine
  cases here : b.engine with
  | none => exact h
  | some i =>
    refine .inr (List.mem_append.2 ?_)
    rcases h with present | closed
    · simp only [inSlot, here, Option.map_some, Option.some.injEq] at present
      simp [present]
    · exact .inl closed

theorem Kept.stepClosing {s : Session} {stage : Closing} {next : Option UInt32}
    (h : b.Kept number) (step : b.stepClosing s next stage = some b') : b'.Kept number := by
  cases move_of_stepClosing step with
  | closeEngine => exact h.closeEngine
  | _ => exact h

omit [Amplitude α] in
theorem Kept.stepOpening {stage : Opening σ} {rate : UInt32} (h : b.Kept number)
    (fitting : b.fitting = stage.fitting) (m : Opening.Move E t b rate stage b') :
    b'.Kept number := by
  cases m with
  | fillEngine =>
    -- The slot was empty, and so the engine is one that has been closed.
    have empty : b.engine.isSome = false := congrArg Fitting.engine fitting
    rcases h with present | closed
    · obtain ⟨i, here, -⟩ := Option.map_eq_some_iff.1 present
      simp [here] at empty
    · exact .inr closed
  | create => exact h.mono rfl (List.subset_append_left ..)
  | found loaded => exact h.mono rfl (List.subset_append_left ..)
  | passBy failed => exact h.mono rfl (List.subset_append_left ..)
  | describe informs => exact h.mono rfl (List.subset_append_left ..)
  | configure => exact h.mono rfl (List.subset_append_left ..)
  | start accepts => exact h.mono rfl (List.subset_append_left ..)
  | refuse refuses => exact h.mono rfl (List.subset_append_left ..)
  | close => exact h.mono rfl (List.subset_append_left ..)
  | withdrawEngine => exact h.closeEngine
  | _ => exact h

omit [Amplitude α] in
theorem Kept.startClosing (h : b.Kept number) (next : Option UInt32) :
    (b.startClosing next).Kept number := by
  unfold Bridge.startClosing
  split <;> exact h

/-- **An engine leaves the slot only to be closed.** -/
theorem Kept.step (h : b.Kept number) (fitted : b.Fitted) (m : Move E t b label b') :
    b'.Kept number := by
  have fitting := fitted.fitting
  cases m with
  | startOpen idle => exact h.startClosing _
  | startClose idle => exact h.startClosing _
  | closing here step => exact h.stepClosing step
  | opening here step =>
    rw [here] at fitting
    exact h.stepOpening fitting (move_of_stepOpening step)
  | refuseThread here => exact h
  | render here present move =>
    have uses := uses_render move
    exact h.mono uses.inSlot uses.calls
  | startPull here free => exact h
  | pull here present move => exact h
  | aside aside step =>
    have uses := uses_of_step aside step
    exact h.mono uses.inSlot uses.calls

end Kept

/-! ## Open or closed -/

/-- All of a session is there. -/
structure WhollyOpen (b : Bridge α σ) : Prop where
  isOpen : b.isOpen = true
  engine : b.engine.isSome
  pipeline : b.pipeline.isSome
  player : b.player.isSome
  loaded : b.loaded.isSome
  channel : ∃ r, b.channels = [r] ∧ r.enabled = true

/-- Nothing of a session is there. -/
structure WhollyClosed (b : Bridge α σ) : Prop where
  isOpen : b.isOpen = false
  engine : b.engine = none
  pipeline : b.pipeline = none
  player : b.player = none
  renderer : b.renderer = none
  loaded : b.loaded = none
  channels : b.channels = []
  played : b.played = 0

/-- Where nothing of a session is there, a pull gets silence, the mixer has no channel to pull from,
and closing has nothing to report. -/
structure Silent (b : Bridge α σ) : Prop where
  callback : ∀ (E : Engine α σ) (samples : Nat),
    b.callback E samples = (b, .audio (List.replicate samples 0))
  mixerPull : ∀ (E : Engine α σ) (samples : Nat), b.mixerPull E samples = (b, .nobody)
  close : ∀ (E : Engine α σ) (t : FileTree),
    b.close E t = { b with outcome := some (.closed none) }

/-- Whichever engine was in the slot at some point of a run has been closed. -/
def AllClosed (b : Bridge α σ) (start : Bridge α σ) (turns : List (Turn α σ)) : Prop :=
  ∀ before after b₀ i, turns = before ++ after → start.after? before = some b₀ →
    b₀.engine = some i → (i.number, Call.close) ∈ b.calls

/-- What every run keeps to. -/
structure Whole (b : Bridge α σ) : Prop where
  sound : ∃ ds, b.Sound ds
  fitted : b.Fitted

theorem Whole.step (h : b.Whole) (m : Move E t b label b') : b'.Whole := by
  obtain ⟨⟨ds, sound⟩, fitted⟩ := h
  exact ⟨⟨_, sound.step m⟩, fitted.step sound m⟩

theorem whole_after? {setup : Setup} {catalog : Catalog} {turns : List (Turn α σ)}
    (run : (Bridge.new setup catalog).after? turns = some b) : b.Whole :=
  after?_induction (fun h m => h.step m) ⟨⟨[], sound_new ..⟩, fitted_new ..⟩ run

omit [Amplitude α] in
theorem Whole.idle (h : b.Whole) (idle : b.controller = .idle) :
    (b.WhollyOpen ∧ b.outcome = some .opened) ∨ b.WhollyClosed := by
  obtain ⟨⟨ds, sound⟩, fitting, opened⟩ := h
  rw [Sound, idle] at sound
  rw [idle] at fitting
  rcases sound with ⟨closed, vacant⟩ | ⟨isOpen, p, staffed, -, held⟩
  · simp only [Bridge.fitting, closed, Controller.fitting, Option.elim_none, Fitting.bare,
      Fitting.mk.injEq, Option.isSome_eq_false_iff, Option.isNone_iff_eq_none] at fitting
    refine .inr ⟨?_, fitting.1, vacant.pipeline, vacant.player, vacant.renderer, ?_, fitting.2, ?_⟩
    · simp [Bridge.isOpen, closed]
    · simp [Bridge.loaded, closed]
    · simp [Bridge.played, show b.pipeline = none from vacant.pipeline]
  · obtain ⟨s, session⟩ := Option.isSome_iff_exists.1 isOpen
    simp only [Bridge.fitting, session, Controller.fitting, Option.elim_some, Session.fitting,
      Fitting.mk.injEq] at fitting
    refine .inl ⟨⟨isOpen, fitting.1, ?_, held rfl, ?_, _, fitting.2, rfl⟩, opened isOpen⟩
    · simp [show b.pipeline = some p from staffed.present]
    · simp [Bridge.loaded, session]

theorem driveFor_idle (fuel : Nat) (idle : b.isIdle = true) : driveFor E t fuel b = b := by
  cases fuel with
  | zero => rfl
  | succ fuel => simp [driveFor, idle]

theorem WhollyClosed.silent (h : b.WhollyClosed) (idle : b.controller = .idle) : b.Silent := by
  have closed : b.session = none := by simpa [Bridge.isOpen] using h.isOpen
  refine ⟨fun E samples => ?_, fun E samples => ?_, fun E t => ?_⟩
  · simp [Bridge.callback, Bridge.startPull, h.player]
  · simp [Bridge.mixerPull, channel?, h.channels]
  · have done : b.startClosing none = { b with outcome := some (.closed none) } := by
      simp only [Bridge.startClosing, closed, ended, ← idle]
    rw [Bridge.close, done]
    exact driveFor_idle _ (isIdle_iff.2 idle)

theorem after?_append (b : Bridge α σ) (before after : List (Turn α σ)) :
    b.after? (before ++ after) = (b.after? before).bind (·.after? after) := by
  induction before generalizing b with
  | nil => rfl
  | cons turn rest ih => simp only [List.cons_append, after?, ih, Option.bind_assoc]

/-- **An engine that was in the slot of a closed bridge has been closed.** -/
theorem allClosed {setup : Setup} {catalog : Catalog} {turns : List (Turn α σ)}
    (run : (Bridge.new setup catalog).after? turns = some b) (empty : b.engine = none) :
    b.AllClosed (Bridge.new setup catalog) turns := by
  rintro before after b₀ i rfl first here
  rw [after?_append, first, Option.bind_some] at run
  have start : b₀.Whole ∧ b₀.Kept i.number := ⟨whole_after? first, .inl (by simp [inSlot, here])⟩
  obtain ⟨-, kept⟩ := after?_induction (P := fun b => b.Whole ∧ b.Kept i.number)
    (fun h m => ⟨h.1.step m, h.2.step h.1.fitted m⟩) start run
  exact kept.resolve_left (by simp [inSlot, empty])

/-- **Whenever the controller is done, all of a session is there or nothing is**, whoever acts in
between, and whatever engines and files there are at the time. Where nothing is there, pulls get
silence and closing has nothing to report, and whichever engine was in the slot before has been
closed. That is so in particular after an opening that failed. -/
theorem open_or_closed (setup : Setup) (catalog : Catalog) {turns : List (Turn α σ)}
    (run : (Bridge.new setup catalog).after? turns = some b) (idle : b.isIdle = true) :
    (b.WhollyOpen ∨ b.WhollyClosed) ∧
    (b.WhollyClosed → b.Silent ∧ b.AllClosed (Bridge.new setup catalog) turns) ∧
    ∀ f, b.outcome = some (.failed f) → b.WhollyClosed := by
  have idle := isIdle_iff.1 idle
  have whole := (whole_after? run).idle idle
  refine ⟨whole.imp_left (·.1), fun closed => ⟨closed.silent idle, allClosed run closed.engine⟩,
    fun f failed => whole.resolve_left ?_⟩
  rintro ⟨-, opened⟩
  simp [failed] at opened

def Outcome.isFailed : Outcome → Bool
  | .failed _ => true
  | _ => false

/-- An engine that refuses to open. -/
def refusingEngine : Engine Extended (Scripted.State Extended) :=
  Scripted.engine { wave := #[.finite 1], openError := some (-3) }

/-- A session is opened, and then another, for which the engine refuses to open. The first is wholly
open; after the second nothing is left, and the engine of the first has been closed. -/
theorem open_or_closed_refused :
    let opens : List (Label Extended) := .startOpen 32000 :: List.replicate 13 .control ++
      List.replicate 7 .render ++ List.replicate 5 .control
    let fails : List (Label Extended) := .startOpen 32000 :: List.replicate 6 .control ++
      .render :: List.replicate 17 .control
    let before := opens.map (⟨pocketEngine, pocketFiles, ·⟩)
    let after := fails.map (⟨refusingEngine, pocketFiles, ·⟩)
    ∃ b₀ b i, (Bridge.new pocketSetup pocketCatalog).after? before = some b₀ ∧
      b₀.WhollyOpen ∧ b₀.engine = some i ∧
      (Bridge.new pocketSetup pocketCatalog).after? (before ++ after) = some b ∧
      b.isIdle = true ∧ (∃ f, b.outcome = some (.failed f)) ∧ b.WhollyClosed ∧
      (i.number, Call.close) ∈ b.calls := by
  intro opens fails before after
  have runs : ((Bridge.new pocketSetup pocketCatalog).after? before).any (fun b₀ =>
      b₀.isIdle && b₀.isOpen && (b₀.after? after).any fun b =>
        b.isIdle && b.outcome.any Outcome.isFailed) = true := by decide +kernel
  obtain ⟨b₀, opened, facts⟩ := (Option.any_eq_true ..).1 runs
  simp only [Bool.and_eq_true, Option.any_eq_true] at facts
  obtain ⟨⟨idle₀, isOpen⟩, b, reopened, idle, outcome, ended, isFailed⟩ := facts
  have whole : (Bridge.new pocketSetup pocketCatalog).after? (before ++ after) = some b := by
    rw [after?_append, opened, Option.bind_some, reopened]
  obtain ⟨f, rfl⟩ : ∃ f, outcome = .failed f := by
    cases outcome <;> first | exact ⟨_, rfl⟩ | cases isFailed
  obtain ⟨first, -⟩ := open_or_closed pocketSetup pocketCatalog opened idle₀
  have first : b₀.WhollyOpen := first.resolve_right fun closed => by simp [closed.isOpen] at isOpen
  obtain ⟨i, here⟩ := Option.isSome_iff_exists.1 first.engine
  obtain ⟨-, nothing, failed⟩ := open_or_closed pocketSetup pocketCatalog whole idle
  have closed := failed f ended
  exact ⟨b₀, b, i, opened, first, here, whole, idle, ⟨f, ended⟩, closed,
    (nothing closed).2 before after b₀ i rfl opened here⟩

end Bridge

end SynthBridge
