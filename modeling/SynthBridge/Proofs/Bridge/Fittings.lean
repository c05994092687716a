import SynthBridge.Proofs.Bridge.Session

/-!
# What a bridge is fitted with

Besides the slots that a session works with, a bridge has an engine in a slot and a channel at a
mixer, which the controller puts in place and takes away one by one. `Bridge.Fitted` says for every
point at which the controller may be which of them are in place, and every step leaves it so
(`Bridge.Fitted.step`).
-/

namespace SynthBridge

namespace Bridge

variable {α σ : Type}

/-! ## Runs in a changing world -/

/-- One step of somebody, with the engines and the files that there are at the time. -/
structure Turn (α σ : Type) where
  engine : Engine α σ
  files : FileTree
  label : Label α

/-- The state after a list of turns, if each of them has a step. -/
def after? [Amplitude α] (b : Bridge α σ) : List (Turn α σ) → Option (Bridge α σ)
  | [] => some b
  | turn :: rest => (b.step turn.engine turn.files turn.label).bind fun b => b.after? rest

/-- What every step of certain turns keeps holds after every run of such turns. -/
theorem after?_induction_of [Amplitude α] {P : Bridge α σ → Prop} {Q : Turn α σ → Prop}
    (step : ∀ {b turn b'}, Q turn → P b → Move turn.engine turn.files b turn.label b' → P b')
    {b b' : Bridge α σ} {turns : List (Turn α σ)} (all : ∀ turn ∈ turns, Q turn) (start : P b)
    (run : b.after? turns = some b') : P b' := by
  induction turns generalizing b with
  | nil =>
    obtain ⟨rfl⟩ := run
    exact start
  | cons turn rest ih =>
    simp only [after?, Option.bind_eq_some_iff] at run
    obtain ⟨b₁, first, run⟩ := run
    obtain ⟨here, others⟩ := List.forall_mem_cons.1 all
    exact ih others (step here start (move_of_step first)) run

/-- What every step keeps holds after every run. -/
theorem after?_induction [Amplitude α] {P : Bridge α σ → Prop}
    (step : ∀ {b E t label b'}, P b → Move E t b label b' → P b')
    {b b' : Bridge α σ} {turns : List (Turn α σ)} (start : P b)
    (run : b.after? turns = some b') : P b' :=
  after?_induction_of (Q := fun _ => True) (fun _ h m => step h m) (fun _ _ => trivial) start run

/-! ## What is in place -/

/-- Whether there is an engine in the slot, and the channels that mixers have. -/
structure Fitting where
  engine : Bool
  channels : List Registration

def Fitting.bare : Fitting := ⟨false, []⟩

/-- With the channel of a session and no other. -/
def Session.fitting (s : Session) (engine listening enabled : Bool) : Fitting :=
  ⟨engine, [{ number := s.channel, listening, enabled }]⟩

/-- What is in place while a session is opened. -/
def Opening.fitting : Opening σ → Fitting
  | .create | .resolve .. | .describe .. | .addChannel .. => .bare
  | .listen _ s => s.fitting false false false
  | .configure _ s | .start _ s | .refuse _ s _ | .leave s _ | .checkSizes _ s
  | .fillEngine _ s _ | .withdrawPipeline s _ => s.fitting false true false
  | .fillPipeline s _ | .spawn s | .withdrawEngine s _ | .makePlayer s | .prime s _
  | .fillPlayer s _
  | .enable s => s.fitting true true false
  | .finish s => s.fitting true true true

/-- What is in place while a session is closed. -/
def Closing.fitting (s : Session) : Closing → Fitting
  | .disable => s.fitting true true true
  | .tearing _ | .closeEngine _ => s.fitting true true false
  | .clearPipeline _ | .dropChannel .. => s.fitting false true false
  | .count .. | .clearLimiter _ | .finish _ => .bare

def Controller.fitting (session : Option Session) : Controller σ → Fitting
  | .idle => session.elim .bare (·.fitting true true true)
  | .closing s stage _ => stage.fitting s
  | .opening _ stage => stage.fitting

def fitting (b : Bridge α σ) : Fitting := ⟨b.engine.isSome, b.channels⟩

/-- What is in place, wherever the controller is. -/
structure Fitted (b : Bridge α σ) : Prop where
  fitting : b.fitting = b.controller.fitting b.session
  opened : b.session.isSome → b.outcome = some .opened

theorem fitted_new [Amplitude α] (setup : Setup) (catalog : Catalog) :
    (Bridge.new setup catalog : Bridge α σ).Fitted :=
  ⟨rfl, nofun⟩

/-! ## Steps that leave it in place -/

/-- The number of the engine in the slot. -/
def inSlot (b : Bridge α σ) : Option Nat := b.engine.map Instance.number

theorem inSlot_of_engine {b : Bridge α σ} {i : Instance σ} (here : b.engine = some i) :
    b.inSlot = some i.number := by
  rw [inSlot, here, Option.map_some]

/-- The engine in the slot may have been used, but it is the same one, and so are the channels. -/
structure Uses (b b' : Bridge α σ) : Prop where
  channels : b'.channels = b.channels
  inSlot : b'.inSlot = b.inSlot
  calls : b.calls ⊆ b'.calls

theorem Uses.fitting {b b' : Bridge α σ} (h : b.Uses b') : b'.fitting = b.fitting := by
  have engine : b'.engine.isSome = b.engine.isSome := by
    simpa [Bridge.inSlot] using congrArg Option.isSome h.inSlot
  rw [Bridge.fitting, Bridge.fitting, engine, h.channels]

theorem uses_submit (E : Engine α σ) (b : Bridge α σ) (event : σ → UInt32 → σ)
    (call : UInt32 → Call α) (dropped : Log α) : b.Uses (b.submit E event call dropped) := by
  unfold submit
  split
  · exact ⟨rfl, rfl, List.Subset.refl _⟩
  · rename_i i here
    exact ⟨rfl, by simp [inSlot, here], List.subset_append_left ..⟩

variable [Amplitude α] {E : Engine α σ} {t : FileTree} {b b' : Bridge α σ} {label : Label α}

theorem uses_setGain (E : Engine α σ) (b : Bridge α σ) (left right : α) :
    b.Uses (b.setGain E left right) := by
  unfold setGain
  simp only
  split
  · exact ⟨rfl, rfl, List.Subset.refl _⟩
  · rename_i i here
    exact ⟨rfl, by simp [inSlot, show b.engine = some i from here], List.subset_append_left ..⟩

omit [Amplitude α] in
theorem uses_stepList {place : Nat} (h : b.stepList E t place = some b') : b.Uses b' := by
  simp only [stepList, Option.bind_eq_some_iff] at h
  obtain ⟨s, -, h⟩ := h
  split at h
  · split at h
    · obtain ⟨rfl⟩ := h
      exact ⟨rfl, rfl, List.Subset.refl _⟩
    · cases h
  · obtain ⟨rfl⟩ := h
    exact ⟨rfl, rfl, List.Subset.refl _⟩
  · obtain ⟨rfl⟩ := h
    exact ⟨rfl, rfl, List.subset_append_left ..⟩

theorem uses_of_step (aside : label.IsAside) (h : b.step E t label = some b') : b.Uses b' := by
  cases label with
  | message bytes =>
    obtain ⟨rfl⟩ := h
    unfold message
    exact uses_submit ..
  | sysex bytes =>
    obtain ⟨rfl⟩ := h
    unfold sysex
    exact uses_submit ..
  | setGain left right =>
    obtain ⟨rfl⟩ := h
    exact uses_setGain ..
  | setLevels place =>
    simp only [step, setLevels, Option.map_eq_some_iff] at h
    obtain ⟨levels, -, rfl⟩ := h
    exact ⟨rfl, rfl, List.Subset.refl _⟩
  | startList =>
    obtain ⟨rfl⟩ := h
    exact ⟨rfl, rfl, List.subset_append_left ..⟩
  | list place => exact uses_stepList h
  | _ => cases aside

/-- A render thread renders with the engine in the slot and leaves it there. -/
theorem number_of_move {r r' : Renderer α} {s s' : Shared α (Instance σ)}
    (m : Renderer.Move E.numbered r s r' s') :
    s'.service.map Instance.number = s.service.map Instance.number := by
  cases m with
  | @render samples service stage rendered =>
    cases present : s.service with
    | none =>
      simp only [Renderer.quantum, present, Option.some.injEq, Prod.mk.injEq] at rendered
      simp [← rendered.2]
    | some i =>
      simp only [Renderer.quantum, present, Source.numbered, Option.map_eq_some_iff,
        Prod.mk.injEq] at rendered
      obtain ⟨_, ⟨_, -, rfl⟩, -, rfl⟩ := rendered
      rfl
  | _ => rfl

/-! ## Steps of the controller -/

section Control

variable {s : Session} {next : Option UInt32} {rate : UInt32} {engine : Bool} {r : Registration}

omit [Amplitude α] in
/-- While a bridge is closed, what is in place is all there is to say. -/
theorem Fitted.of_closed (closed : b.session = none)
    (fitting : b.fitting = b.controller.fitting none) : b.Fitted :=
  ⟨by rw [closed, fitting], by simp [closed]⟩

omit [Amplitude α] in
theorem fitting_withChannel (h : b.fitting = ⟨engine, [r]⟩) (f : Registration → Registration) :
    (b.withChannel r.number f).fitting = ⟨engine, [f r]⟩ := by
  simp only [Bridge.fitting, Fitting.mk.injEq] at h
  simp [Bridge.fitting, withChannel, h]

omit [Amplitude α] in
theorem fitting_withoutChannel (h : b.fitting = ⟨engine, [r]⟩) :
    (b.withoutChannel r.number).fitting = ⟨engine, []⟩ := by
  simp only [Bridge.fitting, Fitting.mk.injEq] at h
  simp [Bridge.fitting, withoutChannel, h]

omit [Amplitude α] in
theorem engine_closeEngine (b : Bridge α σ) : b.closeEngine.engine = none := by
  obtain ⟨calls, same⟩ := closeEngine_eq b
  rw [same]

omit [Amplitude α] in
/-- When the engine has been closed, only the channels are left. -/
theorem fitting_closeEngine {channels : List Registration} (h : b.fitting = ⟨engine, channels⟩) :
    b.closeEngine.fitting = ⟨false, channels⟩ := by
  obtain ⟨calls, same⟩ := closeEngine_eq b
  rw [same]
  exact congrArg (Fitting.mk false) (congrArg Fitting.channels h)

omit [Amplitude α] in
theorem Fitted.startClosing (h : b.Fitted) (idle : b.controller = .idle)
    (next : Option UInt32) : (b.startClosing next).Fitted := by
  have fitting := h.fitting
  rw [idle] at fitting
  unfold Bridge.startClosing
  cases session : b.session with
  | none =>
    rw [session] at fitting
    cases next <;> exact .of_closed session fitting
  | some s =>
    rw [session] at fitting
    exact .of_closed rfl fitting

/-- **Every step of closing a session** takes away what the next one does without. -/
theorem Fitted.stepClosing {stage : Closing} (closed : b.session = none)
    (h : b.fitting = stage.fitting s) (step : b.stepClosing s next stage = some b') :
    b'.Fitted := by
  cases move_of_stepClosing step with
  | disable => exact .of_closed closed (fitting_withChannel h _)
  | closeEngine =>
    exact .of_closed ((aside_closeEngine b).session.trans closed) (fitting_closeEngine h)
  | dropChannel => exact .of_closed closed (fitting_withoutChannel h)
  | _ => exact .of_closed closed h

omit [Amplitude α] in
/-- **Every step of opening a session** puts in place what the next one needs. -/
theorem Fitted.stepOpening {stage : Opening σ} (closed : b.session = none)
    (h : b.fitting = stage.fitting) (m : Opening.Move E t b rate stage b') : b'.Fitted := by
  cases m with
  | addChannel =>
    simp only [Bridge.fitting, Opening.fitting, Fitting.bare, Fitting.mk.injEq] at h
    refine .of_closed closed ?_
    simp [Bridge.fitting, opening, h, Controller.fitting, Opening.fitting, Session.fitting]
  | listen => exact .of_closed closed (fitting_withChannel h _)
  | leave => exact .of_closed closed (fitting_withoutChannel h)
  | withdrawEngine =>
    exact .of_closed ((aside_closeEngine b).session.trans closed) (fitting_closeEngine h)
  | fillEngine =>
    exact .of_closed closed (congrArg (Fitting.mk true) (congrArg Fitting.channels h))
  | enable => exact .of_closed closed (fitting_withChannel h _)
  | finish => exact ⟨h, fun _ => rfl⟩
  | _ => exact .of_closed closed h

end Control

/-! ## Every step -/

omit [Amplitude α] in
/-- Whoever leaves the controller and the session alone leaves a bridge fitted. -/
theorem Uses.fitted (uses : b.Uses b') (h : b.Fitted) (controller : b'.controller = b.controller)
    (session : b'.session = b.session) (outcome : b'.outcome = b.outcome) : b'.Fitted := by
  refine ⟨?_, ?_⟩
  · rw [uses.fitting, controller, session, h.fitting]
  · rw [session, outcome]
    exact h.opened

theorem uses_render {r r' : Renderer α} {p : Pipeline} {s' : Shared α (Instance σ)}
    (move : Renderer.Move E.numbered r ⟨p, b.engine, b.limiter⟩ r' s') :
    b.Uses { b with
      renderer := some r'
      pipeline := some s'.pipeline
      engine := s'.service
      limiter := s'.limiter
      calls := renderCalls r b.engine b.calls } := by
  refine ⟨rfl, number_of_move move, ?_⟩
  simp only [renderCalls]
  split
  · exact List.subset_append_left ..
  · exact List.Subset.refl _

/-- **Every step of a bridge leaves it fitted.** -/
theorem Fitted.step {ds : List Delivery} (h : b.Fitted) (sound : b.Sound ds)
    (m : Move E t b label b') : b'.Fitted := by
  have fitting := h.fitting
  cases m with
  | startOpen idle => exact h.startClosing idle _
  | startClose idle => exact h.startClosing idle _
  | closing here step =>
    rw [Sound, here] at sound
    rw [here] at fitting
    exact .stepClosing sound.1 fitting step
  | opening here step =>
    rw [Sound, here] at sound
    rw [here] at fitting
    exact .stepOpening sound.1 fitting (move_of_stepOpening step)
  | refuseThread here =>
    rw [Sound, here] at sound
    rw [here] at fitting
    exact .of_closed sound.1 fitting
  | render here present move => exact (uses_render move).fitted h rfl rfl rfl
  | startPull here free => exact ⟨fitting, h.opened⟩
  | pull here present move => exact ⟨fitting, h.opened⟩
  | aside aside step =>
    have beside := aside_of_step aside step
    exact (uses_of_step aside step).fitted h beside.controller beside.session beside.outcome

end Bridge

end SynthBridge
