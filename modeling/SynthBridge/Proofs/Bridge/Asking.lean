import SynthBridge.Bridge.Sending
import SynthBridge.Proofs.Bridge.Lives

/-!
# Who asks what

A step of a bridge asks at most one engine for something. Only senders convert positions and submit
events, and only those who need the engine (`Bridge.needsEngine`) ask the one in the slot for
something, put it there or take it away: `Bridge.behaves_of_move`.
-/

namespace SynthBridge

namespace Bridge

variable {α σ : Type} {E : Engine α σ} {t : FileTree} {b b' : Bridge α σ} {as : List Attempt}

/-- What somebody may ask of an engine: the render thread has it render, senders send events, level
changes set the gain, and nobody else asks for anything that an engine at work does. -/
def Label.mayAsk (label : Label α) (c : Call α) : Bool :=
  match label, c with
  | .render, .render => true
  | .message _, c | .sysex _, c => c.isEvent
  | .setGain .., .gain _ => true
  | _, c => !c.isPlaying

/-- Somebody has asked an engine for something. -/
structure Asks (b b' : Bridge α σ) (label : Label α) (number : Nat) (more : List (Call α)) :
    Prop where
  calls : b'.calls = b.calls ++ more.map (number, ·)
  may : ∀ c ∈ more, label.mayAsk c = true

/-- The engine in the slot was left alone. -/
structure Spares (b b' : Bridge α σ) (number : Nat) (more : List (Call α)) : Prop where
  inSlot : b'.inSlot = b.inSlot
  other : b.inSlot = some number → more = []

/-- A step of somebody who keeps to that: at most one engine is asked for something, and the one in
the slot only by somebody who needs it. -/
def Behaves (b b' : Bridge α σ) (label : Label α) : Prop :=
  ∃ number more, b.Asks b' label number more ∧
    (b.needsEngine label = false → b.Spares b' number more)

theorem asks_nothing {label : Label α} (same : b'.calls = b.calls) : b.Asks b' label 0 [] :=
  ⟨by rw [same, List.map_nil, List.append_nil], List.forall_mem_nil _⟩

/-- One thing was asked. -/
theorem asks_one {label : Label α} {number : Nat} {c : Call α}
    (calls : b'.calls = b.calls ++ [(number, c)]) (may : label.mayAsk c = true) :
    b.Asks b' label number [c] :=
  ⟨calls, List.forall_mem_singleton.2 may⟩

theorem spares_nothing {number : Nat} (same : b'.inSlot = b.inSlot) : b.Spares b' number [] :=
  ⟨same, fun _ => rfl⟩

/-- A controller that sets out to open or to close has done nothing to engines yet. -/
theorem engines_startClosing (b : Bridge α σ) (next : Option UInt32) :
    (b.startClosing next).calls = b.calls ∧ (b.startClosing next).inSlot = b.inSlot := by
  unfold startClosing
  split
  · exact ⟨rfl, rfl⟩
  · exact ⟨rfl, rfl⟩
  · exact ⟨rfl, rfl⟩

/-- While there is no engine in the slot, none is disturbed. -/
theorem spares_of_empty {number : Nat} {more : List (Call α)} (empty : b.inSlot = none)
    (same : b'.inSlot = b.inSlot) : b.Spares b' number more :=
  ⟨same, fun here => by cases empty.symm.trans here⟩

/-- An engine of no opening is none that was ever in the slot. -/
theorem Lawful.spares {number : Nat} {more : List (Call α)} (h : b.Lawful as)
    (unknown : number ∉ as.map Attempt.engine) (same : b'.inSlot = b.inSlot) :
    b.Spares b' number more := by
  refine ⟨same, fun here => ?_⟩
  obtain ⟨a, mem, rfl, -⟩ := h.slot number here
  exact absurd (List.mem_map_of_mem mem) unknown

/-- Nobody but a sender asks for anything that has to do with events. -/
theorem isEvent_of_mayAsk {label : Label α} {c : Call α} (quiet : label.isEvent = false)
    (may : label.mayAsk c = true) : c.isEvent = false := by
  cases label <;> cases c <;> first | rfl | (cases quiet; done) | cases may

/-- Whether a label changes the gain. -/
def Label.isGain : Label α → Bool
  | .setGain .. => true
  | _ => false

/-- Nobody but a level change asks for a gain. -/
theorem isGain_of_mayAsk {label : Label α} {c : Call α} (other : label.isGain = false)
    (may : label.mayAsk c = true) : c.isGain = false := by
  cases c with
  | gain value => cases label <;> first | cases other; done | cases may
  | _ => rfl

/-- Whether somebody asks for what engines at work do. -/
def Label.plays : Label α → Bool
  | .render | .message _ | .sysex _ | .setGain .. => true
  | _ => false

theorem mayAsk_of_not_plays {label : Label α} (h : label.plays = false) (c : Call α) :
    label.mayAsk c = !c.isPlaying := by
  cases label <;> first | rfl | cases h

theorem mayAsk_of_not_isPlaying {label : Label α} {c : Call α} (h : label.plays = false)
    (quiet : c.isPlaying = false) : label.mayAsk c = true := by
  rw [mayAsk_of_not_plays h, quiet]
  rfl

/-- A controller that has hold of the engine may close it. -/
theorem behaves_of_closeEngine (busy : b.needsEngine (.control : Label α) = true)
    (calls : b'.calls = b.closeEngine.calls) : b.Behaves b' .control := by
  cases present : b.engine with
  | none =>
    refine ⟨0, [], asks_nothing ?_, fun free => by cases busy.symm.trans free⟩
    simp only [calls, Bridge.closeEngine, present]
  | some i =>
    refine ⟨i.number, [.close], asks_one ?_ rfl, fun free => by cases busy.symm.trans free⟩
    simp only [calls, Bridge.closeEngine, present]
    rfl

section Open

variable {stage : Opening σ} {rate : UInt32}

/-- While a session is opened, its own engine is asked, which is not in the slot yet, or which is
closed because there is no render thread. -/
theorem behaves_of_stepOpening (fitting : b.fitting = stage.fitting)
    (here : b.controller = .opening rate stage) (step : b.stepOpening E t rate stage = some b') :
    b.Behaves b' .control := by
  have empty : stage.fitting.engine = false → b.inSlot = none := by
    intro bare
    rw [← fitting] at bare
    exact inSlot_eq_none bare
  cases move_of_stepOpening step with
  | create =>
    exact ⟨b.made, [.create], asks_one rfl rfl, fun _ => spares_of_empty (empty rfl) rfl⟩
  | @found i c rest loaded =>
    obtain ⟨more, loading, roll⟩ := calls_tryCandidate (E := E) (t := t) b i c
    refine ⟨i.number, more, ⟨congrArg Roll.calls roll, fun c mem => ?_⟩, fun _ =>
      spares_of_empty (empty rfl) rfl⟩
    exact mayAsk_of_not_isPlaying rfl (Call.isPlaying_of_isLoading (loading c mem))
  | @passBy i c rest failed =>
    obtain ⟨more, loading, roll⟩ := calls_tryCandidate (E := E) (t := t) b i c
    refine ⟨i.number, more, ⟨congrArg Roll.calls roll, fun c mem => ?_⟩, fun _ =>
      spares_of_empty (empty rfl) rfl⟩
    exact mayAsk_of_not_isPlaying rfl (Call.isPlaying_of_isLoading (loading c mem))
  | @describe i c log informs =>
    exact ⟨i.number, [.describe], asks_one rfl rfl, fun _ => spares_of_empty (empty rfl) rfl⟩
  | @configure i s =>
    exact ⟨i.number, [.configure rate b.setup.config.engine], asks_one rfl rfl, fun _ =>
      spares_of_empty (empty rfl) rfl⟩
  | @start i s accepts =>
    exact ⟨i.number, [.start none], asks_one rfl rfl, fun _ => spares_of_empty (empty rfl) rfl⟩
  | @refuse i s code log refuses =>
    exact ⟨i.number, [.start (some code)], asks_one rfl rfl, fun _ =>
      spares_of_empty (empty rfl) rfl⟩
  | @close i s code =>
    exact ⟨i.number, [.close], asks_one rfl rfl, fun _ => spares_of_empty (empty rfl) rfl⟩
  | fillEngine =>
    refine ⟨0, [], asks_nothing rfl, fun free => ?_⟩
    rw [needsEngine, here] at free
    cases free
  | withdrawEngine =>
    refine behaves_of_closeEngine ?_ rfl
    rw [needsEngine, here]
  | _ => exact ⟨0, [], asks_nothing rfl, fun _ => spares_nothing rfl⟩

end Open

variable [Amplitude α]

theorem behaves_of_stepClosing {s : Session} {stage : Closing} {next : Option UInt32}
    (here : b.controller = .closing s stage next)
    (step : b.stepClosing s next stage = some b') :
    b.Behaves b' .control := by
  cases move_of_stepClosing step with
  | closeEngine =>
    refine behaves_of_closeEngine ?_ rfl
    rw [needsEngine, here]
  | _ => exact ⟨0, [], asks_nothing rfl, fun _ => spares_nothing rfl⟩

theorem behaves_of_render {r r' : Renderer α} {p : Pipeline} {s' : Shared α (Instance σ)}
    (here : b.renderer = some r) (move : Renderer.Move E.numbered r ⟨p, b.engine, b.limiter⟩ r' s')
    (calls : b'.calls = renderCalls r b.engine b.calls) (engine : b'.engine = s'.service) :
    b.Behaves b' .render := by
  unfold renderCalls at calls
  split at calls
  · rename_i i stage present
    refine ⟨i.number, [.render], asks_one calls rfl, fun free => ?_⟩
    simp only [needsEngine, here, Option.map_some, stage] at free
    cases free
  · have same : b'.inSlot = b.inSlot := by
      rw [inSlot, engine]
      exact number_of_move move
    exact ⟨0, [], asks_nothing calls, fun _ => spares_nothing same⟩

omit [Amplitude α] in
theorem behaves_of_submit (E : Engine α σ) (label : Label α) (event : σ → UInt32 → σ)
    {call : UInt32 → Call α} (dropped : Log α) (busy : b.needsEngine label = true)
    (may : ∀ time, label.mayAsk (call time) = true)
    (stamps : ∀ n, label.mayAsk (.timestamp n) = true) :
    b.Behaves (b.submit E event call dropped) label := by
  have never : ¬b.needsEngine label = false := by simp [busy]
  unfold Bridge.submit
  split
  · exact ⟨0, [], asks_nothing rfl, fun free => absurd free never⟩
  · rename_i i here
    refine ⟨i.number, [.timestamp b.played, call (E.timestamp i.state b.played)], ⟨rfl, ?_⟩,
      fun free => absurd free never⟩
    exact List.forall_mem_cons.2 ⟨stamps _, List.forall_mem_singleton.2 (may _)⟩

/-- A level change asks the engine in the slot, and needs it; a listing has its own. -/
theorem behaves_of_aside {label : Label α} (h : b.Lawful as) (aside : label.IsAside)
    (step : b.step E t label = some b') : b.Behaves b' label := by
  cases label with
  | message bytes =>
    obtain ⟨rfl⟩ := step
    unfold Bridge.message
    exact behaves_of_submit E (.message bytes) _ _ rfl (fun _ => rfl) fun _ => rfl
  | sysex bytes =>
    obtain ⟨rfl⟩ := step
    unfold Bridge.sysex
    exact behaves_of_submit E (.sysex bytes) _ _ rfl (fun _ => rfl) fun _ => rfl
  | setGain left right =>
    obtain ⟨rfl⟩ := step
    cases present : b.engine with
    | none =>
      refine ⟨0, [], asks_nothing ?_, by rintro ⟨⟩⟩
      simp only [Bridge.setGain, present]
    | some i =>
      refine ⟨i.number, [.gain (Volume.split left right).gain], asks_one ?_ rfl,
        by rintro ⟨⟩⟩
      simp only [Bridge.setGain, present]
      rfl
  | setLevels place =>
    simp only [Bridge.step, setLevels, Option.map_eq_some_iff] at step
    obtain ⟨levels, -, rfl⟩ := step
    exact ⟨0, [], asks_nothing rfl, fun _ => spares_nothing rfl⟩
  | startList =>
    obtain ⟨rfl⟩ := step
    exact ⟨b.made, [.create], asks_one rfl rfl, fun _ => h.spares h.unknown_made rfl⟩
  | list place =>
    simp only [Bridge.step, stepList, Option.bind_eq_some_iff] at step
    obtain ⟨s, here, step⟩ := step
    have mem : s.engine.number ∈ b.roll.listing :=
      List.mem_map_of_mem (f := fun s : Survey σ => s.engine.number) (List.mem_of_getElem? here)
    split at step
    · split at step
      · obtain ⟨rfl⟩ := step
        exact ⟨0, [], asks_nothing rfl, fun _ => spares_nothing rfl⟩
      · cases step
    · obtain ⟨rfl⟩ := step
      exact ⟨0, [], asks_nothing rfl, fun _ => spares_nothing rfl⟩
    · obtain ⟨rfl⟩ := step
      refine ⟨s.engine.number, _, ⟨rfl, fun c looks => ?_⟩, fun _ =>
        h.spares (h.listing _ mem).2 rfl⟩
      exact mayAsk_of_not_isPlaying rfl (Call.isPlaying_of_isLoading
        (Call.isLoading_of_isIdentify (Loading.isIdentify_of_mem_looked looks)))
  | _ => cases aside

/-- **Everybody asks only for what they may**, and only who needs the engine in the slot disturbs
it. -/
theorem behaves_of_move {label : Label α} (h : b.Lawful as) (fitted : b.Fitted)
    (m : Bridge.Move E t b label b') : b.Behaves b' label := by
  have nothing : b'.calls = b.calls → b'.inSlot = b.inSlot → b.Behaves b' label :=
    fun calls slot => ⟨0, [], asks_nothing calls, fun _ => spares_nothing slot⟩
  cases m with
  | startOpen idle => exact nothing (engines_startClosing b _).1 (engines_startClosing b _).2
  | startClose idle => exact nothing (engines_startClosing b _).1 (engines_startClosing b _).2
  | closing here step => exact behaves_of_stepClosing here step
  | opening here step =>
    have fitting := fitted.fitting
    rw [here] at fitting
    exact behaves_of_stepOpening fitting here step
  | refuseThread here => exact nothing rfl rfl
  | render here present move => exact behaves_of_render here move rfl rfl
  | startPull here free => exact nothing rfl rfl
  | pull here present move => exact nothing rfl rfl
  | aside aside step => exact behaves_of_aside h aside step

/-- **An engine that has just been put into the slot** has been opened, and nothing else was asked
of it since. -/
theorem Lawful.started_of_filled {label : Label α} {number : Nat} (h : b.Lawful as)
    (m : Bridge.Move E t b label b') (new : b'.inSlot = some number)
    (old : b.inSlot ≠ some number) :
    Engine.Life b.setup.informs .started (callsTo number b.calls) ∧
      ∃ rate stage, b.controller = .opening rate stage := by
  have unchanged : b'.inSlot = b.inSlot →
      Engine.Life b.setup.informs .started (callsTo number b.calls) ∧
        ∃ rate stage, b.controller = .opening rate stage := by
    intro same
    rw [same] at new
    exact absurd new old
  have taken : b.closeEngine.inSlot = none := by
    rw [inSlot, engine_closeEngine, Option.map_none]
  cases m with
  | startOpen idle => exact unchanged (engines_startClosing b _).2
  | startClose idle => exact unchanged (engines_startClosing b _).2
  | closing here step =>
    cases move_of_stepClosing step with
    | closeEngine => cases taken.symm.trans new
    | _ => exact unchanged rfl
  | opening here step =>
    rw [Lawful, here] at h
    cases move_of_stepOpening step with
    | fillEngine =>
      obtain ⟨first, rest, rfl, -, ⟨same, started⟩, -⟩ := h.follow
      obtain rfl := Option.some.inj new
      rw [same]
      exact ⟨started, _, _, here⟩
    | withdrawEngine => cases taken.symm.trans new
    | _ => exact unchanged rfl
  | refuseThread here => exact unchanged rfl
  | render here present move => exact unchanged (number_of_move move)
  | startPull here free => exact unchanged rfl
  | pull here present move => exact unchanged rfl
  | aside aside step => exact unchanged (uses_of_step aside step).inSlot

end Bridge

end SynthBridge
