import SynthBridge.Proofs.Bridge.Engines

/-!
# Engines through the steps of a bridge

Every step of a bridge leaves each of its engines with the calls that it should have got by then
(`Bridge.Lawful.step`), whoever acts: the engine of an opening goes from stage to stage, that in the
slot plays, and that of a listing looks at files.
-/

namespace SynthBridge

namespace Bridge

variable {α σ : Type} {E : Engine α σ} {t : FileTree} {b b' : Bridge α σ} {as : List Attempt}

/-! ## The register -/

theorem Lawful.of_roll {x : Roll α} (roll : b.roll = x)
    (h : x.Lawful b.controller.underway as) : b.Lawful as := by
  rw [Bridge.Lawful, roll]
  exact h

/-- Whoever leaves the controller alone leaves the register alone. -/
theorem Lawful.registered (h : b'.Lawful as) (same : b'.controller = b.controller) :
    b'.Lawful (register as b b') := by
  rw [register_of_same same]
  exact h

/-- An opening that goes on stays in the register as it is. -/
theorem Lawful.goesOn {rate rate' : UInt32} {stage stage' : Opening σ} (h : b'.Lawful as)
    (here : b.controller = .opening rate stage) (begun : stage ≠ .create)
    (there : b'.controller = .opening rate' stage') : b'.Lawful (register as b b') := by
  rw [register_of_opening here begun there]
  exact h

/-! ## Opening and closing -/

theorem Lawful.startClosing (h : b.Lawful as) (idle : b.controller = .idle)
    (next : Option UInt32) : (b.startClosing next).Lawful as := by
  rw [Lawful, idle] at h
  unfold Bridge.startClosing
  split
  · exact h
  · exact h
  · exact h

theorem inSlot_eq_none (empty : b.engine.isSome = false) : b.inSlot = none := by
  rw [Option.isSome_eq_false_iff, Option.isNone_iff_eq_none] at empty
  rw [inSlot, empty, Option.map_none]

theorem roll_closeEngine {i : Instance σ} (here : b.engine = some i) :
    b.closeEngine.roll = { b.roll.asked i.number [.close] with inSlot := none } := by
  simp only [Bridge.closeEngine, here]
  rfl

/-- **Every step of closing a session** but one has nothing to do with engines. -/
theorem Lawful.stepClosing [Amplitude α] {s : Session} {stage : Closing} {next : Option UInt32}
    (h : b.roll.Lawful (none : Option (Opening σ)) as)
    (step : b.stepClosing s next stage = some b') : b'.Lawful as := by
  cases move_of_stepClosing step with
  | @closeEngine phase =>
    cases here : b.engine with
    | none =>
      simp only [Bridge.closeEngine, here]
      exact h
    | some i => exact .of_roll (roll_closeEngine here) (h.retire (inSlot_of_engine here))
  | _ => exact h

section Open

variable {stage : Opening σ} {rate : UInt32}

/-- While a candidate is tried, its engine is asked for nothing that has to do with playing. -/
theorem calls_tryCandidate (b : Bridge α σ) (i : Instance σ) (c : Catalog.Candidate) :
    ∃ more, (∀ call ∈ more, call.isLoading = true) ∧
      (b.tryCandidate E t i c).2.2.roll = b.roll.asked i.number more := by
  obtain ⟨more, calls, loading⟩ := Loading.asks_tryCandidate (E := E) (t := t) (c := c)
    (l := { engine := i.state, inventory := b.inventory })
  rw [List.nil_append] at calls
  refine ⟨more, loading, ?_⟩
  rw [← calls]
  rfl

/-- An opening ends: it is the latest of the register. -/
theorem Lawful.ends {outcome : Outcome} (h : b.roll.Lawful (some stage) as)
    (here : b.controller = .opening rate stage)
    (idle : b'.controller = .idle) (roll : b'.roll = b.roll) (ended : b'.outcome = some outcome)
    (leaves : ∀ number (calls : List (Call α)),
      stage.Drives b.setup.informs b.inSlot number calls →
        outcome.Leaves b.setup.informs (b.inSlot = some number) calls)
    (slot : b.inSlot = none ∨ outcome = .opened) : b'.Lawful (register as b b') := by
  obtain ⟨first, rest, rfl, -⟩ := h.follow
  rw [register_of_end here idle, ended, Lawful, roll, idle]
  exact h.finish leaves slot

/-- **Every step of opening a session** takes its engine on to the next stage. -/
theorem Lawful.stepOpening (h : b.Lawful as) (here : b.controller = .opening rate stage)
    (fitting : b.fitting = stage.fitting) (m : Opening.Move E t b rate stage b') :
    b'.Lawful (register as b b') := by
  rw [Lawful, here] at h
  have empty : stage.fitting.engine = false → b.inSlot = none := by
    intro bare
    rw [← fitting] at bare
    exact inSlot_eq_none bare
  cases m with
  | create =>
    rw [register_of_create here rfl]
    exact h.enter rfl
  | missing =>
    exact Lawful.ends h here rfl rfl rfl (fun _ _ drive => drive.2) (.inl (empty rfl))
  | @found i c rest loaded =>
    obtain ⟨more, loading, roll⟩ := calls_tryCandidate (E := E) (t := t) b i c
    have asked : (b.roll.asked i.number more).Lawful
        (some (.describe (b.tryCandidate E t i c).2.1 c)) as :=
      h.ask fun _ _ drive => ⟨drive.1, drive.1, drive.2.loads loading⟩
    rw [← roll] at asked
    exact Lawful.goesOn asked here nofun rfl
  | @passBy i c rest failed =>
    obtain ⟨more, loading, roll⟩ := calls_tryCandidate (E := E) (t := t) b i c
    have asked : (b.roll.asked i.number more).Lawful
        (some (.resolve (b.tryCandidate E t i c).2.1 rest)) as :=
      h.ask fun _ _ drive => ⟨drive.1, drive.1, drive.2.loads loading⟩
    rw [← roll] at asked
    exact Lawful.goesOn asked here nofun rfl
  | describe informs =>
    exact Lawful.goesOn (h.ask fun _ _ drive => ⟨drive.1, drive.1, .describe informs drive.2⟩) here
      nofun rfl
  | keepQuiet silent =>
    exact Lawful.goesOn (h.goOn fun _ _ drive => ⟨drive.1, .keepQuiet silent drive.2⟩) here nofun
      rfl
  | addChannel =>
    exact Lawful.goesOn (h.goOn fun _ _ drive => drive) here nofun rfl
  | listen =>
    exact Lawful.goesOn (h.goOn fun _ _ drive => drive) here nofun rfl
  | configure =>
    exact Lawful.goesOn (h.ask fun _ _ drive => ⟨drive.1, drive.1, drive.2.configure⟩) here nofun
      rfl
  | start accepts =>
    exact Lawful.goesOn (h.ask fun _ _ drive => ⟨drive.1, drive.1, drive.2.start⟩) here nofun rfl
  | refuse refuses =>
    exact Lawful.goesOn (h.ask fun _ _ drive => ⟨drive.1, drive.1, drive.2.refuse⟩) here nofun rfl
  | close =>
    exact Lawful.goesOn (h.ask fun _ _ drive => ⟨drive.1, nofun, drive.2.dismiss⟩) here nofun rfl
  | leave => exact Lawful.ends h here rfl rfl rfl (fun _ _ drive => drive.2) (.inl (empty rfl))
  | fits checked =>
    exact Lawful.goesOn (h.goOn fun _ _ drive => drive) here nofun rfl
  | panic checked =>
    exact Lawful.goesOn (h.goOn fun _ _ drive => ⟨nofun, drive.2⟩) here nofun rfl
  | fillEngine =>
    exact Lawful.goesOn (h.fill (empty rfl)) here nofun rfl
  | withdrawEngine =>
    obtain ⟨i, present⟩ := Option.isSome_iff_exists.1 (congrArg Fitting.engine fitting)
    have closed := h.withdraw (inSlot_of_engine present)
    exact Lawful.goesOn (.of_roll (roll_closeEngine present) closed) here nofun rfl
  | withdrawPipeline =>
    exact Lawful.goesOn (h.goOn fun _ _ drive => ⟨nofun, drive⟩) here nofun rfl
  | finish =>
    exact Lawful.ends h here rfl rfl rfl (fun _ _ drive => .inl drive) (.inr rfl)
  | _ =>
    exact Lawful.goesOn (h.goOn fun _ _ drive => drive) here nofun rfl

end Open

/-! ## Playing -/

/-- While an engine is in the slot, no opening is at an earlier stage. -/
theorem Fitted.late {number : Nat} (h : b.Fitted) (here : b.inSlot = some number) :
    ∀ stage, b.controller.underway = some stage → stage.fitting.engine = true := by
  intro stage underway
  have engine : b.fitting.engine = true := by
    obtain ⟨i, present, -⟩ := Option.map_eq_some_iff.1 here
    rw [Bridge.fitting, present]
    rfl
  rw [h.fitting] at engine
  cases controller : b.controller with
  | opening rate stage' =>
    rw [controller] at engine underway
    cases stage' <;> first | cases underway; done | (obtain ⟨rfl⟩ := underway; exact engine)
  | idle =>
    rw [controller] at underway
    cases underway
  | closing s stage' next =>
    rw [controller] at underway
    cases underway

/-- **The engine in the slot is asked for something at work**, by somebody who leaves it there. -/
theorem Lawful.play {number : Nat} (h : b.Lawful as) (fitted : b.Fitted)
    (here : b.inSlot = some number) (more : List (Call α))
    (playing : ∀ c ∈ more, c.isPlaying = true) (roll : b'.roll = b.roll.asked number more)
    (controller : b'.controller = b.controller) :
    b'.Lawful as := by
  rw [Lawful, roll, controller]
  exact Roll.Lawful.play h here (fitted.late here) playing

theorem Lawful.same (h : b.Lawful as) (roll : b'.roll = b.roll)
    (controller : b'.controller = b.controller) : b'.Lawful as := by
  rw [Lawful, roll, controller]
  exact h

theorem Lawful.submit (h : b.Lawful as) (fitted : b.Fitted) (event : σ → UInt32 → σ)
    {call : UInt32 → Call α} (playing : ∀ time, (call time).isPlaying = true) (dropped : Log α) :
    (b.submit E event call dropped).Lawful as := by
  unfold Bridge.submit
  split
  · exact h.same rfl rfl
  · rename_i i here
    refine h.play fitted (inSlot_of_engine here)
      [.timestamp b.played, call (E.timestamp i.state b.played)] ?_ ?_ rfl
    · exact List.forall_mem_cons.2 ⟨rfl, List.forall_mem_singleton.2 (playing _)⟩
    · simp [roll, Roll.asked, inSlot, here, called]

variable [Amplitude α]

theorem Lawful.setGain (h : b.Lawful as) (fitted : b.Fitted) (left right : α) :
    (b.setGain E left right).Lawful as := by
  unfold Bridge.setGain
  simp only
  split
  · exact h.same rfl rfl
  · rename_i i here
    have here : b.engine = some i := here
    refine h.play fitted (inSlot_of_engine here) [.gain (Volume.split left right).gain] ?_ ?_ rfl
    · simp [Call.isPlaying]
    · simp [roll, Roll.asked, inSlot, here, called]

/-- A render thread asks the engine in the slot to render, or it asks for nothing. -/
theorem Lawful.render {r r' : Renderer α} {p : Pipeline} {s' : Shared α (Instance σ)}
    (h : b.Lawful as) (fitted : b.Fitted)
    (move : Renderer.Move E.numbered r ⟨p, b.engine, b.limiter⟩ r' s') :
    Lawful { b with
      renderer := some r'
      pipeline := some s'.pipeline
      engine := s'.service
      limiter := s'.limiter
      calls := renderCalls r b.engine b.calls } as := by
  have slot : s'.service.map Instance.number = b.inSlot := number_of_move move
  unfold renderCalls
  split
  · rename_i i stage here
    refine h.play fitted (inSlot_of_engine here) [.render] ?_ ?_ rfl
    · simp [Call.isPlaying]
    · rw [roll, inSlot, slot]
      rfl
  · refine h.same ?_ rfl
    rw [roll, inSlot, slot]
    rfl

/-! ## Listings -/

omit [Amplitude α] in
/-- A listing under way keeps its engine. -/
theorem numbers_set {surveys : List (Survey σ)} {place : Nat} {s s' : Survey σ}
    (here : surveys[place]? = some s) (engine : s'.engine = s.engine) :
    ((surveys.set place s').map fun s => s.engine.number) =
      surveys.map fun s => s.engine.number := by
  obtain ⟨bound, rfl⟩ := List.getElem?_eq_some_iff.1 here
  rw [List.map_set, engine]
  exact List.map_set.symm.trans (by rw [List.set_getElem_self])

omit [Amplitude α] in
/-- A listing goes on with an engine that it has had all along. -/
theorem Lawful.stepList {place : Nat} (h : b.Lawful as)
    (step : b.stepList E t place = some b') : b'.Lawful as := by
  simp only [Bridge.stepList, Option.bind_eq_some_iff] at step
  obtain ⟨s, here, step⟩ := step
  split at step
  · split at step
    · obtain ⟨rfl⟩ := step
      exact h.same (congrArg (Roll.mk b.setup.informs b.made b.calls b.inSlot)
        (numbers_set here rfl)) rfl
    · cases step
  · obtain ⟨rfl⟩ := step
    exact h.mono (List.map_subset _ (List.eraseIdx_subset ..))
  · obtain ⟨rfl⟩ := step
    have mem : s.engine.number ∈ b.roll.listing :=
      List.mem_map_of_mem (f := fun s : Survey σ => s.engine.number) (List.mem_of_getElem? here)
    have looked : ∀ looks, Roll.Lawful (b.roll.asked s.engine.number (Loading.looked looks))
        b.controller.underway as := fun looks =>
      Roll.Lawful.look h mem fun c => Loading.isIdentify_of_mem_looked
    refine .of_roll (congrArg (Roll.mk b.setup.informs b.made _ b.inSlot)
      (numbers_set here rfl)) (looked _)

/-! ## Every step -/

theorem Lawful.aside {label : Label α} (h : b.Lawful as) (fitted : b.Fitted)
    (aside : label.IsAside) (step : b.step E t label = some b') : b'.Lawful as := by
  cases label with
  | message bytes =>
    obtain ⟨rfl⟩ := step
    exact h.submit fitted _ (fun _ => rfl) _
  | sysex bytes =>
    obtain ⟨rfl⟩ := step
    exact h.submit fitted _ (fun _ => rfl) _
  | setGain left right =>
    obtain ⟨rfl⟩ := step
    exact h.setGain fitted left right
  | setLevels place =>
    simp only [Bridge.step, setLevels, Option.map_eq_some_iff] at step
    obtain ⟨levels, -, rfl⟩ := step
    exact h.same rfl rfl
  | startList =>
    obtain ⟨rfl⟩ := step
    rw [Lawful, roll, Bridge.startList, List.map_append]
    exact Roll.Lawful.list h
  | list place => exact h.stepList step
  | _ => cases aside

/-- **Every step of a bridge leaves every engine with the calls that it should have got.** -/
theorem Lawful.step {label : Label α} (h : b.Lawful as) (fitted : b.Fitted)
    (m : Move E t b label b') : b'.Lawful (register as b b') := by
  cases m with
  | startOpen idle =>
    rw [register_of_not_opening (by simp [idle])]
    exact h.startClosing idle _
  | startClose idle =>
    rw [register_of_not_opening (by simp [idle])]
    exact h.startClosing idle _
  | closing here step =>
    rw [register_of_not_opening (by simp [here])]
    rw [Lawful, here] at h
    exact .stepClosing h step
  | opening here step =>
    have fitting := fitted.fitting
    rw [here] at fitting
    exact h.stepOpening here fitting (move_of_stepOpening step)
  | refuseThread here =>
    have fitting := fitted.fitting
    rw [here] at fitting
    exact h.stepOpening here fitting (Opening.Move.refuseThread (E := E) (t := t))
  | render here present move =>
    exact (h.render fitted move).registered rfl
  | startPull here free =>
    exact (h.same rfl rfl).registered rfl
  | pull here present move =>
    exact (h.same rfl rfl).registered rfl
  | aside aside step =>
    exact (h.aside fitted aside step).registered (aside_of_step aside step).controller

end Bridge

end SynthBridge
