import SynthBridge.Proofs.Bridge.Wholeness

/-!
# The position of playback

What the mixer has heard of a session is noted by `Bridge.hear`, anew from the moment at which the
session's engine is put into the slot. As long as the engine is there, the position of playback is
the number of frames in it (`Bridge.Heard.position`), whatever the other threads do in between, and
though the pipeline, from which the position is read, is put into its own slot later and taken
out of it later.
-/

namespace SynthBridge

namespace Bridge

variable {α σ : Type} {b b' : Bridge α σ} {ds : List Delivery}

/-! ## What is heard -/

/-- The deliveries of the session whose engine is in the slot. -/
def hear (ds : List Delivery) (b b' : Bridge α σ) : List Delivery :=
  match b.engine, b'.engine with
  | none, some _ => []
  | _, _ => ds ++ Delivery.ofStep b.player b'.player

/-- Except where an engine or a player is put into its slot, there is nothing new to it. -/
theorem hear_eq_record (engine : b.engine = none → b'.engine = none)
    (player : b.player = none → b'.player = none) :
    hear ds b b' = record ds b.player b'.player := by
  have heard : hear ds b b' = ds ++ Delivery.ofStep b.player b'.player := by
    unfold hear
    split
    · rename_i empty filled
      rw [engine empty] at filled
      cases filled
    · rfl
  rw [heard]
  unfold record
  split
  · rename_i empty filled
    rw [player empty] at filled
    cases filled
  · rfl

theorem hear_eq_self (engine : b.engine = none → b'.engine = none)
    (slot : b'.player = b.player ∨ b'.player = none) : hear ds b b' = ds := by
  have player : b.player = none → b'.player = none := by
    intro empty
    rcases slot with same | taken
    · rw [same, empty]
    · exact taken
  rw [hear_eq_record engine player, record_eq_self ds slot]

theorem hear_of_filled {i : Instance σ} (empty : b.engine = none) (filled : b'.engine = some i) :
    hear ds b b' = [] := by
  simp only [hear, empty, filled]

/-- As long as the engine is in its slot, more and more is heard. -/
theorem framesOf_hear_le {i : Instance σ} (here : b.engine = some i) :
    framesOf ds ≤ framesOf (hear ds b b') := by
  have more : hear ds b b' = ds ++ Delivery.ofStep b.player b'.player := by
    simp only [hear, here]
  rw [more, framesOf, framesOf, List.map_append, List.sum_append]
  omega

/-! ## The position -/

/-- The engine is in its slot and the player is not yet. -/
def Opening.unheard : Opening σ → Bool
  | .fillPipeline .. | .spawn _ | .withdrawEngine .. | .makePlayer _ | .prime .. | .fillPlayer .. =>
    true
  | _ => false

/-- The position of playback is the number of frames heard. -/
structure Heard (b : Bridge α σ) (ds : List Delivery) : Prop where
  sound : b.Sound ds
  fitted : b.Fitted
  unheard : ∀ rate stage, b.controller = .opening rate stage → stage.unheard = true → ds = []
  position : b.engine.isSome → b.played = UInt64.ofNat (framesOf ds)

theorem heard_new [Amplitude α] (setup : Setup) (catalog : Catalog) :
    (Bridge.new setup catalog : Bridge α σ).Heard [] :=
  ⟨sound_new .., fitted_new .., fun _ _ _ _ => rfl, fun _ => rfl⟩

/-- No session is as far as its player before its engine is in the slot. -/
theorem played_of_empty (empty : b.pipeline = none) : b.played = UInt64.ofNat (framesOf []) := by
  simp only [Bridge.played, empty, Option.map_none, Option.getD_none]
  rfl

theorem Slots.Running.published {t : Option Teardown} {pl : Player} (h : b.slots.Running t ds)
    (here : b.player = some pl) (free : pl.isFree = true) :
    b.played = UInt64.ofNat (framesOf ds) := by
  obtain ⟨p, staffed, tallied, -⟩ := h
  have present : b.pipeline = some p := staffed.present
  rw [Bridge.played, present, Option.map_some, Option.getD_some]
  refine tallied.published fun pl' there => ?_
  obtain rfl : pl = pl' := Option.some.inj (here.symm.trans there)
  exact free

/-- **When no pull is under way, the position is that of the deliveries.** -/
theorem Sound.published {pl : Player} (h : b.Sound ds) (here : b.player = some pl)
    (free : pl.isFree = true) : b.played = UInt64.ofNat (framesOf ds) := by
  have held : b.slots.player ≠ none := by
    rw [show b.slots.player = some pl from here]
    exact Option.some_ne_none pl
  rw [Sound] at h
  split at h
  · rcases h with ⟨-, vacant⟩ | ⟨-, running⟩
    · exact absurd vacant.player held
    · exact running.published here free
  · obtain ⟨-, holds⟩ := h
    obtain ⟨s, rfl | rfl⟩ := holds.late held
    · exact Slots.Running.published holds here free
    · exact Slots.Running.published holds here free
  · obtain ⟨-, holds⟩ := h
    rcases holds.early (.inr held) with rfl | ⟨t, rfl⟩
    · exact Slots.Running.published holds here free
    · exact holds.1.published here free

/-- A pull that is not over has not published anything. -/
theorem played_of_busy {pl pl' : Player} {p p' : Pipeline} (m : Player.Move pl p pl' p')
    (busy : ¬pl'.isFree = true) : p'.played = p.played := by
  cases m with
  | primed task empty ready => exact absurd rfl busy
  | unprimed task empty ready woken => exact absurd rfl busy
  | finish task complete => exact absurd rfl busy
  | _ => rfl

/-! ## Steps -/

/-- Whoever leaves the session alone and the engine in its slot changes no position. -/
theorem Heard.beside (h : b.Heard ds) (aside : b.Aside b') (uses : b.Uses b') :
    b'.Heard (hear ds b b') := by
  have engine : b'.engine.isSome = b.engine.isSome := congrArg Fitting.engine uses.fitting
  have empty : b.engine = none → b'.engine = none := by
    intro empty
    rwa [empty, Option.isSome_none, Option.isSome_eq_false_iff, Option.isNone_iff_eq_none] at engine
  rw [hear_eq_self empty (.inl aside.player)]
  refine ⟨aside.sound h.sound,
    uses.fitted h.fitted aside.controller aside.session aside.outcome, ?_, ?_⟩
  · rw [aside.controller]
    exact h.unheard
  · rw [engine, played, aside.pipeline]
    exact h.position

/-- A step that leaves the deliveries, the position and the engine as they are. -/
theorem Heard.of_same (h : b.Heard ds) (sound : b'.Sound (record ds b.player b'.player))
    (fitted : b'.Fitted) (slot : b'.player = b.player ∨ b'.player = none)
    (engine : b.engine = none → b'.engine = none)
    (unheard : ∀ rate stage, b'.controller = .opening rate stage → stage.unheard = true → ds = [])
    (position : b'.engine.isSome → b.engine.isSome → b'.played = b.played) :
    b'.Heard (hear ds b b') := by
  rw [record_eq_self ds slot] at sound
  rw [hear_eq_self engine slot]
  refine ⟨sound, fitted, unheard, fun filled => ?_⟩
  have before : b.engine.isSome := by
    rw [Option.isSome_iff_ne_none] at filled ⊢
    exact fun empty => filled (engine empty)
  rw [position filled before]
  exact h.position before

variable [Amplitude α] {E : Engine α σ} {t : FileTree}

omit [Amplitude α] in
theorem Heard.startClosing (h : b.Heard ds) (idle : b.controller = .idle) (next : Option UInt32) :
    (b.startClosing next).Heard (hear ds b (b.startClosing next)) := by
  have player := startClosing_player b next
  have sound := h.sound.startClosing idle next
  rw [← record_eq_self ds (.inl player)] at sound
  have fitted := h.fitted.startClosing idle next
  have early : ∀ rate stage, (b.startClosing next).controller = .opening rate stage →
      stage.unheard = true → ds = [] := by
    intro rate stage there unheard
    unfold Bridge.startClosing at there
    split at there
    · cases there
    · cases there
      cases unheard
    · cases there
  have same : (b.startClosing next).engine = b.engine ∧
      (b.startClosing next).played = b.played := by
    unfold Bridge.startClosing
    split
    · exact ⟨rfl, rfl⟩
    · exact ⟨rfl, rfl⟩
    · exact ⟨rfl, rfl⟩
  exact h.of_same sound fitted (.inl player) (fun empty => same.1.trans empty) early
    fun _ _ => same.2

omit [Amplitude α] in
/-- Only while a session is opened can its player be missing. -/
theorem unheard_of_not_opening (other : ∀ rate stage, b.controller ≠ .opening rate stage) :
    ∀ rate stage, b.controller = .opening rate stage → stage.unheard = true → ds = [] :=
  fun rate stage here => absurd here (other rate stage)

omit [Amplitude α] in
theorem unheard_of_stage {rate : UInt32} {stage : Opening σ}
    (here : b.controller = .opening rate stage) (heard : stage.unheard = false ∨ ds = []) :
    ∀ rate stage, b.controller = .opening rate stage → stage.unheard = true → ds = [] := by
  intro rate' stage' there unheard
  rw [here, Controller.opening.injEq] at there
  obtain ⟨-, rfl⟩ := there
  refine heard.resolve_left fun audible => ?_
  rw [audible] at unheard
  cases unheard

/-- **While a session is closed**, the position stays what it was as long as the engine is there. -/
theorem Heard.stepClosing {s : Session} {stage : Closing} {next : Option UInt32}
    (h : b.Heard ds) (here : b.controller = .closing s stage next)
    (sound : b'.Sound (record ds b.player b'.player)) (fitted : b'.Fitted)
    (step : b.stepClosing s next stage = some b') : b'.Heard (hear ds b b') := by
  have fitting := h.fitted.fitting
  rw [here] at fitting
  have engine : b.engine.isSome = (stage.fitting s).engine := congrArg Fitting.engine fitting
  cases move_of_stepClosing step with
  | @tear phase phase' p p' player' unfinished present move =>
    have played : p'.played = p.played := by
      cases move <;> rfl
    refine h.of_same sound fitted move.slot_eq (fun empty => empty)
      (unheard_of_not_opening fun _ _ there => by cases there) fun _ _ => ?_
    simp only [Bridge.played, present, Option.map_some, played]
  | closeEngine =>
    obtain ⟨calls, same⟩ := closeEngine_eq b
    rw [same] at sound fitted ⊢
    exact h.of_same sound fitted (.inl rfl) (fun _ => rfl)
      (unheard_of_not_opening fun _ _ there => by cases there) fun filled => by cases filled
  | clearPipeline present =>
    refine h.of_same sound fitted (.inl rfl) (fun empty => empty)
      (unheard_of_not_opening fun _ _ there => by cases there) fun _ filled => ?_
    rw [engine] at filled
    cases filled
  | reopen more =>
    exact h.of_same sound fitted (.inl rfl) (fun empty => empty)
      (unheard_of_stage rfl (.inl rfl)) fun _ _ => rfl
  | _ =>
    exact h.of_same sound fitted (.inl rfl) (fun empty => empty)
      (unheard_of_not_opening fun _ _ there => by cases there) fun _ _ => rfl

/-- While a player is primed, nothing but the start is published. -/
theorem played_of_priming {pl pl' : Player} {p p' : Pipeline} (m : Player.Move pl p pl' p')
    (priming : pl.task = .priming) (start : p.played = 0) : p'.played = 0 := by
  cases m with
  | giveBack spent held room => exact start
  | primed task empty ready => rfl
  | unprimed task empty ready woken => rfl
  | copy task held left count => cases priming.symm.trans task
  | next task empty ready => cases priming.symm.trans task
  | finish task complete => cases priming.symm.trans task

omit [Amplitude α] in
/-- The player is put into its slot, and the mixer has heard nothing yet. -/
theorem Heard.fillPlayer {pl : Player} (h : b.Heard ds) (nothing : ds = [])
    (engine : b'.engine = b.engine) (pipeline : b'.pipeline = b.pipeline)
    (slot : b.player = none) (filled : b'.player = some pl)
    (sound : b'.Sound (record ds b.player b'.player)) (fitted : b'.Fitted) :
    b'.Heard (hear ds b b') := by
  have heard : hear ds b b' = [] := by
    unfold hear
    split
    · rfl
    · simp only [nothing, slot, Delivery.ofStep, List.append_nil]
  have position := h.position
  rw [nothing] at position
  rw [slot, filled, record] at sound
  rw [heard]
  refine ⟨sound, fitted, fun _ _ _ _ => rfl, fun present => ?_⟩
  rw [engine] at present
  rw [Bridge.played, pipeline]
  exact position present

omit [Amplitude α] in
/-- **While a session is opened**, the position is the start from the moment at which its engine is
in the slot. -/
theorem Heard.stepOpening {stage : Opening σ} {rate : UInt32} (h : b.Heard ds)
    (here : b.controller = .opening rate stage) (sound : b'.Sound (record ds b.player b'.player))
    (fitted : b'.Fitted) (m : Opening.Move E t b rate stage b') : b'.Heard (hear ds b b') := by
  have fitting : b.fitting = stage.fitting := by
    rw [h.fitted.fitting, here]
    rfl
  have holds := h.sound
  rw [Sound, here] at holds
  have empty : stage.fitting.engine = false → b.engine = none := by
    intro bare
    rw [← fitting] at bare
    exact Option.isNone_iff_eq_none.1 (Option.isSome_eq_false_iff.1 bare)
  have unheard := h.unheard rate stage here
  obtain ⟨closed, holds⟩ := holds
  cases m with
  | fillEngine =>
    obtain ⟨vacant, capacity⟩ := holds
    rw [hear_of_filled (empty rfl) rfl]
    exact ⟨⟨closed, vacant, capacity⟩, fitted, fun _ _ _ _ => rfl,
      fun _ => played_of_empty vacant.pipeline⟩
  | fillPipeline =>
    obtain ⟨vacant, capacity⟩ := holds
    refine h.of_same sound fitted (.inl rfl) (fun empty => empty)
      (unheard_of_stage rfl (.inr (unheard rfl))) fun _ _ => ?_
    rw [played_of_empty vacant.pipeline]
    rfl
  | makePlayer present =>
    refine h.of_same sound fitted (.inl rfl) (fun empty => empty)
      (unheard_of_stage rfl (.inr (unheard rfl))) fun _ _ => ?_
    simp only [Bridge.played, present, Option.map_some]
    rfl
  | @prime s pl pl' p p' busy present move =>
    obtain ⟨slot, p₀, staffed, primed⟩ := holds
    have priming : pl.task = .priming := primed.resolve_right fun free => busy free.1
    refine h.of_same sound fitted (.inl rfl) (fun empty => empty)
      (unheard_of_stage rfl (.inr (unheard rfl))) fun _ filled => ?_
    have start : b.played = 0 := by
      rw [h.position filled, unheard rfl]
      rfl
    have before : p.played = 0 := by
      rw [Bridge.played, present] at start
      exact start
    rw [start]
    exact played_of_priming move priming before
  | fillPlayer =>
    exact h.fillPlayer (unheard rfl) rfl rfl holds.1 rfl sound fitted
  | spawn present =>
    exact h.of_same sound fitted (.inl rfl) (fun empty => empty)
      (unheard_of_stage rfl (.inr (unheard rfl))) fun _ _ => rfl
  | refuseThread =>
    exact h.of_same sound fitted (.inl rfl) (fun empty => empty)
      (unheard_of_stage rfl (.inr (unheard rfl))) fun _ _ => rfl
  | withdrawEngine =>
    obtain ⟨calls, same⟩ := closeEngine_eq b
    rw [same] at sound fitted ⊢
    exact h.of_same sound fitted (.inl rfl) (fun _ => rfl)
      (unheard_of_stage rfl (.inl rfl)) fun filled => by cases filled
  | withdrawPipeline =>
    refine h.of_same sound fitted (.inl rfl) (fun empty => empty)
      (unheard_of_stage rfl (.inl rfl)) fun _ filled => ?_
    rw [empty rfl] at filled
    cases filled
  | primed free =>
    exact h.of_same sound fitted (.inl rfl) (fun empty => empty)
      (unheard_of_stage rfl (.inr (unheard rfl))) fun _ _ => rfl
  | missing =>
    exact h.of_same sound fitted (.inl rfl) (fun empty => empty)
      (unheard_of_not_opening fun _ _ there => by cases there) fun _ _ => rfl
  | leave =>
    exact h.of_same sound fitted (.inl rfl) (fun empty => empty)
      (unheard_of_not_opening fun _ _ there => by cases there) fun _ _ => rfl
  | finish =>
    exact h.of_same sound fitted (.inl rfl) (fun empty => empty)
      (unheard_of_not_opening fun _ _ there => by cases there) fun _ _ => rfl
  | _ =>
    exact h.of_same sound fitted (.inl rfl) (fun empty => empty) (unheard_of_stage rfl (.inl rfl))
      fun _ _ => rfl

omit [Amplitude α] in
/-- A step of the mixer. -/
theorem Heard.play {pl pl' : Player} (h : b.Heard ds) (here : b.player = some pl)
    (there : b'.player = some pl') (engine : b'.engine = b.engine)
    (controller : b'.controller = b.controller)
    (sound : b'.Sound (record ds b.player b'.player)) (fitted : b'.Fitted)
    (busy : ¬pl'.isFree = true → b'.played = b.played) : b'.Heard (hear ds b b') := by
  have empty : b.engine = none → b'.engine = none := fun empty => engine.trans empty
  rw [hear_eq_record empty fun slot => by cases slot.symm.trans here]
  have heard : record ds b.player b'.player = ds ++ pl.delivery pl' := by
    rw [here, there]
    rfl
  rw [heard] at sound ⊢
  refine ⟨sound, fitted, ?_, fun filled => ?_⟩
  · intro rate stage opening unheard
    have holds := h.sound
    rw [Sound, ← controller, opening] at holds
    obtain ⟨s, rfl | rfl⟩ := holds.2.late (by
      rw [show b.slots.player = some pl from here]
      exact Option.some_ne_none pl)
    · cases unheard
    · cases unheard
  · by_cases free : pl'.isFree = true
    · exact sound.published there free
    · have quiet : pl.delivery pl' = [] := by
        refine Player.delivery_eq_nil fun region done => free ?_
        rw [Player.isFree, done]
      rw [engine] at filled
      rw [quiet, List.append_nil, busy free]
      exact h.position filled

/-- **Every step keeps the position that of what was heard.** -/
theorem Heard.step {label : Label α} (h : b.Heard ds) (m : Bridge.Move E t b label b') :
    b'.Heard (hear ds b b') := by
  have sound := h.sound.step m
  have fitted := h.fitted.step h.sound m
  cases m with
  | startOpen idle => exact h.startClosing idle _
  | startClose idle => exact h.startClosing idle _
  | closing here step => exact h.stepClosing here sound fitted step
  | opening here step => exact h.stepOpening here sound fitted (move_of_stepOpening step)
  | refuseThread here =>
    exact h.stepOpening here sound fitted (Opening.Move.refuseThread (E := E) (t := t))
  | @render r r' p s' here present move =>
    have played : s'.pipeline.played = p.played := by
      cases move <;> rfl
    have same := number_of_move move
    refine h.of_same sound fitted (.inl rfl) ?_ h.unheard fun _ _ => ?_
    · intro empty
      rw [empty, Option.map_none, Option.map_eq_none_iff] at same
      exact same
    · simp only [Bridge.played, present, Option.map_some, played]
  | startPull here free => exact h.play here rfl rfl rfl sound fitted fun _ => rfl
  | pull here present move =>
    refine h.play here rfl rfl rfl sound fitted fun busy => ?_
    simp only [Bridge.played, present, Option.map_some, played_of_busy move busy]
  | aside aside step => exact h.beside (aside_of_step aside step) (uses_of_step aside step)

end Bridge

end SynthBridge
