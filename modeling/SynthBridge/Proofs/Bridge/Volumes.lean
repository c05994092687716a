import SynthBridge.Proofs.Bridge.Asking
import SynthBridge.Proofs.Bridge.Lifetimes
import SynthBridge.Proofs.Histories

/-!
# The two halves of a volume

A level change splits the volume that is asked for into a gain for the engine and levels for the
limiter (`Volume.split`). The limiter is the bridge's own and keeps its levels; an engine lives for
one session, and at the start of one nobody tells it of an earlier volume. For somebody who does one
thing after the other, `Bridge.volume_in_force` says which volumes the two halves come from: the
levels from the last one of all, the gain from the last one since the session began to be opened.
They belong together where a level was changed in the session, and need not elsewhere
(`Bridge.volume_torn`).
-/

namespace SynthBridge

open Amplitude

namespace Bridge

variable {α σ : Type}

/-! ## One thing after the other -/

/-- No operation is under way. -/
def atRest (b : Bridge α σ) : Bool :=
  b.isIdle && b.halfDone.isEmpty && b.player.all Player.isFree && b.surveys.isEmpty

/-- Whether an operation begins. -/
def Label.begins : Label α → Bool
  | .startOpen _ | .startClose | .startPull _ | .message _ | .sysex _ | .setGain .. | .startList =>
    true
  | _ => false

variable [Amplitude α]

/-- One step of somebody who does one thing after the other, or of the render thread. -/
def alone? (b : Bridge α σ) (turn : Turn α σ) : Option (Bridge α σ) :=
  if turn.label.begins && !b.atRest then none else b.step turn.engine turn.files turn.label

/-- The volumes that were asked for, in all and since a session last began to be opened. -/
structure Asked (α : Type) where
  all : List (Volume α) := []
  session : List (Volume α) := []

def noteVolumes (_ : Bridge α σ) (turn : Turn α σ) (_ : Bridge α σ) (w : Asked α) : Asked α :=
  match turn.label with
  | .setGain left right =>
    ⟨w.all ++ [.split left right], w.session ++ [.split left right]⟩
  | .startOpen _ => { w with session := [] }
  | _ => w

/-! ## What is in force -/

/-- The gain that an engine has been given last. -/
def gainOf (calls : List (Call α)) : α :=
  calls.foldl (fun gain c => match c with | .gain value => value | _ => gain) unity

/-- The gain of the engine in the slot. -/
def gain (b : Bridge α σ) : α := b.inSlot.elim unity fun number => gainOf (callsTo number b.calls)

/-- The gain that a volume asks for; unity, where there is none. -/
def gainAsked (v : Option (Volume α)) : α := v.elim unity Volume.gain

/-- The range that a limiter scales into, when the levels are those that a volume asks for; they are
at unity, where there is none. -/
def rangeAsked (v : Option (Volume α)) : Stereo α :=
  v.elim (Limiter.new channelName).range fun v =>
    ((Limiter.new channelName).setLevels v.levels fullScale).range

/-- The gain and the levels in force are those of one volume that was asked for, or both have never
been changed. -/
def OneVolume (b : Bridge α σ) (w : Asked α) : Prop :=
  ∃ v, (∀ asked, v = some asked → asked ∈ w.all) ∧
    b.gain = gainAsked v ∧ b.limiter.range = rangeAsked v

/-! ## Gains -/

section Gains

variable {calls more : List (Call α)}

theorem gainOf_append (calls : List (Call α)) (quiet : ∀ c ∈ more, c.isGain = false) :
    gainOf (calls ++ more) = gainOf calls := by
  induction more generalizing calls with
  | nil => rw [List.append_nil]
  | cons c rest ih =>
    obtain ⟨here, quiet⟩ := List.forall_mem_cons.1 quiet
    have first : gainOf (calls ++ [c]) = gainOf calls := by
      rw [gainOf, List.foldl_append]
      cases c <;> first | rfl | cases here
    have next := ih (calls ++ [c]) quiet
    rw [List.append_assoc] at next
    exact next.trans first

theorem gainOf_concat (value : α) : gainOf (calls ++ [.gain value]) = value := by
  rw [gainOf, List.foldl_append]
  rfl

/-- An engine that has not played yet is at unity gain. -/
theorem gainOf_started {informs : Bool} (started : Engine.Life informs .started calls) :
    gainOf calls = unity := by
  have quiet : ∀ c ∈ calls, c.isGain = false := fun c mem =>
    (Call.not_isEvent_of_not_isPlaying (started.isPlaying_eq_false nofun nofun c mem)).2
  exact gainOf_append [] quiet

end Gains

/-! ## Who changes what -/

section Who

variable {E : Engine α σ} {t : FileTree} {b b' : Bridge α σ} {label : Label α}
  {as : List Attempt} {number : Nat}

omit [Amplitude α] in
theorem halfDone_startClosing (b : Bridge α σ) (next : Option UInt32) :
    (b.startClosing next).halfDone = b.halfDone ∧ (b.startClosing next).limiter = b.limiter := by
  unfold startClosing
  split
  · exact ⟨rfl, rfl⟩
  · exact ⟨rfl, rfl⟩
  · exact ⟨rfl, rfl⟩

omit [Amplitude α] in
theorem levels_submit (E : Engine α σ) (b : Bridge α σ) (event : σ → UInt32 → σ)
    (call : UInt32 → Call α) (dropped : Log α) :
    (b.submit E event call dropped).halfDone = b.halfDone ∧
      (b.submit E event call dropped).limiter = b.limiter := by
  unfold submit
  split
  · exact ⟨rfl, rfl⟩
  · exact ⟨rfl, rfl⟩

/-- Whether a label is one half of a level change. -/
def Label.isLevel : Label α → Bool
  | .setGain .. | .setLevels _ => true
  | _ => false

theorem halfDone_setGain (E : Engine α σ) (b : Bridge α σ) (left right : α) :
    (b.setGain E left right).halfDone = b.halfDone ++ [(Volume.split left right).levels] ∧
      (b.setGain E left right).limiter = b.limiter := by
  unfold setGain
  simp only
  split <;> exact ⟨rfl, rfl⟩

/-- The engine in the slot hears of the gain of a new volume. -/
theorem gainOf_setGain (E : Engine α σ) {left right : α} (filled : b.inSlot = some number) :
    gainOf (callsTo number (b.setGain E left right).calls) = (Volume.split left right).gain := by
  obtain ⟨i, here, rfl⟩ := Option.map_eq_some_iff.1 filled
  have calls : (b.setGain E left right).calls =
      b.calls ++ [Call.gain (Volume.split left right).gain].map (i.number, ·) := by
    simp only [Bridge.setGain, here]
    rfl
  rw [calls, callsTo_append, callsTo_map_self, gainOf_concat]

/-- Who sends an event or asks for a listing has nothing to do with levels or with the limiter. -/
theorem levels_of_aside (aside : label.IsAside) (other : label.isLevel = false)
    (step : b.step E t label = some b') : b'.halfDone = b.halfDone ∧ b'.limiter = b.limiter := by
  cases label with
  | message bytes =>
    obtain ⟨rfl⟩ := step
    exact levels_submit E b (E.message · (packed bytes)) (.message (packed bytes))
      (.messageDropped (packed bytes))
  | sysex bytes =>
    obtain ⟨rfl⟩ := step
    exact levels_submit E b (E.sysex · bytes) (.sysex bytes) (.sysexDropped bytes.length)
  | startList =>
    obtain ⟨rfl⟩ := step
    exact ⟨rfl, rfl⟩
  | list place =>
    simp only [Bridge.step, stepList, Option.bind_eq_some_iff] at step
    obtain ⟨s, -, step⟩ := step
    split at step
    · split at step
      · obtain ⟨rfl⟩ := step
        exact ⟨rfl, rfl⟩
      · cases step
    · obtain ⟨rfl⟩ := step
      exact ⟨rfl, rfl⟩
    · obtain ⟨rfl⟩ := step
      exact ⟨rfl, rfl⟩
  | setGain left right => cases other
  | setLevels place => cases other
  | _ => cases aside

/-- **Nobody but a level change** has levels in hand. Others put a block through the limiter or
reset it, if they touch it at all. -/
theorem limiting_of_move (m : Bridge.Move E t b label b') (other : label.isLevel = false) :
    b'.halfDone = b.halfDone ∧ (b'.limiter = b.limiter ∨ b'.limiter = b.limiter.reset ∨
      ∃ samples frames output heard,
        b.limiter.processInto? samples frames output = some (b'.limiter, heard)) := by
  cases m with
  | startOpen idle =>
    obtain ⟨halfDone, limiter⟩ := halfDone_startClosing b _
    exact ⟨halfDone, .inl limiter⟩
  | startClose idle =>
    obtain ⟨halfDone, limiter⟩ := halfDone_startClosing b none
    exact ⟨halfDone, .inl limiter⟩
  | closing here step =>
    cases move_of_stepClosing step with
    | closeEngine =>
      obtain ⟨calls, same⟩ := closeEngine_eq b
      rw [same]
      exact ⟨rfl, .inl rfl⟩
    | clearLimiter => exact ⟨rfl, .inr (.inl rfl)⟩
    | _ => exact ⟨rfl, .inl rfl⟩
  | opening here step =>
    cases move_of_stepOpening step with
    | withdrawEngine =>
      obtain ⟨calls, same⟩ := closeEngine_eq b
      rw [same]
      exact ⟨rfl, .inl rfl⟩
    | _ => exact ⟨rfl, .inl rfl⟩
  | refuseThread here => exact ⟨rfl, .inl rfl⟩
  | render here present move =>
    cases move with
    | limit stage fits => exact ⟨rfl, .inr (.inr ⟨_, _, _, _, fits⟩)⟩
    | _ => exact ⟨rfl, .inl rfl⟩
  | startPull here free => exact ⟨rfl, .inl rfl⟩
  | pull here present move => exact ⟨rfl, .inl rfl⟩
  | aside aside step =>
    obtain ⟨halfDone, limiter⟩ := levels_of_aside aside other step
    exact ⟨halfDone, .inl limiter⟩

/-- Nobody but a level change changes what a reset keeps of the limiter. -/
theorem levels_of_move (m : Bridge.Move E t b label b') (other : label.isLevel = false) :
    b'.halfDone = b.halfDone ∧ b'.limiter.reset = b.limiter.reset := by
  obtain ⟨halfDone, same | reset | ⟨samples, frames, output, heard, fits⟩⟩ :=
    limiting_of_move m other
  · exact ⟨halfDone, congrArg Limiter.reset same⟩
  · exact ⟨halfDone, by rw [reset]; rfl⟩
  · exact ⟨halfDone, Limiter.reset_processInto? fits⟩

omit [Amplitude α] in
/-- The calls of an engine after a step, gains apart. -/
theorem Asks.callsTo {n : Nat} {more : List (Call α)} (asks : b.Asks b' label n more)
    (other : label.isGain = false) (number : Nat) :
    ∃ asked, callsTo number b'.calls = callsTo number b.calls ++ asked ∧
      ∀ c ∈ asked, c.isGain = false := by
  have quiet : ∀ c ∈ more, c.isGain = false := fun c mem => isGain_of_mayAsk other (asks.may c mem)
  rw [asks.calls]
  by_cases same : n = number
  · subst same
    exact ⟨more, by rw [callsTo_append, callsTo_map_self], quiet⟩
  · exact ⟨[], by rw [callsTo_append_of_ne same, List.append_nil], nofun⟩

/-- A session is being opened, or will be once another is closed. -/
def Controller.opens : Controller σ → Bool
  | .opening .. | .closing _ _ (some _) => true
  | _ => false

/-- A session is being closed. -/
def Controller.closes : Controller σ → Bool
  | .closing .. => true
  | _ => false

/-- Who is on the way to open a session has set out to do so. -/
theorem opens_of_move (m : Bridge.Move E t b label b') (other : ∀ rate, label ≠ .startOpen rate)
    (opens : b'.controller.opens = true) : b.controller.opens = true := by
  cases m with
  | startOpen idle => exact absurd rfl (other _)
  | startClose idle =>
    cases session : b.session with
    | none =>
      simp only [startClosing, session] at opens
      cases opens
    | some s =>
      simp only [startClosing, session] at opens
      cases opens
  | @closing s stage next b' here step =>
    rw [here]
    cases next with
    | some rate => rfl
    | none =>
      cases move_of_stepClosing step with
      | reopen more => cases more
      | _ => cases opens
  | opening here step =>
    rw [here]
    rfl
  | refuseThread here =>
    rw [here]
    rfl
  | render here present move => exact opens
  | startPull here free => exact opens
  | pull here present move => exact opens
  | aside aside step => rwa [(aside_of_step aside step).controller] at opens

omit [Amplitude α] in
/-- An engine is in the slot only where it is to be there. -/
theorem Fitted.filled (h : b.Fitted) (here : b.inSlot = some number) :
    (b.controller.fitting b.session).engine = true := by
  obtain ⟨i, present, -⟩ := Option.map_eq_some_iff.1 here
  rw [← h.fitting, Bridge.fitting, present]
  rfl

/-- When a session has been closed, no engine is left in the slot. -/
theorem closes_of_move (fitted : b.Fitted) (m : Bridge.Move E t b label b')
    (here : b.inSlot = some number) (done : b'.controller.closes = false) :
    b.controller.closes = false := by
  have filled := fitted.filled here
  cases m with
  | startOpen idle =>
    rw [idle]
    rfl
  | startClose idle =>
    rw [idle]
    rfl
  | closing here step =>
    rw [here] at filled
    cases move_of_stepClosing step with
    | finish last => cases filled
    | reopen more => cases filled
    | _ => cases done
  | opening here step =>
    rw [here]
    rfl
  | refuseThread here =>
    rw [here]
    rfl
  | render here present move => exact done
  | startPull here free => exact done
  | pull here present move => exact done
  | aside aside step => rwa [(aside_of_step aside step).controller] at done

omit [Amplitude α] in
/-- While a session is opened or closed, there is none. -/
theorem Whole.idle_of_isOpen (h : b.Whole) (isOpen : b.isOpen = true) : b.controller = .idle := by
  obtain ⟨⟨ds, sound⟩, -⟩ := h
  have present : b.session ≠ none := fun closed => by simp [Bridge.isOpen, closed] at isOpen
  rw [Sound] at sound
  split at sound
  · assumption
  · exact absurd sound.1 present
  · exact absurd sound.1 present

end Who

/-! ## Every run -/

/-- Where the two halves of the volume in force come from, wherever the controller is. -/
structure Levelled (b : Bridge α σ) (w : Asked α) : Prop where
  whole : b.Whole
  lawful : ∃ as, b.Lawful as
  /-- The limiter has the levels of the last volume, or will get them next. -/
  levels : (b.halfDone = [] ∧ b.limiter.range = rangeAsked w.all.getLast?) ∨
    ∃ v, w.all.getLast? = some v ∧ b.halfDone = [v.levels]
  recent : w.session ≠ [] → w.session.getLast? = w.all.getLast?
  opens : b.controller.opens = true → w.session = []
  /-- The engine in the slot has the gain of the last volume of its session. -/
  gain : b.controller.closes = false → ∀ n, b.inSlot = some n →
    gainOf (callsTo n b.calls) = gainAsked w.session.getLast?

section Levelled

variable {E : Engine α σ} {t : FileTree} {b b' : Bridge α σ} {w : Asked α} {label : Label α}
  {turn : Turn α σ}

theorem levelled_new (setup : Setup) (catalog : Catalog) :
    (Bridge.new setup catalog : Bridge α σ).Levelled {} :=
  ⟨⟨⟨[], sound_new ..⟩, fitted_new ..⟩, ⟨[], lawful_new ..⟩, .inl ⟨rfl, rfl⟩, nofun, fun _ => rfl,
    nofun⟩

/-- What begins does so when nothing else is under way. -/
theorem alone?_eq_some (h : b.alone? turn = some b') :
    (turn.label.begins = true → b.atRest = true) ∧
      b.step turn.engine turn.files turn.label = some b' := by
  simp only [alone?, Option.ite_none_left_eq_some, Bool.and_eq_true, Bool.not_eq_true',
    not_and, Bool.not_eq_false] at h
  exact h

omit [Amplitude α] in
theorem idle_of_atRest (h : b.atRest = true) : b.controller = .idle ∧ b.halfDone = [] := by
  simp only [atRest, Bool.and_eq_true, List.isEmpty_iff] at h
  exact ⟨isIdle_iff.1 h.1.1.1, h.1.1.2⟩

/-- **Who changes no level** and opens no session leaves both halves as they are. -/
theorem Levelled.other (h : b.Levelled w) (m : Bridge.Move E t b label b')
    (level : label.isLevel = false) (opening : ∀ rate, label ≠ .startOpen rate) :
    b'.Levelled w := by
  obtain ⟨as, lawful⟩ := h.lawful
  obtain ⟨halfDone, reset⟩ := levels_of_move m level
  have range : b'.limiter.range = b.limiter.range := (congrArg Limiter.range reset :)
  have quiet : label.isGain = false := by
    cases label <;> first | rfl | cases level
  refine ⟨h.whole.step m, ⟨_, lawful.step h.whole.fitted m⟩, ?_, h.recent,
    fun opens => h.opens (opens_of_move m opening opens), ?_⟩
  · rw [halfDone, range]
    exact h.levels
  · intro done n there
    obtain ⟨number, more, asks, -⟩ := behaves_of_move lawful h.whole.fitted m
    obtain ⟨asked, calls, silent⟩ := asks.callsTo quiet n
    rw [calls, gainOf_append _ silent]
    by_cases here : b.inSlot = some n
    · exact h.gain (closes_of_move h.whole.fitted m here done) n here
    · -- A new engine is at unity, and its session has just begun to be opened.
      obtain ⟨started, rate, stage, controller⟩ := lawful.started_of_filled m there here
      have session : w.session = [] := by
        apply h.opens
        rw [controller]
        rfl
      rw [gainOf_started started, session]
      rfl

/-- A session begins to be opened, and no volume has been asked for in it. -/
theorem Levelled.startOpen {rate : UInt32} (h : b.Levelled w)
    (m : Bridge.Move E t b (.startOpen rate) b') : b'.Levelled { w with session := [] } := by
  obtain ⟨as, lawful⟩ := h.lawful
  obtain ⟨halfDone, reset⟩ := levels_of_move m rfl
  have range : b'.limiter.range = b.limiter.range := (congrArg Limiter.range reset :)
  have whole := h.whole.step m
  refine ⟨whole, ⟨_, lawful.step h.whole.fitted m⟩, ?_, nofun, fun _ => rfl, ?_⟩
  · rw [halfDone, range]
    exact h.levels
  · intro done n there
    have filled := whole.fitted.filled there
    cases m with
    | startOpen idle =>
      cases session : b.session with
      | none =>
        simp only [startClosing, session] at filled
        cases filled
      | some s =>
        simp only [startClosing, session] at done
        cases done
    | aside aside step => cases aside

/-- The engine gets the gain of a new volume, and the limiter is to get its levels next. -/
theorem Levelled.setGain {left right : α} (h : b.Levelled w) (rest : b.atRest = true)
    (m : Bridge.Move E t b (.setGain left right) (b.setGain E left right)) :
    (b.setGain E left right).Levelled
      ⟨w.all ++ [.split left right], w.session ++ [.split left right]⟩ := by
  obtain ⟨as, lawful⟩ := h.lawful
  obtain ⟨idle, nothing⟩ := idle_of_atRest rest
  have controller : (b.setGain E left right).controller = .idle :=
    (aside_setGain E b left right).controller.trans idle
  have halfDone : (b.setGain E left right).halfDone = [(Volume.split left right).levels] := by
    rw [(halfDone_setGain E b left right).1, nothing, List.nil_append]
  refine ⟨h.whole.step m, ⟨_, lawful.step h.whole.fitted m⟩,
    .inr ⟨.split left right, List.getLast?_concat .., halfDone⟩,
    fun _ => by rw [List.getLast?_concat, List.getLast?_concat], fun opens => ?_,
    fun _ n there => ?_⟩
  · rw [controller] at opens
    cases opens
  · rw [(uses_setGain E b left right).inSlot] at there
    rw [gainOf_setGain E there, List.getLast?_concat]
    rfl

/-- The limiter gets the levels of the last volume. -/
theorem Levelled.setLevels {place : Nat} (h : b.Levelled w) (step : b.setLevels place = some b')
    (m : Bridge.Move E t b (.setLevels place) b') : b'.Levelled w := by
  obtain ⟨as, lawful⟩ := h.lawful
  have whole := h.whole.step m
  have lawful := lawful.step h.whole.fitted m
  simp only [Bridge.setLevels, Option.map_eq_some_iff] at step
  obtain ⟨levels, here, rfl⟩ := step
  refine ⟨whole, ⟨_, lawful⟩, ?_, h.recent, h.opens, h.gain⟩
  rcases h.levels with ⟨nothing, -⟩ | ⟨v, last, pending⟩
  · rw [nothing] at here
    cases here
  · rw [pending] at here
    cases place with
    | zero =>
      obtain ⟨rfl⟩ := here
      refine .inl ⟨?_, ?_⟩
      · rw [pending]
        rfl
      · rw [last]
        rfl
    | succ place => cases here

/-- **Every step of somebody who does one thing after the other** keeps track of where the two
halves come from. -/
theorem Levelled.step (h : b.Levelled w) (step : b.alone? turn = some b') :
    b'.Levelled (noteVolumes b turn b' w) := by
  obtain ⟨rest, step⟩ := alone?_eq_some step
  have m := move_of_step step
  unfold noteVolumes
  cases label : turn.label with
  | setGain left right =>
    rw [label] at step m rest
    obtain ⟨rfl⟩ := step
    exact h.setGain (rest rfl) m
  | setLevels place =>
    rw [label] at step m
    exact h.setLevels step m
  | startOpen rate =>
    rw [label] at m
    exact h.startOpen m
  | _ => exact h.other m (by rw [label]; rfl) (by simp [label])

/-- **Which volumes are in force**, in an open bridge that somebody uses who does one thing after
the other: the limiter has the levels of the last volume of all, and the engine has the gain of the
last one since the session began to be opened, or unity if there was none. They are of one volume
where there was one in the session, or none at all. -/
theorem volume_in_force (setup : Setup) (catalog : Catalog) {turns : List (Turn α σ)}
    (run : noted? alone? noteVolumes (Bridge.new setup catalog) {} turns = some (b, w))
    (isOpen : b.isOpen = true) (settled : b.halfDone = []) :
    b.gain = gainAsked w.session.getLast? ∧ b.limiter.range = rangeAsked w.all.getLast? ∧
      (w.session ≠ [] → w.session.getLast? = w.all.getLast?) ∧
      (w.session ≠ [] ∨ w.all = [] → b.OneVolume w) := by
  have h : b.Levelled w := by
    refine noted?_induction (P := Levelled) ?_ (levelled_new setup catalog) run
    exact fun h step => h.step step
  have idle := h.whole.idle_of_isOpen isOpen
  have present := ((h.whole.idle idle).resolve_right fun closed => by
    simp [closed.isOpen] at isOpen).1.engine
  obtain ⟨i, here⟩ := Option.isSome_iff_exists.1 present
  have gain : b.gain = gainAsked w.session.getLast? := by
    rw [Bridge.gain, inSlot, here, Option.map_some, Option.elim_some]
    refine h.gain ?_ i.number ?_
    · rw [idle]
      rfl
    · rw [inSlot, here, Option.map_some]
  have range : b.limiter.range = rangeAsked w.all.getLast? := by
    rcases h.levels with ⟨-, range⟩ | ⟨v, -, pending⟩
    · exact range
    · rw [settled] at pending
      cases pending
  refine ⟨gain, range, h.recent, fun whole => ⟨w.all.getLast?, fun v last =>
    List.mem_of_getLast? last, ?_, range⟩⟩
  rw [gain]
  by_cases session : w.session = []
  · have none := whole.resolve_left fun some => some session
    rw [session, none]
  · rw [h.recent session]

/-- A level is changed, a session is opened, and in it the level is changed again. -/
theorem volume_in_force_again :
    let change (volume : Rat) : List (Label Extended) :=
      [.setGain (.finite volume) (.finite volume), .setLevels 0]
    let turns := (change (1 / 2) ++ openingLabels ++ change (1 / 4)).map
      (⟨pocketEngine, pocketFiles, ·⟩)
    ∃ b w, noted? alone? noteVolumes (Bridge.new pocketSetup pocketCatalog) {} turns = some (b, w) ∧
      b.isOpen = true ∧ b.halfDone = [] ∧ w.session ≠ [] ∧ b.OneVolume w := by
  intro change turns
  have runs : (noted? alone? noteVolumes (Bridge.new pocketSetup pocketCatalog) {} turns).any
      (fun y => y.1.isOpen && y.1.halfDone.isEmpty && !y.2.session.isEmpty) = true := by
    decide +kernel
  obtain ⟨⟨b, w⟩, run, facts⟩ := (Option.any_eq_true ..).1 runs
  simp only [Bool.and_eq_true, List.isEmpty_iff, Bool.not_eq_true', List.isEmpty_eq_false_iff]
    at facts
  obtain ⟨⟨isOpen, settled⟩, session⟩ := facts
  obtain ⟨-, -, -, one⟩ := volume_in_force pocketSetup pocketCatalog run isOpen settled
  exact ⟨b, w, run, isOpen, settled, session, one (.inl session)⟩

/-- **The volume in force may be torn.** A level is changed while the bridge is closed, and then a
session is opened: the limiter has the levels of that change, and the engine has never heard of its
gain. -/
theorem volume_torn :
    let change : List (Label Extended) :=
      [.setGain (.finite (1 / 2)) (.finite (1 / 4)), .setLevels 0]
    let turns := (change ++ openingLabels).map (⟨pocketEngine, pocketFiles, ·⟩)
    ∃ b w, noted? alone? noteVolumes (Bridge.new pocketSetup pocketCatalog) {} turns = some (b, w) ∧
      b.isOpen = true ∧ b.halfDone = [] ∧ ¬b.OneVolume w := by
  intro change turns
  let v : Volume Extended := .split (.finite (1 / 2)) (.finite (1 / 4))
  have runs : (noted? alone? noteVolumes (Bridge.new pocketSetup pocketCatalog) {} turns).any
      (fun y => y.1.isOpen && y.1.halfDone.isEmpty && decide (y.1.gain = gainAsked none) &&
        decide (y.1.limiter.range = rangeAsked (some v)) &&
          y.2.all.all (·.gain == v.gain)) = true := by
    decide +kernel
  obtain ⟨⟨b, w⟩, run, facts⟩ := (Option.any_eq_true ..).1 runs
  simp only [Bool.and_eq_true, List.isEmpty_iff, decide_eq_true_eq, List.all_eq_true,
    beq_iff_eq] at facts
  obtain ⟨⟨⟨⟨isOpen, settled⟩, gain⟩, range⟩, asked⟩ := facts
  refine ⟨b, w, run, isOpen, settled, ?_⟩
  rintro ⟨none | v', mem, gain', range'⟩
  · have same : rangeAsked (some v) = rangeAsked none := range.symm.trans range'
    exact absurd same (by decide +kernel)
  · have same : gainAsked none = v.gain := by
      rw [← asked v' (mem v' rfl)]
      exact gain.symm.trans gain'
    exact absurd same (by decide +kernel)

end Levelled

end Bridge

end SynthBridge
