import SynthBridge.Bridge.Step
import SynthBridge.Proofs.Flow.Moves

/-!
# What a step of a bridge can do

`Bridge.Move` is the step relation of a bridge by who acts: the controller, the render thread, the
mixer, or somebody who does not touch the session. The last have nothing to do with buffers
(`Bridge.Aside`), so that facts about sessions are proved by a few cases. What the controller does
is told apart further by `Bridge.Closing.Move` and `Bridge.Opening.Move`. The latter also has what
the system may do to an opening, which is to start no render thread.
-/

namespace SynthBridge

namespace Bridge

variable {α σ : Type}

/-- The two states of a bridge differ in nothing that a session is made of. -/
structure Aside (b b' : Bridge α σ) : Prop where
  setup : b'.setup = b.setup
  player : b'.player = b.player
  pipeline : b'.pipeline = b.pipeline
  renderer : b'.renderer = b.renderer
  session : b'.session = b.session
  controller : b'.controller = b.controller
  outcome : b'.outcome = b.outcome

/-- Somebody sends a message, changes a level or asks for a listing. -/
def Label.IsAside : Label α → Prop
  | .message _ | .sysex _ | .setGain .. | .setLevels _ | .startList | .list _ => True
  | _ => False

theorem aside_submit (E : Engine α σ) (b : Bridge α σ) (event : σ → UInt32 → σ)
    (call : UInt32 → Call α) (dropped : Log α) : b.Aside (b.submit E event call dropped) := by
  unfold submit
  split <;> exact ⟨rfl, rfl, rfl, rfl, rfl, rfl, rfl⟩

/-- Who closes the engine in the slot does nothing else. -/
theorem closeEngine_eq (b : Bridge α σ) :
    ∃ calls, b.closeEngine = { b with engine := none, calls } := by
  unfold closeEngine
  split
  · rename_i empty
    exact ⟨b.calls, by rw [← empty]⟩
  · exact ⟨_, rfl⟩

theorem aside_closeEngine (b : Bridge α σ) : b.Aside b.closeEngine := by
  obtain ⟨calls, same⟩ := closeEngine_eq b
  rw [same]
  exact ⟨rfl, rfl, rfl, rfl, rfl, rfl, rfl⟩

variable [Amplitude α] {E : Engine α σ} {t : FileTree} {b b' : Bridge α σ} {label : Label α}

theorem aside_setGain (E : Engine α σ) (b : Bridge α σ) (left right : α) :
    b.Aside (b.setGain E left right) := by
  unfold setGain
  simp only
  split <;> exact ⟨rfl, rfl, rfl, rfl, rfl, rfl, rfl⟩

omit [Amplitude α] in
theorem aside_stepList {place : Nat} (h : b.stepList E t place = some b') : b.Aside b' := by
  simp only [stepList, Option.bind_eq_some_iff] at h
  obtain ⟨s, -, h⟩ := h
  split at h
  · split at h
    · obtain ⟨rfl⟩ := h
      exact ⟨rfl, rfl, rfl, rfl, rfl, rfl, rfl⟩
    · cases h
  · obtain ⟨rfl⟩ := h
    exact ⟨rfl, rfl, rfl, rfl, rfl, rfl, rfl⟩
  · obtain ⟨rfl⟩ := h
    exact ⟨rfl, rfl, rfl, rfl, rfl, rfl, rfl⟩

/-- What is not the controller's, the render thread's or the mixer's leaves the session alone. -/
theorem aside_of_step (aside : label.IsAside) (h : b.step E t label = some b') : b.Aside b' := by
  cases label with
  | message bytes =>
    obtain ⟨rfl⟩ := h
    unfold message
    exact aside_submit ..
  | sysex bytes =>
    obtain ⟨rfl⟩ := h
    unfold sysex
    exact aside_submit ..
  | setGain left right =>
    obtain ⟨rfl⟩ := h
    exact aside_setGain ..
  | setLevels place =>
    simp only [step, setLevels, Option.map_eq_some_iff] at h
    obtain ⟨levels, -, rfl⟩ := h
    exact ⟨rfl, rfl, rfl, rfl, rfl, rfl, rfl⟩
  | startList =>
    obtain ⟨rfl⟩ := h
    exact ⟨rfl, rfl, rfl, rfl, rfl, rfl, rfl⟩
  | list place => exact aside_stepList h
  | _ => cases aside

/-- The steps of a bridge, by their labels. -/
inductive Move (E : Engine α σ) (t : FileTree) (b : Bridge α σ) :
    Label α → Bridge α σ → Prop
  | startOpen {rate : UInt32} (idle : b.controller = .idle) :
      Move E t b (.startOpen rate) (b.startClosing (some rate))
  | startClose (idle : b.controller = .idle) : Move E t b .startClose (b.startClosing none)
  | closing {s : Session} {stage : Closing} {next : Option UInt32} {b' : Bridge α σ}
      (here : b.controller = .closing s stage next) (step : b.stepClosing s next stage = some b') :
      Move E t b .control b'
  | opening {rate : UInt32} {stage : Opening σ} {b' : Bridge α σ}
      (here : b.controller = .opening rate stage)
      (step : b.stepOpening E t rate stage = some b') : Move E t b .control b'
  | refuseThread {rate : UInt32} {s : Session} {reason : String}
      (here : b.controller = .opening rate (.spawn s)) :
      Move E t b (.refuseThread reason) (b.opening rate (.withdrawEngine s reason))
  | render {r r' : Renderer α} {p : Pipeline} {s' : Shared α (Instance σ)}
      (here : b.renderer = some r) (present : b.pipeline = some p)
      (move : Renderer.Move E.numbered r ⟨p, b.engine, b.limiter⟩ r' s') :
      Move E t b .render
        { b with
          renderer := some r'
          pipeline := some s'.pipeline
          engine := s'.service
          limiter := s'.limiter
          calls := renderCalls r b.engine b.calls }
  | startPull {pl : Player} {samples : Nat} (here : b.player = some pl)
      (free : pl.isFree = true) :
      Move E t b (.startPull samples) { b with player := some (pl.startPull samples) }
  | pull {pl pl' : Player} {p p' : Pipeline} (here : b.player = some pl)
      (present : b.pipeline = some p) (move : Player.Move pl p pl' p') :
      Move E t b .pull { b with player := some pl', pipeline := some p' }
  | aside {label : Label α} {b' : Bridge α σ} (aside : label.IsAside)
      (step : b.step E t label = some b') : Move E t b label b'

omit [Amplitude α] in
theorem isIdle_iff : b.isIdle = true ↔ b.controller = .idle := by
  unfold isIdle
  split <;> simp_all

/-- **Every step of a bridge is one of its moves.** -/
theorem move_of_step (h : b.step E t label = some b') : Move E t b label b' := by
  cases label with
  | startOpen rate =>
    simp only [step, whenIdle, Option.ite_none_right_eq_some, Option.some.injEq] at h
    obtain ⟨idle, rfl⟩ := h
    exact .startOpen (isIdle_iff.1 idle)
  | startClose =>
    simp only [step, whenIdle, Option.ite_none_right_eq_some, Option.some.injEq] at h
    obtain ⟨idle, rfl⟩ := h
    exact .startClose (isIdle_iff.1 idle)
  | control =>
    simp only [step, stepControl] at h
    split at h
    · cases h
    · rename_i s stage next here
      exact .closing here h
    · rename_i rate stage here
      exact .opening here h
  | refuseThread reason =>
    simp only [step, refuseThread] at h
    split at h
    · rename_i rate s here
      obtain ⟨rfl⟩ := h
      exact .refuseThread here
    · cases h
  | render =>
    simp only [step, stepRender] at h
    split at h
    · rename_i r p here present
      simp only [Option.map_eq_some_iff] at h
      obtain ⟨⟨r', s'⟩, adv, rfl⟩ := h
      exact .render here present (Renderer.move_of_advance adv)
    · cases h
  | startPull samples =>
    simp only [step, startPull, Option.bind_eq_some_iff, Option.ite_none_right_eq_some,
      Option.some.injEq] at h
    obtain ⟨pl, here, free, rfl⟩ := h
    exact .startPull here free
  | pull =>
    simp only [step, stepPull] at h
    split at h
    · rename_i pl p here present
      simp only [Option.map_eq_some_iff] at h
      obtain ⟨⟨pl', p'⟩, adv, rfl⟩ := h
      exact .pull here present (Player.move_of_advance adv)
    · cases h
  | _ => exact .aside trivial h

/-! ## Steps of the controller -/

section Close

variable {s : Session} {next : Option UInt32} {stage : Closing} {phase : Teardown}

/-- The steps of closing a session. -/
inductive Closing.Move (b : Bridge α σ) (s : Session) (next : Option UInt32) :
    Closing → Bridge α σ → Prop
  | disable : Closing.Move b s next .disable
      ((b.withChannel s.channel fun r => { r with enabled := false }).closing s
        (.tearing .clearFlag) next)
  | tear {phase phase' : Teardown} {p p' : Pipeline} {player' : Option Player}
      (unfinished : ∀ recovered played, phase ≠ .reclaim recovered played)
      (present : b.pipeline = some p)
      (move : Teardown.Move phase p b.player b.rendererGone phase' p' player') :
      Closing.Move b s next (.tearing phase)
        { b.closing s (.tearing phase') next with pipeline := some p', player := player' }
  /-- The render thread has been awaited. -/
  | join {recovered : Nat} {played : UInt64} :
      Closing.Move b s next (.tearing (.reclaim recovered played))
        (b.joined.closing s (.closeEngine (.reclaim recovered played)) next)
  | closeEngine {phase : Teardown} : Closing.Move b s next (.closeEngine phase)
      (b.closeEngine.closing s (.clearPipeline phase) next)
  | clearPipeline {phase : Teardown} {p : Pipeline} (present : b.pipeline = some p) :
      Closing.Move b s next (.clearPipeline phase)
        { b.closing s (.dropChannel phase p) next with pipeline := none }
  | dropChannel {phase : Teardown} {p : Pipeline} : Closing.Move b s next (.dropChannel phase p)
      ((b.withoutChannel s.channel).closing s (.count phase p) next)
  | count {phase : Teardown} {p p' : Pipeline} {player : Option Player} {recovered : Nat}
      {played : UInt64} {log : List (Log α)}
      (counted : phase.advance p none true = some (.finished recovered played, p', player)) :
      Closing.Move b s next (.count phase p)
        ((b.logged log).closing s (.clearLimiter ⟨recovered, p.capacity, played⟩) next)
  | clearLimiter {report : Report} {log : List (Log α)} :
      Closing.Move b s next (.clearLimiter report)
        ({ b.logged log with limiter := b.limiter.reset }.closing s (.finish report) next)
  | finish {report : Report} {log : List (Log α)} (last : next = none) :
      Closing.Move b s next (.finish report) ((b.logged log).ended (.closed (some report)))
  /-- Another session is opened. -/
  | reopen {report : Report} {log : List (Log α)} {rate : UInt32} (more : next = some rate) :
      Closing.Move b s next (.finish report) ((b.logged log).opening rate .create)

theorem stepClosing_tearing (unfinished : ∀ recovered played, phase ≠ .reclaim recovered played) :
    b.stepClosing s next (.tearing phase) = b.pipeline.bind fun p =>
      (phase.advance p b.player b.rendererGone).map fun (phase, p, player) =>
        { b.closing s (.tearing phase) next with pipeline := some p, player } := by
  cases phase with
  | reclaim recovered played => exact absurd rfl (unfinished _ _)
  | _ => rfl

/-- The controller goes on with a teardown, unless the render thread has been awaited. -/
theorem tearing_move (step : b.stepClosing s next (.tearing phase) = some b') :
    Closing.Move b s next (.tearing phase) b' := by
  by_cases last : ∃ recovered played, phase = .reclaim recovered played
  · obtain ⟨recovered, played, rfl⟩ := last
    obtain ⟨rfl⟩ := step
    exact .join
  · have unfinished : ∀ recovered played, phase ≠ .reclaim recovered played := fun r p here =>
      last ⟨r, p, here⟩
    simp only [stepClosing_tearing unfinished, Option.bind_eq_some_iff,
      Option.map_eq_some_iff] at step
    obtain ⟨p, present, ⟨phase', p', player'⟩, adv, rfl⟩ := step
    exact .tear unfinished present (Teardown.move_of_advance adv)

/-- **Every step of closing a session is one of its moves.** -/
theorem move_of_stepClosing (step : b.stepClosing s next stage = some b') :
    Closing.Move b s next stage b' := by
  cases stage with
  | disable =>
    obtain ⟨rfl⟩ := step
    exact .disable
  | tearing phase => exact tearing_move step
  | closeEngine phase =>
    obtain ⟨rfl⟩ := step
    exact .closeEngine
  | clearPipeline phase =>
    simp only [stepClosing, Option.map_eq_some_iff] at step
    obtain ⟨p, present, rfl⟩ := step
    exact .clearPipeline present
  | dropChannel phase p =>
    obtain ⟨rfl⟩ := step
    exact .dropChannel
  | count phase p =>
    simp only [stepClosing] at step
    split at step
    · rename_i counted
      obtain ⟨rfl⟩ := step
      exact .count counted
    · cases step
  | clearLimiter report =>
    obtain ⟨rfl⟩ := step
    exact .clearLimiter
  | finish report =>
    cases next with
    | none =>
      obtain ⟨rfl⟩ := step
      exact .finish rfl
    | some rate =>
      obtain ⟨rfl⟩ := step
      exact .reopen rfl

end Close

section Open

variable {rate : UInt32} {stage : Opening σ}

/-- The steps of opening a session. -/
inductive Opening.Move (E : Engine α σ) (t : FileTree) (b : Bridge α σ) (rate : UInt32) :
    Opening σ → Bridge α σ → Prop
  | create : Opening.Move E t b rate .create
      ((b.makeEngine E).2.opening rate (.resolve (b.makeEngine E).1 b.candidates))
  | missing {i : Instance σ} : Opening.Move E t b rate (.resolve i [])
      ((b.logged b.missingLog).ended (.failed b.missing))
  | found {i : Instance σ} {c : Catalog.Candidate} {rest : List Catalog.Candidate}
      (loaded : (b.tryCandidate E t i c).1 = true) :
      Opening.Move E t b rate (.resolve i (c :: rest))
        ((b.tryCandidate E t i c).2.2.opening rate (.describe (b.tryCandidate E t i c).2.1 c))
  | passBy {i : Instance σ} {c : Catalog.Candidate} {rest : List Catalog.Candidate}
      (failed : (b.tryCandidate E t i c).1 = false) :
      Opening.Move E t b rate (.resolve i (c :: rest))
        ((b.tryCandidate E t i c).2.2.opening rate (.resolve (b.tryCandidate E t i c).2.1 rest))
  | describe {i : Instance σ} {c : Catalog.Candidate} {log : List (Log α)}
      (informs : b.setup.informs = true) :
      Opening.Move E t b rate (.describe i c)
        (((b.called i.number [.describe]).logged log).opening rate (.addChannel i c))
  | keepQuiet {i : Instance σ} {c : Catalog.Candidate} (silent : b.setup.informs = false) :
      Opening.Move E t b rate (.describe i c) (b.opening rate (.addChannel i c))
  | addChannel {i : Instance σ} {c : Catalog.Candidate} :
      Opening.Move E t b rate (.addChannel i c)
        { b.opening rate (.listen i ⟨b.added, c.entry.model.name, c.dir⟩) with
          channels := b.channels ++ [{ number := b.added }], added := b.added + 1 }
  | listen {i : Instance σ} {s : Session} : Opening.Move E t b rate (.listen i s)
      ((b.withChannel s.channel fun r => { r with listening := true }).opening rate
        (.configure i s))
  | configure {i : Instance σ} {s : Session} : Opening.Move E t b rate (.configure i s)
      ((b.called i.number [.configure rate b.setup.config.engine]).opening rate
        (.start { i with state := E.configure i.state b.setup.config.engine rate } s))
  | start {i : Instance σ} {s : Session} (accepts : (E.start i.state).1 = none) :
      Opening.Move E t b rate (.start i s)
        ((b.called i.number [.start none]).opening rate
          (.checkSizes { i with state := (E.start i.state).2 } s))
  | refuse {i : Instance σ} {s : Session} {code : Int} {log : List (Log α)}
      (refuses : (E.start i.state).1 = some code) :
      Opening.Move E t b rate (.start i s)
        (((b.called i.number [.start (some code)]).logged log).opening rate
          (.refuse { i with state := (E.start i.state).2 } s code))
  | close {i : Instance σ} {s : Session} {code : Int} :
      Opening.Move E t b rate (.refuse i s code)
        ((b.called i.number [.close]).opening rate (.leave s (.failed (.engineRefused code))))
  | leave {s : Session} {outcome : Outcome} : Opening.Move E t b rate (.leave s outcome)
      ((b.withoutChannel s.channel).ended outcome)
  | fits {i : Instance σ} {s : Session} {sizes : Sizes}
      (checked : Sizes.check b.setup.frames b.setup.capacity = .ok sizes) :
      Opening.Move E t b rate (.checkSizes i s) (b.opening rate (.fillEngine i s sizes))
  | panic {i : Instance σ} {s : Session} {fault : SizeFault}
      (checked : Sizes.check b.setup.frames b.setup.capacity = .error fault) :
      Opening.Move E t b rate (.checkSizes i s) (b.opening rate (.leave s (.panicked fault)))
  | fillEngine {i : Instance σ} {s : Session} {sizes : Sizes} :
      Opening.Move E t b rate (.fillEngine i s sizes)
        { b.opening rate (.fillPipeline s sizes) with engine := some i }
  | fillPipeline {s : Session} {sizes : Sizes} : Opening.Move E t b rate (.fillPipeline s sizes)
      { b.opening rate (.spawn s) with pipeline := some (.new sizes) }
  | spawn {s : Session} {p : Pipeline} (present : b.pipeline = some p) :
      Opening.Move E t b rate (.spawn s)
        { b.opening rate (.makePlayer s) with renderer := some (.new p) }
  /-- The system does not start the render thread. -/
  | refuseThread {s : Session} {reason : String} :
      Opening.Move E t b rate (.spawn s) (b.opening rate (.withdrawEngine s reason))
  | withdrawEngine {s : Session} {reason : String} :
      Opening.Move E t b rate (.withdrawEngine s reason)
        (b.closeEngine.opening rate (.withdrawPipeline s reason))
  | withdrawPipeline {s : Session} {reason : String} :
      Opening.Move E t b rate (.withdrawPipeline s reason)
        { b.opening rate (.leave s (.failed (.threadRefused reason))) with pipeline := none }
  | makePlayer {s : Session} {p : Pipeline} (present : b.pipeline = some p) :
      Opening.Move E t b rate (.makePlayer s)
        { b.opening rate (.prime s (Player.new p).1.startPrime) with
          pipeline := some (Player.new p).2 }
  | prime {s : Session} {pl pl' : Player} {p p' : Pipeline} (busy : ¬pl.isFree = true)
      (present : b.pipeline = some p) (move : Player.Move pl p pl' p') :
      Opening.Move E t b rate (.prime s pl)
        { b.opening rate (.prime s pl') with pipeline := some p' }
  | primed {s : Session} {pl : Player} (free : pl.isFree = true) :
      Opening.Move E t b rate (.prime s pl) (b.opening rate (.fillPlayer s pl))
  | fillPlayer {s : Session} {pl : Player} : Opening.Move E t b rate (.fillPlayer s pl)
      { b.opening rate (.enable s) with player := some pl }
  | enable {s : Session} : Opening.Move E t b rate (.enable s)
      ((b.withChannel s.channel fun r => { r with enabled := true }).opening rate (.finish s))
  | finish {s : Session} : Opening.Move E t b rate (.finish s)
      { b.ended .opened with session := some s }

omit [Amplitude α] in
/-- **Every step of opening a session is one of its moves.** -/
theorem move_of_stepOpening (step : b.stepOpening E t rate stage = some b') :
    Opening.Move E t b rate stage b' := by
  cases stage with
  | create =>
    obtain ⟨rfl⟩ := step
    exact .create
  | resolve i cs =>
    cases cs with
    | nil =>
      obtain ⟨rfl⟩ := step
      exact .missing
    | cons c rest =>
      simp only [stepOpening, Option.some.injEq] at step
      subst step
      cases tried : (b.tryCandidate E t i c).1 with
      | true => exact .found tried
      | false => exact .passBy tried
  | describe i c =>
    obtain ⟨rfl⟩ := step
    unfold announce
    split
    · rename_i informs
      exact .describe informs
    · rename_i silent
      exact .keepQuiet (Bool.eq_false_iff.2 silent)
  | addChannel i c =>
    obtain ⟨rfl⟩ := step
    exact .addChannel
  | listen i s =>
    obtain ⟨rfl⟩ := step
    exact .listen
  | configure i s =>
    obtain ⟨rfl⟩ := step
    exact .configure
  | start i s =>
    simp only [stepOpening] at step
    split at step
    · rename_i accepts
      obtain ⟨rfl⟩ := step
      rw [accepts]
      exact .start accepts
    · rename_i code refuses
      obtain ⟨rfl⟩ := step
      rw [refuses]
      exact .refuse refuses
  | refuse i s code =>
    obtain ⟨rfl⟩ := step
    exact .close
  | leave s outcome =>
    obtain ⟨rfl⟩ := step
    exact .leave
  | checkSizes i s =>
    simp only [stepOpening] at step
    split at step
    · rename_i sizes checked
      obtain ⟨rfl⟩ := step
      exact .fits checked
    · rename_i fault checked
      obtain ⟨rfl⟩ := step
      exact .panic checked
  | fillEngine i s sizes =>
    obtain ⟨rfl⟩ := step
    exact .fillEngine
  | fillPipeline s sizes =>
    obtain ⟨rfl⟩ := step
    exact .fillPipeline
  | spawn s =>
    simp only [stepOpening, Option.map_eq_some_iff] at step
    obtain ⟨p, present, rfl⟩ := step
    exact .spawn present
  | withdrawEngine s reason =>
    obtain ⟨rfl⟩ := step
    exact .withdrawEngine
  | withdrawPipeline s reason =>
    obtain ⟨rfl⟩ := step
    exact .withdrawPipeline
  | makePlayer s =>
    simp only [stepOpening, Option.map_eq_some_iff] at step
    obtain ⟨p, present, rfl⟩ := step
    exact .makePlayer present
  | prime s pl =>
    simp only [stepOpening] at step
    split at step
    · rename_i free
      obtain ⟨rfl⟩ := step
      exact .primed free
    · rename_i busy
      simp only [Option.bind_eq_some_iff, Option.map_eq_some_iff] at step
      obtain ⟨p, present, ⟨pl', p'⟩, adv, rfl⟩ := step
      exact .prime busy present (Player.move_of_advance adv)
  | fillPlayer s pl =>
    obtain ⟨rfl⟩ := step
    exact .fillPlayer
  | enable s =>
    obtain ⟨rfl⟩ := step
    exact .enable
  | finish s =>
    obtain ⟨rfl⟩ := step
    exact .finish

end Open

/-! ## What never changes -/

omit [Amplitude α] in
theorem setup_of_startClosing (b : Bridge α σ) (next : Option UInt32) :
    (b.startClosing next).setup = b.setup := by
  unfold startClosing
  split <;> rfl

theorem setup_of_stepClosing {s : Session} {next : Option UInt32} {stage : Closing}
    (step : b.stepClosing s next stage = some b') : b'.setup = b.setup := by
  cases move_of_stepClosing step with
  | closeEngine => exact (aside_closeEngine b).setup
  | _ => rfl

omit [Amplitude α] in
theorem setup_of_opening {rate : UInt32} {stage : Opening σ}
    (m : Opening.Move E t b rate stage b') : b'.setup = b.setup := by
  cases m with
  | withdrawEngine => exact (aside_closeEngine b).setup
  | _ => rfl

/-- **A bridge keeps to what it was set up with.** -/
theorem setup_eq_of_move (m : Move E t b label b') : b'.setup = b.setup := by
  cases m with
  | startOpen idle => exact setup_of_startClosing ..
  | startClose idle => exact setup_of_startClosing ..
  | closing here step => exact setup_of_stepClosing step
  | opening here step => exact setup_of_opening (move_of_stepOpening step)
  | refuseThread here => rfl
  | render here present move => rfl
  | startPull here free => rfl
  | pull here present move => rfl
  | aside aside step => exact (aside_of_step aside step).setup

end Bridge

end SynthBridge
