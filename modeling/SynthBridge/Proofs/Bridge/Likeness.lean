import Mathlib.Data.Option.Basic
import SynthBridge.Proofs.Bridge.Faithfulness

/-!
# Bridges that behave alike

Two bridges may differ in what they carry along of their past: the numbers of engines and channels,
what is remembered of files, listings that are still under way, and the records. If they differ in
nothing else (`Bridge.Alike`), then whatever somebody does with both of them, listings apart, has
the same answer (`Bridge.Alike.step`), and so has everything that is done after it
(`Bridge.Alike.answers_eq`).
-/

namespace SynthBridge

namespace Bridge

variable {α σ : Type}

/-! ## Likeness -/

/-- The stage of an opening whose engine and channel have other numbers. -/
def Opening.numbered (engine channel : Nat) : Opening σ → Opening σ
  | .create => .create
  | .resolve i candidates => .resolve { i with number := engine } candidates
  | .describe i c => .describe { i with number := engine } c
  | .addChannel i c => .addChannel { i with number := engine } c
  | .listen i s => .listen { i with number := engine } { s with channel }
  | .configure i s => .configure { i with number := engine } { s with channel }
  | .start i s => .start { i with number := engine } { s with channel }
  | .refuse i s code => .refuse { i with number := engine } { s with channel } code
  | .leave s outcome => .leave { s with channel } outcome
  | .checkSizes i s => .checkSizes { i with number := engine } { s with channel }
  | .fillEngine i s sizes => .fillEngine { i with number := engine } { s with channel } sizes
  | .fillPipeline s sizes => .fillPipeline { s with channel } sizes
  | .spawn s => .spawn { s with channel }
  | .withdrawEngine s reason => .withdrawEngine { s with channel } reason
  | .withdrawPipeline s reason => .withdrawPipeline { s with channel } reason
  | .makePlayer s => .makePlayer { s with channel }
  | .prime s player => .prime { s with channel } player
  | .fillPlayer s player => .fillPlayer { s with channel } player
  | .enable s => .enable { s with channel }
  | .finish s => .finish { s with channel }

def Controller.numbered (engine channel : Nat) : Controller σ → Controller σ
  | .idle => .idle
  | .closing s stage next => .closing { s with channel } stage next
  | .opening rate stage => .opening rate (stage.numbered engine channel)

/-- Two bridges differ in nothing but their past. -/
structure Alike (b c : Bridge α σ) : Prop where
  setup : c.setup = b.setup
  catalog : c.inventory.catalog = b.inventory.catalog
  engine : c.engine.map Instance.state = b.engine.map Instance.state
  limiter : c.limiter = b.limiter
  player : c.player = b.player
  pipeline : c.pipeline = b.pipeline
  renderer : c.renderer = b.renderer
  loaded : c.loaded = b.loaded
  controller : ∃ engine channel, c.controller = b.controller.numbered engine channel
  halfDone : c.halfDone = b.halfDone

/-! ## What is seen of a step -/

/-- What somebody sees of a step: how an opening or a closing ended in it, what is loaded and played
after it, the limiter with its statistics, the pulls that it answered, and what it asked engines and
logged. Looks at files are left out. -/
structure Answer (α : Type) where
  outcome : Option Outcome
  loaded : Option (String × String)
  played : UInt64
  limiter : Limiter α
  delivered : List Delivery
  asked : List (Call α)
  log : List (Log α)

/-- Whether an opening or a closing can end in a step. -/
def Label.ends : Label α → Bool
  | .startClose | .control => true
  | _ => false

/-- What is seen of the step from one state to another. -/
def answer (b : Bridge α σ) (label : Label α) (b' : Bridge α σ) : Answer α where
  outcome := if label.ends && b'.isIdle then b'.outcome else none
  loaded := b'.loaded
  played := b'.played
  limiter := b'.limiter
  delivered := Delivery.ofStep b.player b'.player
  asked := withoutLooks ((b'.calls.drop b.calls.length).map Prod.snd)
  log := b'.log.drop b.log.length

/-- Two steps agree on how an opening or a closing ends in them, if one does. -/
inductive Label.EndsAlike (label : Label α) (b c : Bridge α σ) : Prop
  | underway (busy : b.isIdle = false)
  | beside (other : label.ends = false)
  | same (outcome : c.outcome = b.outcome)

/-- The steps of two bridges look alike, and so are what they leave behind. -/
structure Echoes (label : Label α) (b c b' c' : Bridge α σ) : Prop where
  alike : b'.Alike c'
  answer : c.answer label c' = b.answer label b'

section Echoes

variable {b c b' c' : Bridge α σ} {label : Label α} {n n' : Nat} {events : List (Log α)}

theorem Alike.isIdle (h : b.Alike c) : c.isIdle = b.isIdle := by
  obtain ⟨engine, channel, same⟩ := h.controller
  unfold Bridge.isIdle
  rw [same]
  cases b.controller <;> rfl

theorem Alike.played (h : b.Alike c) : c.played = b.played := by
  rw [Bridge.played, h.pipeline]
  rfl

/-- Steps that ask for the same but for looks, log the same and end alike look alike. -/
theorem Alike.echoes (h : b.Alike c) (more more' : List (Call α)) (events : List (Log α))
    (alike : b'.Alike c')
    (ends : label.EndsAlike b' c')
    (calls : b'.calls = b.calls ++ more.map (n, ·))
    (calls' : c'.calls = c.calls ++ more'.map (n', ·))
    (same : withoutLooks more' = withoutLooks more) (log : b'.log = b.log ++ events)
    (log' : c'.log = c.log ++ events) : Echoes label b c b' c' := by
  refine ⟨alike, ?_⟩
  have ending : (if label.ends && c'.isIdle then c'.outcome else none) =
      if label.ends && b'.isIdle then b'.outcome else none := by
    rw [alike.isIdle]
    cases ends with
    | underway busy => simp only [busy, Bool.and_false, Bool.false_eq_true, if_false]
    | beside other => simp only [other, Bool.false_and, Bool.false_eq_true, if_false]
    | same outcome => rw [outcome]
  have asked : withoutLooks ((c'.calls.drop c.calls.length).map Prod.snd) =
      withoutLooks ((b'.calls.drop b.calls.length).map Prod.snd) := by
    rw [calls, calls', List.drop_left, List.drop_left, List.map_map, List.map_map]
    simpa only [Function.comp_def, List.map_id'] using same
  rw [Bridge.answer, Bridge.answer, ending, asked, alike.loaded, alike.played, alike.limiter,
    h.player, alike.player, log, log', List.drop_left, List.drop_left]

/-- Steps that ask for the same and log nothing look alike if they go on. -/
theorem Alike.asks (h : b.Alike c) (more : List (Call α)) (alike : b'.Alike c')
    (ends : label.EndsAlike b' c')
    (calls : b'.calls = b.calls ++ more.map (n, ·))
    (calls' : c'.calls = c.calls ++ more.map (n', ·))
    (log : b'.log = b.log) (log' : c'.log = c.log) : Echoes label b c b' c' :=
  h.echoes more more [] alike ends calls calls' rfl (log.trans (List.append_nil _).symm)
    (log'.trans (List.append_nil _).symm)

/-- Steps in which nothing is asked look alike if they log the same and end alike. -/
theorem Alike.logs (h : b.Alike c) (alike : b'.Alike c')
    (ends : label.EndsAlike b' c')
    (calls : b'.calls = b.calls) (calls' : c'.calls = c.calls) (log : b'.log = b.log ++ events)
    (log' : c'.log = c.log ++ events) : Echoes label b c b' c' := by
  have nothing : b'.calls = b.calls ++ ([] : List (Call α)).map (0, ·) := by
    rw [calls, List.map_nil, List.append_nil]
  have nothing' : c'.calls = c.calls ++ ([] : List (Call α)).map (0, ·) := by
    rw [calls', List.map_nil, List.append_nil]
  exact h.echoes [] [] events alike ends nothing nothing' rfl log log'

/-- Steps in which nothing is asked or logged look alike if they end alike. -/
theorem Alike.quiet (h : b.Alike c) (alike : b'.Alike c')
    (ends : label.EndsAlike b' c')
    (calls : b'.calls = b.calls) (calls' : c'.calls = c.calls) (log : b'.log = b.log)
    (log' : c'.log = c.log) : Echoes label b c b' c' :=
  h.logs alike ends calls calls' (log.trans (List.append_nil _).symm)
    (log'.trans (List.append_nil _).symm)

end Echoes

/-! ## Steps of the controller -/

section Control

variable {b c : Bridge α σ} {s : Session} {next : Option UInt32} {rate : UInt32} {label : Label α}

/-- Two bridges that behave alike are both open or both closed. -/
theorem Alike.session (h : b.Alike c) :
    b.session = none ∧ c.session = none ∨
      ∃ s channel, b.session = some s ∧ c.session = some { s with channel } := by
  have loaded := h.loaded
  unfold Bridge.loaded at loaded
  cases here : b.session with
  | none =>
    rw [here, Option.map_none, Option.map_eq_none_iff] at loaded
    exact .inl ⟨rfl, loaded⟩
  | some s =>
    rw [here, Option.map_some, Option.map_eq_some_iff] at loaded
    obtain ⟨⟨channel, model, dir⟩, there, same⟩ := loaded
    obtain ⟨rfl, rfl⟩ := Prod.mk.inj same
    exact .inr ⟨s, channel, rfl, there⟩

/-- Their slots have engines in the same state, or none. -/
theorem Alike.slot (h : b.Alike c) :
    b.engine = none ∧ c.engine = none ∨
      ∃ i number, b.engine = some i ∧ c.engine = some { i with number } := by
  have engine := h.engine
  cases here : b.engine with
  | none =>
    rw [here, Option.map_none, Option.map_eq_none_iff] at engine
    exact .inl ⟨rfl, engine⟩
  | some i =>
    rw [here, Option.map_some, Option.map_eq_some_iff] at engine
    obtain ⟨⟨number, state⟩, there, rfl⟩ := engine
    exact .inr ⟨i, number, rfl, there⟩

theorem Alike.startClosing (h : b.Alike c) :
    Echoes label b c (b.startClosing next) (c.startClosing next) := by
  rcases h.session with ⟨here, there⟩ | ⟨s, channel, here, there⟩
  · cases next with
    | none =>
      simp only [Bridge.startClosing, here, there]
      exact h.quiet { h with controller := ⟨0, 0, rfl⟩ } (.same rfl) rfl rfl rfl rfl
    | some rate =>
      simp only [Bridge.startClosing, here, there]
      exact h.quiet { h with controller := ⟨0, 0, rfl⟩ } (.underway rfl) rfl rfl rfl rfl
  · simp only [Bridge.startClosing, here, there]
    exact h.quiet { h with controller := ⟨0, channel, rfl⟩, loaded := rfl }
      (.underway rfl) rfl rfl rfl rfl

/-- The engine in the slot is closed alike, and the controller goes on. -/
theorem Alike.closeEngine (h : b.Alike c) {k : Controller σ} (engine channel : Nat)
    (busy : Bridge.isIdle { b.closeEngine with controller := k } = false) :
    Echoes label b c { b.closeEngine with controller := k }
      { c.closeEngine with controller := k.numbered engine channel } := by
  unfold Bridge.closeEngine at busy ⊢
  rcases h.slot with ⟨here, there⟩ | ⟨i, number, here, there⟩
  · simp only [here, there] at busy ⊢
    exact h.quiet { h with controller := ⟨engine, channel, rfl⟩, engine := rfl }
      (.underway busy) rfl rfl rfl rfl
  · simp only [here, there] at busy ⊢
    exact h.asks [.close] { h with controller := ⟨engine, channel, rfl⟩, engine := rfl }
      (.underway busy) rfl rfl rfl rfl

variable [Amplitude α] {E : Engine α σ} {t : FileTree}

/-- The session's threads and buffers are taken apart alike. -/
theorem Alike.tear (h : b.Alike c) (channel : Nat) (phase : Teardown) :
    Option.Rel (Echoes .control b c) (b.stepClosing s next (.tearing phase))
      (c.stepClosing { s with channel } next (.tearing phase)) := by
  by_cases last : ∃ recovered played, phase = .reclaim recovered played
  · obtain ⟨recovered, played, rfl⟩ := last
    have log : c.joined.log = c.log ++ b.panicLog := by
      rw [panicLog, ← h.renderer]
      rfl
    exact .some (h.logs { h with controller := ⟨0, channel, rfl⟩, renderer := rfl }
      (.underway rfl) rfl rfl rfl log)
  · have unfinished : ∀ recovered played, phase ≠ .reclaim recovered played := fun r p here =>
      last ⟨r, p, here⟩
    have gone : c.rendererGone = b.rendererGone := by rw [rendererGone, h.renderer, rendererGone]
    rw [stepClosing_tearing unfinished, stepClosing_tearing unfinished, h.pipeline, h.player, gone]
    cases b.pipeline with
    | none => exact .none
    | some p =>
      rw [Option.bind_some, Option.bind_some]
      cases phase.advance p b.player b.rendererGone with
      | none => exact .none
      | some torn =>
        exact .some (h.quiet
          { h with controller := ⟨0, channel, rfl⟩, pipeline := rfl, player := rfl }
          (.underway rfl) rfl rfl rfl rfl)

/-- **A session is closed** alike by two bridges that behave alike. -/
theorem Alike.stepClosing (h : b.Alike c) (channel : Nat) (stage : Closing) :
    Option.Rel (Echoes .control b c) (b.stepClosing s next stage)
      (c.stepClosing { s with channel } next stage) := by
  cases stage with
  | disable =>
    exact .some (h.quiet { h with controller := ⟨0, channel, rfl⟩ } (.underway rfl) rfl rfl rfl rfl)
  | tearing phase => exact h.tear channel phase
  | closeEngine phase => exact .some (h.closeEngine 0 channel rfl)
  | clearPipeline phase =>
    simp only [Bridge.stepClosing, h.pipeline]
    cases b.pipeline with
    | none => exact .none
    | some p =>
      exact .some (h.quiet { h with controller := ⟨0, channel, rfl⟩, pipeline := rfl }
        (.underway rfl) rfl rfl rfl rfl)
  | dropChannel phase p =>
    exact .some (h.quiet { h with controller := ⟨0, channel, rfl⟩ } (.underway rfl) rfl rfl rfl rfl)
  | count phase p =>
    simp only [Bridge.stepClosing]
    split
    · exact .some (h.logs { h with controller := ⟨0, channel, rfl⟩ }
        (.underway rfl) rfl rfl rfl rfl)
    · exact .none
  | clearLimiter report =>
    simp only [Bridge.stepClosing, h.limiter]
    exact .some (h.logs { h with controller := ⟨0, channel, rfl⟩, limiter := rfl }
      (.underway rfl) rfl rfl rfl rfl)
  | finish report =>
    cases next with
    | none =>
      exact .some (h.logs { h with controller := ⟨0, 0, rfl⟩ } (.same rfl) rfl rfl rfl rfl)
    | some rate =>
      exact .some (h.logs { h with controller := ⟨0, 0, rfl⟩ } (.underway rfl) rfl rfl rfl rfl)

end Control

/-! ## Opening -/

section Open

variable {b c : Bridge α σ} {rate : UInt32} {E : Engine α σ} {t : FileTree} {identify : Identifier}
  {catalog : Catalog}

/-- A candidate is tried alike, whatever is remembered of it. -/
theorem Alike.tries (h : b.Alike c) (identifies : E.Identifies identify)
    (truthful : b.inventory.Truthful identify t) (truthful' : c.inventory.Truthful identify t)
    {cand : Catalog.Candidate} (known : cand.entry ∈ b.inventory.catalog.entries) (i : Instance σ)
    (engine channel : Nat) (rest : List Catalog.Candidate) :
    Option.Rel (Echoes .control b c) (b.stepOpening E t rate (.resolve i (cand :: rest)))
      (c.stepOpening E t rate ((Opening.resolve i (cand :: rest)).numbered engine channel)) := by
  have start : Loading.Alike (α := α) { engine := i.state, inventory := b.inventory }
      { engine := i.state, inventory := c.inventory } := ⟨rfl, h.catalog, rfl, rfl⟩
  obtain ⟨answer, alike⟩ :=
    start.tryCandidate (t := t) (c := cand) (fun s => congrFun (identifies s) t) truthful truthful'
      known
  simp only [Bridge.stepOpening, Opening.numbered, tryCandidate_eq]
  generalize Loading.tryCandidate E t { engine := i.state, inventory := b.inventory } cand = x
    at answer alike ⊢
  generalize Loading.tryCandidate E t { engine := i.state, inventory := c.inventory } cand = x'
    at answer alike ⊢
  rw [answer, alike.engine]
  refine .some (h.echoes x.2.calls x'.2.calls x.2.log
    { h with catalog := alike.catalog, controller := ⟨engine, channel, ?_⟩ }
    (.underway rfl) rfl rfl alike.calls rfl ?_)
  · cases x.1 <;> rfl
  · rw [← alike.log]
    rfl

/-- **A session is opened** alike by two bridges that behave alike. -/
theorem Alike.stepOpening (h : b.Alike c) (identifies : E.Identifies identify)
    (faithful : b.Faithful catalog identify t) (faithful' : c.Faithful catalog identify t)
    {stage : Opening σ} (here : b.controller = .opening rate stage) (engine channel : Nat) :
    Option.Rel (Echoes .control b c) (b.stepOpening E t rate stage)
      (c.stepOpening E t rate (stage.numbered engine channel)) := by
  have candidates : c.candidates = b.candidates := by
    rw [Bridge.candidates, searchOrder, h.catalog, h.setup, Bridge.candidates, searchOrder]
  cases stage with
  | create =>
    have begun : c.stepOpening E t rate (Opening.create.numbered engine channel) = some
        ((c.makeEngine E).2.opening rate (.resolve (c.makeEngine E).1 b.candidates)) := by
      rw [← candidates]
      rfl
    rw [begun]
    exact .some (h.asks [.create] { h with controller := ⟨c.made, 0, rfl⟩ }
      (.underway rfl) rfl rfl rfl rfl)
  | resolve i candidates =>
    cases candidates with
    | nil =>
      have same : c.missingLog = b.missingLog ∧ c.missing = b.missing := by
        rw [missingLog, missing, searchOrder, h.setup]
        exact ⟨rfl, rfl⟩
      have missed : c.stepOpening E t rate ((Opening.resolve i []).numbered engine channel) =
          some ((c.logged b.missingLog).ended (.failed b.missing)) := by
        rw [← same.1, ← same.2]
        rfl
      rw [missed]
      exact .some (h.logs { h with controller := ⟨0, 0, rfl⟩ } (.same rfl) rfl rfl rfl rfl)
    | cons cand rest =>
      have known : cand.entry ∈ b.inventory.catalog.entries := by
        rw [faithful.same]
        apply faithful.sought
        rw [here]
        exact List.mem_cons_self
      exact h.tries identifies faithful.truthful faithful'.truthful known i engine channel rest
  | describe i cand =>
    simp only [Bridge.stepOpening, Opening.numbered, announce, h.setup]
    split
    · exact .some (h.echoes [.describe] [.describe] _
        { h with setup := h.setup, controller := ⟨engine, channel, rfl⟩ }
        (.underway rfl) rfl rfl rfl rfl rfl)
    · exact .some (h.quiet { h with setup := h.setup, controller := ⟨engine, channel, rfl⟩ }
        (.underway rfl) rfl rfl rfl rfl)
  | addChannel i cand =>
    exact .some (h.quiet { h with controller := ⟨engine, c.added, rfl⟩ }
      (.underway rfl) rfl rfl rfl rfl)
  | configure i s =>
    simp only [Bridge.stepOpening, Opening.numbered, h.setup]
    exact .some (h.asks [.configure rate b.setup.config.engine]
      { h with setup := h.setup, controller := ⟨engine, channel, rfl⟩ }
      (.underway rfl) rfl rfl rfl rfl)
  | start i s =>
    simp only [Bridge.stepOpening, Opening.numbered]
    split
    · exact .some (h.asks [.start _] { h with controller := ⟨engine, channel, rfl⟩ }
        (.underway rfl) rfl rfl rfl rfl)
    · exact .some (h.echoes [.start _] [.start _] _
        { h with controller := ⟨engine, channel, rfl⟩ } (.underway rfl) rfl rfl rfl rfl rfl)
  | refuse i s code =>
    exact .some (h.asks [.close] { h with controller := ⟨engine, channel, rfl⟩ }
      (.underway rfl) rfl rfl rfl rfl)
  | leave s outcome =>
    exact .some (h.quiet { h with controller := ⟨0, 0, rfl⟩ } (.same rfl) rfl rfl rfl rfl)
  | checkSizes i s =>
    simp only [Bridge.stepOpening, Opening.numbered, h.setup]
    split
    · exact .some (h.quiet { h with controller := ⟨engine, channel, rfl⟩ }
        (.underway rfl) rfl rfl rfl rfl)
    · exact .some (h.quiet { h with controller := ⟨engine, channel, rfl⟩ }
        (.underway rfl) rfl rfl rfl rfl)
  | fillEngine i s sizes =>
    exact .some (h.quiet { h with controller := ⟨engine, channel, rfl⟩, engine := rfl }
      (.underway rfl) rfl rfl rfl rfl)
  | fillPipeline s sizes =>
    exact .some (h.quiet { h with controller := ⟨engine, channel, rfl⟩, pipeline := rfl }
      (.underway rfl) rfl rfl rfl rfl)
  | spawn s =>
    simp only [Bridge.stepOpening, Opening.numbered, h.pipeline]
    cases b.pipeline with
    | none => exact .none
    | some p =>
      exact .some (h.quiet { h with controller := ⟨engine, channel, rfl⟩, renderer := rfl }
        (.underway rfl) rfl rfl rfl rfl)
  | withdrawEngine s reason => exact .some (h.closeEngine engine channel rfl)
  | withdrawPipeline s reason =>
    exact .some (h.quiet { h with controller := ⟨engine, channel, rfl⟩, pipeline := rfl }
      (.underway rfl) rfl rfl rfl rfl)
  | makePlayer s =>
    simp only [Bridge.stepOpening, Opening.numbered, h.pipeline]
    cases b.pipeline with
    | none => exact .none
    | some p =>
      exact .some (h.quiet { h with controller := ⟨engine, channel, rfl⟩, pipeline := rfl }
        (.underway rfl) rfl rfl rfl rfl)
  | prime s player =>
    simp only [Bridge.stepOpening, Opening.numbered, h.pipeline]
    split
    · exact .some (h.quiet { h with controller := ⟨engine, channel, rfl⟩ }
        (.underway rfl) rfl rfl rfl rfl)
    · cases b.pipeline with
      | none => exact .none
      | some p =>
        rw [Option.bind_some, Option.bind_some]
        cases player.advance p with
        | none => exact .none
        | some primed =>
          exact .some (h.quiet { h with controller := ⟨engine, channel, rfl⟩, pipeline := rfl }
            (.underway rfl) rfl rfl rfl rfl)
  | fillPlayer s player =>
    exact .some (h.quiet { h with controller := ⟨engine, channel, rfl⟩, player := rfl }
      (.underway rfl) rfl rfl rfl rfl)
  | finish s =>
    exact .some (h.quiet { h with controller := ⟨0, 0, rfl⟩, loaded := rfl }
      (.same rfl) rfl rfl rfl rfl)
  | _ =>
    exact .some (h.quiet { h with controller := ⟨engine, channel, rfl⟩ }
      (.underway rfl) rfl rfl rfl rfl)

/-- There is no render thread for either of them. -/
theorem Alike.refuseThread (h : b.Alike c) (reason : String) :
    Option.Rel (Echoes (.refuseThread reason) b c) (b.refuseThread reason)
      (c.refuseThread reason) := by
  obtain ⟨engine, channel, there⟩ := h.controller
  unfold Bridge.refuseThread
  rw [there]
  cases b.controller with
  | opening rate stage =>
    cases stage with
    | spawn s =>
      exact .some (h.quiet { h with controller := ⟨engine, channel, rfl⟩ }
        (.underway rfl) rfl rfl rfl rfl)
    | _ => exact .none
  | _ => exact .none

end Open

/-! ## Audio -/

section Audio

variable [Amplitude α] {b c : Bridge α σ} {E : Engine α σ} {i i' : Option (Instance σ)}

/-- A quantum does not depend on the number of the engine that renders it. -/
theorem quantum_alike (source : Source α σ) (frames : Nat)
    (same : i'.map Instance.state = i.map Instance.state) :
    Option.Rel (fun x x' => x'.1 = x.1 ∧ x'.2.map Instance.state = x.2.map Instance.state)
      (Renderer.quantum source.numbered frames i) (Renderer.quantum source.numbered frames i') := by
  cases i with
  | none =>
    rw [Option.map_none, Option.map_eq_none_iff] at same
    rw [same]
    exact .some ⟨rfl, rfl⟩
  | some i =>
    rw [Option.map_some, Option.map_eq_some_iff] at same
    obtain ⟨i', rfl, same⟩ := same
    simp only [Renderer.quantum, Source.numbered, same]
    cases source.render i.state frames with
    | none => exact .none
    | some rendered => exact .some ⟨rfl, rfl⟩

/-- Two render threads at one place go on alike with engines in one state. -/
theorem advance_alike (source : Source α σ) (r : Renderer α) (p : Pipeline) (l : Limiter α)
    (same : i'.map Instance.state = i.map Instance.state) :
    Option.Rel (fun x x' => x'.1 = x.1 ∧ x'.2.pipeline = x.2.pipeline ∧ x'.2.limiter = x.2.limiter ∧
        x'.2.service.map Instance.state = x.2.service.map Instance.state)
      (r.advance source.numbered ⟨p, i, l⟩) (r.advance source.numbered ⟨p, i', l⟩) := by
  cases stage : r.stage with
  | rendering =>
    have rendered := quantum_alike source p.frames same
    simp only [Renderer.advance, stage]
    generalize Renderer.quantum source.numbered p.frames i = x at rendered ⊢
    generalize Renderer.quantum source.numbered p.frames i' = x' at rendered ⊢
    cases rendered with
    | none => exact .some ⟨rfl, rfl, rfl, same⟩
    | some alike => exact .some ⟨by rw [alike.1], rfl, rfl, alike.2⟩
  | filling left =>
    cases left with
    | zero =>
      simp only [Renderer.advance, stage]
      exact .some ⟨rfl, rfl, rfl, same⟩
    | succ left =>
      simp only [Renderer.advance, stage]
      cases p.newBuffer.2.backstock.put? p.newBuffer.1 with
      | none => exact .none
      | some q => exact .some ⟨rfl, rfl, rfl, same⟩
  | deciding =>
    simp only [Renderer.advance, stage]
    split
    · exact .some ⟨rfl, rfl, rfl, same⟩
    · exact .some ⟨rfl, rfl, rfl, same⟩
  | taking samples =>
    simp only [Renderer.advance, stage]
    split
    · exact .some ⟨rfl, rfl, rfl, same⟩
    · exact .some ⟨rfl, rfl, rfl, same⟩
    · exact .none
  | limiting samples buffer =>
    simp only [Renderer.advance, stage]
    split
    · exact .some ⟨rfl, rfl, rfl, same⟩
    · exact .some ⟨rfl, rfl, rfl, same⟩
  | queueing buffer =>
    simp only [Renderer.advance, stage]
    cases p.playable.put? buffer with
    | none => exact .none
    | some q => exact .some ⟨rfl, rfl, rfl, same⟩
  | stopped =>
    simp only [Renderer.advance, stage]
    exact .none
  | panicked =>
    simp only [Renderer.advance, stage]
    exact .none

omit [Amplitude α] in
/-- Both render threads have their engines render, or neither has. -/
theorem Alike.renderCalls (h : b.Alike c) (r : Renderer α) :
    ∃ (more : List (Call α)) (n n' : Nat),
      Bridge.renderCalls r b.engine b.calls = b.calls ++ more.map (n, ·) ∧
      Bridge.renderCalls r c.engine c.calls = c.calls ++ more.map (n', ·) := by
  rcases h.slot with ⟨here, there⟩ | ⟨i, number, here, there⟩
  · rw [here, there]
    exact ⟨[], 0, 0, by simp [Bridge.renderCalls], by simp [Bridge.renderCalls]⟩
  · rw [here, there]
    cases stage : r.stage with
    | rendering =>
      exact ⟨[.render], i.number, number, by simp [Bridge.renderCalls, stage],
        by simp [Bridge.renderCalls, stage]⟩
    | _ =>
      exact ⟨[], 0, 0, by simp [Bridge.renderCalls, stage], by simp [Bridge.renderCalls, stage]⟩

/-- **The render threads** of two bridges that behave alike go on alike. -/
theorem Alike.stepRender (h : b.Alike c) :
    Option.Rel (Echoes .render b c) (b.stepRender E) (c.stepRender E) := by
  unfold Bridge.stepRender
  rw [h.renderer, h.pipeline, h.limiter]
  cases here : b.renderer with
  | none => exact .none
  | some r =>
    cases b.pipeline with
    | none => exact .none
    | some p =>
      obtain ⟨more, n, n', calls, calls'⟩ := h.renderCalls r
      have advanced := advance_alike E.toSource r p b.limiter h.engine
      simp only
      generalize r.advance E.numbered ⟨p, b.engine, b.limiter⟩ = x at advanced ⊢
      generalize r.advance E.numbered ⟨p, c.engine, b.limiter⟩ = x' at advanced ⊢
      cases advanced with
      | none => exact .none
      | some alike =>
        obtain ⟨renderer, pipeline, limiter, service⟩ := alike
        refine .some (h.asks more ?_ (.beside rfl) calls calls' rfl rfl)
        exact { h with
          renderer := congrArg some renderer
          pipeline := congrArg some pipeline
          engine := service
          limiter := limiter }

omit [Amplitude α] in
theorem Alike.startPull (h : b.Alike c) (samples : Nat) :
    Option.Rel (Echoes (.startPull samples) b c) (b.startPull samples) (c.startPull samples) := by
  unfold Bridge.startPull
  rw [h.player]
  cases b.player with
  | none => exact .none
  | some player =>
    simp only [Option.bind_some]
    split
    · exact .some (h.quiet { h with player := rfl } (.beside rfl) rfl rfl rfl rfl)
    · exact .none

omit [Amplitude α] in
/-- **The mixer pulls** alike from two bridges that behave alike. -/
theorem Alike.stepPull (h : b.Alike c) :
    Option.Rel (Echoes .pull b c) b.stepPull c.stepPull := by
  unfold Bridge.stepPull
  rw [h.player, h.pipeline]
  cases here : b.player with
  | none => exact .none
  | some player =>
    cases b.pipeline with
    | none => exact .none
    | some p =>
      simp only
      cases player.advance p with
      | none => exact .none
      | some pulled =>
        exact .some (h.quiet { h with player := rfl, pipeline := rfl }
          (.beside rfl) rfl rfl rfl rfl)

end Audio

/-! ## Events and levels -/

section Traffic

variable {b c : Bridge α σ} {label : Label α}

/-- **Events** are submitted alike: the position of playback is the same. -/
theorem Alike.submit (h : b.Alike c) (quiet : label.ends = false) (E : Engine α σ)
    (event : σ → UInt32 → σ) (call : UInt32 → Call α) (dropped : Log α) :
    Echoes label b c (b.submit E event call dropped) (c.submit E event call dropped) := by
  rcases h.slot with ⟨here, there⟩ | ⟨i, number, here, there⟩
  · simp only [Bridge.submit, here, there]
    exact h.logs { h with } (.beside quiet) rfl rfl rfl rfl
  · simp only [Bridge.submit, here, there, h.played]
    exact h.asks [.timestamp b.played, call (E.timestamp i.state b.played)] { h with engine := rfl }
      (.beside quiet) rfl rfl rfl rfl

variable [Amplitude α]

/-- A gain reaches both engines or none. -/
theorem Alike.setGain (h : b.Alike c) (E : Engine α σ) (left right : α) :
    Echoes (.setGain left right) b c (b.setGain E left right) (c.setGain E left right) := by
  have halfDone := congrArg (· ++ [(Volume.split left right).levels]) h.halfDone
  rcases h.slot with ⟨here, there⟩ | ⟨i, number, here, there⟩
  · simp only [Bridge.setGain, here, there]
    exact h.quiet { h with halfDone := halfDone, engine := rfl } (.beside rfl) rfl rfl rfl rfl
  · simp only [Bridge.setGain, here, there]
    exact h.asks [.gain (Volume.split left right).gain]
      { h with halfDone := halfDone, engine := rfl } (.beside rfl) rfl rfl rfl rfl

theorem Alike.setLevels (h : b.Alike c) (place : Nat) :
    Option.Rel (Echoes (.setLevels place) b c) (b.setLevels place) (c.setLevels place) := by
  unfold Bridge.setLevels
  rw [h.halfDone, h.limiter]
  cases b.halfDone[place]? with
  | none => exact .none
  | some levels =>
    exact .some (h.quiet { h with halfDone := rfl, limiter := rfl } (.beside rfl) rfl rfl rfl rfl)

end Traffic

/-! ## Every step -/

/-- Whether a label has to do with a listing. -/
def Label.isListing : Label α → Bool
  | .startList | .list _ => true
  | _ => false

section Step

variable [Amplitude α] {b c : Bridge α σ} {E : Engine α σ} {t : FileTree} {identify : Identifier}
  {catalog : Catalog}

/-- **Two bridges that behave alike** take the same steps, and the steps look alike. -/
theorem Alike.step (h : b.Alike c) (identifies : E.Identifies identify)
    (faithful : b.Faithful catalog identify t) (faithful' : c.Faithful catalog identify t)
    (label : Label α) (other : label.isListing = false) :
    Option.Rel (Echoes label b c) (b.step E t label) (c.step E t label) := by
  cases label with
  | startOpen rate =>
    simp only [Bridge.step, whenIdle, h.isIdle]
    split
    · exact .some h.startClosing
    · exact .none
  | startClose =>
    simp only [Bridge.step, whenIdle, h.isIdle]
    split
    · exact .some h.startClosing
    · exact .none
  | control =>
    obtain ⟨engine, channel, there⟩ := h.controller
    simp only [Bridge.step, stepControl, there]
    cases here : b.controller with
    | idle => exact .none
    | closing s stage next => exact h.stepClosing channel stage
    | opening rate stage => exact h.stepOpening identifies faithful faithful' here engine channel
  | refuseThread reason => exact h.refuseThread reason
  | render => exact h.stepRender
  | startPull samples => exact h.startPull samples
  | pull => exact h.stepPull
  | message bytes =>
    have sent : Echoes (.message bytes) b c (b.message E bytes) (c.message E bytes) := by
      unfold Bridge.message
      exact h.submit rfl E _ _ _
    exact .some sent
  | sysex bytes =>
    have sent : Echoes (.sysex bytes) b c (b.sysex E bytes) (c.sysex E bytes) := by
      unfold Bridge.sysex
      exact h.submit rfl E _ _ _
    exact .some sent
  | setGain left right => exact .some (h.setGain E left right)
  | setLevels place => exact h.setLevels place
  | _ => cases other

end Step

end Bridge

end SynthBridge
