import SynthBridge.Proofs.Bridge.Likeness
import SynthBridge.Proofs.Bridge.Volumes

/-!
# Sessions do not depend on earlier ones

What a bridge does when it has been used and closed is what a new one does: somebody who opens a
session on it, pulls, sends events and closes it gets the same answers, step by step, under the same
schedule of the render thread (`Bridge.sessions_independent`). The levels apart, everything that
outlives a session is as it was at the start when the session has ended (`Bridge.Unlevelled.step`),
or is of those things that do not matter (`Bridge.Alike`).
-/

namespace SynthBridge

namespace Bridge

variable {α σ : Type}

/-! ## Runs with answers -/

/-- The files are the given ones, and the engine identifies files in the given way. -/
structure Turn.Steady (turn : Turn α σ) (identify : Identifier) (t : FileTree) : Prop where
  files : turn.files = t
  identifies : turn.engine.Identifies identify

variable [Amplitude α]

/-- What is seen of the steps of a list of turns, one after the other; none of one that cannot be
taken, because somebody has to wait or there is nothing to pull from. -/
def answers (b : Bridge α σ) : List (Turn α σ) → List (Option (Answer α))
  | [] => []
  | turn :: rest =>
    match b.step turn.engine turn.files turn.label with
    | none => none :: b.answers rest
    | some b' => some (b.answer turn.label b') :: b'.answers rest

section Answers

variable {b c : Bridge α σ} {identify : Identifier} {t : FileTree} {catalog : Catalog}
  {turns : List (Turn α σ)}

/-- **Bridges that behave alike give the same answers** to whatever is done with them. -/
theorem Alike.answers_eq (h : b.Alike c) (faithful : b.Faithful catalog identify t)
    (faithful' : c.Faithful catalog identify t) (steady : ∀ turn ∈ turns, turn.Steady identify t)
    (other : ∀ turn ∈ turns, turn.label.isListing = false) : c.answers turns = b.answers turns := by
  induction turns generalizing b c with
  | nil => rfl
  | cons turn rest ih =>
    obtain ⟨⟨rfl, identifies⟩, steady⟩ := List.forall_mem_cons.1 steady
    obtain ⟨here, other⟩ := List.forall_mem_cons.1 other
    have steps := h.step identifies faithful faithful' turn.label here
    unfold answers
    cases taken : b.step turn.engine turn.files turn.label with
    | none =>
      rw [taken] at steps
      cases taken' : c.step turn.engine turn.files turn.label with
      | none => exact congrArg (none :: ·) (ih h faithful faithful' steady other)
      | some c' =>
        rw [taken'] at steps
        cases steps
    | some b' =>
      rw [taken] at steps
      cases taken' : c.step turn.engine turn.files turn.label with
      | none =>
        rw [taken'] at steps
        cases steps
      | some c' =>
        rw [taken'] at steps
        cases steps with
        | some echoes =>
          have next := ih echoes.alike (faithful.step identifies (move_of_step taken))
            (faithful'.step identifies (move_of_step taken')) steady other
          simp only [echoes.answer, next]

end Answers

/-! ## What is left of a session -/

/-- A session is being closed and the limiter has not been reset yet. -/
def Controller.unreset : Controller σ → Bool
  | .closing _ (.finish _) _ => false
  | .closing .. => true
  | _ => false

/-- The levels have never been changed, and the limiter has seen nothing but in a session. -/
structure Unlevelled (setup : Setup) (b : Bridge α σ) : Prop where
  setup : b.setup = setup
  halfDone : b.halfDone = []
  levels : b.limiter.reset = .new channelName
  unused : b.renderer = none → b.controller.unreset = false → b.limiter = .new channelName

section Unlevelled

variable {setup : Setup} {b b' : Bridge α σ} {E : Engine α σ} {t : FileTree} {label : Label α}

theorem unlevelled_new (setup : Setup) (catalog : Catalog) :
    Unlevelled setup (Bridge.new setup catalog : Bridge α σ) :=
  ⟨rfl, rfl, rfl, fun _ _ => rfl⟩

omit [Amplitude α] in
/-- Who sets out to open or to close a session leaves the limiter alone. -/
theorem limiter_of_startClosing {next : Option UInt32} (idle : b.controller = .idle)
    (gone : (b.startClosing next).renderer = none)
    (reset : (b.startClosing next).controller.unreset = false) :
    (b.startClosing next).limiter = b.limiter ∧ b.renderer = none ∧
      b.controller.unreset = false := by
  rw [idle]
  cases session : b.session with
  | none =>
    simp only [Bridge.startClosing, session] at gone ⊢
    cases next with
    | none => exact ⟨rfl, gone, rfl⟩
    | some rate => exact ⟨rfl, gone, rfl⟩
  | some s =>
    simp only [Bridge.startClosing, session] at reset
    cases reset

/-- Only a render thread uses the limiter, and who closes a session resets it. -/
theorem limiter_of_move (m : Bridge.Move E t b label b') (other : label.isLevel = false)
    (gone : b'.renderer = none) (reset : b'.controller.unreset = false) :
    b'.limiter = b.limiter.reset ∨
      b'.limiter = b.limiter ∧ b.renderer = none ∧ b.controller.unreset = false := by
  cases m with
  | startOpen idle => exact .inr (limiter_of_startClosing idle gone reset)
  | startClose idle => exact .inr (limiter_of_startClosing idle gone reset)
  | closing here step =>
    cases move_of_stepClosing step with
    | clearLimiter => exact .inl rfl
    | finish last => exact .inr ⟨rfl, gone, by rw [here]; rfl⟩
    | reopen more => exact .inr ⟨rfl, gone, by rw [here]; rfl⟩
    | _ => cases reset
  | opening here step =>
    cases move_of_stepOpening step with
    | spawn present => cases gone
    | withdrawEngine =>
      obtain ⟨calls, same⟩ := closeEngine_eq b
      rw [same] at gone ⊢
      exact .inr ⟨rfl, gone, by rw [here]; rfl⟩
    | _ => exact .inr ⟨rfl, gone, by rw [here]; rfl⟩
  | refuseThread here => exact .inr ⟨rfl, gone, by rw [here]; rfl⟩
  | render here present move => cases gone
  | startPull here free => exact .inr ⟨rfl, gone, reset⟩
  | pull here present move => exact .inr ⟨rfl, gone, reset⟩
  | aside aside step =>
    have beside := aside_of_step aside step
    rw [beside.renderer] at gone
    rw [beside.controller] at reset
    exact .inr ⟨(levels_of_aside aside other step).2, gone, reset⟩

/-- **Every step but a level change** leaves the levels as they were at the start, and when a
session has ended the limiter is as if there had been none. -/
theorem Unlevelled.step (h : Unlevelled setup b) (other : label.isLevel = false)
    (m : Bridge.Move E t b label b') : Unlevelled setup b' := by
  obtain ⟨halfDone, reset⟩ := levels_of_move m other
  refine ⟨(setup_eq_of_move m).trans h.setup, halfDone.trans h.halfDone, reset.trans h.levels, ?_⟩
  intro gone done
  rcases limiter_of_move m other gone done with anew | ⟨same, gone, done⟩
  · exact anew.trans h.levels
  · exact same.trans (h.unused gone done)

/-- **A closed bridge behaves like a new one**, unless levels have been changed. -/
theorem Unlevelled.alike {catalog : Catalog} (h : Unlevelled setup b)
    (same : b.inventory.catalog = catalog) (closed : b.WhollyClosed) (idle : b.controller = .idle) :
    (Bridge.new setup catalog).Alike b where
  setup := h.setup
  catalog := same
  engine := by
    rw [closed.engine]
    rfl
  limiter := h.unused closed.renderer (by rw [idle]; rfl)
  player := closed.player
  pipeline := closed.pipeline
  renderer := closed.renderer
  loaded := closed.loaded
  controller := ⟨0, 0, idle⟩
  halfDone := h.halfDone

end Unlevelled

/-! ## Sessions -/

/-- **Sessions do not depend on earlier ones.** After any run without level changes, of however many
openings that succeeded or failed, closings, pulls, events, listings and panics of the engine, a
bridge that is closed has a limiter that has seen nothing, and it answers whatever is done with it,
listings apart, as a new one does. The files stay as they are all the time, and all engines identify
them alike; what is not the same is how often they are asked to. -/
theorem sessions_independent (setup : Setup) (catalog : Catalog) {identify : Identifier}
    {t : FileTree} {history turns : List (Turn α σ)} {b : Bridge α σ}
    (run : (Bridge.new setup catalog).after? history = some b) (idle : b.isIdle = true)
    (closed : b.isOpen = false)
    (steady : ∀ turn ∈ history ++ turns, turn.Steady identify t)
    (unlevelled : ∀ turn ∈ history, turn.label.isLevel = false)
    (unlisted : ∀ turn ∈ turns, turn.label.isListing = false) :
    b.limiter = .new channelName ∧ b.answers turns = (Bridge.new setup catalog).answers turns := by
  have idle := isIdle_iff.1 idle
  have nothing : b.WhollyClosed := ((whole_after? run).idle idle).resolve_left fun opened => by
    simp [opened.1.isOpen] at closed
  obtain ⟨before, after⟩ := List.forall_mem_append.1 steady
  have kept : Unlevelled setup b ∧ b.Faithful catalog identify t := by
    refine after?_induction_of (P := fun b => Unlevelled setup b ∧ b.Faithful catalog identify t)
      (Q := fun turn => turn.Steady identify t ∧ turn.label.isLevel = false) ?_
      (fun turn mem => ⟨before turn mem, unlevelled turn mem⟩)
      ⟨unlevelled_new setup catalog, faithful_new setup catalog⟩ run
    rintro b turn b' ⟨⟨rfl, identifies⟩, other⟩ ⟨levels, faithful⟩ m
    exact ⟨levels.step other m, faithful.step identifies m⟩
  obtain ⟨levels, faithful⟩ := kept
  have alike := levels.alike faithful.same nothing idle
  exact ⟨alike.limiter, alike.answers_eq (faithful_new setup catalog) faithful after unlisted⟩

/-- A session is opened; a listing is begun in it, the mixer pulls, and an event is sent. Another
one is opened, for which the engine refuses to open. Then a session is opened, used and closed:
every step of it can be taken, and has the answer that a new bridge gives. -/
theorem sessions_independent_refused :
    let first : List (Label Extended) := openingLabels ++ [.startList, .list 0, .list 0,
      .startPull 2, .pull, .pull, .message [0x90, 0x40, 0x7f]]
    let history := first.map (⟨pocketEngine, pocketFiles, ·⟩) ++
      refusalLabels.map (⟨refusingEngine, pocketFiles, ·⟩)
    let last : List (Label Extended) := openingLabels ++ [.message [0x90, 0x40, 0x7f], .startPull 2,
      .pull, .pull, .startClose] ++ List.replicate 6 .control ++
      .render :: List.replicate 8 .control
    let turns := last.map (⟨pocketEngine, pocketFiles, ·⟩)
    ∃ b, (Bridge.new pocketSetup pocketCatalog).after? history = some b ∧ b.isIdle = true ∧
      b.isOpen = false ∧ b.inventory.known ≠ [] ∧ b.limiter = .new channelName ∧
      b.answers turns = (Bridge.new pocketSetup pocketCatalog).answers turns ∧
      (b.answers turns).all Option.isSome = true := by
  intro first history last turns
  have runs : ((Bridge.new pocketSetup pocketCatalog).after? history).any (fun b =>
      b.isIdle && !b.isOpen && !b.inventory.known.isEmpty) = true := by decide +kernel
  obtain ⟨b, run, facts⟩ := (Option.any_eq_true ..).1 runs
  simp only [Bool.and_eq_true, Bool.not_eq_true', List.isEmpty_eq_false_iff] at facts
  obtain ⟨⟨idle, closed⟩, known⟩ := facts
  have steady : ∀ turn ∈ history ++ turns,
      turn.Steady (fun t path => (Scripted.romText t path).map Scripted.infoOfText)
        pocketFiles := by
    simp only [history, turns, List.forall_mem_append, List.forall_mem_map]
    exact ⟨⟨fun _ _ => ⟨rfl, fun _ => rfl⟩, fun _ _ => ⟨rfl, fun _ => rfl⟩⟩,
      fun _ _ => ⟨rfl, fun _ => rfl⟩⟩
  have unlevelled : ∀ turn ∈ history, turn.label.isLevel = false := by
    simp only [history, List.forall_mem_append, List.forall_mem_map]
    exact ⟨by decide, by decide⟩
  have unlisted : ∀ turn ∈ turns, turn.label.isListing = false := by
    simp only [turns, List.forall_mem_map]
    decide
  obtain ⟨limiter, same⟩ := sessions_independent pocketSetup pocketCatalog run idle closed steady
    unlevelled unlisted
  refine ⟨b, run, idle, closed, known, limiter, same, ?_⟩
  rw [same]
  decide +kernel

end Bridge

end SynthBridge
