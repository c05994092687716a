import SynthBridge.Proofs.Bridge.Engagement

/-!
# The lifetimes of a bridge's engines

Whatever the threads that use a bridge do, and whatever engines and files there are at the time,
each engine gets its calls in the order of a life (`Engine.Life`), which leads as far as its opening
came, and the engines of listings are only asked to identify files: `Bridge.engines_live`. Of all
engines, at most one is open at a time.

An opening for whose sizes there is no pipeline is left by a panic, and what becomes of its engine
is an exception: it has been opened by then, and nobody closes it. And no engine is described where
nobody would hear of it (`Bridge.engines_left_open_and_undescribed`).
-/

namespace SynthBridge

namespace Bridge

variable {α σ : Type}

/-! ## What is to be said of engines -/

/-- The opening was left by a panic. -/
def Attempt.Panicked (a : Attempt) : Prop := ∃ fault, a.outcome = some (.panicked fault)

/-- There was no render thread, and the engine has been closed for that. -/
def Opening.hasWithdrawn : Opening σ → Bool
  | .withdrawPipeline .. | .leave _ (.failed (.threadRefused _)) => true
  | _ => false

/-- What the engines of a bridge have been asked, with the openings so far, where events of level
info are reported or not. -/
structure EnginesLive (informs : Bool) (b : Bridge α σ) (as : List Attempt) : Prop where
  /-- Each opening has an engine of its own. -/
  made : ∀ a ∈ as, a.engine < b.made
  distinct : (as.map Attempt.engine).Nodup
  /-- The engines that no opening made are those of listings. -/
  listed : ∀ n < b.made, n ∉ as.map Attempt.engine → Engine.Lists (callsTo n b.calls)
  surveyed : ∀ s ∈ b.surveys, s.engine.number < b.made ∧ s.engine.number ∉ as.map Attempt.engine
  /-- An opening that has ended left its engine as its outcome says. -/
  ended : ∀ a ∈ as, ∀ outcome, a.outcome = some outcome →
    outcome.Leaves informs (b.inSlot = some a.engine) (callsTo a.engine b.calls)
  /-- An opening under way has come to some stage. It closes an open engine only where there is no
  render thread. -/
  underway : ∀ a ∈ as, a.outcome = none →
    ∃ stage, Engine.Life informs stage (callsTo a.engine b.calls) ∧
      (stage = .closed →
        ∃ opening, b.controller.underway = some opening ∧ opening.hasWithdrawn = true)
  /-- Only one engine is open, but for those that were left by a panic. -/
  oneOpen : ∀ a ∈ as, ∀ a' ∈ as, ¬a.Panicked → ¬a'.Panicked →
    Engine.IsOpen (callsTo a.engine b.calls) → Engine.IsOpen (callsTo a'.engine b.calls) → a = a'

section Live

variable {b : Bridge α σ} {as : List Attempt} {a : Attempt} {outcome : Outcome} {informs : Bool}
  {calls : List (Call α)} {number : Nat} {opening : Opening σ} {slot : Option Nat}

/-- Where an opening that has ended leaves an open engine, the engine is in the slot, or there was a
panic. -/
theorem Outcome.Leaves.engaged {engaged : Prop} (h : outcome.Leaves informs engaged calls)
    (isOpen : Engine.IsOpen calls) : engaged ∨ ∃ fault, outcome = .panicked fault := by
  have never : ∀ stage, stage.isOpen = false → ¬Engine.Life informs stage calls := by
    intro stage ended life
    rw [life.isOpen_iff, ended] at isOpen
    cases isOpen
  cases outcome with
  | opened =>
    rcases h with ⟨here, -⟩ | ⟨-, closed⟩
    · exact .inl here
    · exact absurd closed (never _ rfl)
  | failed f =>
    cases f with
    | romsNotFound selector dirs => exact absurd h (never _ rfl)
    | engineRefused code => exact absurd h (never _ rfl)
    | threadRefused reason => exact absurd h (never _ rfl)
    | _ => cases h
  | panicked fault => exact .inr ⟨fault, rfl⟩
  | closed report => cases h

/-- An opening that has failed, or was left by a panic, has not closed an engine that was open,
unless there was no render thread. -/
theorem Outcome.Leaves.stage {engaged : Prop} (h : outcome.Leaves informs engaged calls)
    (failed : outcome ≠ .opened) (s : Session) :
    ∃ stage, Engine.Life informs stage calls ∧
      (stage = .closed → (Opening.leave s outcome : Opening σ).hasWithdrawn = true) := by
  cases outcome with
  | opened => exact absurd rfl failed
  | failed f =>
    cases f with
    | romsNotFound selector dirs => exact ⟨.loading, h, nofun⟩
    | engineRefused code => exact ⟨.dismissed, h, nofun⟩
    | threadRefused reason => exact ⟨.closed, h, fun _ => rfl⟩
    | _ => cases h
  | panicked fault => exact ⟨.started, h, nofun⟩
  | closed report => cases h

/-- The engine of an opening under way is at some stage. -/
theorem Opening.Drives.stage (h : opening.Drives informs slot number calls) :
    ∃ stage, Engine.Life informs stage calls ∧
      (stage = .closed → opening.hasWithdrawn = true) := by
  cases opening with
  | create => cases h
  | resolve i cs => exact ⟨.loading, h.2, nofun⟩
  | describe i c => exact ⟨.loading, h.2, nofun⟩
  | addChannel i c => exact ⟨.announced, h.2, nofun⟩
  | listen i s => exact ⟨.announced, h.2, nofun⟩
  | configure i s => exact ⟨.announced, h.2, nofun⟩
  | start i s => exact ⟨.configured, h.2, nofun⟩
  | refuse i s code => exact ⟨.refused, h.2, nofun⟩
  | leave s outcome => exact Outcome.Leaves.stage h.2 h.1 s
  | checkSizes i s => exact ⟨.started, h.2, nofun⟩
  | fillEngine i s sizes => exact ⟨.started, h.2, nofun⟩
  | withdrawPipeline s reason => exact ⟨.closed, h, fun _ => rfl⟩
  | _ =>
    obtain ⟨-, stage, isOpen, life⟩ := h
    refine ⟨stage, life, ?_⟩
    rintro rfl
    cases isOpen

/-- What is said of an opening that has ended. -/
theorem Lawful.leaves (h : b.Lawful as) (mem : a ∈ as) (ended : a.outcome = some outcome) :
    outcome.Leaves b.setup.informs (b.inSlot = some a.engine) (callsTo a.engine b.calls) := by
  have of_ended : a.Ended b.roll →
      outcome.Leaves b.setup.informs (b.inSlot = some a.engine) (callsTo a.engine b.calls) := by
    rintro ⟨outcome', same, leaves⟩
    obtain rfl : outcome' = outcome := Option.some.inj (same.symm.trans ended)
    exact leaves
  have follow := h.follow
  cases underway : b.controller.underway with
  | none =>
    rw [underway] at follow
    exact of_ended (follow a mem)
  | some stage =>
    rw [underway] at follow
    obtain ⟨first, rest, rfl, none, -, others⟩ := follow
    rcases List.mem_cons.1 mem with rfl | old
    · cases none.symm.trans ended
    · exact of_ended (others a old)

/-- Only the latest opening can be under way. -/
theorem Lawful.underway (h : b.Lawful as) (mem : a ∈ as) (none : a.outcome = none) :
    ∃ opening rest, b.controller.underway = some opening ∧ as = a :: rest ∧
      opening.Drives b.setup.informs b.inSlot a.engine (callsTo a.engine b.calls) := by
  have pending : ¬a.Ended b.roll := by
    rintro ⟨outcome, ended, -⟩
    cases none.symm.trans ended
  have follow := h.follow
  cases underway : b.controller.underway with
  | none =>
    rw [underway] at follow
    exact absurd (follow a mem) pending
  | some stage =>
    rw [underway] at follow
    obtain ⟨first, rest, rfl, -, drive, others⟩ := follow
    rcases List.mem_cons.1 mem with rfl | old
    · exact ⟨stage, rest, rfl, rfl, drive⟩
    · exact absurd (others a old) pending

/-- An open engine is in the slot, or nothing is and the latest opening has just opened it. -/
theorem Lawful.place_of_isOpen (h : b.Lawful as) (fitted : b.Fitted) (mem : a ∈ as)
    (calm : ¬a.Panicked) (isOpen : Engine.IsOpen (callsTo a.engine b.calls)) :
    b.inSlot = some a.engine ∨ a.outcome = none ∧ b.inSlot = none := by
  cases ended : a.outcome with
  | some outcome =>
    rcases Outcome.Leaves.engaged (h.leaves mem ended) isOpen with here | ⟨fault, rfl⟩
    · exact .inl here
    · exact absurd ⟨fault, ended⟩ calm
  | none =>
    obtain ⟨stage, rest, underway, rfl, drive⟩ := h.underway mem ended
    cases slot : b.inSlot with
    | none => exact .inr ⟨rfl, rfl⟩
    | some n =>
      have late := fitted.late slot stage underway
      rw [Opening.drives_of_fitting late, slot] at drive
      exact .inl drive.1

theorem Lawful.enginesLive (h : b.Lawful as) (fitted : b.Fitted) :
    b.EnginesLive b.setup.informs as := by
  refine ⟨h.made, h.distinct, h.listed, fun s mem => h.listing _ (List.mem_map_of_mem mem),
    fun a mem outcome ended => h.leaves mem ended, ?_, ?_⟩
  · intro a mem none
    obtain ⟨opening, rest, underway, -, drive⟩ := h.underway mem none
    obtain ⟨stage, life, closes⟩ := Opening.Drives.stage drive
    exact ⟨stage, life, fun closed => ⟨opening, underway, closes closed⟩⟩
  · intro a mem a' mem' calm calm' isOpen isOpen'
    rcases h.place_of_isOpen fitted mem calm isOpen with here | ⟨none, empty⟩
    · rcases h.place_of_isOpen fitted mem' calm' isOpen' with here' | ⟨none', empty'⟩
      · exact h.eq_of_engine mem mem' (Option.some.inj (here.symm.trans here'))
      · cases here.symm.trans empty'
    · rcases h.place_of_isOpen fitted mem' calm' isOpen' with here' | ⟨none', empty'⟩
      · cases here'.symm.trans empty
      · obtain ⟨-, rest, -, same, -⟩ := h.underway mem none
        obtain ⟨-, rest', -, same', -⟩ := h.underway mem' none'
        exact (List.cons.inj (same.symm.trans same')).1

end Live

/-! ## Every run -/

variable [Amplitude α]

/-- **Every engine lives as it should**, in every run: the engine of a listing is only asked to
identify files; that of an opening is asked to look at files, to take and to forget them; if a model
was found it is described, where that is reported and only there, then configured and opened, each
once; if it refuses to open it is closed and gets no more calls; if it opens it plays until it is
taken out of its slot and closed, and gets no more calls, and that is so as well where the opening
fails for want of a render thread. Only one engine is open at a time. An opening that was left by a
panic is excepted: its engine has been opened and gets no more calls. -/
theorem engines_live (setup : Setup) (catalog : Catalog) {turns : List (Engaged.Turn α σ)}
    {x : Engaged α σ} {as : List Attempt}
    (run : noted? Engaged.turn? Engaged.noteOpenings (Engaged.new setup catalog) [] turns =
      some (x, as)) : x.bridge.EnginesLive setup.informs as := by
  have sound := Engaged.sound_of_run run
  have live := sound.lawful.enginesLive sound.whole.fitted
  rwa [Engaged.setup_of_run run] at live

/-- The labels of an opening that succeeds. -/
def openingLabels : List (Label Extended) :=
  .startOpen 32000 :: List.replicate 13 .control ++ List.replicate 7 .render ++
    List.replicate 5 .control

/-- Those of another after it, for which the engine refuses to open. -/
def refusalLabels : List (Label Extended) :=
  .startOpen 32000 :: List.replicate 6 .control ++ .render :: List.replicate 17 .control

/-- Those of a third, for which there is no render thread, up to where the controller learns so. -/
def threadlessLabels : List (Label Extended) :=
  .startOpen 32000 :: List.replicate 10 .control ++ [.refuseThread "no memory"]

/-- A session is opened, a listing is begun, and while a sender has hold of the engine the mixer
pulls and the listing goes on. Then another session is opened, for which the engine refuses to
open, and a third, for which there is no render thread; an event is sent before the controller has
withdrawn the engine. -/
theorem engines_live_refused :
    let first : List (Engaged.Deed Extended) := openingLabels.map .other ++
      [.other .startList, .other (.list 0), .send (.short [0x90, 0x40, 0x7f]), .go,
        .other (.startPull 2), .go, .other (.list 0), .other .pull, .go, .other .pull]
    let second : List (Engaged.Deed Extended) := refusalLabels.map .other
    let third : List (Engaged.Deed Extended) := threadlessLabels.map .other ++
      [.send (.short [0x90, 0x40, 0x7f]), .go, .go, .go] ++ List.replicate 3 (.other .control)
    let turns := first.map (⟨pocketEngine, pocketFiles, ·⟩) ++
      second.map (⟨refusingEngine, pocketFiles, ·⟩) ++
      third.map (⟨pocketEngine, pocketFiles, ·⟩)
    ∃ x as, noted? Engaged.turn? Engaged.noteOpenings (Engaged.new pocketSetup pocketCatalog) []
        turns = some (x, as) ∧ x.bridge.EnginesLive true as ∧
      Engine.Life true .closed (callsTo 0 x.bridge.calls) ∧
      Engine.Lists (callsTo 1 x.bridge.calls) ∧
      Engine.Life true .dismissed (callsTo 2 x.bridge.calls) ∧
      Engine.Life true .closed (callsTo 3 x.bridge.calls) := by
  intro first second third turns
  have runs : (noted? Engaged.turn? Engaged.noteOpenings (Engaged.new pocketSetup pocketCatalog) []
      turns).any (fun y => y.1.bridge.made == 4 && y.1.bridge.inSlot == none &&
        y.2 == [⟨3, some (.failed (.threadRefused "no memory"))⟩,
          ⟨2, some (.failed (.engineRefused (-3)))⟩, ⟨0, some .opened⟩]) = true := by
    decide +kernel
  obtain ⟨⟨x, as⟩, run, facts⟩ := (Option.any_eq_true ..).1 runs
  simp only [Bool.and_eq_true, beq_iff_eq] at facts
  obtain ⟨⟨made, empty⟩, rfl⟩ := facts
  have live := engines_live pocketSetup pocketCatalog run
  refine ⟨x, _, run, live, ?_, live.listed 1 (by omega) (by simp), ?_, ?_⟩
  · have opened := live.ended ⟨0, some .opened⟩ (by simp) .opened rfl
    exact (opened.resolve_left fun still => by simp [empty] at still).2
  · exact live.ended ⟨2, some (.failed (.engineRefused (-3)))⟩ (by simp) _ rfl
  · exact live.ended ⟨3, some (.failed (.threadRefused "no memory"))⟩ (by simp) _ rfl

/-- **Engines may be left open, and undescribed.** Where a single buffer is asked for, each of two
openings is left by a panic when its engine has been opened; both engines are open then, and none is
ever closed. Where events of level info are not reported, an opening succeeds without its engine
having been described. -/
theorem engines_left_open_and_undescribed :
    let opens : List (Engaged.Deed Extended) :=
      (Label.startOpen 32000 :: List.replicate 9 .control).map .other
    let turns := (opens ++ opens).map (⟨pocketEngine, pocketFiles, ·⟩)
    let quiet := (openingLabels.map .other).map (⟨pocketEngine, pocketFiles, ·⟩)
    (∃ x as, noted? Engaged.turn? Engaged.noteOpenings
        (Engaged.new { pocketSetup with capacity := 1 } pocketCatalog) [] turns = some (x, as) ∧
      x.bridge.isIdle = true ∧ as.map Attempt.engine = [1, 0] ∧
      Engine.IsOpen (callsTo 0 x.bridge.calls) ∧ Engine.IsOpen (callsTo 1 x.bridge.calls)) ∧
    ∃ x : Engaged Extended (Scripted.State Extended), ∃ as, noted? Engaged.turn?
        Engaged.noteOpenings (Engaged.new { pocketSetup with informs := false } pocketCatalog) []
        quiet = some (x, as) ∧
      as = [⟨0, some .opened⟩] ∧ .describe ∉ callsTo 0 x.bridge.calls := by
  intro opens turns quiet
  constructor
  · have runs : (noted? Engaged.turn? Engaged.noteOpenings
        (Engaged.new { pocketSetup with capacity := 1 } pocketCatalog) [] turns).any (fun y =>
          y.1.bridge.isIdle && y.2 == [⟨1, some (.panicked .tooFewBuffers)⟩,
            ⟨0, some (.panicked .tooFewBuffers)⟩]) = true := by
      decide +kernel
    obtain ⟨⟨x, as⟩, run, facts⟩ := (Option.any_eq_true ..).1 runs
    simp only [Bool.and_eq_true, beq_iff_eq] at facts
    obtain ⟨idle, rfl⟩ := facts
    have isOpen : ∀ a : Attempt, a ∈ [⟨1, some (.panicked .tooFewBuffers)⟩,
        ⟨0, some (.panicked .tooFewBuffers)⟩] → a.outcome = some (.panicked .tooFewBuffers) →
        Engine.IsOpen (callsTo a.engine x.bridge.calls) := by
      intro a mem panicked
      have started : Engine.Life x.bridge.setup.informs .started
          (callsTo a.engine x.bridge.calls) :=
        (Engaged.sound_of_run run).lawful.leaves mem panicked
      exact started.isOpen_iff.2 rfl
    exact ⟨x, _, run, idle, rfl, isOpen ⟨0, _⟩ (by simp) rfl, isOpen ⟨1, _⟩ (by simp) rfl⟩
  · have runs : (noted? Engaged.turn? Engaged.noteOpenings
        (Engaged.new { pocketSetup with informs := false } pocketCatalog) [] quiet).any (fun y =>
          y.2 == [⟨0, some .opened⟩]) = true := by
      decide +kernel
    obtain ⟨⟨x, as⟩, run, facts⟩ := (Option.any_eq_true ..).1 runs
    obtain rfl := beq_iff_eq.1 facts
    have silent : x.bridge.setup.informs = false := by rw [Engaged.setup_of_run run]
    have opened := (Engaged.sound_of_run run).lawful.leaves (List.mem_singleton_self _) rfl
    rw [silent] at opened
    refine ⟨x, _, run, rfl, ?_⟩
    rcases opened with ⟨-, stage, -, life⟩ | ⟨-, life⟩
    · simp [life.describe_mem_iff]
    · simp [life.describe_mem_iff]

end Bridge

end SynthBridge
