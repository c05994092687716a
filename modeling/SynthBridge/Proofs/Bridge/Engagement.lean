import SynthBridge.Bridge.Sending
import SynthBridge.Proofs.Bridge.Lives
import SynthBridge.Proofs.Histories

/-!
# Runs with senders

`Bridge.Engaged.Move` has the steps of a bridge whose engine a sender may have hold of. Those of the
sender leave everything but the engine in the slot alone, and so what holds of a bridge through all
of its own steps holds of it through these as well (`Bridge.Engaged.sound_of_run`).
-/

namespace SynthBridge

namespace Bridge

namespace Engaged

variable {α σ : Type} [Amplitude α]

/-! ## Runs in a changing world -/

/-- A deed, with the engines and the files that there are at the time. -/
structure Turn (α σ : Type) where
  engine : Engine α σ
  files : FileTree
  deed : Deed α

/-- One step of somebody. -/
def turn? (x : Engaged α σ) (turn : Turn α σ) : Option (Engaged α σ) :=
  x.step turn.engine turn.files turn.deed

/-- The openings of a run, with their engines and outcomes, are kept in a register. -/
def noteOpenings (x : Engaged α σ) (_ : Turn α σ) (x' : Engaged α σ) (as : List Attempt) :
    List Attempt :=
  register as x.bridge x'.bridge

/-! ## Steps -/

variable {E : Engine α σ} {t : FileTree} {x x' : Engaged α σ} {deed : Deed α}

/-- The steps of a bridge and of its senders. -/
inductive Move (E : Engine α σ) (t : FileTree) (x : Engaged α σ) :
    Deed α → Engaged α σ → Prop
  | other {label : Label α} {b : Bridge α σ} (free : x.hinders label = false)
      (move : Bridge.Move E t x.bridge label b) : Move E t x (.other label) { x with bridge := b }
  /-- There is no engine, and the event is dropped. -/
  | drop {e : Event} (free : x.sending = none) (empty : x.bridge.engine = none) :
      Move E t x (.send e) { x with bridge := x.bridge.logged [e.dropped] }
  | hold {e : Event} {i : Instance σ} (free : x.sending = none)
      (here : x.bridge.engine = some i) : Move E t x (.send e) { x with sending := some (.read e) }
  | read {e : Event} {i : Instance σ} (at' : x.sending = some (.read e))
      (here : x.bridge.engine = some i) :
      Move E t x .go { x with sending := some (.convert e x.bridge.played) }
  | convert {e : Event} {position : UInt64} {i : Instance σ}
      (at' : x.sending = some (.convert e position)) (here : x.bridge.engine = some i) :
      Move E t x .go {
        bridge := x.bridge.called i.number [.timestamp position]
        sending := some (.submit e (E.timestamp i.state position)) }
  | submit {e : Event} {time : UInt32} {i : Instance σ}
      (at' : x.sending = some (.submit e time)) (here : x.bridge.engine = some i) :
      Move E t x .go {
        bridge :=
          { x.bridge.called i.number [e.call time] with
            engine := some { i with state := e.play E i.state time } } }

/-- **Every step is one of these moves.** -/
theorem move_of_step (h : x.step E t deed = some x') : Move E t x deed x' := by
  cases deed with
  | other label =>
    simp only [step, Option.ite_none_left_eq_some, Option.map_eq_some_iff] at h
    obtain ⟨free, b, step, rfl⟩ := h
    exact .other (Bool.eq_false_iff.2 free) (Bridge.move_of_step step)
  | send e =>
    simp only [step, send] at h
    split at h
    · cases h
    · rename_i free empty
      obtain ⟨rfl⟩ := h
      exact .drop free empty
    · rename_i free here
      obtain ⟨rfl⟩ := h
      exact .hold free here
  | go =>
    simp only [step, go] at h
    split at h
    · rename_i at' here
      obtain ⟨rfl⟩ := h
      exact .read at' here
    · rename_i at' here
      obtain ⟨rfl⟩ := h
      exact .convert at' here
    · rename_i at' here
      obtain ⟨rfl⟩ := h
      exact .submit at' here
    · cases h

theorem setup_eq_of_move (m : Move E t x deed x') : x'.bridge.setup = x.bridge.setup := by
  cases m with
  | other free move => exact Bridge.setup_eq_of_move move
  | _ => rfl

/-! ## What senders leave alone -/

end Engaged

section Beside

variable {α σ : Type} {b : Bridge α σ} {i i' : Instance σ} {number : Nat} {more : List (Call α)}

theorem Whole.beside {b' : Bridge α σ} (h : b.Whole) (aside : b.Aside b') (uses : b.Uses b') :
    b'.Whole := by
  obtain ⟨⟨ds, sound⟩, fitted⟩ := h
  exact ⟨⟨ds, aside.sound sound⟩, uses.fitted fitted aside.controller aside.session aside.outcome⟩

/-- Whoever logs something does nothing else. -/
theorem Whole.logged (h : b.Whole) (events : List (Log α)) : (b.logged events).Whole :=
  h.beside ⟨rfl, rfl, rfl, rfl, rfl, rfl, rfl⟩ ⟨rfl, rfl, List.Subset.refl _⟩

theorem Whole.called (h : b.Whole) (number : Nat) (more : List (Call α)) :
    (b.called number more).Whole :=
  h.beside ⟨rfl, rfl, rfl, rfl, rfl, rfl, rfl⟩ ⟨rfl, rfl, List.subset_append_left ..⟩

/-- An engine may change its state in its slot. -/
theorem Whole.used (h : b.Whole) (here : b.engine = some i) (same : i'.number = i.number) :
    Whole { b with engine := some i' } :=
  h.beside ⟨rfl, rfl, rfl, rfl, rfl, rfl, rfl⟩
    ⟨rfl, by simp only [inSlot, here, Option.map_some, same], List.Subset.refl _⟩

end Beside

namespace Engaged

variable {α σ : Type} [Amplitude α] {E : Engine α σ} {t : FileTree} {x x' : Engaged α σ}
  {deed : Deed α} {as : List Attempt}

/-- What every run with senders keeps to. -/
structure Sound (x : Engaged α σ) (as : List Attempt) : Prop where
  whole : x.bridge.Whole
  lawful : x.bridge.Lawful as

theorem sound_new (setup : Setup) (catalog : Catalog) :
    (new setup catalog : Engaged α σ).Sound [] :=
  ⟨⟨⟨[], Bridge.sound_new ..⟩, fitted_new ..⟩, lawful_new ..⟩

/-- **Every step with senders keeps what every run keeps to.** -/
theorem Sound.step (h : x.Sound as) (m : Move E t x deed x') :
    x'.Sound (register as x.bridge x'.bridge) := by
  obtain ⟨whole, lawful⟩ := h
  cases m with
  | other free move => exact ⟨whole.step move, lawful.step whole.fitted move⟩
  | drop free empty => exact ⟨whole.logged _, (lawful.same rfl rfl).registered rfl⟩
  | hold free here => exact ⟨whole, lawful.registered rfl⟩
  | read at' here => exact ⟨whole, lawful.registered rfl⟩
  | @convert e position i at' here =>
    have asked : (x.bridge.called i.number [.timestamp position]).Lawful as :=
      lawful.play whole.fitted (inSlot_of_engine here) _ (by simp [Call.isPlaying]) rfl rfl
    exact ⟨whole.called _ _, asked.registered rfl⟩
  | @submit e time i at' here =>
    have playing : (e.call time : Call α).isPlaying = true := by cases e <;> rfl
    refine ⟨(whole.called _ _).used here rfl, Lawful.registered ?_ rfl⟩
    refine lawful.play whole.fitted (inSlot_of_engine here) [e.call time] ?_ ?_ rfl
    · exact List.forall_mem_singleton.2 playing
    · simp only [roll, Roll.asked, inSlot, called, here, Option.map_some]

theorem sound_of_run {setup : Setup} {catalog : Catalog} {turns : List (Turn α σ)}
    (run : noted? turn? noteOpenings (new setup catalog) [] turns = some (x, as)) :
    x.Sound as :=
  noted?_induction (P := Sound) (fun h step => h.step (move_of_step step)) (sound_new ..) run

theorem setup_of_run {setup : Setup} {catalog : Catalog} {turns : List (Turn α σ)}
    (run : noted? turn? noteOpenings (new setup catalog) [] turns = some (x, as)) :
    x.bridge.setup = setup :=
  noted?_induction (P := fun x _ => x.bridge.setup = setup)
    (fun kept step => (setup_eq_of_move (move_of_step step)).trans kept) rfl run

end Engaged

end Bridge

end SynthBridge
