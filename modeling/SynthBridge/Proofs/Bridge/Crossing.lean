import Mathlib.Data.List.InsertIdx
import Mathlib.Data.List.Perm.Basic
import SynthBridge.Proofs.Bridge.Volumes
import SynthBridge.Proofs.Bridge.Winding

/-!
# Level changes that cross

A level change tells the engine of its gain and, some time later, the limiter of its levels. The two
are guarded one by one, and several changes may be half done at once, so the engine and the limiter
may hear of them in different orders.

`Bridge.last_heard` says what comes of that while a session lasts: when no change is half done any
more, the engine has the gain of the change of which it has heard last, and the limiter has the
levels of the change of which *it* has heard last. Where changes do not cross these are one and the
same. Where they do they need not be: two changes that cross always leave the gain of the one with
the levels of the other (`Bridge.crossed_twice`).
-/

namespace SynthBridge

open Amplitude

deriving instance DecidableEq for Volume

namespace Bridge

variable {α σ : Type} [Amplitude α]

/-! ## What is noted -/

/-- One step of somebody. -/
def turn? (b : Bridge α σ) (turn : Turn α σ) : Option (Bridge α σ) :=
  b.step turn.engine turn.files turn.label

/-- The level changes of a run. A change that is listed again goes with its place among those that
were begun. -/
structure Changes (α : Type) where
  /-- What was asked for, in the order in which the engine heard of it. -/
  begun : List (Volume α) := []
  /-- The changes of which the limiter is still to hear. -/
  pending : List (Volume α × Nat) := []
  /-- Those of which it has heard, in the order in which it has. -/
  done : List (Volume α × Nat) := []
  /-- Whether any began while another was half done. -/
  crossed : Bool := false

def noteChanges (_ : Bridge α σ) (turn : Turn α σ) (_ : Bridge α σ) (w : Changes α) : Changes α :=
  match turn.label with
  | .setGain left right =>
    { w with
      begun := w.begun ++ [.split left right]
      pending := w.pending ++ [(.split left right, w.begun.length)]
      crossed := w.crossed || !w.pending.isEmpty }
  | .setLevels place =>
    { w with
      pending := w.pending.eraseIdx place
      done := w.done ++ w.pending[place]?.toList }
  | _ => w

/-- The gain in force and the range that the limiter scales into are those of one and the same
change. -/
def OneChange (b : Bridge α σ) (w : Changes α) : Prop :=
  ∃ v ∈ w.begun, b.gain = v.gain ∧ b.limiter.range = rangeAsked (some v)

/-- The gain and the levels in force are those of one and the same change to the letter, though the
limiter takes a negative level for silence. -/
def OneChangeAsAsked (b : Bridge α σ) (w : Changes α) : Prop :=
  ∃ v ∈ w.begun, b.gain = v.gain ∧ b.limiter.levels = v.levels

instance [DecidableEq α] (b : Bridge α σ) (w : Changes α) : Decidable (b.OneChangeAsAsked w) :=
  inferInstanceAs (Decidable (∃ v ∈ w.begun, b.gain = v.gain ∧ b.limiter.levels = v.levels))

/-! ## Who has heard of what -/

/-- What is in force in an open bridge, where the changes so far are the given ones. -/
structure Crossing (b : Bridge α σ) (w : Changes α) : Prop where
  whole : b.Whole
  lawful : ∃ as, b.Lawful as
  isOpen : b.isOpen = true
  halves : b.halfDone = w.pending.map fun x => x.1.levels
  /-- The limiter hears of every change once. -/
  once : (w.done ++ w.pending).Perm w.begun.zipIdx
  gain : ∀ v, w.begun.getLast? = some v → ∀ n, b.inSlot = some n →
    gainOf (callsTo n b.calls) = v.gain
  range : ∀ x, w.done.getLast? = some x → b.limiter.range = rangeAsked (some x.1)
  apart : w.crossed = false → w.pending.length ≤ 1 ∧ w.done ++ w.pending = w.begun.zipIdx

section Crossing

variable {E : Engine α σ} {t : FileTree} {b b' : Bridge α σ} {w : Changes α} {label : Label α}
  {turn : Turn α σ}

/-- Before the first change. -/
theorem crossing_nil {setup : Setup} {catalog : Catalog} {history : List (Turn α σ)}
    (reached : (Bridge.new setup catalog).after? history = some b) (isOpen : b.isOpen = true)
    (settled : b.halfDone = []) : b.Crossing {} := by
  have kept : b.Whole ∧ ∃ as, b.Lawful as := by
    refine after?_induction (P := fun b => b.Whole ∧ ∃ as, b.Lawful as) ?_ ?_ reached
    · intro b E t b' label h m
      obtain ⟨whole, as, lawful⟩ := h
      exact ⟨whole.step m, _, lawful.step whole.fitted m⟩
    · exact ⟨⟨⟨[], sound_new ..⟩, fitted_new ..⟩, [], lawful_new ..⟩
  exact ⟨kept.1, kept.2, isOpen, settled, .refl _, by rintro _ ⟨⟩, by rintro _ ⟨⟩,
    fun _ => ⟨Nat.zero_le _, rfl⟩⟩

theorem Crossing.idle (h : b.Crossing w) : b.controller = .idle := h.whole.idle_of_isOpen h.isOpen

/-- A session lasts where neither an opening nor a closing begins. -/
theorem session_of_move (m : Bridge.Move E t b label b') (goesOn : label.GoesOn)
    (idle : b.controller = .idle) : b'.session = b.session := by
  cases m with
  | startOpen => exact goesOn.elim
  | startClose => exact goesOn.elim
  | closing here step => cases idle.symm.trans here
  | opening here step => cases idle.symm.trans here
  | refuseThread here => cases idle.symm.trans here
  | render here present move => rfl
  | startPull here free => rfl
  | pull here present move => rfl
  | aside aside step => exact (aside_of_step aside step).session

theorem Crossing.lasts (h : b.Crossing w) (m : Bridge.Move E t b label b')
    (goesOn : label.GoesOn) : b'.isOpen = true := by
  rw [Bridge.isOpen, session_of_move m goesOn h.idle]
  exact h.isOpen

/-- An engine that is in the slot after a step was there before. -/
theorem inSlot_of_move {as : List Attempt} {n : Nat} (lawful : b.Lawful as)
    (m : Bridge.Move E t b label b') (idle : b.controller = .idle) (there : b'.inSlot = some n) :
    b.inSlot = some n := by
  by_contra absent
  obtain ⟨-, rate, stage, opening⟩ := lawful.started_of_filled m there absent
  cases idle.symm.trans opening

/-- **Who changes no level** leaves in force what is. -/
theorem Crossing.other (h : b.Crossing w) (m : Bridge.Move E t b label b') (goesOn : label.GoesOn)
    (level : label.isLevel = false) : b'.Crossing w := by
  obtain ⟨as, lawful⟩ := h.lawful
  obtain ⟨halfDone, reset⟩ := levels_of_move m level
  have range : b'.limiter.range = b.limiter.range := (congrArg Limiter.range reset :)
  have quiet : label.isGain = false := by
    cases label <;> first | rfl | cases level
  refine ⟨h.whole.step m, ⟨_, lawful.step h.whole.fitted m⟩, h.lasts m goesOn,
    halfDone.trans h.halves, h.once, fun v last n there => ?_,
    fun x last => range.trans (h.range x last), h.apart⟩
  obtain ⟨number, more, asks, -⟩ := behaves_of_move lawful h.whole.fitted m
  obtain ⟨asked, calls, silent⟩ := asks.callsTo quiet n
  rw [calls, gainOf_append _ silent]
  exact h.gain v last n (inSlot_of_move lawful m h.idle there)

omit [Amplitude α] in
/-- A new change has its place behind the others. -/
theorem zipIdx_concat (volumes : List (Volume α)) (v : Volume α) :
    (volumes ++ [v]).zipIdx = volumes.zipIdx ++ [(v, volumes.length)] := by
  rw [List.zipIdx_append, Nat.zero_add]
  rfl

/-- The engine hears of a new change, and the limiter is to hear of it too. -/
theorem Crossing.setGain {left right : α} (h : b.Crossing w)
    (m : Bridge.Move E t b (.setGain left right) (b.setGain E left right)) :
    (b.setGain E left right).Crossing
      { w with
        begun := w.begun ++ [.split left right]
        pending := w.pending ++ [(.split left right, w.begun.length)]
        crossed := w.crossed || !w.pending.isEmpty } := by
  obtain ⟨as, lawful⟩ := h.lawful
  obtain ⟨halfDone, limiter⟩ := halfDone_setGain E b left right
  refine ⟨h.whole.step m, ⟨_, lawful.step h.whole.fitted m⟩, h.lasts m trivial, ?_, ?_, ?_,
    fun x last => limiter ▸ h.range x last, ?_⟩
  · rw [halfDone, h.halves, List.map_append]
    rfl
  · rw [zipIdx_concat, ← List.append_assoc]
    exact h.once.append_right _
  · intro v last n there
    rw [List.getLast?_concat] at last
    obtain ⟨rfl⟩ := last
    exact gainOf_setGain E (inSlot_of_move lawful m h.idle there)
  · intro apart
    simp only [Bool.or_eq_false_iff, Bool.not_eq_false', List.isEmpty_iff] at apart
    obtain ⟨apart, none⟩ := apart
    obtain ⟨-, order⟩ := h.apart apart
    refine ⟨by simp [none], ?_⟩
    rw [zipIdx_concat, ← List.append_assoc, order]

/-- The limiter hears of a change that was half done. -/
theorem Crossing.setLevels {place : Nat} (h : b.Crossing w) (step : b.setLevels place = some b')
    (m : Bridge.Move E t b (.setLevels place) b') :
    b'.Crossing
      { w with
        pending := w.pending.eraseIdx place
        done := w.done ++ w.pending[place]?.toList } := by
  obtain ⟨as, lawful⟩ := h.lawful
  have whole := h.whole.step m
  have lawful := lawful.step h.whole.fitted m
  simp only [Bridge.setLevels, Option.map_eq_some_iff] at step
  obtain ⟨levels, here, rfl⟩ := step
  rw [h.halves, List.getElem?_map, Option.map_eq_some_iff] at here
  obtain ⟨x, here, rfl⟩ := here
  obtain ⟨inside, item⟩ := List.getElem?_eq_some_iff.1 here
  have moved : ([x] ++ w.pending.eraseIdx place).Perm w.pending := by
    rw [← item]
    exact List.getElem_cons_eraseIdx_perm inside
  rw [here, Option.toList_some]
  refine ⟨whole, ⟨_, lawful⟩, h.isOpen, ?_, ?_, h.gain, fun y last => ?_, fun apart => ?_⟩
  · rw [h.halves, List.eraseIdx_map]
  · rw [List.append_assoc]
    exact (moved.append_left w.done).trans h.once
  · rw [List.getLast?_concat] at last
    obtain ⟨rfl⟩ := last
    rfl
  · -- Where changes do not cross, only one can be half done.
    obtain ⟨few, order⟩ := h.apart apart
    obtain ⟨y, only⟩ := List.length_eq_one_iff.1 (by omega : w.pending.length = 1)
    simp only [only, List.length_singleton, Nat.lt_one_iff] at inside
    subst inside
    simp only [only, List.getElem?_cons_zero, Option.some.injEq] at here
    subst here
    rw [only] at order ⊢
    exact ⟨Nat.zero_le _, (List.append_nil _).trans order⟩

/-- **Every step while a session lasts** keeps track of who has heard of what. -/
theorem Crossing.step (h : b.Crossing w) (goesOn : turn.label.GoesOn)
    (step : b.turn? turn = some b') : b'.Crossing (noteChanges b turn b' w) := by
  have m := move_of_step step
  rw [turn?] at step
  unfold noteChanges
  cases label : turn.label with
  | setGain left right =>
    rw [label] at step m
    obtain ⟨rfl⟩ := step
    exact h.setGain m
  | setLevels place =>
    rw [label] at step m
    exact h.setLevels step m
  | _ =>
    refine h.other m goesOn ?_
    rw [label]
    rfl

/-- The engine in the slot has the gain of the last change of which it has heard. -/
theorem Crossing.gain_eq {v : Volume α} (h : b.Crossing w) (last : w.begun.getLast? = some v) :
    b.gain = v.gain := by
  have isOpen := h.isOpen
  have present := ((h.whole.idle h.idle).resolve_right fun closed => by
    simp [closed.isOpen] at isOpen).1.engine
  obtain ⟨i, here⟩ := Option.isSome_iff_exists.1 present
  have slot : b.inSlot = some i.number := inSlot_of_engine here
  rw [Bridge.gain, slot, Option.elim_some]
  exact h.gain v last i.number slot

/-- What holds after any run while a session lasts. -/
theorem crossing_of_run {setup : Setup} {catalog : Catalog} {history turns : List (Turn α σ)}
    (reached : (Bridge.new setup catalog).after? history = some b) (isOpen : b.isOpen = true)
    (settled : b.halfDone = []) (goesOn : ∀ turn ∈ turns, turn.label.GoesOn)
    (run : noted? turn? noteChanges b {} turns = some (b', w)) : b'.Crossing w :=
  noted?_induction_of (P := Crossing) (Q := fun turn : Turn α σ => turn.label.GoesOn)
    (fun h goesOn step => h.step goesOn step) (crossing_nil reached isOpen settled) goesOn run

/-- **What comes of level changes that may cross**, in a session that lasts, when none is half done
any more. The limiter has heard of every change once. The engine has the gain of the change of which
it has heard last, and the limiter has the levels of the change of which it has heard last. These
are one change where the same comes last for both, and that is so where no change begins while
another is half done. -/
theorem last_heard (setup : Setup) (catalog : Catalog) {history turns : List (Turn α σ)}
    (reached : (Bridge.new setup catalog).after? history = some b) (isOpen : b.isOpen = true)
    (settled : b.halfDone = []) (goesOn : ∀ turn ∈ turns, turn.label.GoesOn)
    (run : noted? turn? noteChanges b {} turns = some (b', w)) (returned : b'.halfDone = []) :
    w.done.Perm w.begun.zipIdx ∧
      (∀ v, w.begun.getLast? = some v → b'.gain = v.gain) ∧
      (∀ x, w.done.getLast? = some x → b'.limiter.range = rangeAsked (some x.1)) ∧
      (w.crossed = false → w.done = w.begun.zipIdx) ∧
      (w.begun ≠ [] → w.done.getLast? = w.begun.zipIdx.getLast? → b'.OneChange w) := by
  have h := crossing_of_run reached isOpen settled goesOn run
  have heard : w.pending = [] := by
    rw [h.halves, List.map_eq_nil_iff] at returned
    exact returned
  have once := h.once
  have apart := h.apart
  rw [heard, List.append_nil] at once apart
  refine ⟨once, fun v last => h.gain_eq last, h.range, fun together => (apart together).2,
    fun some last => ?_⟩
  obtain ⟨before, v, begun⟩ := (List.eq_nil_or_concat' w.begun).resolve_left some
  rw [begun, zipIdx_concat, List.getLast?_concat] at last
  refine ⟨v, ?_, h.gain_eq ?_, h.range _ last⟩
  · rw [begun]
    exact List.mem_concat_self
  · rw [begun, List.getLast?_concat]

/-- A level is changed while another change is half done, but the limiter hears of them in the order
in which the engine does. -/
theorem last_heard_in_order :
    let labels : List (Label Extended) := [.setGain (.finite (1 / 2)) (.finite (1 / 4)),
      .message [0x90, 0x40, 0x7f], .setGain (.finite (1 / 4)) (.finite (1 / 4)), .setLevels 0,
      .startPull 2, .setLevels 0, .pull]
    let turns := labels.map (⟨pocketEngine, pocketFiles, ·⟩)
    ∃ b b' w, (Bridge.new pocketSetup pocketCatalog).after?
        (openingLabels.map (⟨pocketEngine, pocketFiles, ·⟩)) = some b ∧
      b.isOpen = true ∧ b.halfDone = [] ∧ (∀ turn ∈ turns, turn.label.GoesOn) ∧
      noted? turn? noteChanges b {} turns = some (b', w) ∧ b'.halfDone = [] ∧ w.crossed = true ∧
      b'.OneChange w := by
  intro labels turns
  have runs : ((Bridge.new pocketSetup pocketCatalog).after?
      (openingLabels.map (⟨pocketEngine, pocketFiles, ·⟩))).any (fun b =>
        b.isOpen && b.halfDone.isEmpty && (noted? turn? noteChanges b {} turns).any fun y =>
          y.1.halfDone.isEmpty && y.2.crossed && !y.2.begun.isEmpty &&
            decide (y.2.done.getLast? = y.2.begun.zipIdx.getLast?)) = true := by
    decide +kernel
  obtain ⟨b, reached, facts⟩ := (Option.any_eq_true ..).1 runs
  simp only [Bool.and_eq_true, List.isEmpty_iff, Option.any_eq_true, Bool.not_eq_true',
    List.isEmpty_eq_false_iff, decide_eq_true_eq] at facts
  obtain ⟨⟨isOpen, settled⟩, ⟨b', w⟩, run, ⟨⟨returned, crossed⟩, some⟩, last⟩ := facts
  have goesOn : ∀ turn ∈ turns, turn.label.GoesOn := by simp [turns, labels, Label.GoesOn]
  obtain ⟨-, -, -, -, one⟩ :=
    last_heard pocketSetup pocketCatalog reached isOpen settled goesOn run returned
  exact ⟨b, b', w, reached, isOpen, settled, goesOn, run, returned, crossed, one some last⟩

/-- **Two changes that cross are torn.** The engine hears of one and then of another, the limiter of
the other and then of the one: the gain of the other is left with the levels of the one. -/
theorem crossed_twice {setup : Setup} {catalog : Catalog} {history : List (Turn α σ)}
    (reached : (Bridge.new setup catalog).after? history = some b) (isOpen : b.isOpen = true)
    (settled : b.halfDone = []) (left right left' right' : α) :
    ∃ b' w, noted? turn? noteChanges b {} ([.setGain left right, .setGain left' right',
        .setLevels 1, .setLevels 0].map (⟨E, t, ·⟩)) = some (b', w) ∧ b'.halfDone = [] ∧
      b'.gain = (Volume.split left' right').gain ∧
      b'.limiter.range = rangeAsked (some (.split left right)) := by
  obtain ⟨first, -⟩ := halfDone_setGain E b left right
  obtain ⟨second, -⟩ := halfDone_setGain E (b.setGain E left right) left' right'
  rw [first, settled] at second
  let turns : List (Turn α σ) := [.setGain left right, .setGain left' right',
    .setLevels 1, .setLevels 0].map (⟨E, t, ·⟩)
  have runs : ∃ b' w, noted? turn? noteChanges b {} turns = some (b', w) ∧ b'.halfDone = [] ∧
      w.begun = [.split left right, .split left' right'] ∧
      w.done = [(.split left' right', 1), (.split left right, 0)] := by
    simp [turns, noted?, turn?, Bridge.step, Bridge.setLevels, second, noteChanges]
  obtain ⟨b', w, run, returned, begun, done⟩ := runs
  have h := crossing_of_run reached isOpen settled (by simp [turns, Label.GoesOn]) run
  refine ⟨b', w, run, returned, h.gain_eq ?_, h.range (.split left right, 0) ?_⟩
  · rw [begun]
    rfl
  · rw [done]
    rfl

/-- **The volume in force may be of no change.** Two changes cross and are torn; and where they do
not cross, the limiter takes a negative level for silence. -/
theorem torn_in_session :
    let crossing : List (Label Extended) := [.setGain (.finite (1 / 2)) (.finite (1 / 4)),
      .setGain (.finite (1 / 4)) (.finite (1 / 4)), .setLevels 1, .setLevels 0]
    let silenced : List (Label Extended) := [.setGain (.finite (1 / 2)) (.finite (1 / 4)),
      .setLevels 0, .setGain (.finite (-1 / 2)) (.finite (1 / 2)), .setLevels 0]
    ∃ b, (Bridge.new pocketSetup pocketCatalog).after?
        (openingLabels.map (⟨pocketEngine, pocketFiles, ·⟩)) = some b ∧
      b.isOpen = true ∧ b.halfDone = [] ∧ ∀ labels ∈ [crossing, silenced],
        (∀ label ∈ labels, label.GoesOn) ∧ ∃ b' w, noted? turn? noteChanges b {}
            (labels.map (⟨pocketEngine, pocketFiles, ·⟩)) = some (b', w) ∧
          b'.halfDone = [] ∧ ¬b'.OneChangeAsAsked w := by
  intro crossing silenced
  have runs : ((Bridge.new pocketSetup pocketCatalog).after?
      (openingLabels.map (⟨pocketEngine, pocketFiles, ·⟩))).any (fun b =>
        b.isOpen && b.halfDone.isEmpty && [crossing, silenced].all fun labels =>
          (noted? turn? noteChanges b {} (labels.map (⟨pocketEngine, pocketFiles, ·⟩))).any
            fun y => y.1.halfDone.isEmpty && !decide (y.1.OneChangeAsAsked y.2)) = true := by
    decide +kernel
  obtain ⟨b, reached, facts⟩ := (Option.any_eq_true ..).1 runs
  simp only [Bool.and_eq_true, List.isEmpty_iff, List.all_eq_true] at facts
  obtain ⟨⟨isOpen, settled⟩, every⟩ := facts
  refine ⟨b, reached, isOpen, settled, fun labels mem => ⟨?_, ?_⟩⟩
  · have goesOn : ∀ labels ∈ [crossing, silenced], ∀ label ∈ labels, label.GoesOn := by
      simp [crossing, silenced, Label.GoesOn]
    exact goesOn labels mem
  · obtain ⟨⟨b', w⟩, run, facts⟩ := (Option.any_eq_true ..).1 (every labels mem)
    simp only [Bool.and_eq_true, List.isEmpty_iff, Bool.not_eq_true', decide_eq_false_iff_not]
      at facts
    exact ⟨b', w, run, facts⟩

end Crossing

end Bridge

end SynthBridge
