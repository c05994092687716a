import SynthBridge.Proofs.Bridge.Lifetimes
import SynthBridge.Proofs.Bridge.Senders

/-!
# Submissions

Every step with senders keeps the calls of each engine told by the journal
(`Bridge.Engaged.Told.step`), and so does every run: `Bridge.Engaged.events_told`.
-/

namespace SynthBridge

namespace Bridge

namespace Engaged

variable {α σ : Type} {x x' : Engaged α σ} {j : Journal} {as : List Attempt} {number : Nat}

/-! ## The draft -/

theorem pending_of_free (free : x.sending = none) : x.pending j number = [] := by
  simp only [pending, free]

/-- Only an engine in the slot can have a position converted and wait for the event. -/
theorem Told.pending_eq_nil (h : x.Told j as) (other : x.bridge.inSlot ≠ some number) :
    x.pending j number = [] := by
  cases sending : x.sending with
  | none => exact pending_of_free sending
  | some stage =>
    obtain ⟨s, draft, drafted⟩ := h.drafted stage sending
    rw [← drafted.engine] at other
    unfold pending
    rw [sending, draft]
    split
    · rename_i there
      obtain ⟨rfl⟩ := there
      rw [if_neg other]
    · rfl

/-- With an engine in the slot that it did not find, a sender has gone. -/
theorem Told.draft_of_slot (h : x.Told j as) {s : Sent} (draft : j.draft = some s) :
    s.engine = x.bridge.inSlot ∧ s.engine.isSome := by
  cases sending : x.sending with
  | none => cases (h.free sending).symm.trans draft
  | some stage =>
    obtain ⟨s', draft', drafted⟩ := h.drafted stage sending
    obtain rfl : s = s' := Option.some.inj (draft.symm.trans draft')
    exact ⟨drafted.engine, drafted.present⟩

theorem Journal.mem_all {s : Sent} : s ∈ j.all ↔ s ∈ j.sent ∨ j.draft = some s := by
  rw [all, List.mem_append, Option.mem_toList]

/-- Only senders that found the engine in the slot have positions to go by. -/
theorem Told.positions_le (h : x.Told j as) (here : x.bridge.inSlot = some number) :
    ∀ n ∈ j.positions number, n ≤ framesOf j.heard := by
  intro n mem
  obtain ⟨s, known, engine, rfl⟩ := Journal.mem_positions.1 mem
  exact h.bounded s known number engine here

theorem Told.ordered_sent (h : x.Told j as) (number : Nat) :
    ((j.sentTo number).map Sent.frames).Pairwise (· ≤ ·) := by
  have ordered := h.ordered number
  cases draft : j.draft with
  | none => rwa [Journal.positions_of_free number draft] at ordered
  | some s =>
    rw [Journal.positions_of_draft draft] at ordered
    exact (List.pairwise_append.1 ordered).1

/-- A sender that knows all that was heard comes after those before it. -/
theorem Told.ordered_latest {j' : Journal} {s : Sent} (h : x.Told j as)
    (engine : s.engine = x.bridge.inSlot) (frames : s.frames = framesOf j.heard)
    (draft : j'.draft = some s) (sent : j'.sent = j.sent) :
    (j'.positions number).Pairwise (· ≤ ·) := by
  have same : j'.sentTo number = j.sentTo number := by rw [Journal.sentTo, sent, Journal.sentTo]
  rw [Journal.positions_of_draft draft, same]
  split
  · rename_i found
    refine pairwise_concat (h.ordered_sent number) fun n mem => ?_
    rw [frames]
    exact h.positions_le (engine.symm.trans found) n (Journal.sentTo_subset mem)
  · rw [List.append_nil]
    exact h.ordered_sent number

variable [Amplitude α] {E : Engine α σ} {t : FileTree}

/-! ## Steps of others -/

theorem Told.other {label : Label α} {b : Bridge α σ} (h : x.Told j as)
    (free : x.hinders label = false) (move : Bridge.Move E t x.bridge label b) :
    Told { x with bridge := b } { j with heard := hear j.heard x.bridge b }
      (register as x.bridge b) := by
  obtain ⟨quiet, unneeded⟩ := Bool.or_eq_false_iff.1 free
  obtain ⟨whole, lawful⟩ := h.sound
  obtain ⟨n, more, asks, spares⟩ := behaves_of_move lawful whole.fitted move
  have spared : x.sending.isSome → x.bridge.Spares b n more := by
    intro busy
    rw [busy, Bool.true_and] at unneeded
    exact spares unneeded
  refine ⟨h.sound.step (.other free move), h.heard.step move, h.asked, h.free, ?_, ?_, h.ordered,
    ?_⟩
  · intro sending here
    obtain ⟨s, draft, drafted⟩ := h.drafted sending here
    have same : b.inSlot = x.bridge.inSlot :=
      (spared (by simp [show x.sending = _ from here])).inSlot
    exact ⟨s, draft, { drafted with engine := drafted.engine.trans same.symm }⟩
  · intro number
    refine (h.spelled number).asks quiet asks fun same asked => ?_
    subst same
    cases sending : x.sending with
    | none => exact pending_of_free sending
    | some stage =>
      refine h.pending_eq_nil fun here => asked ?_
      exact (spared (by simp [sending])).other here
  · intro s known number engine here
    by_cases before : x.bridge.inSlot = some number
    · obtain ⟨i, present, -⟩ := Option.map_eq_some_iff.1 before
      exact Nat.le_trans (h.bounded s known number engine before) (framesOf_hear_le present)
    · -- The engine is new, and so none of the events before has found it.
      obtain ⟨started, -⟩ := lawful.started_of_filled move here before
      rcases Journal.mem_all.1 known with sent | draft
      · have none' := sentTo_of_started (h.spelled number) started
        have mem : s ∈ j.sentTo number := by
          rw [Journal.sentTo, List.mem_filter]
          exact ⟨sent, by simp [engine]⟩
        rw [none'] at mem
        cases mem
      · obtain ⟨same, -⟩ := h.draft_of_slot draft
        rw [engine] at same
        exact absurd same.symm before

/-! ## Steps of senders -/

section Send

variable {e : Event} {i : Instance σ}

omit [Amplitude α] in
/-- What was spelled stays so while nothing is asked and nobody is about to submit. -/
theorem Spelled.keep {j' : Journal} (h : x.Spelled j number)
    (calls : x'.bridge.calls = x.bridge.calls) (sent : j'.sentTo number = j.sentTo number)
    (before : x.pending j number = []) (after : x'.pending j' number = []) :
    x'.Spelled j' number := by
  obtain ⟨parts, spelled, told, others⟩ := h
  refine ⟨parts, ?_, told.trans sent.symm, others⟩
  rw [calls, spelled, before, after]

omit [Amplitude α] in
/-- Without an engine, an event is dropped. -/
theorem Told.drop (h : x.Told j as) (free : x.sending = none)
    (sound : Sound { x with bridge := x.bridge.logged [e.dropped] } as)
    (heard : (x.bridge.logged [e.dropped]).Heard j.heard) :
    Told { x with bridge := x.bridge.logged [e.dropped] }
      { j with asked := j.asked ++ [e], sent := j.sent ++ [⟨e, none, 0, 0⟩] } as := by
  have nobody := h.free free
  have sentTo : ∀ number, Journal.sentTo
      { j with asked := j.asked ++ [e], sent := j.sent ++ [⟨e, none, 0, 0⟩] } number =
        j.sentTo number := by
    intro number
    simp [Journal.sentTo, List.filter_append]
  refine ⟨sound, heard, ?_, fun _ => nobody, ?_, fun number => ?_, fun number => ?_, ?_⟩
  · simp [h.asked, Journal.all, nobody]
  · intro sending busy
    cases free.symm.trans busy
  · exact (h.spelled number).keep rfl (sentTo number) (pending_of_free free) (pending_of_free free)
  · have positions := Journal.positions_of_free (j := { j with
      asked := j.asked ++ [e], sent := j.sent ++ [⟨e, none, 0, 0⟩] }) number nobody
    rw [positions, sentTo]
    exact h.ordered_sent number
  · intro s known number engine here
    rcases Journal.mem_all.1 known with sent | draft
    · rcases List.mem_append.1 sent with old | new
      · exact h.bounded s (Journal.mem_all.2 (.inl old)) number engine here
      · rw [List.mem_singleton.1 new] at engine
        cases engine
    · cases nobody.symm.trans draft

omit [Amplitude α] in
/-- A sender gets hold of the engine. -/
theorem Told.hold (h : x.Told j as) (free : x.sending = none) (here : x.bridge.engine = some i)
    (sound : Sound { x with sending := some (.read e) } as) :
    Told { x with sending := some (.read e) }
      { j with
        asked := j.asked ++ [e]
        draft := some ⟨e, some i.number, framesOf j.heard, 0⟩ } as := by
  have nobody := h.free free
  have slot : x.bridge.inSlot = some i.number := inSlot_of_engine here
  refine ⟨sound, h.heard, ?_, by rintro ⟨⟩, ?_, fun number => ?_, fun number => ?_, ?_⟩
  · simp [h.asked, Journal.all, nobody]
  · rintro _ ⟨rfl⟩
    exact ⟨_, rfl, rfl, slot.symm, rfl, (by rintro _ _ ⟨⟩), by rintro _ _ ⟨⟩⟩
  · exact (h.spelled number).keep rfl rfl (pending_of_free free) rfl
  · exact h.ordered_latest slot.symm rfl rfl rfl
  · intro s known number engine slot'
    rcases Journal.mem_all.1 known with sent | draft
    · exact h.bounded s (Journal.mem_all.2 (.inl sent)) number engine slot'
    · obtain ⟨rfl⟩ := draft
      exact Nat.le_refl _

omit [Amplitude α] in
/-- The sender reads the position of playback. -/
theorem Told.read (h : x.Told j as) (at' : x.sending = some (.read e))
    (here : x.bridge.engine = some i)
    (sound : Sound { x with sending := some (.convert e x.bridge.played) } as) :
    Told { x with sending := some (.convert e x.bridge.played) }
      { j with draft := j.draft.map fun s => { s with frames := framesOf j.heard } } as := by
  obtain ⟨s, draft, drafted⟩ := h.drafted _ at'
  have played : x.bridge.played = UInt64.ofNat (framesOf j.heard) :=
    h.heard.position (by rw [here]; rfl)
  have idle : ∀ number, x.pending j number = [] := by
    intro number
    simp only [pending, at']
  refine ⟨sound, h.heard, ?_, by rintro ⟨⟩, ?_, fun number => ?_, fun number => ?_, ?_⟩
  · simp [h.asked, Journal.all, draft]
  · rintro _ ⟨rfl⟩
    refine ⟨{ s with frames := framesOf j.heard }, by rw [draft]; rfl, drafted.event,
      drafted.engine, drafted.present, ?_, by rintro _ _ ⟨⟩⟩
    rintro _ _ ⟨rfl, rfl⟩
    exact played
  · exact (h.spelled number).keep rfl rfl (idle number) rfl
  · exact h.ordered_latest (s := { s with frames := framesOf j.heard }) drafted.engine rfl
      (by rw [draft]; rfl) rfl
  · intro s' known number engine slot
    rcases Journal.mem_all.1 known with sent | draft'
    · exact h.bounded s' (Journal.mem_all.2 (.inl sent)) number engine slot
    · rw [draft] at draft'
      obtain ⟨rfl⟩ := draft'
      exact Nat.le_refl _

omit [Amplitude α] in
/-- The engine converts the position. -/
theorem Told.convert {position : UInt64} {time : UInt32} (h : x.Told j as)
    (at' : x.sending = some (.convert e position)) (here : x.bridge.engine = some i)
    (sound : Sound ⟨x.bridge.called i.number [.timestamp position], some (.submit e time)⟩ as)
    (heard : (x.bridge.called i.number [.timestamp position]).Heard j.heard) :
    Told ⟨x.bridge.called i.number [.timestamp position], some (.submit e time)⟩
      { j with draft := j.draft.map fun s => { s with time } } as := by
  obtain ⟨s, draft, drafted⟩ := h.drafted _ at'
  have slot : x.bridge.inSlot = some i.number := inSlot_of_engine here
  have engine : s.engine = some i.number := drafted.engine.trans slot
  obtain rfl := drafted.position e position rfl
  refine ⟨sound, heard, ?_, by rintro ⟨⟩, ?_, fun number => ?_, fun number => ?_, ?_⟩
  · simp [h.asked, Journal.all, draft]
  · rintro _ ⟨rfl⟩
    refine ⟨{ s with time }, by rw [draft]; rfl, drafted.event, drafted.engine, drafted.present,
      (by rintro _ _ ⟨⟩), ?_⟩
    rintro _ _ ⟨rfl, rfl⟩
    rfl
  · obtain ⟨parts, calls, sent, others⟩ := h.spelled number
    refine ⟨parts, ?_, sent, others⟩
    have idle : x.pending j number = [] := by
      simp only [pending, at']
    rw [idle, List.append_nil] at calls
    simp only [pending, draft, Option.map_some, engine, called, callsTo_append, calls]
    by_cases found : i.number = number
    · subst found
      rw [callsTo_map_self, if_pos rfl]
    · rw [callsTo_map_of_ne found, if_neg (by simpa using found)]
  · have ordered := h.ordered number
    rw [Journal.positions_of_draft draft] at ordered
    rw [Journal.positions_of_draft (s := { s with time }) (by rw [draft]; rfl)]
    exact ordered
  · intro s' known number engine' slot'
    rcases Journal.mem_all.1 known with sent | draft'
    · exact h.bounded s' (Journal.mem_all.2 (.inl sent)) number engine' slot'
    · rw [draft] at draft'
      obtain ⟨rfl⟩ := draft'
      exact h.bounded s (Journal.mem_all.2 (.inr draft)) number engine' slot'

/-- The submitted event is one more of those that its engine got. -/
theorem Journal.sentTo_submitted {s : Sent} (draft : j.draft = some s) (number : Nat) :
    Journal.sentTo { j with draft := none, sent := j.all } number =
      j.sentTo number ++ [s].filter fun s => s.engine = some number := by
  rw [Journal.sentTo, Journal.all, draft, List.filter_append]
  rfl

omit [Amplitude α] in
/-- The engine gets the event for which it has just converted the position. -/
theorem Told.spelled_submitted {time : UInt32} {b : Bridge α σ} (h : x.Told j as)
    (at' : x.sending = some (.submit e time)) (here : x.bridge.engine = some i)
    (calls : b.calls = x.bridge.calls ++ [(i.number, e.call time)]) :
    Spelled ⟨b, none⟩ { j with draft := none, sent := j.all } i.number := by
  obtain ⟨s, draft, drafted⟩ := h.drafted _ at'
  obtain ⟨parts, spelled, sent, others⟩ := h.spelled i.number
  have engine : s.engine = some i.number := drafted.engine.trans (inSlot_of_engine here)
  have event : s.event = e := drafted.event
  have stamp : s.time = time := drafted.time e time rfl
  have waiting : x.pending j i.number = [.timestamp (UInt64.ofNat s.frames)] := by
    simp only [pending, at', draft, engine, if_true]
  have last : callsTo i.number [(i.number, e.call time)] = [(e.call time : Call α)] :=
    callsTo_map_self [e.call time]
  refine ⟨parts ++ [.event s], ?_, ?_, ?_⟩
  · rw [pending_of_free rfl, calls, callsTo_append, spelled, waiting, last, List.flatMap_append,
      List.append_nil, List.append_assoc]
    simp [Part.spell, event, stamp]
  · rw [List.filterMap_append, sent, Journal.sentTo_submitted draft]
    simp [Part.sent?, engine]
  · intro c mem
    rcases List.mem_append.1 mem with old | new
    · exact others c old
    · cases List.mem_singleton.1 new

omit [Amplitude α] in
/-- What other engines got is spelled as before. -/
theorem Told.spelled_beside {time : UInt32} {b : Bridge α σ} (h : x.Told j as)
    (at' : x.sending = some (.submit e time)) (here : x.bridge.engine = some i)
    (calls : b.calls = x.bridge.calls ++ [(i.number, e.call time)]) (ne : i.number ≠ number) :
    Spelled ⟨b, none⟩ { j with draft := none, sent := j.all } number := by
  obtain ⟨s, draft, drafted⟩ := h.drafted _ at'
  obtain ⟨parts, spelled, sent, others⟩ := h.spelled number
  have slot : x.bridge.inSlot = some i.number := inSlot_of_engine here
  have engine : s.engine = some i.number := drafted.engine.trans slot
  have idle : x.pending j number = [] :=
    h.pending_eq_nil fun there => ne (Option.some.inj (slot.symm.trans there))
  refine ⟨parts, ?_, ?_, others⟩
  · rw [idle, List.append_nil] at spelled
    rw [pending_of_free rfl, calls, List.append_nil, ← spelled]
    exact callsTo_append_of_ne ne [e.call time]
  · rw [sent, Journal.sentTo_submitted draft]
    simp [engine, ne]

omit [Amplitude α] in
/-- The sender submits its event and lets go of the engine. -/
theorem Told.submit {time : UInt32} {b : Bridge α σ} (h : x.Told j as)
    (at' : x.sending = some (.submit e time)) (here : x.bridge.engine = some i)
    (calls : b.calls = x.bridge.calls ++ [(i.number, e.call time)])
    (slot : b.inSlot = x.bridge.inSlot) (sound : Sound ⟨b, none⟩ as) (heard : b.Heard j.heard) :
    Told ⟨b, none⟩ { j with draft := none, sent := j.all } as := by
  have all : Journal.all { j with draft := none, sent := j.all } = j.all := by
    rw [Journal.all, Option.toList_none, List.append_nil]
  refine ⟨sound, heard, ?_, fun _ => rfl, by rintro _ ⟨⟩, fun number => ?_, fun number => ?_, ?_⟩
  · rw [all]
    exact h.asked
  · by_cases own : i.number = number
    · subst own
      exact h.spelled_submitted at' here calls
    · exact h.spelled_beside at' here calls own
  · have ordered := h.ordered number
    rw [Journal.positions, all]
    exact ordered
  · intro s' known number engine' here'
    rw [all] at known
    rw [slot] at here'
    exact h.bounded s' known number engine' here'

end Send

/-! ## Every step -/

theorem told_new (setup : Setup) (catalog : Catalog) :
    (new setup catalog : Engaged α σ).Told {} [] := by
  refine ⟨sound_new .., heard_new .., rfl, fun _ => rfl, by rintro _ ⟨⟩, fun number => ?_,
    fun number => ?_, ?_⟩
  · exact ⟨[], rfl, rfl, fun _ mem => absurd mem List.not_mem_nil⟩
  · exact List.Pairwise.nil
  · rintro s ⟨⟩

omit [Amplitude α] in
/-- Senders keep nobody from hearing, and nothing new is heard while they act. -/
theorem Told.beside {b : Bridge α σ} (h : x.Told j as) (aside : x.bridge.Aside b)
    (uses : x.bridge.Uses b) : hear j.heard x.bridge b = j.heard ∧ b.Heard j.heard := by
  have empty : x.bridge.engine = none → b.engine = none := by
    intro empty
    have engine : b.engine.isSome = x.bridge.engine.isSome := congrArg Fitting.engine uses.fitting
    rwa [empty, Option.isSome_none, Option.isSome_eq_false_iff, Option.isNone_iff_eq_none] at engine
  have heard : hear j.heard x.bridge b = j.heard := hear_eq_self empty (.inl aside.player)
  refine ⟨heard, ?_⟩
  rw [← heard]
  exact h.heard.beside aside uses

/-- **Every step with senders keeps the calls of all engines told by the journal.** -/
theorem Told.step {deed : Deed α} (h : x.Told j as) (m : Move E t x deed x') :
    x'.Told ({ j with heard := hear j.heard x.bridge x'.bridge }.write E x deed)
      (register as x.bridge x'.bridge) := by
  have sound := h.sound.step m
  have still : hear j.heard x.bridge x.bridge = j.heard :=
    hear_eq_self (fun empty => empty) (.inl rfl)
  cases m with
  | other free move => exact h.other free move
  | @drop e free empty =>
    obtain ⟨same, heard⟩ := h.beside (b := x.bridge.logged [e.dropped])
      ⟨rfl, rfl, rfl, rfl, rfl, rfl, rfl⟩ ⟨rfl, rfl, List.Subset.refl _⟩
    have kept : register as x.bridge (x.bridge.logged [e.dropped]) = as := register_of_same rfl
    simp only [same, kept, Journal.write, empty] at sound ⊢
    exact h.drop free sound heard
  | @hold e i free here =>
    have kept : register as x.bridge x.bridge = as := register_of_same rfl
    simp only [still, kept, Journal.write, here] at sound ⊢
    exact h.hold free here sound
  | @read e i at' here =>
    have kept : register as x.bridge x.bridge = as := register_of_same rfl
    simp only [still, kept, Journal.write, at'] at sound ⊢
    exact h.read at' here sound
  | @convert e position i at' here =>
    obtain ⟨same, heard⟩ := h.beside (b := x.bridge.called i.number [.timestamp position])
      ⟨rfl, rfl, rfl, rfl, rfl, rfl, rfl⟩ ⟨rfl, rfl, List.subset_append_left ..⟩
    have kept : register as x.bridge (x.bridge.called i.number [.timestamp position]) = as :=
      register_of_same rfl
    simp only [same, kept, Journal.write, at', here] at sound ⊢
    exact h.convert at' here sound heard
  | @submit e time i at' here =>
    obtain ⟨b, after⟩ : ∃ b, b = { x.bridge.called i.number [e.call time] with
        engine := some { i with state := e.play E i.state time } } := ⟨_, rfl⟩
    have slot : b.inSlot = x.bridge.inSlot := by
      rw [after, inSlot_of_engine here]
      rfl
    have calls : b.calls = x.bridge.calls ++ [(i.number, e.call time)] := by
      rw [after]
      rfl
    obtain ⟨same, heard⟩ := h.beside (b := b)
      (by rw [after]; exact ⟨rfl, rfl, rfl, rfl, rfl, rfl, rfl⟩)
      ⟨by rw [after]; rfl, slot, by rw [calls]; exact List.subset_append_left ..⟩
    have kept : register as x.bridge b = as := register_of_same (by rw [after]; rfl)
    rw [← after] at sound ⊢
    simp only [same, kept, Journal.write, at'] at sound ⊢
    exact h.submit at' here calls slot sound heard

/-! ## Every run -/

/-- What the engines have got of all events, as the journal has it. -/
structure EventsTold (x : Engaged α σ) (j : Journal) : Prop where
  /-- Each sender's turn is noted once. -/
  asked : j.asked = j.all.map Sent.event
  /-- Who has hold of the engine can go on. -/
  goesOn : x.sending.isSome → ∀ (E : Engine α σ) (t : FileTree), (x.step E t .go).isSome
  /-- An engine gets the events that found it, each of them once. -/
  spelled : ∀ number, x.Spelled j number
  /-- The position, as long as there is an engine, is what was heard of its session. -/
  position : x.bridge.engine.isSome → x.bridge.played = UInt64.ofNat (framesOf j.heard)
  /-- The positions of one engine's events never decrease. -/
  ordered : ∀ number, (j.positions number).Pairwise (· ≤ ·)
  stamped : ∀ number, (∀ n ∈ j.positions number, n < 2 ^ 64) →
    ((j.positions number).map UInt64.ofNat).Pairwise (· ≤ ·)
  /-- A short message is packed, and a long one is submitted as it is. -/
  packed : ∀ bytes time, ∃ word, (Event.short bytes).call time = (.message word time : Call α) ∧
    word.toNat = Nat.ofDigits 256 ((bytes.take 4).map UInt8.toNat)
  unchanged : ∀ bytes time, (Event.long bytes).call time = (.sysex bytes time : Call α)

omit [Amplitude α] in
/-- What is counted in order stays so in 64 bits, if it fits. -/
theorem pairwise_ofNat {positions : List Nat} (ordered : positions.Pairwise (· ≤ ·))
    (fits : ∀ n ∈ positions, n < 2 ^ 64) : (positions.map UInt64.ofNat).Pairwise (· ≤ ·) := by
  rw [List.pairwise_map]
  refine ordered.imp_of_mem fun {m n} here there le => ?_
  rw [UInt64.le_iff_toNat_le, UInt64.toNat_ofNat_of_lt' (fits m here),
    UInt64.toNat_ofNat_of_lt' (fits n there)]
  exact le

theorem Told.goesOn (h : x.Told j as) (busy : x.sending.isSome) (E : Engine α σ)
    (t : FileTree) : (x.step E t .go).isSome := by
  obtain ⟨sending, at'⟩ := Option.isSome_iff_exists.1 busy
  obtain ⟨s, -, drafted⟩ := h.drafted sending at'
  have present := drafted.present
  rw [drafted.engine, inSlot, Option.isSome_map] at present
  obtain ⟨i, here⟩ := Option.isSome_iff_exists.1 present
  cases sending <;> simp only [Engaged.step, go, at', here, Option.isSome_some]

theorem Told.eventsTold (h : x.Told j as) : x.EventsTold j :=
  ⟨h.asked, h.goesOn, h.spelled, h.heard.position, h.ordered,
    fun number => pairwise_ofNat (h.ordered number), fun _ _ => ⟨_, rfl, toNat_packed _⟩,
    fun _ _ => rfl⟩

/-- **Every event that finds an engine is submitted to it once**, in every run with any number of
senders, pulls, openings and closings: right after its position was converted, which was the number
of frames that the pulls of the same session had delivered when it was read. No other event is
submitted to an engine, and the positions of one engine's events never decrease. -/
theorem events_told (setup : Setup) (catalog : Catalog) {turns : List (Turn α σ)}
    (run : noted? turn? noteEvents (new setup catalog) {} turns = some (x, j)) :
    x.EventsTold j := by
  have told := noted?_induction (P := fun x j => ∃ as, x.Told j as) (fun h step => by
    obtain ⟨as, told⟩ := h
    exact ⟨_, told.step (move_of_step step)⟩) ⟨[], told_new setup catalog⟩ run
  obtain ⟨as, told⟩ := told
  exact told.eventsTold

/-- The labels of closing a session after a pull. -/
def closingLabels : List (Label Extended) :=
  .startClose :: List.replicate 6 .control ++ .render :: List.replicate 8 .control

/-- Two events are sent in one session, before a pull and after it, one while the bridge is closed,
and one in the next session. -/
theorem events_told_twice_open :
    let first : List (Deed Extended) := openingLabels.map .other ++ [.send (.short [0x90, 0x40]),
      .go, .go, .go, .other (.startPull 2), .other .pull, .other .pull,
      .send (.short [0x80, 0x40, 0x7f, 1, 2]), .go, .go, .go]
    let second : List (Deed Extended) := closingLabels.map .other ++ [.send (.long [0xf0])] ++
      openingLabels.map .other ++ [.send (.long [0xf0, 0xf7]), .go, .go]
    let turns := (first ++ second).map (⟨pocketEngine, pocketFiles, ·⟩)
    ∃ x j, noted? turn? noteEvents (new pocketSetup pocketCatalog) {} turns = some (x, j) ∧
      x.EventsTold j ∧ j.sent.map (fun s => (s.engine, s.frames)) =
        [(some 0, 0), (some 0, 1), (none, 0)] ∧ j.positions 0 = [0, 1] ∧ j.positions 1 = [0] := by
  intro first second turns
  have runs : (noted? turn? noteEvents (new pocketSetup pocketCatalog) {} turns).any (fun y =>
      y.2.sent.map (fun s => (s.engine, s.frames)) == [(some 0, 0), (some 0, 1), (none, 0)] &&
        y.2.positions 0 == [0, 1] && y.2.positions 1 == [0]) = true := by
    decide +kernel
  obtain ⟨⟨x, j⟩, run, facts⟩ := (Option.any_eq_true ..).1 runs
  simp only [Bool.and_eq_true, beq_iff_eq] at facts
  obtain ⟨⟨sent, before⟩, after⟩ := facts
  exact ⟨x, j, run, events_told pocketSetup pocketCatalog run, sent, before, after⟩

end Engaged

end Bridge

end SynthBridge
