import Mathlib.Data.Nat.Digits.Defs
import SynthBridge.Proofs.Bridge.Asking
import SynthBridge.Proofs.Bridge.Engagement
import SynthBridge.Proofs.Bridge.Positions

/-!
# What senders submit

A journal is kept of the senders of a run (`Bridge.Engaged.noteEvents`): which engine each of them
found in the slot, what the mixer had heard of the session when the position was read, and which
timestamp the engine made of that. The calls of an engine are then told by the journal
(`Bridge.Engaged.events_told`): each event that found the engine is submitted to it once, right
after its position was converted, and no other event ever is.
-/

namespace SynthBridge

namespace Bridge

/-! ## Packed messages -/

/-- One more byte at the low end of a word that has room for it. -/
theorem toNat_shift_or (word : UInt32) (b : UInt8) (room : word.toNat < 2 ^ 24) :
    (word <<< 8 ||| b.toUInt32).toNat = b.toNat + 256 * word.toNat := by
  have low : b.toNat < 2 ^ 8 := b.toNat_lt
  have shifted : word.toNat <<< 8 % 2 ^ 32 = 2 ^ 8 * word.toNat := by
    rw [Nat.shiftLeft_eq]
    omega
  have value : (word <<< 8 ||| b.toUInt32).toNat = (2 ^ 8 * word.toNat) ||| b.toNat := by
    rw [UInt32.toNat_or, UInt32.toNat_shiftLeft, UInt8.toNat_toUInt32]
    exact congrArg (· ||| b.toNat) shifted
  rw [value, ← Nat.two_pow_add_eq_or_of_lt low]
  omega

theorem toNat_foldr (bytes : List UInt8) (short : bytes.length ≤ 4) :
    (bytes.foldr (fun (b : UInt8) (word : UInt32) => word <<< 8 ||| b.toUInt32) 0).toNat =
      Nat.ofDigits 256 (bytes.map UInt8.toNat) := by
  induction bytes with
  | nil => rfl
  | cons b rest ih =>
    rw [List.length_cons] at short
    have before := ih (by omega)
    have digits : ∀ d ∈ rest.map UInt8.toNat, d < 256 := by
      intro d mem
      obtain ⟨b, -, rfl⟩ := List.mem_map.1 mem
      exact b.toNat_lt
    have below := Nat.ofDigits_lt_base_pow_length (by omega) digits
    rw [List.length_map] at below
    have room : 256 ^ rest.length ≤ 256 ^ 3 := Nat.pow_le_pow_right (by omega) (by omega)
    rw [List.foldr_cons, List.map_cons, Nat.ofDigits_cons, toNat_shift_or _ _ (by omega), before]

/-- **A message is packed** with its first byte lowest, up to four of them. -/
theorem toNat_packed (bytes : List UInt8) :
    (packed bytes).toNat = Nat.ofDigits 256 ((bytes.take 4).map UInt8.toNat) :=
  toNat_foldr _ (List.length_take_le ..)

/-- The event that is being sent. -/
def Sending.event : Sending → Event
  | .read e | .convert e _ | .submit e _ => e

namespace Engaged

variable {α σ : Type}

/-! ## The journal -/

/-- An event whose sender has had its turn. -/
structure Sent where
  event : Event
  /-- The engine that was in the slot, if there was one. -/
  engine : Option Nat
  /-- The frames heard of the engine's session when the position was read. -/
  frames : Nat := 0
  /-- What the engine made of them. -/
  time : UInt32 := 0
  deriving DecidableEq

/-- What is noted of a run with senders. -/
structure Journal where
  heard : List Delivery := []
  /-- The events in the order in which their senders got their turns. -/
  asked : List Event := []
  /-- What is known of the sender that has hold of the engine. -/
  draft : Option Sent := none
  sent : List Sent := []

/-- All that have had their turn, or have it. -/
def Journal.all (j : Journal) : List Sent := j.sent ++ j.draft.toList

/-- Those of them that found one engine. -/
def Journal.sentTo (j : Journal) (number : Nat) : List Sent :=
  j.sent.filter fun s => s.engine = some number

/-- The positions of the events that found one engine. -/
def Journal.positions (j : Journal) (number : Nat) : List Nat :=
  (j.all.filter fun s => s.engine = some number).map Sent.frames

/-- Notes of a sender's step. Until the position is read, the frames are those heard before. -/
def Journal.write (E : Engine α σ) (j : Journal) (x : Engaged α σ) : Deed α → Journal
  | .other _ => j
  | .send e =>
    match x.bridge.engine with
    | none => { j with asked := j.asked ++ [e], sent := j.sent ++ [⟨e, none, 0, 0⟩] }
    | some i =>
      { j with asked := j.asked ++ [e], draft := some ⟨e, some i.number, framesOf j.heard, 0⟩ }
  | .go =>
    match x.sending, x.bridge.engine with
    | some (.read _), _ =>
      { j with draft := j.draft.map fun s => { s with frames := framesOf j.heard } }
    | some (.convert _ position), some i =>
      { j with draft := j.draft.map fun s => { s with time := E.timestamp i.state position } }
    | some (.submit ..), _ => { j with draft := none, sent := j.all }
    | _, _ => j

/-- Notes of a step: what is heard, and what a sender does. -/
def noteEvents (x : Engaged α σ) (turn : Turn α σ) (x' : Engaged α σ) (j : Journal) : Journal :=
  { j with heard := hear j.heard x.bridge x'.bridge }.write turn.engine x turn.deed

/-! ## What the calls of an engine come to -/

/-- A part of an engine's calls. -/
inductive Part (α : Type)
  /-- A call that has nothing to do with events. -/
  | other (c : Call α)
  | event (s : Sent)

/-- The calls of a part. An event's position is converted right before it is submitted. -/
def Part.spell : Part α → List (Call α)
  | .other c => [c]
  | .event s => [.timestamp (UInt64.ofNat s.frames), s.event.call s.time]

def Part.sent? : Part α → Option Sent
  | .other _ => none
  | .event s => some s

/-- The position that a sender has converted for an event that is still to be submitted. -/
def pending (x : Engaged α σ) (j : Journal) (number : Nat) : List (Call α) :=
  match x.sending, j.draft with
  | some (.submit ..), some s =>
    if s.engine = some number then [.timestamp (UInt64.ofNat s.frames)] else []
  | _, _ => []

/-- The calls of an engine are those of the events that found it, in their order, and others. -/
def Spelled (x : Engaged α σ) (j : Journal) (number : Nat) : Prop :=
  ∃ parts : List (Part α), callsTo number x.bridge.calls =
      parts.flatMap Part.spell ++ x.pending j number ∧
    parts.filterMap Part.sent? = j.sentTo number ∧ ∀ c, .other c ∈ parts → c.isEvent = false

/-! ## What runs keep to -/

/-- The draft is about the sender that has hold of the engine. -/
structure Drafted (x : Engaged α σ) (sending : Sending) (s : Sent) : Prop where
  event : s.event = sending.event
  engine : s.engine = x.bridge.inSlot
  present : s.engine.isSome
  position : ∀ e p, sending = .convert e p → p = UInt64.ofNat s.frames
  time : ∀ e time, sending = .submit e time → s.time = time

structure Told (x : Engaged α σ) (j : Journal) (as : List Attempt) : Prop where
  sound : x.Sound as
  heard : x.bridge.Heard j.heard
  asked : j.asked = j.all.map Sent.event
  free : x.sending = none → j.draft = none
  drafted : ∀ sending, x.sending = some sending → ∃ s, j.draft = some s ∧ x.Drafted sending s
  spelled : ∀ number, x.Spelled j number
  ordered : ∀ number, (j.positions number).Pairwise (· ≤ ·)
  bounded : ∀ s ∈ j.all, ∀ number, s.engine = some number → x.bridge.inSlot = some number →
    s.frames ≤ framesOf j.heard

variable {x x' : Engaged α σ} {j : Journal} {as : List Attempt} {number : Nat}

/-! ## Positions -/

theorem Journal.positions_of_free (number : Nat) (free : j.draft = none) :
    j.positions number = (j.sentTo number).map Sent.frames := by
  rw [positions, all, free, Option.toList_none, List.append_nil, sentTo]

theorem Journal.positions_of_draft {s : Sent} (draft : j.draft = some s) :
    j.positions number = (j.sentTo number).map Sent.frames ++
      if s.engine = some number then [s.frames] else [] := by
  rw [positions, all, draft, Option.toList_some, List.filter_append, List.map_append, sentTo]
  split
  · rename_i found
    rw [List.filter_cons_of_pos (by simpa using found)]
    rfl
  · rename_i other
    rw [List.filter_cons_of_neg (by simpa using other)]
    rfl

theorem Journal.sentTo_subset : (j.sentTo number).map Sent.frames ⊆ j.positions number := by
  rw [positions, all, List.filter_append, List.map_append, sentTo]
  exact List.subset_append_left ..

theorem Journal.mem_positions {n : Nat} : n ∈ j.positions number ↔
    ∃ s ∈ j.all, s.engine = some number ∧ s.frames = n := by
  simp only [positions, List.mem_map, List.mem_filter, decide_eq_true_eq, and_assoc]

/-- One more position, not before any of the others. -/
theorem pairwise_concat {positions : List Nat} {n : Nat} (h : positions.Pairwise (· ≤ ·))
    (last : ∀ m ∈ positions, m ≤ n) : (positions ++ [n]).Pairwise (· ≤ ·) := by
  refine List.pairwise_append.2 ⟨h, List.pairwise_singleton _ _, fun m mem k here => ?_⟩
  rw [List.mem_singleton.1 here]
  exact last m mem

/-! ## Steps of others than senders -/

/-- An engine that was opened and not asked for anything since has got no events. -/
theorem sentTo_of_started {informs : Bool} (h : x.Spelled j number)
    (started : Engine.Life informs .started (callsTo number x.bridge.calls)) :
    j.sentTo number = [] := by
  obtain ⟨parts, calls, sent, -⟩ := h
  rw [← sent, List.filterMap_eq_nil_iff]
  intro part mem
  cases part with
  | other c => rfl
  | event s =>
    have there : Call.timestamp (UInt64.ofNat s.frames) ∈ callsTo number x.bridge.calls := by
      rw [calls, List.mem_append, List.mem_flatMap]
      exact .inl ⟨.event s, mem, List.mem_cons_self⟩
    exact absurd (started.isPlaying_eq_false nofun nofun _ there) nofun

/-- What others ask of an engine comes after what was asked before, unless a sender has the
engine. -/
theorem Spelled.asks {b : Bridge α σ} {n : Nat} {more : List (Call α)} (h : x.Spelled j number)
    {label : Label α} (quiet : label.isEvent = false) (asks : x.bridge.Asks b label n more)
    (spared : n = number → more ≠ [] → x.pending j number = []) :
    Spelled { x with bridge := b } j number := by
  obtain ⟨parts, calls, sent, others⟩ := h
  have pending : pending { x with bridge := b } j number = x.pending j number := rfl
  rw [Spelled, pending, asks.calls]
  by_cases same : n = number
  · subst same
    cases more with
    | nil =>
      rw [List.map_nil, List.append_nil]
      exact ⟨parts, calls, sent, others⟩
    | cons c rest =>
      have nothing := spared rfl (List.cons_ne_nil c rest)
      refine ⟨parts ++ (c :: rest).map .other, ?_, ?_, ?_⟩
      · rw [callsTo_append, callsTo_map_self, calls, nothing, List.append_nil, List.append_nil,
          List.flatMap_append, List.flatMap_map]
        congr 1
        exact (List.flatMap_singleton' _).symm
      · rw [List.filterMap_append, sent, List.filterMap_map]
        simp [Function.comp_def, Part.sent?]
      · intro call mem
        rcases List.mem_append.1 mem with old | new
        · exact others call old
        · obtain ⟨_, there, ⟨rfl⟩⟩ := List.mem_map.1 new
          exact isEvent_of_mayAsk quiet (asks.may _ there)
  · rw [callsTo_append_of_ne same]
    exact ⟨parts, calls, sent, others⟩

end Engaged

end Bridge

end SynthBridge
