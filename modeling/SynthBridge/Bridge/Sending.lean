import SynthBridge.Bridge.Step

/-!
# Senders

`Bridge.message` and `Bridge.sysex` submit an event in one step. A sender really goes through
several: it gets hold of the engine, reads the position of playback, has the engine convert the
position, and submits the event. Whoever else needs the engine waits until that is done; all
others go on in between.

`Bridge.Engaged` is a bridge together with the sender that has hold of its engine, and
`Bridge.Engaged.step` is its transition system. Where nobody comes in between, the steps of a
sender amount to `Bridge.message` or `Bridge.sysex` (`Bridge.Engaged.send_undisturbed`).
-/

namespace SynthBridge

namespace Bridge

variable {α σ : Type}

/-! ## Events -/

/-- Something to be played at once: a short message or a long one. -/
inductive Event
  | short (bytes : List UInt8)
  | long (bytes : List UInt8)
  deriving DecidableEq, Repr

namespace Event

/-- How the event is submitted at a timestamp. -/
def call : Event → UInt32 → Call α
  | .short bytes => .message (packed bytes)
  | .long bytes => .sysex bytes

/-- What it makes of an engine. -/
def play (E : Engine α σ) : Event → σ → UInt32 → σ
  | .short bytes => (E.message · (packed bytes))
  | .long bytes => (E.sysex · bytes)

/-- What is logged of it where there is no engine. -/
def dropped : Event → Log α
  | .short bytes => .messageDropped (packed bytes)
  | .long bytes => .sysexDropped bytes.length

/-- The event sent in one step. -/
def sendTo (E : Engine α σ) (b : Bridge α σ) : Event → Bridge α σ
  | .short bytes => b.message E bytes
  | .long bytes => b.sysex E bytes

end Event

/-! ## Who needs the engine -/

/-- Whether a label sends an event in one step. -/
def Label.isEvent : Label α → Bool
  | .message _ | .sysex _ => true
  | _ => false

/-- Whether a step is taken with hold of the engine: one that renders or changes the gain, and those
that put the engine into its slot and take it out again. -/
def needsEngine (b : Bridge α σ) : Label α → Bool
  | .message _ | .sysex _ | .setGain .. => true
  | .render =>
    match b.renderer.map Renderer.stage with
    | some .rendering => true
    | _ => false
  | .control =>
    match b.controller with
    | .opening _ (.fillEngine ..) | .opening _ (.withdrawEngine ..)
    | .closing _ (.closeEngine _) _ => true
    | _ => false
  | _ => false

/-! ## A sender at work -/

/-- What a sender that has hold of the engine does next. -/
inductive Sending
  /-- Read the position of playback. -/
  | read (e : Event)
  | convert (e : Event) (position : UInt64)
  /-- Submit the event and let go of the engine. -/
  | submit (e : Event) (time : UInt32)
  deriving DecidableEq, Repr

/-- A bridge, and the sender that has hold of its engine. -/
structure Engaged (α σ : Type) where
  bridge : Bridge α σ
  sending : Option Sending := none

namespace Engaged

/-- Who acts. -/
inductive Deed (α : Type)
  /-- Anybody but a sender. -/
  | other (label : Label α)
  /-- Somebody gets hold of the engine in order to send an event; without an engine, the event is
  dropped. -/
  | send (e : Event)
  /-- The sender goes on. -/
  | go

def new [Amplitude α] (setup : Setup) (catalog : Catalog) : Engaged α σ where
  bridge := Bridge.new setup catalog

/-- A sender gets hold of the engine; none while another has. -/
def send (x : Engaged α σ) (e : Event) : Option (Engaged α σ) :=
  match x.sending, x.bridge.engine with
  | some _, _ => none
  | none, none => some { x with bridge := x.bridge.logged [e.dropped] }
  | none, some _ => some { x with sending := some (.read e) }

/-- The sender goes on with its event. -/
def go (E : Engine α σ) (x : Engaged α σ) : Option (Engaged α σ) :=
  match x.sending, x.bridge.engine with
  | some (.read e), some _ => some { x with sending := some (.convert e x.bridge.played) }
  | some (.convert e position), some i =>
    some {
      bridge := x.bridge.called i.number [.timestamp position]
      sending := some (.submit e (E.timestamp i.state position)) }
  | some (.submit e time), some i =>
    some {
      bridge :=
        { x.bridge.called i.number [e.call time] with
          engine := some { i with state := e.play E i.state time } } }
  | _, _ => none

/-- Whether a sender keeps a label from its step. -/
def hinders (x : Engaged α σ) (label : Label α) : Bool :=
  label.isEvent || x.sending.isSome && x.bridge.needsEngine label

variable [Amplitude α]

/-- One step of whoever acts; none where they have to wait. -/
def step (E : Engine α σ) (t : FileTree) (x : Engaged α σ) : Deed α → Option (Engaged α σ)
  | .other label =>
    if x.hinders label then none
    else (x.bridge.step E t label).map fun b => { x with bridge := b }
  | .send e => x.send e
  | .go => x.go E

/-- The state after a schedule, if every deed of it has a step. -/
def follow? (E : Engine α σ) (t : FileTree) (x : Engaged α σ) :
    List (Deed α) → Option (Engaged α σ)
  | [] => some x
  | deed :: rest => (x.step E t deed).bind fun x => x.follow? E t rest

/-- **A sender that nobody disturbs** does in its steps what is otherwise done in one. -/
theorem send_undisturbed (E : Engine α σ) (t : FileTree) (b : Bridge α σ) (e : Event) :
    Engaged.follow? E t ⟨b, none⟩
        (if b.engine.isSome then [.send e, .go, .go, .go] else [.send e]) =
      some ⟨e.sendTo E b, none⟩ := by
  cases here : b.engine with
  | none =>
    cases e <;> simp [follow?, step, send, here, Event.sendTo, message, sysex, submit,
      Event.dropped]
  | some i =>
    cases e <;> simp [follow?, step, send, go, here, Event.sendTo, message, sysex, submit,
      Event.call, Event.play, called]

end Engaged

end Bridge

end SynthBridge
