import Mathlib.Data.List.Induction
import SynthBridge.Output.Desk
import SynthBridge.Proofs.Sound.Extended

/-!
# A stream hands out whole quanta

The device asks a stream for one sample after the other, and between any two samples the channel
may be switched on or off. The switch is looked at when a quantum is begun. So what is heard is a
row of quanta, each as it was filled and all of it (`Filler.quanta`): a stream has handed out all of
them but for what is pending of the last one (`Stream.Whole`), and every sample keeps that so
(`Stream.Whole.next`). Once the channel is dropped there is no more: `Desk.stream_whole`.
-/

namespace SynthBridge

open Amplitude

variable {α π : Type}

/-! ## Lists -/

theorem getElem?_concat (l : List α) (x : α) (n : Nat) :
    (l ++ [x])[n]? = if n = l.length then some x else l[n]? := by
  rcases Nat.lt_trichotomy n l.length with before | rfl | after
  · rw [List.getElem?_append_left before, if_neg before.ne]
  · rw [List.getElem?_concat_length, if_pos rfl]
  · rw [List.getElem?_eq_none (by simp; omega), if_neg after.ne',
      List.getElem?_eq_none after.le]

/-- An item of lists of one length, by its list and its place there. -/
theorem getElem?_flatten_of_uniform {ls : List (List α)} {length : Nat}
    (each : ∀ l ∈ ls, l.length = length) (pos : 0 < length) (n : Nat) :
    ls.flatten[n]? = ls[n / length]?.bind fun l => l[n % length]? := by
  induction ls generalizing n with
  | nil => rfl
  | cons l rest ih =>
    obtain ⟨here, each⟩ := List.forall_mem_cons.1 each
    rw [List.flatten_cons]
    rcases Nat.lt_or_ge n length with first | later
    · rw [List.getElem?_append_left (here ▸ first), Nat.div_eq_of_lt first, Nat.mod_eq_of_lt first]
      rfl
    · rw [List.getElem?_append_right (here ▸ later), here, ih each, Nat.div_eq_sub_div pos later,
        Nat.mod_eq_sub_mod later]
      rfl

/-! ## Quanta -/

namespace Filler

/-- One more quantum. Of a channel that is not enabled it is silence, and nobody is asked. -/
def quantum (F : Filler π) (length : Nat) (x : List (List Int16) × π) (enabled : Bool) :
    List (List Int16) × π :=
  if enabled then (x.1 ++ [(F.fill x.2 length).1], (F.fill x.2 length).2)
  else (x.1 ++ [List.replicate length 0], x.2)

/-- Quanta that are begun one after the other, by whether the channel is enabled then, and whoever
fills them afterwards. -/
def quanta (F : Filler π) (length : Nat) (owner : π) (begun : List Bool) :
    List (List Int16) × π := begun.foldl (F.quantum length) ([], owner)

theorem quanta_concat (F : Filler π) (length : Nat) (owner : π) (begun : List Bool) (on : Bool) :
    F.quanta length owner (begun ++ [on]) =
      F.quantum length (F.quanta length owner begun) on := List.foldl_concat ..

/-- There are as many quanta as were begun, all of the same length. -/
theorem uniform_quanta (F : Filler π) (length : Nat) (owner : π) (begun : List Bool) :
    (F.quanta length owner begun).1.length = begun.length ∧
      ∀ q ∈ (F.quanta length owner begun).1, q.length = length := by
  induction begun using List.reverseRecOn with
  | nil => exact ⟨rfl, List.forall_mem_nil _⟩
  | append_singleton begun on ih =>
    obtain ⟨count, each⟩ := ih
    rw [quanta_concat, quantum]
    split
    · refine ⟨by simp [count], List.forall_mem_append.2 ⟨each, ?_⟩⟩
      exact List.forall_mem_singleton.2 (F.length_fill _ _)
    · refine ⟨by simp [count], List.forall_mem_append.2 ⟨each, ?_⟩⟩
      exact List.forall_mem_singleton.2 List.length_replicate

end Filler

/-! ## One sample -/

namespace Stream

/-- A stream that has handed out samples of whole quanta. -/
structure Whole (F : Filler π) (frames : Nat) (first : π) (asked begun : List Bool)
    (heard : List Int16) (s : Stream π) : Prop where
  size : s.frames = frames
  owner : s.owner = (F.quanta (2 * frames) first begun).2
  /-- All that was filled has been heard or is pending. -/
  samples : (F.quanta (2 * frames) first begun).1.flatten = heard ++ s.pending
  less : s.pending.length < 2 * frames
  /-- A sample was heard whenever one was asked for. -/
  count : heard.length = asked.length
  /-- A quantum is begun as the channel is when its first sample is asked for. -/
  starts : ∀ j, begun[j]? = asked[2 * frames * j]?

section Whole

variable {F : Filler π} {frames : Nat} {first : π} {asked begun : List Bool} {heard : List Int16}
  {s : Stream π}

theorem whole_new (F : Filler π) {frames : Nat} (pos : 1 ≤ frames) (first : π) :
    Whole F frames first [] [] [] ⟨frames, [], first⟩ :=
  ⟨rfl, rfl, rfl, by simp only [List.length_nil]; omega, rfl, fun _ => rfl⟩

/-- What is pending completes the last quantum. -/
theorem Whole.length (h : s.Whole F frames first asked begun heard) :
    asked.length + s.pending.length = 2 * frames * begun.length := by
  obtain ⟨count, each⟩ := F.uniform_quanta (2 * frames) first begun
  have length := congrArg List.length h.samples
  rw [List.length_flatten, List.map_eq_replicate_iff.2 each, List.sum_replicate_nat, count,
    List.length_append, h.count] at length
  rw [← length, Nat.mul_comm]

/-- The quantum that comes next, as it is filled. -/
theorem quantum_eq (F : Filler π) (s : Stream π) (on : Bool) :
    ∃ q owner, s.quantum F ⟨on, false⟩ = (q, { s with owner }) ∧ q.length = 2 * s.frames ∧
      ∀ qs, F.quantum (2 * s.frames) (qs, s.owner) on = (qs ++ [q], owner) := by
  cases on with
  | true => exact ⟨_, _, rfl, F.length_fill _ _, fun _ => rfl⟩
  | false => exact ⟨_, _, rfl, List.length_replicate, fun _ => rfl⟩

variable [Amplitude α]

/-- A quantum is under way, and its next sample is handed out. -/
theorem Whole.next_pending (h : s.Whole F frames first asked begun heard) (on : Bool) {y : Int16}
    {rest : List Int16} (pending : s.pending = y :: rest) :
    (s.next F ⟨on, false⟩ : Option α × Stream π) = (some (ofSample y), { s with pending := rest }) ∧
      Whole F frames first (asked ++ [on]) begun (heard ++ [y]) { s with pending := rest } := by
  have length := h.length
  have less := h.less
  have samples := h.samples
  rw [pending, List.length_cons] at length less
  rw [pending] at samples
  refine ⟨by simp [next, pending], h.size, h.owner, by simpa using samples, ?_, by simp [h.count],
    fun j => ?_⟩
  · simp only
    omega
  · -- The sample that is asked for is not the first of a quantum.
    have inside : 2 * frames * j ≠ asked.length := by
      intro same
      have before : j < begun.length := Nat.lt_of_mul_lt_mul_left (a := 2 * frames) (by omega)
      have next_le := Nat.mul_le_mul_left (2 * frames) (Nat.succ_le_of_lt before)
      rw [Nat.mul_succ] at next_le
      omega
    rw [h.starts, getElem?_concat, if_neg inside]

/-- A quantum is begun, and its first sample is handed out. -/
theorem Whole.next_begin (h : s.Whole F frames first asked begun heard) (on : Bool)
    (pending : s.pending = []) :
    ∃ y s', (s.next F ⟨on, false⟩ : Option α × Stream π) = (some (ofSample y), s') ∧
      s'.Whole F frames first (asked ++ [on]) (begun ++ [on]) (heard ++ [y]) := by
  have length := h.length
  have less := h.less
  have samples := h.samples
  rw [pending, List.length_nil] at length less
  rw [pending] at samples
  obtain ⟨q, owner, begins, size, filled⟩ := quantum_eq F s on
  rw [h.size] at size filled
  have quanta : F.quanta (2 * frames) first (begun ++ [on]) =
      ((F.quanta (2 * frames) first begun).1 ++ [q], owner) := by
    rw [F.quanta_concat, ← filled, h.owner]
  obtain ⟨y, rest, rfl⟩ := List.exists_cons_of_length_pos (l := q) (by omega)
  rw [List.length_cons] at size
  refine ⟨y, { s with owner, pending := rest }, by simp [next, pending, begins], h.size, ?_, ?_, ?_,
    by simp [h.count], fun j => ?_⟩
  · rw [quanta]
  · rw [quanta, List.flatten_concat, samples]
    simp
  · simp only
    omega
  · have same : j = begun.length ↔ 2 * frames * j = asked.length := by
      rw [← Nat.mul_right_inj (a := 2 * frames) (by omega)]
      omega
    rw [getElem?_concat, getElem?_concat, h.starts]
    simp only [same]

/-- **Every sample keeps a stream whole.** -/
theorem Whole.next (h : s.Whole F frames first asked begun heard) (on : Bool) :
    ∃ begun' y s', (s.next F ⟨on, false⟩ : Option α × Stream π) = (some (ofSample y), s') ∧
      s'.Whole F frames first (asked ++ [on]) begun' (heard ++ [y]) := by
  cases pending : s.pending with
  | nil => exact ⟨begun ++ [on], h.next_begin on pending⟩
  | cons y rest => exact ⟨begun, y, _, h.next_pending on pending⟩

end Whole

end Stream

/-! ## What the device and the holder of a channel do -/

namespace Desk

/-- What is done about a channel that is held: the device asks for a sample, or the holder throws
the switch. -/
inductive Deed
  | next
  | enable (on : Bool)

/-- Whether the channel is enabled whenever a sample is asked for. -/
def Deed.asked (on : Bool) : List Deed → List Bool
  | [] => []
  | .next :: rest => on :: asked on rest
  | .enable on :: rest => asked on rest

/-- The next sample of a channel, if it goes on. -/
def next [Amplitude α] (F : Filler π) (d : Desk π) (i : Nat) : Option α × Desk π :=
  (d.take F i 1).elim (none, d) fun x => (x.1.head?, x.2)

/-- What the device is handed out, and the desk afterwards. -/
def perform [Amplitude α] (F : Filler π) (i : Nat) (d : Desk π) :
    List Deed → List (Option α) × Desk π
  | [] => ([], d)
  | .next :: rest =>
    let (x, d) := d.next F i
    let (others, d) := perform F i d rest
    (x :: others, d)
  | .enable on :: rest => perform F i (d.enable i on) rest

/-- A channel that is held, and the stream that the device plays of it. -/
def Held (d : Desk π) (i : Nat) (on : Bool) (s : Stream π) : Prop :=
  ∃ c, d.channel? i = some c ∧ c.stream = some s ∧ c.held = true ∧ c.switches = ⟨on, false⟩

/-- A channel that was dropped. -/
def Dropped (d : Desk π) (i : Nat) : Prop :=
  ∃ c s, d.channel? i = some c ∧ c.stream = some s ∧ c.held = false ∧ c.switches.removed = true

section Deeds

variable {F : Filler π} {d : Desk π} {i : Nat} {on : Bool} {s : Stream π} {c : Channel π}

theorem channel?_modify (here : d.channel? i = some c) (f : Channel π → Channel π) :
    (d.modify i f).channel? i = some (if c.held then f c else c) := by
  unfold channel? at here
  simp [channel?, modify, here]

theorem next_eq [Amplitude α] (here : d.channel? i = some c) (stream : c.stream = some s)
    {x : Option α} {s' : Stream π} (next : s.next F c.switches = (x, s')) :
    d.next F i = (x, ⟨d.channels.set i { c with stream := some s' }⟩) := by
  unfold Desk.next take
  rw [here]
  simp only [Option.bind_some, stream, Option.map_some, Stream.take, Stream.takeOnto, next]
  cases x <;> rfl

theorem owners_of_stream (here : d.channel? i = some c) (stream : c.stream = some s) :
    d.owners[i]? = some s.owner := by
  unfold channel? at here
  simp [owners, here, stream]

/-! ## While the channel is held -/

/-- A new channel, whose stream has not begun. -/
def withStream (d : Desk π) (frames : Nat) (first : π) (own : Bool) : Desk π :=
  d.push { owner := first, stream := some ⟨frames, [], first⟩, own, held := true }

theorem held_withStream (d : Desk π) (frames : Nat) (first : π) (own : Bool) :
    (d.withStream frames first own).Held d.channels.length false ⟨frames, [], first⟩ :=
  ⟨_, List.getElem?_concat_length, rfl, rfl, rfl⟩

theorem Held.enable (h : d.Held i on s) (on' : Bool) : (d.enable i on').Held i on' s := by
  obtain ⟨c, here, stream, held, switches⟩ := h
  refine ⟨_, channel?_modify here _, ?_⟩
  rw [if_pos held, switches]
  exact ⟨stream, held, rfl⟩

theorem Held.next [Amplitude α] (h : d.Held i on s) {x : Option α} {s' : Stream π}
    (next : s.next F ⟨on, false⟩ = (x, s')) : ∃ d', d.next F i = (x, d') ∧ d'.Held i on s' := by
  obtain ⟨c, here, stream, held, switches⟩ := h
  rw [← switches] at next
  refine ⟨_, next_eq here stream next, { c with stream := some s' }, ?_, rfl, held, switches⟩
  exact List.getElem?_set_self (List.getElem?_eq_some_iff.1 here).1

/-- **Whatever is done about a channel that is held**, its stream stays whole. -/
theorem Held.perform [Amplitude α] {frames : Nat} {first : π} {asked begun : List Bool}
    {heard : List Int16} (h : d.Held i on s) (whole : s.Whole F frames first asked begun heard)
    (deeds : List Deed) :
    ∃ on' begun' played s' d',
      d.perform F i deeds = (played.map fun y => some (ofSample y : α), d') ∧ d'.Held i on' s' ∧
        s'.Whole F frames first (asked ++ Deed.asked on deeds) begun' (heard ++ played) := by
  induction deeds generalizing d on s asked begun heard with
  | nil => exact ⟨on, begun, [], s, d, rfl, h, by simpa [Deed.asked] using whole⟩
  | cons deed rest ih =>
    cases deed with
    | next =>
      obtain ⟨begun₁, y, s₁, next, whole₁⟩ := whole.next (α := α) on
      obtain ⟨d₁, next, held₁⟩ := h.next next
      obtain ⟨on', begun', played, s', d', others, held', whole'⟩ := ih held₁ whole₁
      refine ⟨on', begun', y :: played, s', d', ?_, held', ?_⟩
      · simp only [Desk.perform, next, others, List.map_cons]
      · simpa [Deed.asked] using whole'
    | enable on₁ => exact ih (h.enable on₁) whole

/-! ## Afterwards -/

theorem Held.drop (h : d.Held i on s) : (d.drop i).Dropped i := by
  obtain ⟨c, here, stream, held, switches⟩ := h
  refine ⟨_, s, channel?_modify here _, ?_⟩
  rw [if_pos held]
  exact ⟨stream, rfl, rfl⟩

theorem Dropped.enable (h : d.Dropped i) (on : Bool) : d.enable i on = d := by
  obtain ⟨c, s, here, stream, held, removed⟩ := h
  obtain ⟨inside, rfl⟩ := List.getElem?_eq_some_iff.1 here
  unfold Desk.enable modify
  rw [List.modify_eq_set_getElem?]
  simp [inside, held]

theorem Dropped.next [Amplitude α] (h : d.Dropped i) :
    (d.next F i : Option α × Desk π) = (none, d) := by
  obtain ⟨c, s, here, stream, held, removed⟩ := h
  have ended : (s.next F c.switches : Option α × Stream π) = (none, s) := by
    rw [Stream.next, if_pos removed]
  obtain ⟨inside, rfl⟩ := List.getElem?_eq_some_iff.1 here
  rw [next_eq here stream ended, ← stream, List.set_getElem_self]

/-- **Whatever is done about a channel that was dropped**, nothing comes of it. -/
theorem Dropped.perform [Amplitude α] (h : d.Dropped i) (on : Bool) (deeds : List Deed) :
    (d.perform F i deeds : List (Option α) × Desk π) =
      (List.replicate (Deed.asked on deeds).length none, d) := by
  induction deeds generalizing on with
  | nil => rfl
  | cons deed rest ih =>
    cases deed with
    | next =>
      simp only [Desk.perform, h.next, ih on]
      rfl
    | enable on' =>
      simp only [Desk.perform, h.enable, ih on']
      rfl

end Deeds

/-! ## The whole life of a stream -/

/-- **A stream hands out whole quanta.** A channel is added with its stream, and then the device
asks for samples and the holder throws the switch, in any order. A sample is handed out whenever one
is asked for, and the samples are those of the quanta one after the other, as shares of the unit
range; only the last quantum need not have been played to its end. A quantum was filled if the
channel was enabled when its first sample was asked for, and is silence otherwise, and for nothing
else was anybody asked. When the channel is dropped there are no more samples, and nobody is asked
again. -/
theorem stream_whole [Amplitude α] (F : Filler π) (d : Desk π) (first : π) (own : Bool)
    {frames : Nat} (pos : 1 ≤ frames) (deeds : List Deed) :
    let i := d.channels.length
    let asked := Deed.asked false deeds
    ∃ (begun : List Bool) (quanta : List (List Int16)) (last : π) (played : List Int16)
      (d' : Desk π),
      (d.withStream frames first own).perform F i deeds =
          (played.map fun y => some (ofSample y : α), d') ∧
        played.length = asked.length ∧ played <+: quanta.flatten ∧
        (∀ n < asked.length,
          played[n]? = quanta[n / (2 * frames)]?.bind fun q => q[n % (2 * frames)]?) ∧
        F.quanta (2 * frames) first begun = (quanta, last) ∧
        (∀ j, begun[j]? = asked[2 * frames * j]?) ∧ d'.owners[i]? = some last ∧
        (∀ later, (d'.drop i).perform F i later =
          (List.replicate (Deed.asked false later).length (none : Option α), d'.drop i)) ∧
        ∀ y : Int16, (ofSample y : Extended) = .finite (y.toInt / 32768) := by
  intro i asked
  obtain ⟨on, begun, played, s, d', performed, held, whole⟩ :=
    (d.held_withStream frames first own).perform (α := α) (Stream.whole_new F pos first) deeds
  rw [List.nil_append, List.nil_append] at whole
  obtain ⟨-, each⟩ := F.uniform_quanta (2 * frames) first begun
  refine ⟨begun, (F.quanta (2 * frames) first begun).1, (F.quanta (2 * frames) first begun).2,
    played, d', performed, whole.count, ⟨s.pending, whole.samples.symm⟩, ?_, rfl, whole.starts, ?_,
    held.drop.perform false, Extended.ofSample_eq⟩
  · intro n inside
    rw [← getElem?_flatten_of_uniform each (by omega), whole.samples,
      List.getElem?_append_left (whole.count ▸ inside)]
  · rw [← whole.owner]
    obtain ⟨c, here, stream, -⟩ := held
    exact owners_of_stream here stream

/-- The switch is thrown within a quantum, and it counts from the next one on. -/
theorem stream_whole_switched :
    let first : Pattern := { values := #[1, 2], running := false }
    let deeds : List Deed :=
      [.next, .enable true, .next, .next, .enable false, .next, .next, .next, .enable true]
    let x : List (Option Extended) × Desk Pattern :=
      (withStream {} 1 first true).perform Pattern.filler 0 deeds
    1 ≤ 1 ∧ x.1 = [0, 0, 1, 1, 0, 0].map (fun q : Rat => some (.finite (q / 32768))) ∧
      (x.2.drop 0).perform Pattern.filler 0 [.next, .enable true, .next] =
        ([(none : Option Extended), none], x.2.drop 0) := by
  intro first deeds x
  obtain ⟨begun, quanta, last, played, d', performed, -, -, -, -, -, -, ended, -⟩ :=
    stream_whole (α := Extended) Pattern.filler {} first true le_rfl deeds
  have after : x.2 = d' := congrArg Prod.snd performed
  refine ⟨le_rfl, by decide +kernel, ?_⟩
  rw [after]
  exact ended [.next, .enable true, .next]

end Desk

end SynthBridge
