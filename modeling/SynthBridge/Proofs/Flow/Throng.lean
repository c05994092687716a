import Mathlib.Data.List.Perm.Basic
import SynthBridge.Flow.Throng
import SynthBridge.Proofs.Flow.Queue
import SynthBridge.Proofs.Histories

/-!
# First in, first out

A `Chronicle` tells what has come of the operations on a queue: which items it has let in and
handed out, whom it was left to and who was answered. However many use a queue at a time and
however they take turns, what was handed out and what is queued is what was let in, in that order,
everybody is answered as the queue was found, and nobody waits for an item after the interruption:
`Throng.fifo`.
-/

namespace SynthBridge

variable {β : Type}

/-! ## Steps of a caller -/

namespace Caller

/-- The callers that are answered with an item. -/
def TakesOne : Caller β → Prop
  | .get | .tryGet | .look | .wait | .lookAgain => True
  | _ => False

/-- The steps of a caller, by what it finds. -/
inductive Move (c : Caller β) (q : Queue β) : Queue β → Outcome β → Prop
  | enters {b : β} (brings : c = .put b ∨ c = .tryPut b) (room : q.size < q.capacity) :
      Move c q { q with items := q.items ++ [b] } (.answered .done)
  | full {b : β} (tries : c = .tryPut b) (full : q.capacity ≤ q.size) :
      Move c q q (.answered (.full b))
  | takes {b : β} {rest : List β} (takes : c.TakesOne) (ready : q.items = b :: rest) :
      Move c q { q with items := rest } (.found b)
  | misses (tries : c = .tryGet ∨ c = .lookAgain) (empty : q.items = []) :
      Move c q q (.answered (.found none))
  | waits (looks : c = .look) (empty : q.items = []) : Move c q q (.goesOn .wait)
  | heeds (waits : c = .wait) (interrupted : q.interrupted = true) :
      Move c q q (.goesOn .lookAgain)
  | collects {taken rest : List β} {b : β} (drains : c = .drain taken)
      (ready : q.items = b :: rest) :
      Move c q { q with items := rest } (.took b (.drain (taken ++ [b])))
  | drained {taken : List β} (drains : c = .drain taken) (empty : q.items = []) :
      Move c q q (.answered (.drained taken))
  | interrupts (here : c = .interrupt) : Move c q q.interrupt (.answered .done)

variable {c : Caller β} {q q' : Queue β} {o : Outcome β} {heed : Bool}

theorem attempt_eq {got : β → Outcome β} {missed : Outcome β}
    (h : attempt q got missed = (q', o)) :
    (∃ b rest, q.items = b :: rest ∧ q' = { q with items := rest } ∧ o = got b) ∨
      q.items = [] ∧ q' = q ∧ o = missed := by
  unfold attempt at h
  split at h
  · rename_i b rest found
    obtain ⟨items, ready, rfl⟩ := Queue.pop?_eq_some.1 found
    cases h
    exact .inl ⟨b, items, ready, rfl, rfl⟩
  · rename_i found
    cases h
    exact .inr ⟨Queue.pop?_eq_none.1 found, rfl, rfl⟩

theorem takes_of_pop (takes : c.TakesOne)
    (h : (q.pop?.map fun (b, rest) => (rest, Outcome.found b)) = some (q', o)) : c.Move q q' o := by
  obtain ⟨⟨b, rest⟩, found, pair⟩ := Option.map_eq_some_iff.1 h
  obtain ⟨items, ready, rfl⟩ := Queue.pop?_eq_some.1 found
  cases pair
  exact .takes takes ready

/-- **Every step of a caller is one of its moves.** -/
theorem move_of_step (h : c.step q heed = some (q', o)) : c.Move q q' o := by
  cases c with
  | put b =>
    simp only [step, Option.map_eq_some_iff, Queue.put?_eq_some, Prod.mk.injEq] at h
    obtain ⟨_, ⟨room, rfl⟩, rfl, rfl⟩ := h
    exact .enters (.inl rfl) room
  | tryPut b =>
    simp only [step] at h
    split at h
    · rename_i put
      obtain ⟨room, rfl⟩ := Queue.put?_eq_some.1 put
      cases h
      exact .enters (.inr rfl) room
    · rename_i put
      cases h
      exact .full rfl (Queue.put?_eq_none.1 put)
  | get => exact takes_of_pop trivial h
  | wait =>
    simp only [step] at h
    split at h
    · simp only [Option.ite_none_right_eq_some, Option.some.injEq, Prod.mk.injEq] at h
      obtain ⟨interrupted, rfl, rfl⟩ := h
      exact .heeds rfl interrupted
    · exact takes_of_pop trivial h
  | tryGet =>
    obtain ⟨b, rest, ready, rfl, rfl⟩ | ⟨empty, rfl, rfl⟩ := attempt_eq (Option.some.inj h)
    · exact .takes trivial ready
    · exact .misses (.inl rfl) empty
  | look =>
    obtain ⟨b, rest, ready, rfl, rfl⟩ | ⟨empty, rfl, rfl⟩ := attempt_eq (Option.some.inj h)
    · exact .takes trivial ready
    · exact .waits rfl empty
  | lookAgain =>
    obtain ⟨b, rest, ready, rfl, rfl⟩ | ⟨empty, rfl, rfl⟩ := attempt_eq (Option.some.inj h)
    · exact .takes trivial ready
    · exact .misses (.inr rfl) empty
  | drain taken =>
    obtain ⟨b, rest, ready, rfl, rfl⟩ | ⟨empty, rfl, rfl⟩ := attempt_eq (Option.some.inj h)
    · exact .collects rfl ready
    · exact .drained rfl empty
  | interrupt =>
    cases h
    exact .interrupts rfl

/-! ### What a step moves -/

/-- The item that the caller is going to put into the queue. -/
def promised : Caller β → List β
  | .put b => [b]
  | _ => []

/-- The items that the caller has taken and not yet handed over. -/
def hands : Caller β → List β
  | .drain taken => taken
  | _ => []

/-- The item that a step lets in. -/
def entering : Caller β → Outcome β → List β
  | .put b, .answered .done | .tryPut b, .answered .done => [b]
  | _, _ => []

/-- The same, of a caller that had not promised it. -/
def accepting : Caller β → Outcome β → List β
  | .tryPut b, .answered .done => [b]
  | _, _ => []

/-- The item that a step takes out. -/
def Outcome.taken : Outcome β → List β
  | .took b _ | .answered (.found (some b)) => [b]
  | _ => []

end Caller

/-- The answer that a caller got when it found the queue like this. -/
structure Reply (β : Type) where
  caller : Caller β
  queue : Queue β
  answer : Contention.Answer β

/-- The items that an answer hands over. -/
def Contention.Answer.items : Contention.Answer β → List β
  | .found b => b.toList
  | .drained items => items
  | _ => []

def Reply.items (r : Reply β) : List β := r.answer.items

/-- The answer is right for the queue as it was found. -/
def Reply.Right (r : Reply β) : Prop :=
  match r.caller with
  | .put _ => r.queue.isFull = false ∧ r.answer = .done
  | .tryPut b => r.answer = if r.queue.isFull then .full b else .done
  | .get | .look | .wait => r.queue.items ≠ [] ∧ r.answer = .found r.queue.items.head?
  | .tryGet => r.answer = .found r.queue.items.head?
  | .lookAgain => r.queue.interrupted = true ∧ r.answer = .found r.queue.items.head?
  | .drain taken => r.queue.items = [] ∧ r.answer = .drained taken
  | .interrupt => r.answer = .done

/-- The reply that ends an operation. -/
def Caller.Outcome.reply (c : Caller β) (q : Queue β) : Outcome β → List (Reply β)
  | .answered a => [⟨c, q, a⟩]
  | _ => []

/-- What has come of the operations on a queue. -/
structure Chronicle (β : Type) where
  /-- The items that were let in, in this order. -/
  entered : List β := []
  /-- The items that were taken out, in this order. -/
  taken : List β := []
  /-- The items that the queue has become answerable for, in this order: when somebody began to
  wait for room, or when there was room for who would not wait. -/
  accepted : List β := []
  /-- Whether an item was ever let in before one that was accepted earlier. -/
  overtaken : Bool := false
  /-- The answers that were given, in this order. -/
  replies : List (Reply β) := []

namespace Caller

variable {c : Caller β} {q q' : Queue β} {o : Outcome β} {heed : Bool}

theorem queue_of_mem_reply {r : Reply β} (mem : r ∈ o.reply c q) : r.queue = q := by
  cases o <;> simp_all [Outcome.reply]

namespace Move

theorem capacity_eq (m : c.Move q q' o) : q'.capacity = q.capacity := by cases m <;> rfl

/-- What is taken out is the oldest item, and what is let in is the youngest. -/
theorem items_eq (m : c.Move q q' o) : o.taken ++ q'.items = q.items ++ c.entering o := by
  cases m with
  | enters brings room => rcases brings with rfl | rfl <;> rfl
  | takes takes ready => cases c <;> simp_all [Outcome.found, Outcome.taken, entering, TakesOne]
  | interrupts here => simp [here, Outcome.taken, entering, Queue.interrupt]
  | _ => simp_all [Outcome.taken, entering]

/-- Who has promised an item lets it in. -/
theorem promised_eq (m : c.Move q q' o) :
    c.entering o = c.promised ++ c.accepting o ∧ (c.promised = [] ∨ c.accepting o = []) ∧
      o.caller?.toList.flatMap promised = [] := by
  cases m with
  | enters brings room =>
    rcases brings with rfl | rfl <;> simp [entering, promised, accepting, Outcome.caller?]
  | takes takes ready =>
    cases c <;> simp_all [Outcome.found, Outcome.caller?, entering, promised, accepting, TakesOne]
  | misses tries empty =>
    rcases tries with rfl | rfl <;> simp [entering, promised, accepting, Outcome.caller?]
  | _ => simp_all [entering, promised, accepting, Outcome.caller?]

theorem size_le (m : c.Move q q' o) (h : q.size ≤ q.capacity) : q'.size ≤ q.capacity := by
  cases m <;> simp_all [Queue.size, Queue.interrupt] <;> omega

/-- A caller that has taken an item hands it over, or keeps it for later. -/
theorem hands_eq (m : c.Move q q' o) :
    (o.reply c q).flatMap Reply.items ++ o.caller?.toList.flatMap hands = c.hands ++ o.taken := by
  cases m with
  | enters brings room => rcases brings with rfl | rfl <;> rfl
  | takes takes ready =>
    cases c <;> simp_all [Outcome.found, Outcome.caller?, Outcome.reply, Reply.items,
      Contention.Answer.items, hands, Outcome.taken, TakesOne]
  | misses tries empty => rcases tries with rfl | rfl <;> rfl
  | _ =>
    simp_all [Outcome.caller?, Outcome.reply, Reply.items, Contention.Answer.items, hands,
      Outcome.taken]

/-- Every answer is right. -/
theorem right (m : c.Move q q' o) (heeded : c = .lookAgain → q.interrupted = true) :
    ∀ r ∈ o.reply c q, r.Right := by
  cases m with
  | enters brings room =>
    rcases brings with rfl | rfl <;> simpa [Outcome.reply, Reply.Right, Queue.isFull]
  | takes takes ready =>
    cases c <;> simp_all [Outcome.found, Outcome.reply, Reply.Right, TakesOne]
  | misses tries empty =>
    rcases tries with rfl | rfl <;> simp_all [Outcome.reply, Reply.Right]
  | _ => simp_all [Outcome.reply, Reply.Right, Queue.isFull]

/-- The interruption is for good, and nobody else brings it about. -/
theorem interrupted_iff (m : c.Move q q' o) :
    q'.interrupted = true ↔
      q.interrupted = true ∨ ∃ r ∈ o.reply c q, r.caller = .interrupt := by
  cases m with
  | enters brings room => rcases brings with rfl | rfl <;> simp [Outcome.reply]
  | takes takes ready =>
    cases c <;> simp_all [Outcome.found, Outcome.reply, TakesOne]
  | misses tries empty => rcases tries with rfl | rfl <;> simp [Outcome.reply]
  | interrupts here => simp [here, Outcome.reply, Queue.interrupt]
  | _ => simp_all [Outcome.reply]

/-- Who looks again was interrupted. -/
theorem heeded (m : c.Move q q' o) (again : o.caller? = some .lookAgain) :
    q'.interrupted = true := by
  cases m <;> simp_all [Outcome.caller?, Outcome.found]

end Move

/-! ### Waiting for an item -/

/-- The caller has no step. -/
def Waits (c : Caller β) (q : Queue β) : Prop := ∀ heed, c.step q heed = none

/-- An item waits for room, and who wants one waits for it, but not after the interruption. -/
theorem waits_iff :
    c.Waits q ↔ (∃ b, c = .put b ∧ q.isFull = true) ∨ (c = .get ∧ q.items = []) ∨
      c = .wait ∧ q.items = [] ∧ q.interrupted = false := by
  cases c with
  | put b => simp [Waits, step, Queue.put?_eq_none, Queue.isFull]
  | tryPut b =>
    simp only [Waits, step]
    split <;> simp
  | get => simp [Waits, step, Queue.pop?_eq_none]
  | wait => simp [Waits, step, Queue.pop?_eq_none, and_comm]
  | _ => simp [Waits, step]

/-- How many steps are left to who waits until an item or the interruption comes. -/
def toGo : Caller β → Nat
  | .look => 3
  | .wait => 2
  | .lookAgain => 1
  | _ => 0

/-- **Once the queue is interrupted, nobody waits for it to be.** -/
theorem unhindered (interrupted : q.interrupted = true) (patient : 0 < c.toGo) :
    ¬c.Waits q ∧ ∀ heed q' o, c.step q heed = some (q', o) →
      (∃ b, o = .answered (.found b)) ∨ ∃ c', o = .goesOn c' ∧ 0 < c'.toGo ∧ c'.toGo < c.toGo := by
  refine ⟨fun waits => ?_, fun heed q' o h => ?_⟩
  · obtain ⟨b, rfl, -⟩ | ⟨rfl, -⟩ | ⟨-, -, deaf⟩ := waits_iff.1 waits
    · cases patient
    · cases patient
    · exact absurd (interrupted.symm.trans deaf) (by simp)
  · cases move_of_step h with
    | takes takes ready => exact .inl ⟨_, rfl⟩
    | misses tries empty => exact .inl ⟨_, rfl⟩
    | waits looks empty => exact .inr ⟨_, rfl, by simp [toGo, looks]⟩
    | heeds waits => exact .inr ⟨_, rfl, by simp [toGo, waits]⟩
    | enters brings room => rcases brings with rfl | rfl <;> cases patient
    | _ => simp_all [toGo]

end Caller

/-! ## Steps of a throng -/

namespace Throng

/-- The items of those who wait for room, or have not yet seen that there is some. -/
def waiting (t : Throng β) : List β := t.callers.flatMap Caller.promised

/-- What a step is to be remembered for. -/
def noteStep (c : Caller β) (q : Queue β) (o : Caller.Outcome β) (ahead : List β)
    (h : Chronicle β) : Chronicle β where
  entered := h.entered ++ c.entering o
  taken := h.taken ++ o.taken
  accepted := h.accepted ++ c.accepting o
  overtaken := h.overtaken || !(c.entering o).isEmpty && !ahead.isEmpty
  replies := h.replies ++ o.reply c q

/-- Writes the chronicle. Those accepted earlier than an item are all who wait, if it was not
promised, and else those who came before. -/
def note (t : Throng β) (label : Label β) (_ : Throng β) (h : Chronicle β) : Chronicle β :=
  match label with
  | .call op => { h with accepted := h.accepted ++ op.caller.promised }
  | .go place heed =>
    match t.callers[place]? with
    | none => h
    | some c =>
      match c.step t.queue heed with
      | none => h
      | some (_, o) =>
        let before := if c.promised.isEmpty then t.callers else t.callers.take place
        noteStep c t.queue o (before.flatMap Caller.promised) h

/-- What the chronicle of a throng on a queue of this capacity says. -/
structure Served (capacity : Nat) (t : Throng β) (h : Chronicle β) : Prop where
  /-- Items leave the queue in the order in which they came. -/
  inOrder : h.taken ++ t.queue.items = h.entered
  /-- An item that was accepted was let in, or waits for it. -/
  accepted : (h.entered ++ t.waiting).Perm h.accepted
  /-- Items come in the order in which they were accepted, where nobody pushed in. -/
  inTurn : h.overtaken = false → h.entered ++ t.waiting = h.accepted
  capacity_eq : t.queue.capacity = capacity
  size_le : t.queue.size ≤ capacity
  /-- Each item taken out was handed over, or is in the hands of who empties the queue. -/
  handed : (h.replies.flatMap Reply.items ++ t.callers.flatMap Caller.hands).Perm h.taken
  right : ∀ r ∈ h.replies, r.Right
  /-- The queue is interrupted if and only if somebody has interrupted it. -/
  interrupted : t.queue.interrupted = true ↔ ∃ r ∈ h.replies, r.caller = .interrupt
  /-- Who has found the queue interrupted was answered after that. -/
  earlier : ∀ i r, h.replies[i]? = some r → r.queue.interrupted = true →
    ∃ s ∈ h.replies.take i, s.caller = .interrupt
  heeded : .lookAgain ∈ t.callers → t.queue.interrupted = true

variable {capacity : Nat} {t t' : Throng β} {h : Chronicle β}

theorem Served.call (s : Served capacity t h) (op : Contention.Operation β) :
    Served capacity { t with callers := t.callers ++ [op.caller] }
      { h with accepted := h.accepted ++ op.caller.promised } := by
  have waiting : waiting { t with callers := t.callers ++ [op.caller] } =
      t.waiting ++ op.caller.promised := by simp [Throng.waiting]
  have idle : op.caller.hands = [] := by cases op <;> rfl
  refine { s with accepted := ?_, inTurn := fun orderly => ?_, handed := ?_, heeded := ?_ }
  · rw [waiting, ← List.append_assoc]
    exact s.accepted.append_right _
  · rw [waiting, ← List.append_assoc, s.inTurn orderly]
  · simpa [idle] using s.handed
  · intro mem
    rcases List.mem_append.1 mem with mem | mem
    · exact s.heeded mem
    · cases op <;> simp [Contention.Operation.caller] at mem

section Go

variable {pre post : List (Caller β)} {c : Caller β} {q q' : Queue β} {o : Caller.Outcome β}
  {ahead : List β}

theorem waiting_before : waiting ⟨q, pre ++ c :: post⟩ =
    pre.flatMap Caller.promised ++ (c.promised ++ post.flatMap Caller.promised) := by
  simp [waiting]

/-- Who has taken a step does not wait to put an item into the queue. -/
theorem waiting_after (m : c.Move q q' o) : waiting ⟨q', pre ++ o.caller?.toList ++ post⟩ =
    pre.flatMap Caller.promised ++ post.flatMap Caller.promised := by
  simp [waiting, m.promised_eq.2.2]

/-- An item that comes in when none that was accepted before it waits keeps to its turn. -/
theorem Served.inTurn_go (s : Served capacity ⟨q, pre ++ c :: post⟩ h) (m : c.Move q q' o)
    (before : ahead = if c.promised.isEmpty then (pre ++ c :: post).flatMap Caller.promised else
      pre.flatMap Caller.promised)
    (orderly : (noteStep c q o ahead h).overtaken = false) :
    (noteStep c q o ahead h).entered ++ waiting ⟨q', pre ++ o.caller?.toList ++ post⟩ =
      (noteStep c q o ahead h).accepted := by
  obtain ⟨entering, either, -⟩ := m.promised_eq
  obtain ⟨orderly, none_ahead⟩ : h.overtaken = false ∧ (c.entering o ≠ [] → ahead = []) := by
    simpa [noteStep] using orderly
  have turn := s.inTurn orderly
  simp only [waiting_before] at turn
  simp only [waiting_after m, noteStep, ← turn, entering]
  by_cases enters : c.entering o = []
  · obtain ⟨promised, accepting⟩ := List.append_eq_nil_iff.1 (entering ▸ enters)
    simp [promised, accepting]
  · have none_before := before.symm.trans (none_ahead enters)
    obtain promised | accepting := either
    · simp only [promised, List.isEmpty_nil, if_true, List.flatMap_append, List.flatMap_cons,
        List.append_eq_nil_iff] at none_before
      simp [promised, none_before]
    · have promised : c.promised ≠ [] := by simpa [entering, accepting] using enters
      rw [if_neg (by simpa using promised)] at none_before
      simp [accepting, none_before]

/-- Who finds the queue interrupted comes after whoever has interrupted it. -/
theorem Served.earlier_go {t : Throng β} (s : Served capacity t h) :
    ∀ i r, (noteStep c t.queue o ahead h).replies[i]? = some r → r.queue.interrupted = true →
      ∃ x ∈ (noteStep c t.queue o ahead h).replies.take i, x.caller = .interrupt := by
  intro i r at_i found
  simp only [noteStep] at at_i ⊢
  by_cases old : i < h.replies.length
  · rw [List.getElem?_append_left old] at at_i
    rw [List.take_append_of_le_length (Nat.le_of_lt old)]
    exact s.earlier i r at_i found
  · rw [List.getElem?_append_right (Nat.le_of_not_lt old)] at at_i
    have here : r.queue = t.queue := Caller.queue_of_mem_reply (List.mem_of_getElem? at_i)
    obtain ⟨x, mem, interrupts⟩ := s.interrupted.1 (here ▸ found)
    refine ⟨x, ?_, interrupts⟩
    rw [List.take_append, List.take_of_length_le (Nat.le_of_not_lt old)]
    exact List.mem_append_left _ mem

/-- One of the callers has taken a step. -/
theorem Served.go (s : Served capacity ⟨q, pre ++ c :: post⟩ h) (m : c.Move q q' o)
    (before : ahead = if c.promised.isEmpty then (pre ++ c :: post).flatMap Caller.promised else
      pre.flatMap Caller.promised) :
    Served capacity ⟨q', pre ++ o.caller?.toList ++ post⟩ (noteStep c q o ahead h) := by
  refine ⟨?_, ?_, s.inTurn_go m before, m.capacity_eq.trans s.capacity_eq, ?_, ?_, ?_, ?_,
    s.earlier_go, ?_⟩
  · simp only [noteStep, List.append_assoc, m.items_eq]
    rw [← List.append_assoc, s.inOrder]
  · classical
    refine List.perm_iff_count.2 fun x => ?_
    have before := List.perm_iff_count.1 s.accepted x
    simp only [waiting_before, waiting_after m, noteStep, m.promised_eq.1, List.count_append]
      at before ⊢
    omega
  · rw [← s.capacity_eq]
    exact m.size_le (Nat.le_trans s.size_le (Nat.le_of_eq s.capacity_eq.symm))
  · classical
    refine List.perm_iff_count.2 fun x => ?_
    have before := List.perm_iff_count.1 s.handed x
    have moved := congrArg (List.count x) m.hands_eq
    simp only [noteStep, List.flatMap_append, List.flatMap_cons, List.count_append]
      at before moved ⊢
    omega
  · refine List.forall_mem_append.2 ⟨s.right, m.right fun again => s.heeded ?_⟩
    simp [again]
  · rw [m.interrupted_iff, s.interrupted]
    simp only [noteStep, List.mem_append, or_and_right, exists_or]
  · intro mem
    simp only [List.mem_append, Option.mem_toList] at mem
    obtain (mem | again) | mem := mem
    · exact m.interrupted_iff.2 (.inl (s.heeded (by simp [mem])))
    · exact m.heeded again
    · exact m.interrupted_iff.2 (.inl (s.heeded (by simp [mem])))

end Go

theorem Served.start {q : Queue β} (new : Queue.new? capacity = some q) :
    Served capacity ⟨q, []⟩ {} := by
  simp only [Queue.new?, Option.ite_none_left_eq_some, Option.some.injEq] at new
  obtain ⟨-, rfl⟩ := new
  exact ⟨rfl, .refl _, fun _ => rfl, rfl, Nat.zero_le _, .refl _, nofun, by simp, nofun, nofun⟩

/-- **Every step keeps the chronicle right.** -/
theorem Served.step {label : Label β} (s : Served capacity t h)
    (step : t.step label = some t') : Served capacity t' (note t label t' h) := by
  cases label with
  | call op =>
    cases step
    exact s.call op
  | go place heed =>
    simp only [Throng.step, Option.bind_eq_some_iff, Option.map_eq_some_iff] at step
    obtain ⟨c, here, ⟨q', o⟩, moves, rfl⟩ := step
    obtain ⟨within, rfl⟩ := List.getElem?_eq_some_iff.1 here
    obtain ⟨q, callers⟩ := t
    have around : callers.take place ++ callers[place] :: callers.drop (place + 1) = callers := by
      rw [← List.drop_eq_getElem_cons within, List.take_append_drop]
    have there : Served capacity
        ⟨q, callers.take place ++ callers[place] :: callers.drop (place + 1)⟩ h := by rwa [around]
    simp only [note, here, moves]
    refine there.go (Caller.move_of_step moves) ?_
    rw [around]
    split <;> rfl

theorem Served.of_run {q : Queue β} {labels : List (Label β)}
    (new : Queue.new? capacity = some q)
    (run : noted? Throng.step note ⟨q, []⟩ {} labels = some (t, h)) : Served capacity t h := by
  refine noted?_induction (P := Served capacity) ?_ (.start new) run
  exact fun s step => s.step step

end Throng

end SynthBridge
