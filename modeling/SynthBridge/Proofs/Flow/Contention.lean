import SynthBridge.Proofs.Flow.Throng

/-!
# Callers that are let go on at once

`Contention.perform` lets a waiting caller go on as soon as it can, and each operation is over
before the next one begins. Such a history is one of those that a throng may have, and one in
which nobody pushes in.
-/

namespace SynthBridge

variable {β : Type}

namespace Throng

/-- There is a run from one to the other in which these items are taken out and these answers
are given, and in which nobody pushes in. -/
def Reaches (t t' : Throng β) (items : List β) (answers : List (Contention.Answer β)) : Prop :=
  ∀ h, ∃ labels h', noted? Throng.step note t h labels = some (t', h') ∧
    h'.taken = h.taken ++ items ∧
    h'.replies.map Reply.answer = h.replies.map Reply.answer ++ answers ∧
    h'.overtaken = h.overtaken

variable {t t' t₁ : Throng β} {q q' : Queue β} {c : Caller β} {o : Caller.Outcome β}
  {items items' : List β} {answers answers' : List (Contention.Answer β)}

theorem Reaches.refl (t : Throng β) : t.Reaches t [] [] :=
  fun h => ⟨[], h, rfl, by simp, by simp, rfl⟩

theorem Reaches.trans (first : t.Reaches t₁ items answers)
    (rest : t₁.Reaches t' items' answers') :
    t.Reaches t' (items ++ items') (answers ++ answers') := by
  intro h
  obtain ⟨labels, h₁, run, taken, told, turn⟩ := first h
  obtain ⟨labels', h₂, run', taken', told', turn'⟩ := rest h₁
  refine ⟨labels ++ labels', h₂, ?_, ?_, ?_, turn'.trans turn⟩
  · rw [noted?_append, run]
    exact run'
  · rw [taken', taken, List.append_assoc]
  · rw [told', told, List.append_assoc]

theorem reaches_call (op : Contention.Operation β) :
    t.Reaches { t with callers := t.callers ++ [op.caller] } [] [] :=
  fun h => ⟨[.call op], _, rfl, by simp [note], by simp [note], rfl⟩

/-- The answer that a step gives. -/
def answersOf : Caller.Outcome β → List (Contention.Answer β)
  | .answered a => [a]
  | _ => []

/-- A step by which no item comes in before one that was accepted earlier. -/
theorem reaches_go (pre post : List (Caller β)) (heed : Bool)
    (steps : c.step q heed = some (q', o))
    (turn : (pre ++ post).flatMap Caller.promised = [] ∨ c.entering o = []) :
    Reaches ⟨q, pre ++ c :: post⟩ ⟨q', pre ++ o.caller?.toList ++ post⟩ o.taken (answersOf o) := by
  intro h
  have here : (pre ++ c :: post)[pre.length]? = some c := by simp
  have goes : Throng.step ⟨q, pre ++ c :: post⟩ (.go pre.length heed) =
      some ⟨q', pre ++ o.caller?.toList ++ post⟩ := by
    simp [Throng.step, steps]
  refine ⟨[.go pre.length heed], _, by rw [noted?, goes]; rfl, ?_, ?_, ?_⟩
  · simp only [note, here, steps, noteStep]
  · simp only [note, here, steps, noteStep]
    cases o <;> simp [Caller.Outcome.reply, answersOf]
  · simp only [note, here, steps, noteStep]
    obtain alone | nothing := turn
    · obtain ⟨before, after⟩ := List.append_eq_nil_iff.1 (List.flatMap_append ▸ alone)
      cases promised : c.promised <;> simp [before, after, promised]
    · simp [nothing]

/-- There is such a run in which everything taken out is handed over with the answers. -/
def Tells (t t' : Throng β) (answers : List (Contention.Answer β)) : Prop :=
  t.Reaches t' (answers.flatMap Contention.Answer.items) answers

theorem Tells.refl (t : Throng β) : t.Tells t [] := Reaches.refl t

theorem Tells.trans (first : t.Tells t₁ answers) (rest : t₁.Tells t' answers') :
    t.Tells t' (answers ++ answers') := by
  rw [Tells, List.flatMap_append]
  exact Reaches.trans first rest

/-- An operation that is over with one step. -/
theorem tells_once (op : Contention.Operation β) {cs : List (Caller β)}
    {a : Contention.Answer β} (steps : op.caller.step q false = some (q', .answered a))
    (turn : cs.flatMap Caller.promised = [] ∨ op.caller.entering (.answered a) = [])
    (taken : Caller.Outcome.taken (.answered a) = a.items) :
    Tells ⟨q, cs⟩ ⟨q', cs⟩ [a] := by
  have goes := reaches_go cs [] false steps (by simpa using turn)
  simpa [Tells, Caller.Outcome.caller?, answersOf, taken] using
    (reaches_call (t := ⟨q, cs⟩) op).trans goes

/-- Who waits finds nothing after the interruption. -/
theorem tells_nothing (cs : List (Caller β)) (empty : q.items = [])
    (interrupted : q.interrupted = true) :
    Tells ⟨q, cs ++ [.wait]⟩ ⟨q, cs⟩ [.found none] := by
  have heeds : Caller.wait.step q true = some (q, .goesOn .lookAgain) := by
    simp [Caller.step, interrupted]
  have looks : Caller.lookAgain.step q false = some (q, .answered (.found none)) := by
    simp [Caller.step, Caller.attempt, Queue.pop?_eq_none.2 empty]
  have first := reaches_go cs [] true heeds (.inr rfl)
  have second := reaches_go cs [] false looks (.inr rfl)
  simp only [List.append_nil] at first second
  simpa [Tells, Caller.Outcome.caller?, Caller.Outcome.taken, answersOf,
    Contention.Answer.items] using first.trans second

/-- Who looks into an empty queue waits. -/
theorem tells_wait (op : Contention.Operation β) {cs : List (Caller β)}
    (looks : op.caller = .look) (empty : q.items = []) :
    Tells ⟨q, cs⟩ ⟨q, cs ++ [.wait]⟩ [] := by
  have waits : op.caller.step q false = some (q, .goesOn .wait) := by
    simp [looks, Caller.step, Caller.attempt, Queue.pop?_eq_none.2 empty]
  have goes := (reaches_call (t := ⟨q, cs⟩) op).trans
    (reaches_go cs [] false waits (.inr (by rw [looks]; rfl)))
  simpa [Tells, Caller.Outcome.caller?, Caller.Outcome.taken, answersOf] using goes

/-- Who empties a queue takes all there is, after what it has taken before. -/
theorem reaches_drained {cs : List (Caller β)} {taken : List β} :
    Reaches ⟨q, cs ++ [.drain taken]⟩ ⟨{ q with items := [] }, cs⟩ q.items
      [.drained (taken ++ q.items)] := by
  obtain ⟨capacity, items, interrupted⟩ := q
  induction items generalizing taken with
  | nil =>
    have goes := reaches_go (c := .drain taken) (q := ⟨capacity, [], interrupted⟩) cs [] false rfl
      (.inr rfl)
    simpa [Caller.Outcome.caller?, Caller.Outcome.taken, answersOf] using goes
  | cons b items ih =>
    have goes := reaches_go (c := .drain taken) (q := ⟨capacity, b :: items, interrupted⟩) cs []
      false rfl (.inr rfl)
    simp only [List.append_nil] at goes
    simpa [Caller.Outcome.caller?, Caller.Outcome.taken, answersOf] using goes.trans ih

theorem tells_drained (cs : List (Caller β)) :
    Tells ⟨q, cs⟩ ⟨{ q with items := [] }, cs⟩ [.drained q.items] := by
  have drains := (reaches_call (t := ⟨q, cs⟩) .drain).trans reaches_drained
  simpa [Tells, Contention.Answer.items] using drains

end Throng

namespace Contention

/-- The callers that wait, as a throng. -/
def throng (c : Contention β) : Throng β where
  queue := c.queue
  callers := c.sender.toList.map Caller.put ++ if c.receiver then [.wait] else []

/-- Whoever waits has to. -/
structure Settled (c : Contention β) : Prop where
  pos : 0 < c.queue.capacity
  size_le : c.queue.size ≤ c.queue.capacity
  sender : c.sender.isSome → c.queue.isFull = true
  receiver : c.receiver = true → c.queue.items = [] ∧ c.queue.interrupted = false

/-- What whoever began an operation is told. -/
def given : Answer β → List (Answer β)
  | .waiting | .wouldBlock | .refused => []
  | a => [a]

/-- What whoever an operation released is told. -/
def heard : Option (Released β) → List (Answer β)
  | none => []
  | some .sender => [.done]
  | some (.receiver b) => [.found b]

variable {c : Contention β} {b : β} {q : Queue β}

theorem settled_alone (pos : 0 < q.capacity) (size_le : q.size ≤ q.capacity) :
    Settled ⟨q, none, false⟩ :=
  ⟨pos, size_le, fun sends => absurd sends Bool.false_ne_true,
    fun waits => absurd waits Bool.false_ne_true⟩

/-- Nobody waits for room where there is some. -/
theorem Settled.silent (s : c.Settled) (room : c.queue.size < c.queue.capacity) :
    c.sender = none := by
  by_contra sends
  have full := s.sender (Option.isSome_iff_ne_none.2 sends)
  simp only [Queue.isFull, decide_eq_true_eq] at full
  exact absurd full (Nat.not_le_of_lt room)

/-- Whoever waits for an item is given the one that has come. -/
theorem Settled.deliver (s : c.Settled) (put : c.queue.put? b = some q) :
    Throng.Tells ⟨q, c.throng.callers⟩ (c.deliver q).1.throng (heard (c.deliver q).2) ∧
      (c.deliver q).1.Settled := by
  obtain ⟨⟨capacity, items, interrupted⟩, sender, receiver⟩ := c
  obtain ⟨room, rfl⟩ := Queue.put?_eq_some.1 put
  obtain rfl : sender = none := s.silent room
  have size_le : (items ++ [b]).length ≤ capacity := by
    rw [List.length_append]
    exact room
  cases receiver with
  | false => exact ⟨.refl _, settled_alone s.pos size_le⟩
  | true =>
    obtain rfl : items = [] := (s.receiver rfl).1
    have goes := Throng.reaches_go (c := .wait) (q := ⟨capacity, [b], interrupted⟩) [] [] false rfl
      (.inl rfl)
    exact ⟨goes, settled_alone s.pos (Nat.zero_le _)⟩

/-- The item that waits moves in where one was taken. -/
theorem Settled.moveIn {rest : Queue β} (s : c.Settled) (pop : c.queue.pop? = some (b, rest)) :
    Throng.Tells ⟨rest, c.throng.callers⟩ (c.moveIn rest).1.throng (heard (c.moveIn rest).2) ∧
      (c.moveIn rest).1.Settled := by
  obtain ⟨⟨capacity, items, interrupted⟩, sender, receiver⟩ := c
  obtain ⟨left, ready, rfl⟩ := Queue.pop?_eq_some.1 pop
  obtain rfl : items = b :: left := ready
  have quiet : receiver = false := by
    cases receiver with
    | false => rfl
    | true => cases (s.receiver rfl).1
  subst quiet
  have size_le : left.length + 1 ≤ capacity := s.size_le
  cases sender with
  | none => exact ⟨.refl _, settled_alone s.pos (Nat.le_of_succ_le size_le)⟩
  | some b' =>
    have put : Queue.put? ⟨capacity, left, interrupted⟩ b' =
        some ⟨capacity, left ++ [b'], interrupted⟩ := Queue.put?_eq_some.2 ⟨size_le, rfl⟩
    have goes := Throng.reaches_go (c := .put b') (q := ⟨capacity, left, interrupted⟩) [] [] false
      (by rw [Caller.step, put]; rfl) (.inl rfl)
    simp only [Contention.moveIn, put]
    exact ⟨goes, settled_alone s.pos (by simpa [Queue.size] using size_le)⟩

/-- An operation that brings an item. -/
theorem Settled.bringing (s : c.Settled) (op : Operation β) {otherwise : Answer β}
    (brings : op.caller = .put b ∨ op.caller = .tryPut b)
    (refused : c.queue.put? b = none → c.throng.Tells c.throng (given otherwise)) :
    c.throng.Tells (c.bringing b otherwise).1.throng
        (given (c.bringing b otherwise).2.1 ++ heard (c.bringing b otherwise).2.2) ∧
      (c.bringing b otherwise).1.Settled := by
  unfold Contention.bringing
  cases put : c.queue.put? b with
  | none => exact ⟨by simpa [heard] using refused put, s⟩
  | some q =>
    obtain ⟨delivers, settled⟩ := s.deliver put
    refine ⟨Throng.Tells.trans (Throng.tells_once op ?_ (.inl ?_) rfl) delivers, settled⟩
    · obtain brings | brings := brings <;> simp [brings, Caller.step, put]
    · have silent := s.silent (Queue.put?_eq_some.1 put).1
      rw [silent]
      cases c.receiver <;> rfl

/-- An operation that wants an item. -/
theorem Settled.taking (s : c.Settled) (op : Operation β) {otherwise : Answer β}
    (wants : op.caller = .get ∨ op.caller = .tryGet ∨ op.caller = .look)
    (missed : c.queue.pop? = none → c.throng.Tells c.throng (given otherwise)) :
    c.throng.Tells (c.taking otherwise).1.throng
        (given (c.taking otherwise).2.1 ++ heard (c.taking otherwise).2.2) ∧
      (c.taking otherwise).1.Settled := by
  unfold Contention.taking
  cases pop : c.queue.pop? with
  | none => exact ⟨by simpa [heard] using missed pop, s⟩
  | some found =>
    obtain ⟨b, rest⟩ := found
    obtain ⟨moves, settled⟩ := s.moveIn pop
    refine ⟨Throng.Tells.trans (Throng.tells_once op ?_ (.inr ?_) rfl) moves, settled⟩
    · obtain wants | wants | wants := wants <;>
        simp [wants, Caller.step, Caller.attempt, pop, Caller.Outcome.found]
    · obtain wants | wants | wants := wants <;> rw [wants] <;> rfl

/-- **Every operation is a run of the throng**, and leaves nobody waiting who need not. -/
theorem Settled.perform (s : c.Settled) (op : Operation β) :
    c.throng.Tells (c.perform op).1.throng
        (given (c.perform op).2.1 ++ heard (c.perform op).2.2) ∧
      (c.perform op).1.Settled := by
  cases op with
  | enqueue b => exact s.bringing (.enqueue b) (.inl rfl) fun _ => .refl _
  | tryEnqueue b =>
    refine s.bringing (.tryEnqueue b) (.inr rfl) fun full => ?_
    have steps : Caller.step (.tryPut b) c.queue false = some (c.queue, .answered (.full b)) := by
      simp [Caller.step, full]
    exact Throng.tells_once (.tryEnqueue b) steps (.inr rfl) rfl
  | dequeue => exact s.taking .dequeue (.inl rfl) fun _ => .refl _
  | dequeueInterruptible =>
    refine s.taking .dequeueInterruptible (.inr (.inr rfl)) fun empty => ?_
    have empty := Queue.pop?_eq_none.1 empty
    by_cases interrupted : c.queue.interrupted = true
    · rw [if_pos interrupted]
      exact (Throng.tells_wait .dequeueInterruptible rfl empty).trans
        (Throng.tells_nothing _ empty interrupted)
    · rw [if_neg interrupted]
      exact .refl _
  | tryDequeue =>
    refine s.taking .tryDequeue (.inr (.inl rfl)) fun empty => ?_
    have steps : Caller.tryGet.step c.queue false = some (c.queue, .answered (.found none)) := by
      simp [Caller.step, Caller.attempt, empty]
    exact Throng.tells_once .tryDequeue steps (.inr rfl) rfl
  | drain =>
    simp only [Contention.perform]
    by_cases sends : c.sender.isSome
    · rw [if_pos sends]
      exact ⟨.refl _, s⟩
    · rw [if_neg sends]
      refine ⟨?_, s.pos, Nat.zero_le _, fun sends' => absurd sends' sends, fun waits => ?_⟩
      · exact Throng.tells_drained c.throng.callers
      · exact ⟨rfl, (s.receiver waits).2⟩
  | interrupt =>
    have interrupts : Throng.Tells ⟨c.queue, c.throng.callers⟩
        ⟨c.queue.interrupt, c.throng.callers⟩ [.done] :=
      Throng.tells_once .interrupt rfl (.inr rfl) rfl
    obtain ⟨queue, sender, receiver⟩ := c
    cases receiver with
    | false => exact ⟨interrupts, s.pos, s.size_le, s.sender, by rintro ⟨⟩⟩
    | true =>
      have empty : queue.items = [] := (s.receiver rfl).1
      obtain rfl : sender = none := s.silent (by simpa [Queue.size, empty] using s.pos)
      have released := Throng.tells_nothing (q := queue.interrupt) [] empty rfl
      exact ⟨interrupts.trans released, settled_alone s.pos s.size_le⟩
  | waitingEnqueue b =>
    obtain ⟨queue, sender, receiver⟩ := c
    simp only [Contention.perform]
    split
    · rename_i waits
      simp only [Bool.and_eq_true, Option.isNone_iff_eq_none] at waits
      obtain ⟨full, rfl⟩ := waits
      cases receiver with
      | false =>
        exact ⟨Throng.reaches_call (.waitingEnqueue b), s.pos, s.size_le, fun _ => full,
          by rintro ⟨⟩⟩
      | true =>
        have empty : queue.items = [] := (s.receiver rfl).1
        have pos : 0 < queue.capacity := s.pos
        simp [Queue.isFull, Queue.size, empty] at full
        omega
    · exact ⟨.refl _, s⟩
  | waitingDequeue =>
    obtain ⟨queue, sender, receiver⟩ := c
    simp only [Contention.perform]
    split
    · rename_i waits
      simp only [Bool.and_eq_true, Bool.not_eq_true', Queue.isEmpty_iff] at waits
      obtain ⟨⟨empty, deaf⟩, rfl⟩ := waits
      obtain rfl : sender = none := s.silent (by simpa [Queue.size, empty] using s.pos)
      exact ⟨Throng.tells_wait .waitingDequeue rfl empty, s.pos, s.size_le, by rintro ⟨⟩,
        fun _ => ⟨empty, deaf⟩⟩
    · exact ⟨.refl _, s⟩

/-! ## Whole histories -/

/-- The state after some operations. -/
def after (c : Contention β) (ops : List (Operation β)) : Contention β :=
  ops.foldl (fun c op => (c.perform op).1) c

/-- The answers to some operations, in the order in which they are given. -/
def told (c : Contention β) : List (Operation β) → List (Answer β)
  | [] => []
  | op :: ops =>
    given (c.perform op).2.1 ++ heard (c.perform op).2.2 ++ (c.perform op).1.told ops

theorem Settled.after (s : c.Settled) (ops : List (Operation β)) :
    c.throng.Tells (c.after ops).throng (c.told ops) := by
  induction ops generalizing c with
  | nil => exact .refl _
  | cons op ops ih =>
    obtain ⟨performs, settled⟩ := s.perform op
    exact performs.trans (ih settled)

theorem settled_new {capacity : Nat} (new : Queue.new? capacity = some q) :
    Settled ⟨q, none, false⟩ := by
  simp only [Queue.new?, Option.ite_none_left_eq_some, Option.some.injEq] at new
  obtain ⟨pos, rfl⟩ := new
  exact settled_alone (Nat.pos_of_ne_zero pos) (Nat.zero_le _)

theorem waiting_throng (c : Contention β) : c.throng.waiting = c.sender.toList := by
  obtain ⟨queue, sender, receiver⟩ := c
  cases sender <;> cases receiver <;> rfl

end Contention

namespace Throng

variable {q : Queue β} {capacity : Nat}

/-- **First in, first out.** Whatever operations are begun on a queue, by however many, and
however those who are in the middle of one take turns, its chronicle is right: what was taken out
and what is queued is what was let in, in that order, and with what waits it is what was accepted;
everybody is answered as it found the queue. Only a full queue makes an item wait and only an
empty one those who want an item. Once the queue is interrupted, who waits until it is has at most
three steps to take, and never has to wait for one of them.

Where each operation is over before the next one begins, and whoever waits goes on as soon as it
can, nobody pushes in: the items of the answers, what is queued and what waits are what was
accepted, in that order. -/
theorem fifo (new : Queue.new? capacity = some q) :
    (∀ labels t h, noted? Throng.step note ⟨q, []⟩ {} labels = some (t, h) →
      Served capacity t h ∧
        (∀ c ∈ t.callers, c.Waits t.queue ↔
          (∃ b, c = .put b ∧ t.queue.isFull = true) ∨ (c = .get ∧ t.queue.items = []) ∨
            c = .wait ∧ t.queue.items = [] ∧ t.queue.interrupted = false) ∧
        (t.queue.interrupted = true → ∀ c ∈ t.callers, 0 < c.toGo →
          ¬c.Waits t.queue ∧ ∀ heed q' o, c.step t.queue heed = some (q', o) →
            (∃ b, o = .answered (.found b)) ∨
              ∃ c', o = .goesOn c' ∧ 0 < c'.toGo ∧ c'.toGo < c.toGo)) ∧
    ∀ ops, ∃ labels h, let c := (Contention.mk q none false).after ops
      noted? Throng.step note ⟨q, []⟩ {} labels = some (c.throng, h) ∧
        Served capacity c.throng h ∧
        h.replies.map Reply.answer = (Contention.mk q none false).told ops ∧
        ((Contention.mk q none false).told ops).flatMap Contention.Answer.items ++
          c.queue.items ++ c.sender.toList = h.accepted := by
  refine ⟨fun labels t h run => ⟨.of_run new run, fun _ _ => Caller.waits_iff, ?_⟩, fun ops => ?_⟩
  · exact fun interrupted _ _ => Caller.unhindered interrupted
  · obtain ⟨labels, h, run, taken, told, turn⟩ := (Contention.settled_new new).after ops {}
    have served := Served.of_run new run
    refine ⟨labels, h, run, served, told, ?_⟩
    rw [← served.inTurn turn, ← served.inOrder, Contention.waiting_throng, taken]
    rfl

/-- A queue for one item. A second one waits until the first is taken, a third one is handed
back. After the interruption an item comes to a caller that waits, and the caller heeds the
interruption and looks again. -/
theorem fifo_interrupted :
    let labels : List (Label Nat) := [.call (.enqueue 1), .go 0 false, .call (.enqueue 2),
      .call (.tryEnqueue 3), .go 1 false, .call .dequeueInterruptible, .go 1 false, .go 0 false,
      .call .dequeueInterruptible, .go 0 false, .call .dequeueInterruptible, .go 0 false,
      .call .interrupt, .go 1 false, .call (.enqueue 4), .go 1 false, .go 0 true, .go 0 false,
      .call (.enqueue 5), .go 0 false, .call (.enqueue 6)]
    Queue.new? 1 = some ({ capacity := 1 } : Queue Nat) ∧
      ∃ t h, noted? Throng.step note ⟨{ capacity := 1 }, []⟩ {} labels = some (t, h) ∧
        h.taken = [1, 2, 4] ∧ t.queue.items = [5] ∧ t.waiting = [6] ∧
        h.entered ++ t.waiting = h.accepted ∧ Served 1 t h := by
  intro labels
  have seen : (noted? Throng.step note ⟨{ capacity := 1 }, []⟩ {} labels).map (fun x =>
      (x.2.taken, x.1.queue.items, x.1.waiting, x.2.overtaken)) =
        some ([1, 2, 4], [5], [6], false) := by decide
  obtain ⟨⟨t, h⟩, run, seen⟩ := Option.map_eq_some_iff.1 seen
  simp only [Prod.mk.injEq] at seen
  obtain ⟨taken, items, waiting, orderly⟩ := seen
  have new : Queue.new? 1 = some ({ capacity := 1 } : Queue Nat) := rfl
  obtain ⟨served, -⟩ := (fifo new).1 labels t h run
  exact ⟨new, t, h, run, taken, items, waiting, served.inTurn orderly, served⟩

end Throng

end SynthBridge
