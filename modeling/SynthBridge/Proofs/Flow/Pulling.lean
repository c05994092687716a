import Mathlib.Algebra.Order.Floor.Div
import SynthBridge.Proofs.Flow.Order

/-!
# The frames of a pull

A pull that nobody interferes with hands the frames of its player out one after the other: what
the player has left of its buffer, and then the buffers that are queued for playback. Wherever a
buffer is used up it goes to backstock. `Player.pull_accounts` says what is handed out and where
everything is afterwards, and that two pulls do what one pull of all their frames does.
-/

namespace SynthBridge

namespace Player

/-- Left alone, the player goes on to rest like this. -/
def EndsIn (pl : Player) (p : Pipeline) (pl' : Player) (p' : Pipeline) : Prop :=
  (∃ fuel, pl.run fuel p = (pl', p')) ∧ pl'.advance p' = none

/-- Left alone, a pull of `length` samples fills its region like this. -/
def Pulls (pl : Player) (p : Pipeline) (length : Nat) (region : List Int16) (pl' : Player)
    (p' : Pipeline) : Prop :=
  pl'.task = .pulled region ∧ (pl.startPull length).EndsIn p pl' p'

/-- How often the buffer changes while `wanted` frames are handed out, if `left` frames are left
of the one at hand. -/
def switches (frames left wanted : Nat) : Nat := (wanted - left) ⌈/⌉ frames

section Switches

variable {frames left wanted : Nat}

theorem switches_le_iff (pos : 0 < frames) {n : Nat} :
    switches frames left wanted ≤ n ↔ wanted ≤ left + n * frames := by
  rw [switches, ceilDiv_le_iff_le_mul pos, Nat.mul_comm, Nat.sub_le_iff_le_add']

theorem switches_eq_zero (h : wanted ≤ left) : switches frames left wanted = 0 := by
  rw [switches, Nat.sub_eq_zero_of_le h, zero_ceilDiv]

theorem switches_eq_succ (pos : 0 < frames) (h : left < wanted) :
    switches frames left wanted = switches frames frames (wanted - left) + 1 := by
  simp only [switches, Nat.ceilDiv_eq_add_pred_div]
  rw [← Nat.add_div_right _ pos]
  obtain more | less := Nat.le_total frames (wanted - left)
  · congr 1
    omega
  · rw [Nat.sub_eq_zero_of_le less, Nat.div_eq_of_lt_le (k := 1) (by omega) (by omega),
      Nat.div_eq_of_lt_le (k := 1) (by omega) (by omega)]

theorem switches_mono (pos : 0 < frames) {more : Nat} (h : wanted ≤ more) :
    switches frames left wanted ≤ switches frames left more :=
  (switches_le_iff pos).2 (h.trans ((switches_le_iff pos).1 le_rfl))

/-- All frames there are need all buffers there are. -/
theorem switches_all (pos : 0 < frames) (n : Nat) :
    switches frames left (left + n * frames) = n := by
  rw [switches, Nat.add_sub_cancel_left, Nat.ceilDiv_eq_add_pred_div, Nat.add_sub_assoc pos,
    Nat.mul_comm, Nat.mul_add_div pos, Nat.div_eq_of_lt (Nat.sub_lt pos Nat.one_pos), Nat.add_zero]

/-- The buffer is not changed before it is used up. -/
theorem switches_mul_le {offset : Nat} (within : offset ≤ frames) :
    switches frames (frames - offset) wanted * frames ≤ offset + wanted := by
  have := Nat.div_mul_le_self (wanted - (frames - offset) + frames - 1) frames
  rw [switches, Nat.ceilDiv_eq_add_pred_div]
  obtain few | many := Nat.le_total wanted (frames - offset)
  · rw [Nat.sub_eq_zero_of_le few, Nat.zero_add, Nat.div_eq_zero_iff.2 (by omega)]
    omega
  · omega

end Switches

variable {pl pl₁ pl' : Player} {p p₁ p' : Pipeline}

/-! ## Runs to the end -/

theorem endsIn_self (rest : pl.advance p = none) : pl.EndsIn p pl p := ⟨⟨0, rfl⟩, rest⟩

theorem endsIn_iff_of_advance (h : pl.advance p = some (pl₁, p₁)) :
    pl.EndsIn p pl' p' ↔ pl₁.EndsIn p₁ pl' p' := by
  constructor
  · rintro ⟨⟨fuel, run⟩, rest⟩
    cases fuel with
    | zero =>
      obtain ⟨rfl, rfl⟩ := run
      simp [h] at rest
    | succ fuel => exact ⟨⟨fuel, by simpa only [Player.run, h] using run⟩, rest⟩
  · rintro ⟨⟨fuel, run⟩, rest⟩
    exact ⟨⟨fuel + 1, by simpa only [Player.run, h] using run⟩, rest⟩

theorem Move.endsIn_iff (m : Move pl p pl₁ p₁) : pl.EndsIn p pl' p' ↔ pl₁.EndsIn p₁ pl' p' :=
  endsIn_iff_of_advance m.advance_eq

/-- A pull is over that has all its frames. -/
theorem endsIn_full {current : Option Buffer} {cursor : Cursor} {out : Array Int16}
    {length : Nat} :
    EndsIn ⟨current, cursor, .pulling 0 out length⟩ p
      ⟨current, cursor, .pulled (out.toList ++ List.replicate (length - out.size) 0)⟩
      { p with played := cursor.playedFrames p.frames } :=
  (Move.finish rfl (.inl rfl)).endsIn_iff.2 (endsIn_self rfl)

variable {b : Buffer} {played offset wanted length : Nat} {out : Array Int16}

theorem slice_append (b : Buffer) (offset first rest : Nat) :
    slice b offset first ++ slice b (offset + first) rest = slice b offset (first + rest) := by
  simp only [slice, Nat.mul_add, List.take_add, List.drop_drop]

/-- The player copies what the buffer has left and the pull wants. -/
theorem endsIn_copy (left : offset < p.frames) :
    EndsIn ⟨some b, ⟨played, offset⟩, .pulling (wanted + 1) out length⟩ p pl' p' ↔
      EndsIn ⟨some b, ⟨played, offset + min (p.frames - offset) (wanted + 1)⟩,
        .pulling (wanted + 1 - min (p.frames - offset) (wanted + 1))
          (out ++ slice b offset (min (p.frames - offset) (wanted + 1))) length⟩ p pl' p' :=
  (Move.copy rfl rfl left rfl).endsIn_iff

theorem append_slice (out : Array Int16) (b : Buffer) (offset first rest : Nat) :
    out ++ slice b offset first ++ slice b (offset + first) rest =
      out ++ slice b offset (first + rest) := by
  rw [← slice_append, ← Array.toList_inj]
  simp

/-- It might as well copy some of that first, and then the others. -/
theorem endsIn_copy_first {first rest : Nat} (fits : offset + first ≤ p.frames) :
    EndsIn ⟨some b, ⟨played, offset⟩, .pulling (first + rest) out length⟩ p pl' p' ↔
      EndsIn ⟨some b, ⟨played, offset + first⟩,
        .pulling rest (out ++ slice b offset first) length⟩ p pl' p' := by
  cases first with
  | zero => simp [slice]
  | succ first =>
    rw [Nat.add_right_comm, endsIn_copy (by omega)]
    by_cases more : 0 < rest ∧ offset + (first + 1) < p.frames
    · obtain ⟨⟨rest, rfl⟩, left⟩ := And.imp_left Nat.exists_eq_succ_of_ne_zero
        (And.imp_left Nat.ne_of_gt more)
      obtain ⟨n, count, both, still⟩ : ∃ n, n = min (p.frames - (offset + (first + 1))) (rest + 1) ∧
          min (p.frames - offset) (first + (rest + 1) + 1) = first + 1 + n ∧
          first + (rest + 1) + 1 - (first + 1 + n) = rest + 1 - n :=
        ⟨_, rfl, by omega, by omega⟩
      rw [endsIn_copy left, append_slice, both, still, ← count, Nat.add_assoc offset]
    · have full : min (p.frames - offset) (first + rest + 1) = first + 1 := by omega
      rw [full, Nat.add_right_comm, Nat.add_sub_cancel_left]

/-- A buffer that is used up goes to backstock. -/
theorem endsIn_giveBack (spent : p.frames ≤ offset)
    (room : p.backstock.size < p.backstock.capacity) :
    EndsIn ⟨some b, ⟨played, offset⟩, .pulling (wanted + 1) out length⟩ p pl' p' ↔
      EndsIn ⟨none, ⟨played, offset⟩, .pulling (wanted + 1) out length⟩
        { p with backstock.items := p.backstock.items ++ [b] } pl' p' :=
  (Move.giveBack (.inr ⟨⟨_, _, _, rfl⟩, spent⟩) rfl room).endsIn_iff

/-- The next buffer comes from the playable queue. -/
theorem endsIn_next {next : Buffer} {rest : List Buffer}
    (ready : p.playable.items = next :: rest) :
    EndsIn ⟨none, ⟨played, offset⟩, .pulling (wanted + 1) out length⟩ p pl' p' ↔
      EndsIn ⟨some next, ⟨played + 1, 0⟩, .pulling (wanted + 1) out length⟩
        { p with playable.items := rest } pl' p' :=
  (Move.next rfl rfl ready).endsIn_iff

/-- So a buffer that is used up makes way for the next one. -/
theorem endsIn_switch {next : Buffer} {rest : List Buffer} (spent : p.frames ≤ offset)
    (room : p.backstock.size < p.backstock.capacity) (ready : p.playable.items = next :: rest) :
    EndsIn ⟨some b, ⟨played, offset⟩, .pulling (wanted + 1) out length⟩ p pl' p' ↔
      EndsIn ⟨some next, ⟨played + 1, 0⟩, .pulling (wanted + 1) out length⟩
        { p with
          backstock.items := p.backstock.items ++ [b]
          playable.items := rest } pl' p' :=
  (endsIn_giveBack spent room).trans (endsIn_next ready)

/-- Where no buffer follows and none will come, the rest of the region is silence. -/
theorem endsIn_dry {cursor : Cursor} {region : List Int16} {position : UInt64}
    (ready : p.playable.items = []) (woken : p.playable.interrupted = true)
    (filled : out.toList ++ List.replicate (length - out.size) 0 = region)
    (reached : cursor.playedFrames p.frames = position) :
    EndsIn ⟨none, cursor, .pulling wanted out length⟩ p ⟨none, cursor, .pulled region⟩
      { p with played := position } := by
  subst filled reached
  exact (Move.finish rfl (.inr ⟨rfl, ready, woken⟩)).endsIn_iff.2 (endsIn_self rfl)

/-- So a buffer that is used up is the last one. -/
theorem endsIn_last {region : List Int16} {spare : List Buffer} {position : UInt64}
    (spent : p.frames ≤ offset) (room : p.backstock.size < p.backstock.capacity)
    (ready : p.playable.items = []) (woken : p.playable.interrupted = true)
    (filled : out.toList ++ List.replicate (length - out.size) 0 = region)
    (given : p.backstock.items ++ [b] = spare)
    (reached : Cursor.playedFrames ⟨played, offset⟩ p.frames = position) :
    EndsIn ⟨some b, ⟨played, offset⟩, .pulling (wanted + 1) out length⟩ p
      ⟨none, ⟨played, offset⟩, .pulled region⟩
      { p with backstock.items := spare, played := position } := by
  subst given
  exact (endsIn_giveBack spent room).2 (endsIn_dry ready woken filled reached)

/-! ## Many frames -/

/-- The frames that are left of a buffer, and those of the buffers behind it. -/
def stream (b : Buffer) (offset : Nat) (ready : List Buffer) : List Int16 :=
  (samplesOf (b :: ready)).drop (2 * offset)

theorem take_stream {first : Nat} {ready : List Buffer}
    (fits : 2 * (offset + first) ≤ b.samples.length) :
    (stream b offset ready).take (2 * first) = slice b offset first := by
  rw [stream, slice, samplesOf, List.flatMap_cons, List.drop_append_of_le_length (by omega),
    List.take_append_of_le_length (by simp only [List.length_drop]; omega)]

/-- Behind what is left of a buffer come the others. -/
theorem take_stream_cons {frames more : Nat} {next : Buffer} {ready : List Buffer}
    (whole : b.samples.length = 2 * frames) (within : offset ≤ frames) :
    (stream b offset (next :: ready)).take (2 * (frames - offset + more)) =
      slice b offset (frames - offset) ++ (stream next 0 ready).take (2 * more) := by
  have length := length_slice whole (Nat.add_sub_of_le within).le
  have joined : stream b offset (next :: ready) =
      slice b offset (frames - offset) ++ stream next 0 ready := by
    rw [stream, slice, samplesOf, List.flatMap_cons, List.drop_append_of_le_length (by omega),
      List.take_of_length_le (by simp only [List.length_drop]; omega)]
    rfl
  rw [joined, Nat.mul_add, ← length, List.take_length_add_append]

/-- **A player hands its frames out one after the other.** It may be left alone until `first` of
them are handed out: then it has changed its buffer where one was used up, and the spent buffers
are in backstock in the order in which they were played. -/
theorem endsIn_frames {first n : Nat} {ready : List Buffer} (rest : Nat)
    (within : offset ≤ p.frames)
    (count : switches p.frames (p.frames - offset) first = n) (stocked : n ≤ ready.length)
    (items : p.playable.items = ready)
    (quanta : ∀ x ∈ b :: ready, x.samples.length = 2 * p.frames)
    (room : p.backstock.size + n ≤ p.backstock.capacity) :
    EndsIn ⟨some b, ⟨played, offset⟩, .pulling (first + rest) out length⟩ p pl' p' ↔
      EndsIn ⟨(b :: ready)[n]?, ⟨played + n, offset + first - n * p.frames⟩,
        .pulling rest (out ++ (stream b offset ready).take (2 * first)) length⟩
        { p with
          backstock.items := p.backstock.items ++ (b :: ready).take n
          playable.items := ready.drop n } pl' p' := by
  have pos : 0 < p.frames := p.sizes.frames_pos
  have whole := quanta b (by simp)
  -- One round for each buffer that is used up.
  induction n generalizing b p played offset first out ready with
  | zero =>
    have few : first ≤ p.frames - offset := by
      by_contra many
      rw [switches_eq_succ pos (by omega)] at count
      omega
    rw [endsIn_copy_first (by omega), take_stream (by omega)]
    simp [← items]
  | succ n ih =>
    have many : p.frames - offset < first := by
      by_contra few
      rw [switches_eq_zero (by omega)] at count
      omega
    obtain ⟨more, rfl⟩ : ∃ m, first = p.frames - offset + (m + 1) :=
      ⟨first - (p.frames - offset) - 1, by omega⟩
    rw [switches_eq_succ pos many, Nat.add_sub_cancel_left] at count
    obtain _ | ⟨next, ready⟩ := ready
    · simp at stocked
    obtain ⟨-, quanta⟩ := List.forall_mem_cons.1 quanta
    rw [Nat.add_assoc, endsIn_copy_first (by omega), Nat.add_right_comm more,
      endsIn_switch (by omega) (by omega) items, Nat.add_right_comm more]
    have fits : (p.backstock.items ++ [b]).length + n ≤ p.backstock.capacity := by
      simp only [Queue.size] at room
      simp only [List.length_append, List.length_singleton]
      omega
    refine (ih (p := { p with
      backstock.items := p.backstock.items ++ [b]
      playable.items := ready }) (Nat.zero_le _) (Nat.succ.inj count)
      (Nat.le_of_succ_le_succ stocked) rfl quanta fits pos (quanta next (by simp))).trans ?_
    have handed : out ++ slice b offset (p.frames - offset) ++
        (stream next 0 ready).take (2 * (more + 1)) =
        out ++ (stream b offset (next :: ready)).take (2 * (p.frames - offset + (more + 1))) := by
      rw [take_stream_cons whole within, ← Array.toList_inj]
      simp
    have reached : 0 + (more + 1) - n * p.frames =
        offset + (p.frames - offset + (more + 1)) - (n + 1) * p.frames := by
      rw [Nat.add_mul]
      omega
    rw [← handed, ← reached]
    simp [Pipeline.frames, Nat.add_assoc, Nat.add_comm 1]

/-! ## Whole pulls -/

theorem EndsIn.unique {pl₂ : Player} {p₂ : Pipeline} (h : pl.EndsIn p pl' p')
    (h₂ : pl.EndsIn p pl₂ p₂) : pl' = pl₂ ∧ p' = p₂ := by
  obtain ⟨⟨fuel, run⟩, rest⟩ := h
  induction fuel generalizing pl p with
  | zero =>
    obtain ⟨rfl, rfl⟩ := run
    obtain ⟨⟨fuel, run₂⟩, -⟩ := h₂
    cases fuel <;> simp_all [Player.run]
  | succ fuel ih =>
    cases step : pl.advance p with
    | none =>
      obtain ⟨rfl, rfl⟩ : pl = pl' ∧ p = p' := by simpa [Player.run, step] using run
      obtain ⟨⟨fuel, run₂⟩, -⟩ := h₂
      cases fuel <;> simp_all [Player.run]
    | some next =>
      exact ih ((endsIn_iff_of_advance step).1 h₂) (by simpa [Player.run, step] using run)

section Pulls

variable {ready : List Buffer} {n : Nat}

theorem length_stream {frames : Nat} (within : offset ≤ frames)
    (quanta : ∀ x ∈ b :: ready, x.samples.length = 2 * frames) :
    (stream b offset ready).length = 2 * (frames - offset + ready.length * frames) := by
  have total : (samplesOf (b :: ready)).length = (ready.length + 1) * (2 * frames) := by
    rw [samplesOf, List.length_flatMap, List.map_congr_left quanta, List.map_const',
      List.sum_replicate_nat, List.length_cons]
  rw [stream, List.length_drop, total, Nat.add_mul, Nat.mul_left_comm]
  omega

variable {task : Task}

/-- A pull for which there are enough frames. -/
theorem pulls_of_stocked (within : offset ≤ p.frames)
    (count : switches p.frames (p.frames - offset) (length / 2) = n)
    (stocked : n ≤ p.playable.items.length)
    (quanta : ∀ x ∈ b :: p.playable.items, x.samples.length = 2 * p.frames)
    (room : p.backstock.size + n ≤ p.backstock.capacity) {region : List Int16}
    (filled : region = (stream b offset p.playable.items).take (2 * (length / 2)) ++
      List.replicate (length % 2) 0) :
    Pulls ⟨some b, ⟨played, offset⟩, task⟩ p length region
      ⟨(b :: p.playable.items)[n]?, ⟨played + n, offset + length / 2 - n * p.frames⟩,
        .pulled region⟩
      { p with
        backstock.items := p.backstock.items ++ (b :: p.playable.items).take n
        playable.items := p.playable.items.drop n
        played := .ofNat (played * p.frames + offset + length / 2) } := by
  have enough : 2 * (length / 2) ≤ (stream b offset p.playable.items).length := by
    rw [length_stream within quanta]
    exact Nat.mul_le_mul_left 2 ((switches_le_iff p.sizes.frames_pos).1 (count.trans_le stocked))
  have position : (played + n) * p.frames + (offset + length / 2 - n * p.frames) =
      played * p.frames + offset + length / 2 := by
    have : n * p.frames ≤ offset + length / 2 := count ▸ switches_mul_le within
    rw [Nat.add_mul]
    omega
  have silence : length - (2 * (length / 2)) = length % 2 := by omega
  refine ⟨rfl, (endsIn_frames 0 within count stocked rfl quanta room).2 ?_⟩
  convert endsIn_full using 2
  · simp [filled, Nat.min_eq_left enough, silence]
  · rw [Cursor.playedFrames, ← position]
    rfl

/-- A pull that goes on to the last frame there will be. -/
theorem pulls_of_stopped (within : offset ≤ p.frames)
    (few : p.playable.items.length < switches p.frames (p.frames - offset) (length / 2))
    (woken : p.playable.interrupted = true)
    (quanta : ∀ x ∈ b :: p.playable.items, x.samples.length = 2 * p.frames)
    (room : p.backstock.size + (p.playable.items.length + 1) ≤ p.backstock.capacity)
    {copied : Nat} (all : copied = p.frames - offset + p.playable.items.length * p.frames)
    {region : List Int16}
    (filled : region = (stream b offset p.playable.items).take (2 * copied) ++
      List.replicate (length - 2 * copied) 0) :
    Pulls ⟨some b, ⟨played, offset⟩, task⟩ p length region
      ⟨none, ⟨played + p.playable.items.length, p.frames⟩, .pulled region⟩
      { p with
        backstock.items := p.backstock.items ++ b :: p.playable.items
        playable.items := []
        played := .ofNat (played * p.frames + offset + copied) } := by
  have pos : 0 < p.frames := p.sizes.frames_pos
  have more : copied < length / 2 := by
    rwa [← Nat.not_le, switches_le_iff pos, Nat.not_le, ← all] at few
  obtain ⟨rest, asked⟩ : ∃ n, length / 2 = copied + (n + 1) := ⟨length / 2 - copied - 1, by omega⟩
  have count : switches p.frames (p.frames - offset) copied = p.playable.items.length :=
    all ▸ switches_all pos _
  have used_up : offset + copied - p.playable.items.length * p.frames = p.frames := by omega
  have last : p.playable.items.length < (b :: p.playable.items).length := Nat.lt_add_one _
  have spent : (b :: p.playable.items).take p.playable.items.length ++
      [(b :: p.playable.items)[p.playable.items.length]] = b :: p.playable.items := by
    rw [List.take_append_getElem last]
    simp
  have room' : (p.backstock.items ++ (b :: p.playable.items).take p.playable.items.length).length <
      p.backstock.capacity := by
    simp only [Queue.size] at room
    simp only [List.length_append, List.length_take, List.length_cons]
    omega
  have enough : 2 * copied ≤ (stream b offset p.playable.items).length := by
    rw [length_stream within quanta, all]
  have position : (played + p.playable.items.length) * p.frames + p.frames =
      played * p.frames + offset + copied := by
    rw [Nat.add_mul]
    omega
  refine ⟨rfl, ?_⟩
  rw [startPull, asked]
  refine (endsIn_frames (rest + 1) within count le_rfl rfl quanta (by omega)).2 ?_
  rw [List.getElem?_eq_getElem last, used_up, List.drop_length]
  refine endsIn_last (le_refl p.frames) room' rfl woken ?_ ?_ ?_
  · simp [filled, Nat.min_eq_left enough]
  · rw [List.append_assoc, spent]
  · exact congrArg UInt64.ofNat position

end Pulls

/-! ## Two pulls for one -/

section Restart

variable {current : Option Buffer} {cursor : Cursor} {before : Array Int16}

/-- What a pull has filled before, and where playback was published to be, makes no difference to
the next step of it. -/
theorem Move.restart (position : UInt64)
    (m : Move ⟨current, cursor, .pulling wanted (before ++ out) (before.size + length)⟩ p pl₁ p₁) :
    (∃ current₁ cursor₁ wanted₁ out₁,
      pl₁ = ⟨current₁, cursor₁, .pulling wanted₁ (before ++ out₁) (before.size + length)⟩ ∧
      Move ⟨current, cursor, .pulling wanted out length⟩ { p with played := position }
        ⟨current₁, cursor₁, .pulling wanted₁ out₁ length⟩ { p₁ with played := position }) ∨
    ∃ rest, pl₁ = ⟨current, cursor, .pulled (before.toList ++ rest)⟩ ∧
      Move ⟨current, cursor, .pulling wanted out length⟩ { p with played := position }
        ⟨current, cursor, .pulled rest⟩ p₁ := by
  cases m with
  | giveBack spent held room =>
    obtain ⟨⟨⟩⟩ | ⟨⟨_, _, _, ⟨⟩⟩, complete⟩ := spent
    exact .inl ⟨_, _, _, _, rfl, .giveBack (.inr ⟨⟨_, _, _, rfl⟩, complete⟩) held room⟩
  | primed task => cases task
  | unprimed task => cases task
  | copy task held left count =>
    cases task
    refine .inl ⟨_, _, _, _, ?_, .copy rfl held left count⟩
    simp [← Array.toList_inj]
  | next task empty ready =>
    cases task
    exact .inl ⟨_, _, _, _, rfl, .next rfl empty ready⟩
  | finish task complete =>
    cases task
    exact .inr ⟨_, by simp [Nat.add_sub_add_left], .finish rfl complete⟩

/-- So it makes none to the rest of the pull. -/
theorem EndsIn.restart {region : List Int16} (position : UInt64)
    (h : EndsIn ⟨current, cursor, .pulling wanted (before ++ out) (before.size + length)⟩ p pl' p')
    (ended : pl'.task = .pulled region) :
    ∃ rest, region = before.toList ++ rest ∧
      EndsIn ⟨current, cursor, .pulling wanted out length⟩ { p with played := position }
        { pl' with task := .pulled rest } p' := by
  obtain ⟨⟨fuel, run⟩, rest⟩ := h
  induction fuel generalizing current cursor wanted out p with
  | zero =>
    obtain ⟨rfl, rfl⟩ := run
    cases ended
  | succ fuel ih =>
    rw [Player.run] at run
    split at run
    · obtain ⟨rfl, rfl⟩ := run
      cases ended
    · rename_i pl₁ p₁ step
      obtain ⟨current₁, cursor₁, wanted₁, out₁, rfl, m⟩ | ⟨filled, rfl, m⟩ :=
        (move_of_advance step).restart position
      · obtain ⟨filled, same, ends⟩ := ih run
        exact ⟨filled, same, m.endsIn_iff.2 ends⟩
      · obtain ⟨rfl, rfl⟩ : _ ∧ _ := by
          cases fuel <;> simpa only [Player.run, advance, Prod.mk.injEq] using run
        cases ended
        exact ⟨filled, rfl, m.endsIn_iff.2 (endsIn_self rfl)⟩

end Restart

/-- Two pulls for which there are enough frames. -/
theorem pulls_split {first second : Nat} {region : List Int16} {task : Task}
    (within : offset ≤ p.frames)
    (quanta : ∀ x ∈ b :: p.playable.items, x.samples.length = 2 * p.frames)
    (stocked : switches p.frames (p.frames - offset) first ≤ p.playable.items.length)
    (room : p.backstock.size + switches p.frames (p.frames - offset) first ≤ p.backstock.capacity)
    (whole : Pulls ⟨some b, ⟨played, offset⟩, task⟩ p (2 * (first + second)) region pl' p') :
    ∃ before after pl₁ p₁, region = before ++ after ∧
      Pulls ⟨some b, ⟨played, offset⟩, task⟩ p (2 * first) before pl₁ p₁ ∧
      Pulls pl₁ p₁ (2 * second) after { pl' with task := .pulled after } p' := by
  have halves (n : Nat) : 2 * n / 2 = n := Nat.mul_div_cancel_left n Nat.two_pos
  obtain ⟨taken, copied⟩ : ∃ xs, xs = (stream b offset p.playable.items).take (2 * first) :=
    ⟨_, rfl⟩
  have enough : taken.length = 2 * first := by
    rw [copied, List.length_take, length_stream within quanta, Nat.min_eq_left]
    exact Nat.mul_le_mul_left 2 ((switches_le_iff p.sizes.frames_pos).1 stocked)
  have before : Pulls ⟨some b, ⟨played, offset⟩, task⟩ p (2 * first) taken _ _ :=
    pulls_of_stocked within rfl (by rwa [halves]) quanta (by rwa [halves]) (by simp [copied])
  obtain ⟨ended, ends⟩ := whole
  rw [startPull, halves, endsIn_frames second within rfl stocked rfl quanta room, ← copied] at ends
  have joined : (#[] : Array Int16) ++ taken = taken.toArray ++ #[] := by simp
  have length : 2 * (first + second) = taken.toArray.size + 2 * second := by
    rw [List.size_toArray, enough, Nat.mul_add]
  rw [joined, length] at ends
  obtain ⟨after, same, ends⟩ :=
    ends.restart (.ofNat (played * p.frames + offset + 2 * first / 2)) ended
  refine ⟨taken, after, _, _, same, before, rfl, ?_⟩
  rw [startPull, halves]
  simpa only [halves] using ends

/-- Two pulls the first of which meets the end. -/
theorem pulls_split_stopped {first second : Nat} {region : List Int16} {task : Task}
    (within : offset ≤ p.frames)
    (quanta : ∀ x ∈ b :: p.playable.items, x.samples.length = 2 * p.frames)
    (few : p.playable.items.length < switches p.frames (p.frames - offset) first)
    (woken : p.playable.interrupted = true)
    (room : p.backstock.size + (p.playable.items.length + 1) ≤ p.backstock.capacity)
    (whole : Pulls ⟨some b, ⟨played, offset⟩, task⟩ p (2 * (first + second)) region pl' p') :
    ∃ before after pl₁ p₁, region = before ++ after ∧
      Pulls ⟨some b, ⟨played, offset⟩, task⟩ p (2 * first) before pl₁ p₁ ∧
      Pulls pl₁ p₁ (2 * second) after { pl' with task := .pulled after } p' := by
  have pos : 0 < p.frames := p.sizes.frames_pos
  have halves (n : Nat) : 2 * n / 2 = n := Nat.mul_div_cancel_left n Nat.two_pos
  have fewer := few.trans_le (switches_mono pos (Nat.le_add_right first second))
  have before : Pulls ⟨some b, ⟨played, offset⟩, task⟩ p (2 * first) _ _ _ :=
    pulls_of_stopped within (by rwa [halves]) woken quanta room rfl rfl
  have same : Pulls ⟨some b, ⟨played, offset⟩, task⟩ p (2 * (first + second)) _ _ _ :=
    pulls_of_stopped within (by rwa [halves]) woken quanta room rfl rfl
  obtain ⟨rfl, rfl⟩ := whole.2.unique same.2
  obtain ⟨rfl⟩ := Task.pulled.inj (whole.1.symm.trans same.1)
  refine ⟨_, List.replicate (2 * second) 0, _, _, ?_, before, rfl, ?_⟩
  · rw [List.append_assoc, List.replicate_append_replicate]
    have enough : 2 * (p.frames - offset + p.playable.items.length * p.frames) ≤ 2 * first := by
      rw [← Nat.not_le, switches_le_iff pos] at few
      omega
    congr 2
    omega
  · have reached : (played + p.playable.items.length) * p.frames + p.frames =
        played * p.frames + offset +
          (p.frames - offset + p.playable.items.length * p.frames) := by
      rw [Nat.add_mul]
      omega
    exact endsIn_dry rfl woken rfl (congrArg UInt64.ofNat reached)

/-- **What a pull hands out, and what it leaves.** The player has frames left in its buffer, and
whole buffers are queued behind it. If these are enough, the region begins with the frames that
come next, and each buffer that was used up has made way for the one behind it. If there are not
enough and playback is stopped, everything is handed out and all buffers are in backstock. The
rest of the region is silence, the position that is published has moved on by the frames handed
out, and two pulls of whole frames do what one pull of all of them does. -/
theorem pull_accounts (played : Nat) (task : Task) {length n most : Nat} {ready : List Buffer}
    (within : offset ≤ p.frames) (items : p.playable.items = ready)
    (quanta : ∀ x ∈ b :: ready, x.samples.length = 2 * p.frames)
    (count : switches p.frames (p.frames - offset) (length / 2) = n)
    (all : p.frames - offset + ready.length * p.frames = most)
    (room : p.backstock.size + min n (ready.length + 1) ≤ p.backstock.capacity) :
    (n ≤ ready.length → ∃ region, region.length = length ∧
      region = (stream b offset ready).take (2 * (length / 2)) ++ List.replicate (length % 2) 0 ∧
      Pulls ⟨some b, ⟨played, offset⟩, task⟩ p length region
        ⟨(b :: ready)[n]?, ⟨played + n, offset + length / 2 - n * p.frames⟩, .pulled region⟩
        { p with
          backstock.items := p.backstock.items ++ (b :: ready).take n
          playable.items := ready.drop n
          played := .ofNat (played * p.frames + offset + length / 2) }) ∧
    (ready.length < n → p.playable.interrupted = true → ∃ region, region.length = length ∧
      region = (stream b offset ready).take (2 * most) ++ List.replicate (length - 2 * most) 0 ∧
      Pulls ⟨some b, ⟨played, offset⟩, task⟩ p length region
        ⟨none, ⟨played + ready.length, p.frames⟩, .pulled region⟩
        { p with
          backstock.items := p.backstock.items ++ b :: ready
          playable.items := []
          played := .ofNat (played * p.frames + offset + most) }) ∧
    (n ≤ ready.length ∨ p.playable.interrupted = true → ∀ x y, length = 2 * (x + y) →
      ∀ region pl' p', Pulls ⟨some b, ⟨played, offset⟩, task⟩ p length region pl' p' →
        ∃ first second pl₁ p₁, region = first ++ second ∧
          Pulls ⟨some b, ⟨played, offset⟩, task⟩ p (2 * x) first pl₁ p₁ ∧
          Pulls pl₁ p₁ (2 * y) second { pl' with task := .pulled second } p') := by
  subst items count all
  have pos : 0 < p.frames := p.sizes.frames_pos
  have frames := length_stream within quanta
  refine ⟨fun stocked => ⟨_, ?_, rfl, ?_⟩, fun few woken => ⟨_, ?_, rfl, ?_⟩, ?_⟩
  · have enough := (switches_le_iff pos).1 stocked
    simp only [List.length_append, List.length_take, List.length_replicate]
    omega
  · exact pulls_of_stocked within rfl stocked quanta (by omega) rfl
  · have more := few
    rw [← Nat.not_le, switches_le_iff pos] at more
    simp only [List.length_append, List.length_take, List.length_replicate]
    omega
  · exact pulls_of_stopped within few woken quanta (by omega) rfl rfl
  · rintro ended x y rfl region pl' p' whole
    rw [Nat.mul_div_cancel_left _ Nat.two_pos] at ended room
    have fewer : switches p.frames (p.frames - offset) x ≤
        switches p.frames (p.frames - offset) (x + y) := switches_mono pos (Nat.le_add_right x y)
    by_cases stocked : switches p.frames (p.frames - offset) x ≤ p.playable.items.length
    · exact pulls_split within quanta stocked (by omega) whole
    · refine pulls_split_stopped within quanta (Nat.lt_of_not_le stocked) ?_ (by omega) whole
      exact ended.resolve_left fun enough => stocked (fewer.trans enough)

/-- Two frames a buffer, one of the first buffer played, and two more buffers queued. Three frames
and an odd sample are pulled, or one frame more than there are. -/
theorem pull_accounts_across_buffers :
    let p : Pipeline := { Pipeline.new ⟨2, 4, by decide, by decide⟩ with
      playable := ⟨4, [⟨1, [3, -3, 4, -4]⟩, ⟨2, [5, -5, 6, -6]⟩], true⟩ }
    let pl : Player := ⟨some ⟨0, [1, -1, 2, -2]⟩, ⟨5, 1⟩, .idle⟩
    Pulls pl p 7 [2, -2, 3, -3, 4, -4, 0]
        ⟨some ⟨1, [3, -3, 4, -4]⟩, ⟨6, 2⟩, .pulled [2, -2, 3, -3, 4, -4, 0]⟩
        { p with
          backstock.items := [⟨0, [1, -1, 2, -2]⟩]
          playable.items := [⟨2, [5, -5, 6, -6]⟩]
          played := 14 } ∧
      Pulls pl p 12 [2, -2, 3, -3, 4, -4, 5, -5, 6, -6, 0, 0]
        ⟨none, ⟨7, 2⟩, .pulled [2, -2, 3, -3, 4, -4, 5, -5, 6, -6, 0, 0]⟩
        { p with
          backstock.items :=
            [⟨0, [1, -1, 2, -2]⟩, ⟨1, [3, -3, 4, -4]⟩, ⟨2, [5, -5, 6, -6]⟩]
          playable.items := []
          played := 16 } := by
  intro p pl
  have quanta : ∀ x ∈ (⟨0, [1, -1, 2, -2]⟩ : Buffer) :: p.playable.items,
      x.samples.length = 2 * p.frames := by decide
  have within : 1 ≤ p.frames := by decide
  constructor
  · have count : switches p.frames (p.frames - 1) (7 / 2) = 1 := by decide
    obtain ⟨region, -, rfl, pulls⟩ :=
      (pull_accounts 5 .idle within rfl quanta count rfl (by decide)).1 (by decide)
    exact pulls
  · have count : switches p.frames (p.frames - 1) (12 / 2) = 3 := by decide
    obtain ⟨region, -, rfl, pulls⟩ :=
      (pull_accounts 5 .idle within rfl quanta count rfl (by decide)).2.1 (by decide) rfl
    exact pulls

end Player

end SynthBridge
