import SynthBridge.Proofs.Flow.Conservation

/-!
# What the mixer is given

A `Delivery` is what one pull has brought: the samples that were copied out of buffers and the
region that the mixer got. `Line.listen?` follows a schedule and writes the deliveries down.

Every pull fills the region that was asked for, whole frames first and silence after them, and a
whole frame of silence only after the player was woken (`Line.Answered.step`).
-/

namespace SynthBridge

variable {α σ : Type}

/-! ## Deliveries -/

/-- What one pull has brought. -/
structure Delivery where
  /-- The samples copied out of buffers. -/
  copied : List Int16
  /-- The samples asked for. -/
  asked : Nat
  /-- The region as it was filled. -/
  region : List Int16
  deriving DecidableEq

/-- The delivery of a step that ends a pull. -/
def Player.delivery (pl pl' : Player) : List Delivery :=
  match pl.task, pl'.task with
  | .pulling _ out length, .pulled region => [⟨out.toList, length, region⟩]
  | _, _ => []

/-- The same, of a slot in which there may be no player. -/
def Delivery.ofStep : Option Player → Option Player → List Delivery
  | some pl, some pl' => pl.delivery pl'
  | _, _ => []

/-- The samples that the pull under way has copied so far. -/
def Player.underway (pl : Player) : List Int16 :=
  match pl.task with
  | .pulling _ out _ => out.toList
  | _ => []

/-- The region of the pull under way. -/
def Player.asked (pl : Player) : List Nat :=
  match pl.task with
  | .pulling _ _ length => [length]
  | _ => []

/-- A region is what was copied and silence after it. A whole frame of silence is there only if
`woken`. -/
structure Delivery.Genuine (woken : Prop) (d : Delivery) : Prop where
  region : d.region = d.copied ++ List.replicate (d.asked - d.copied.length) 0
  whole : d.copied.length % 2 = 0
  within : d.copied.length ≤ d.asked
  silence : d.copied.length + 2 ≤ d.asked → woken

theorem Delivery.Genuine.mono {d : Delivery} {woken woken' : Prop} (h : d.Genuine woken)
    (imp : woken → woken') : d.Genuine woken' :=
  ⟨h.region, h.whole, h.within, fun missing => imp (h.silence missing)⟩

namespace Player

variable {pl pl' : Player} {p p' : Pipeline}

/-- Where no pull is over, there is no delivery. -/
theorem delivery_eq_nil (h : ∀ region, pl'.task ≠ .pulled region) : pl.delivery pl' = [] := by
  unfold delivery
  split
  · rename_i task'
    exact absurd task' (h _)
  · rfl

@[simp] theorem delivery_self (pl : Player) : pl.delivery pl = [] := by
  unfold delivery
  split <;> simp_all

theorem underway_of_free (free : pl.isFree = true) : pl.underway = [] := by
  unfold isFree at free
  unfold underway
  split at free <;> simp_all

theorem asked_of_free (free : pl.isFree = true) : pl.asked = [] := by
  unfold isFree at free
  unfold asked
  split at free <;> simp_all

/-- A step of a player ends the pull under way, or leaves it as it was. -/
theorem Move.asked_eq (m : Move pl p pl' p') :
    (pl.delivery pl').map Delivery.asked ++ pl'.asked = pl.asked := by
  cases m with
  | giveBack spent held room =>
    rcases spent with task | ⟨⟨wanted, out, length, task⟩, -⟩ <;> simp [delivery, asked, task]
  | primed task empty ready => simp [delivery, asked, task]
  | unprimed task empty ready woken => simp [delivery, asked, task]
  | copy task held left count => simp [delivery, asked, task]
  | next task empty ready => simp [delivery, asked, task]
  | finish task complete => simp [delivery, asked, task]

/-- **What a pull delivers is genuine**: frames are missing only where none will come. -/
theorem Move.genuine (m : Move pl p pl' p') (fits : pl.Fits p.frames) :
    ∀ d ∈ pl.delivery pl', d.Genuine (p.playable.interrupted = true) := by
  cases m with
  | giveBack spent held room =>
    rcases spent with task | ⟨⟨wanted, out, length, task⟩, -⟩ <;> simp [delivery, task]
  | primed task empty ready => simp [delivery, task]
  | unprimed task empty ready woken => simp [delivery, task]
  | copy task held left count => simp [delivery, task]
  | next task empty ready => simp [delivery, task]
  | @finish wanted length out task complete =>
    intro d mem
    simp only [delivery, task, List.mem_singleton] at mem
    subst mem
    have region := fits.region _ _ _ task
    refine ⟨by simp, ?_, ?_, fun missing => ?_⟩
    · simp only [Array.length_toList]
      omega
    · simp only [Array.length_toList]
      omega
    · simp only [Array.length_toList] at missing
      rcases complete with rfl | ⟨-, -, woken⟩
      · omega
      · exact woken

end Player

/-! ## Runs with their deliveries -/

@[simp] theorem Delivery.ofStep_self (player : Option Player) : ofStep player player = [] := by
  cases player <;> simp [ofStep]

namespace Line

/-- The region that a label asks for. -/
def Label.asked? : Label → Option Nat
  | .startPull samples => some samples
  | _ => none

def underway (l : Line α σ) : List Int16 := l.player.elim [] Player.underway

def asked (l : Line α σ) : List Nat := l.player.elim [] Player.asked

variable [Amplitude α]

/-- The state after a schedule, if every label of it has a step, and the deliveries on the way. -/
def listen? (source : Source α σ) (l : Line α σ) : List Label → Option (Line α σ × List Delivery)
  | [] => some (l, [])
  | label :: rest =>
    (l.step source label).bind fun l₁ =>
      (l₁.listen? source rest).map fun (l', ds) =>
        (l', Delivery.ofStep l.player l₁.player ++ ds)

variable {source : Source α σ} {l l' : Line α σ} {ds ds₀ : List Delivery}
  {past schedule : List Label} {label : Label}

theorem listen?_cons (run : l.listen? source (label :: schedule) = some (l', ds)) :
    ∃ l₁ ds₁, l.step source label = some l₁ ∧ l₁.listen? source schedule = some (l', ds₁) ∧
      ds = Delivery.ofStep l.player l₁.player ++ ds₁ := by
  simp only [listen?, Option.bind_eq_some_iff, Option.map_eq_some_iff, Prod.mk.injEq] at run
  obtain ⟨l₁, first, ⟨_, ds₁⟩, run, rfl, rfl⟩ := run
  exact ⟨l₁, ds₁, first, run, rfl⟩

theorem listen?_append {rest : List Label}
    (run : l.listen? source (schedule ++ rest) = some (l', ds)) :
    ∃ l₁ ds₁ ds₂, l.listen? source schedule = some (l₁, ds₁) ∧
      l₁.listen? source rest = some (l', ds₂) ∧ ds = ds₁ ++ ds₂ := by
  induction schedule generalizing l ds with
  | nil => exact ⟨l, [], ds, rfl, run, rfl⟩
  | cons label schedule ih =>
    obtain ⟨l₁, ds', first, more, rfl⟩ := listen?_cons run
    obtain ⟨l₂, ds₁, ds₂, run₁, run₂, rfl⟩ := ih more
    refine ⟨l₂, _, ds₂, ?_, run₂, (List.append_assoc ..).symm⟩
    simp only [listen?, first, run₁, Option.bind_some, Option.map_some]

/-- What every step keeps, of what was done so far, of the state and of the deliveries so far,
holds after every run. -/
theorem listen?_induction {P : List Label → Line α σ → List Delivery → Prop}
    {allowed : Label → Prop}
    (step : ∀ past l ds label l', P past l ds → allowed label → Move source l label l' →
      P (past ++ [label]) l' (ds ++ Delivery.ofStep l.player l'.player))
    (start : P past l ds₀) (labels : ∀ x ∈ schedule, allowed x)
    (run : l.listen? source schedule = some (l', ds)) :
    P (past ++ schedule) l' (ds₀ ++ ds) := by
  induction schedule generalizing past l ds₀ ds with
  | nil =>
    cases run
    simpa using start
  | cons label rest ih =>
    obtain ⟨l₁, ds', first, more, rfl⟩ := listen?_cons run
    obtain ⟨here, labels⟩ := List.forall_mem_cons.1 labels
    have := ih (step past l ds₀ label l₁ start here (move_of_step first)) labels more
    simpa using this

/-! ## Every pull is answered -/

/-- The pulls of a run so far: each is over and has its delivery, but for the last one, which may
be under way. -/
structure Answered (past : List Label) (l : Line α σ) (ds : List Delivery) : Prop where
  asked : ds.map Delivery.asked ++ l.asked = past.filterMap Label.asked?
  genuine : ∀ d ∈ ds, d.Genuine (.wake ∈ past)
  woken : l.pipeline.playable.interrupted = true → .wake ∈ past

omit [Amplitude α] in
/-- A step that is no player's. -/
theorem Answered.other (h : Answered past l ds) (same : label.asked? = none)
    (asked : l'.asked = l.asked) (quiet : Delivery.ofStep l.player l'.player = [])
    (woken : l'.pipeline.playable.interrupted = true →
      l.pipeline.playable.interrupted = true ∨ label = .wake) :
    Answered (past ++ [label]) l' (ds ++ Delivery.ofStep l.player l'.player) := by
  refine ⟨?_, ?_, fun i => ?_⟩
  · rw [quiet, List.append_nil, asked, h.asked]
    simp [same]
  · rw [quiet, List.append_nil]
    exact fun d mem => (h.genuine d mem).mono (List.mem_append_left _)
  · rcases woken i with before | rfl
    · exact List.mem_append_left _ (h.woken before)
    · simp

omit [Amplitude α] in
/-- A step of the player. -/
theorem Answered.play {pl pl' : Player} {p' : Pipeline} (h : Answered past l ds)
    (here : l.player = some pl) (m : Player.Move pl l.pipeline pl' p')
    (fits : pl.Fits l.pipeline.frames) :
    Answered (past ++ [.play]) { l.withPipeline p' with player := some pl' }
      (ds ++ pl.delivery pl') := by
  refine ⟨?_, ?_, fun i => ?_⟩
  · have before : ds.map Delivery.asked ++ pl.asked = past.filterMap Label.asked? := by
      simpa [Line.asked, here] using h.asked
    have now := m.asked_eq
    simp only [List.map_append, List.append_assoc, List.filterMap_append, ← before, Line.asked]
    simp [← now, Label.asked?]
  · intro d mem
    rcases List.mem_append.1 mem with mem | mem
    · exact (h.genuine d mem).mono (List.mem_append_left _)
    · exact (m.genuine fits d mem).mono fun woken => List.mem_append_left _ (h.woken woken)
  · obtain ⟨spare, ready, played, rfl⟩ := m.pipeline_eq
    exact List.mem_append_left _ (h.woken i)

/-- **Every step of a line that is whole answers its pulls in their order.** -/
theorem Answered.step (h : Answered past l ds) (m : Move source l label l')
    (conserved : l.crew.Conserved) (whole : l.teardown = none) :
    Answered (past ++ [label]) l' (ds ++ Delivery.ofStep l.player l'.player) := by
  obtain ⟨shared, renderer, player, teardown⟩ := l
  cases m with
  | render here move =>
    refine h.other rfl rfl (Delivery.ofStep_self _) fun i => .inl ?_
    cases move <;> exact i
  | makePlayer here intact =>
    obtain rfl : player = none := here
    exact h.other rfl rfl rfl .inl
  | play here move =>
    obtain rfl : player = _ := here
    exact h.play rfl move (conserved.cursor _ rfl)
  | startPrime here free =>
    obtain rfl : player = _ := here
    refine h.other rfl (Player.asked_of_free free).symm ?_ .inl
    exact Player.delivery_eq_nil (by simp [Player.startPrime])
  | @startPull pl samples here free =>
    obtain rfl : player = some pl := here
    have quiet : pl.delivery (pl.startPull samples) = [] :=
      Player.delivery_eq_nil (by simp [Player.startPull])
    have before := h.asked
    rw [Line.asked, Option.elim, Player.asked_of_free free, List.append_nil] at before
    refine ⟨?_, ?_, fun i => List.mem_append_left _ (h.woken i)⟩
    · rw [Delivery.ofStep, quiet, List.append_nil, before]
      simp [Line.asked, Player.asked, Player.startPull, Label.asked?]
    · rw [Delivery.ofStep, quiet, List.append_nil]
      exact fun d mem => (h.genuine d mem).mono (List.mem_append_left _)
  | clearFlag => exact h.other rfl rfl (Delivery.ofStep_self _) .inl
  | wake => exact h.other rfl rfl (Delivery.ofStep_self _) fun _ => .inr rfl
  | interrupt => exact h.other rfl rfl (Delivery.ofStep_self _) .inl
  | startTeardown here intact => exact h.other rfl rfl (Delivery.ofStep_self _) .inl
  | tearDown here move => exact absurd (whole.symm.trans here) (by simp)

end Line

end SynthBridge
