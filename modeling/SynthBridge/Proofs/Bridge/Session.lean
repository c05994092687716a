import SynthBridge.Proofs.Bridge.Controller

/-!
# The course of a session

Whoever acts, the slots of a bridge go on to hold what they should: every step of a bridge keeps
it sound (`Bridge.Sound.step`), and so does every run.
-/

namespace SynthBridge

namespace Bridge

variable {α σ : Type} {b b' : Bridge α σ} {ds : List Delivery}

theorem sound_new [Amplitude α] (setup : Setup) (catalog : Catalog) :
    (Bridge.new setup catalog : Bridge α σ).Sound [] :=
  .inl ⟨rfl, rfl, rfl, rfl⟩

/-- A bridge that is set to close its session, or to open one, is still sound. -/
theorem Sound.startClosing (h : b.Sound ds) (idle : b.controller = .idle) (next : Option UInt32) :
    (b.startClosing next).Sound ds := by
  rw [Sound, idle] at h
  rcases h with ⟨closed, vacant⟩ | ⟨open', running⟩
  · cases next with
    | none =>
      simp only [Bridge.startClosing, closed]
      exact .inl ⟨closed, vacant⟩
    | some rate =>
      simp only [Bridge.startClosing, closed]
      exact ⟨closed, vacant⟩
  · obtain ⟨s, session⟩ := Option.isSome_iff_exists.1 open'
    simp only [Bridge.startClosing, session]
    exact ⟨rfl, running⟩

theorem startClosing_player (b : Bridge α σ) (next : Option UInt32) :
    (b.startClosing next).player = b.player := by
  unfold Bridge.startClosing
  split <;> rfl

theorem Aside.sound (aside : b.Aside b') (h : b.Sound ds) : b'.Sound ds := by
  rw [Sound, aside.controller, aside.session, aside.slots]
  exact h

/-- A step of the render thread. -/
theorem Sound.render [Amplitude α] {τ : Type} {source : Source α τ} {r r' : Renderer α}
    {s s' : Shared α τ} (h : b.Sound ds) (here : b.renderer = some r)
    (present : b.pipeline = some s.pipeline) (m : Renderer.Move source r s r' s')
    (slots : b'.slots = b.slots.rendered r' s'.pipeline)
    (controller : b'.controller = b.controller) (session : b'.session = b.session) :
    b'.Sound ds := by
  rw [Sound, controller, session, slots]
  rw [Sound] at h
  split at h
  · rcases h with ⟨-, vacant⟩ | ⟨open', running⟩
    · exact absurd (vacant.renderer.symm.trans here) (by simp)
    · exact .inr ⟨open', running.render here present m⟩
  · exact ⟨h.1, h.2.render here present m⟩
  · exact ⟨h.1, h.2.render here present m⟩

/-- A step of the mixer. -/
theorem Sound.play {pl pl' : Player} {p p' : Pipeline} (h : b.Sound ds)
    (plays : b.slots.Plays pl p pl' p') (slots : b'.slots = b.slots.played pl' p')
    (controller : b'.controller = b.controller) (session : b'.session = b.session) :
    b'.Sound (ds ++ pl.delivery pl') := by
  rw [Sound, controller, session, slots]
  rw [Sound] at h
  split at h
  · rcases h with ⟨-, vacant⟩ | ⟨open', running⟩
    · exact absurd (vacant.player.symm.trans plays.1) (by simp)
    · exact .inr ⟨open', running.play plays⟩
  · exact ⟨h.1, h.2.play plays⟩
  · exact ⟨h.1, h.2.play plays⟩

/-- Where there is a player, there is a pipeline. -/
theorem Sound.pipeline {pl : Player} (h : b.Sound ds) (here : b.player = some pl) :
    ∃ p, b.pipeline = some p := by
  rw [Sound] at h
  split at h
  · rcases h with ⟨-, vacant⟩ | ⟨-, p, staffed, -⟩
    · exact absurd (vacant.player.symm.trans here) (by simp)
    · exact ⟨p, staffed.present⟩
  · exact h.2.pipeline here
  · exact h.2.pipeline here

variable [Amplitude α] {E : Engine α σ} {t : FileTree} {label : Label α}

/-- **Every step of a bridge keeps it sound.** -/
theorem Sound.step (h : b.Sound ds) (m : Move E t b label b') :
    b'.Sound (record ds b.player b'.player) := by
  cases m with
  | startOpen idle =>
    rw [record_eq_self ds (.inl (startClosing_player ..))]
    exact h.startClosing idle _
  | startClose idle =>
    rw [record_eq_self ds (.inl (startClosing_player ..))]
    exact h.startClosing idle _
  | closing here step =>
    rw [Sound, here] at h
    exact h.2.step h.1 step
  | opening here step =>
    rw [Sound, here] at h
    exact h.2.step h.1 (move_of_stepOpening step)
  | refuseThread here =>
    rw [Sound, here] at h
    exact h.2.step h.1 (E := E) (t := t) .refuseThread
  | render here present move =>
    rw [record_eq_self ds (.inl rfl)]
    exact h.render here present move rfl rfl rfl
  | startPull here free =>
    obtain ⟨p, present⟩ := h.pipeline here
    have slots : ∀ pl', slots { b with player := some pl' } = b.slots.played pl' p := fun pl' => by
      simp only [Bridge.slots, Slots.played, present]
    rw [here]
    exact h.play ⟨here, present, .inr ⟨free, rfl, _, rfl⟩⟩ (slots _) rfl rfl
  | pull here present move =>
    rw [here]
    exact h.play ⟨here, present, .inl move⟩ rfl rfl rfl
  | aside aside step =>
    have aside := aside_of_step aside step
    rw [record_eq_self ds (.inl aside.player)]
    exact aside.sound h

/-- **Every bridge that comes of a new one is sound**, and keeps to what it was set up with. -/
theorem sound_of_listen? {setup : Setup} {catalog : Catalog} {schedule : List (Label α)}
    (run : (Bridge.new setup catalog).listen? E t [] schedule = some (b, ds)) :
    b.Sound ds ∧ b.setup = setup := by
  refine listen?_induction (P := fun b ds => b.Sound ds ∧ b.setup = setup) (fun _ => True) ?_
    ⟨sound_new setup catalog, rfl⟩ (fun _ _ => trivial) run
  intro b ds label b' ⟨sound, kept⟩ _ m
  exact ⟨sound.step m, (setup_eq_of_move m).trans kept⟩

end Bridge

end SynthBridge
