import SynthBridge.Proofs.Flow.Conservation
import SynthBridge.Proofs.Flow.Waits

/-!
# The last buffers

Once playback is stopped, nobody may bring the render thread another buffer, and nobody wakes it
while it waits for one. That it is never left without is the heart of `Crew.Orderly`: whoever
leaves the circulation empty-handed has found the playable queue empty, so that all buffers are
in backstock, and as at most one quantum is rendered after the flag is cleared, one of them is
enough (`Crew.Supplied`). Every step of a thread keeps things orderly.
-/

namespace SynthBridge

variable {α σ : Type}

/-! ## The order of taking apart -/

/-- How far a teardown has come. -/
@[simp] def Teardown.phase : Teardown → Nat
  | .clearFlag => 0
  | .wake => 1
  | .takePlayer => 2
  | .inspect _ => 3
  | .handOver _ => 4
  | .drain _ => 5
  | .await .. => 6
  | .reclaim .. => 7
  | .finished .. => 8

/-- The teardown hands no buffer to the render thread any more. -/
def Teardown.LeavesAlone : Teardown → Prop
  | .inspect player => player.bind Player.current = none
  | .drain _ | .await .. => True
  | _ => False

/-- The render thread has a quantum, or will have one next, and no buffer for it. -/
def Renderer.NeedsBuffer (r : Renderer α) : Prop :=
  match r.stage with
  | .rendering | .taking _ => True
  | _ => False

namespace Crew

def phase (c : Crew α) : Nat := c.teardown.elim 0 Teardown.phase

/-- A render thread that needs a buffer finds one. -/
def Supplied (c : Crew α) : Prop :=
  ∀ r, c.renderer = some r → r.NeedsBuffer → c.pipeline.backstock.items ≠ []

/-- Things are stopped and taken apart in their order, and who no longer gives buffers back has
left the render thread one. -/
structure Orderly (c : Crew α) : Prop where
  deaf : c.pipeline.backstock.interrupted = false
  flag : c.pipeline.rendering = decide (c.phase = 0)
  woken : c.pipeline.playable.interrupted = decide (1 < c.phase)
  held : c.teardown.isSome → c.phase ≤ 2 → c.player.isSome
  released : 2 < c.phase → c.player = none
  stopped : ∀ r, c.renderer = some r → r.stage = .stopped → c.pipeline.rendering = false
  gone : 6 < c.phase → ∀ r, c.renderer = some r → r.isGone = true
  fed : ∀ pl, c.player = some pl → pl.current = none → ¬pl.IsHungry → 1 < c.phase ∧ c.Supplied
  ready : ∀ t, c.teardown = some t → t.LeavesAlone → c.Supplied

end Crew

theorem Teardown.early {t : Teardown} (h : t.phase ≤ 2) : t.hands = [] ∧ t.recovered = 0 := by
  cases t <;> simp [phase, hands, recovered] at h ⊢

theorem Teardown.late_of_leavesAlone {t : Teardown} (h : t.LeavesAlone) : 2 < t.phase := by
  cases t <;> simp_all [LeavesAlone, phase]

/-- A teardown goes on to its next phase, and finishes from the last one only. -/
theorem Teardown.Move.phase_le {t t' : Teardown} {p p' : Pipeline} {slot slot' : Option Player}
    {gone : Bool} (m : Teardown.Move t p slot gone t' p' slot')
    (unfinished : ∀ recovered played, t ≠ .reclaim recovered played) : t'.phase ≤ 7 := by
  cases m with
  | reclaim stage => exact absurd stage (unfinished _ _)
  | _ => simp

theorem Player.not_isHungry_of_isFree {pl : Player} (free : pl.isFree = true) : ¬pl.IsHungry := by
  rintro (task | ⟨_, _, _, task⟩) <;> simp [isFree, task] at free

namespace Crew

variable {p p' : Pipeline} {r r' : Renderer α} {pl pl' : Player} {renderer : Option (Renderer α)}
  {player player' : Option Player} {t t' : Teardown} {teardown : Option Teardown}

@[simp] theorem phase_none : phase ⟨p, renderer, player, none⟩ = 0 := rfl

@[simp] theorem phase_some : phase ⟨p, renderer, player, some t⟩ = t.phase := rfl

/-! ## Room and supply -/

/-- While one buffer is in somebody's hands, or not yet made, either queue has room. -/
theorem Conserved.room {c : Crew α} (h : c.Conserved)
    (out : 0 < c.unmade ∨ 0 < c.renderHands.length ∨ 0 < c.playHands.length ∨
      0 < (c.teardown.elim [] Teardown.hands).length) :
    c.pipeline.backstock.size < c.pipeline.backstock.capacity ∧
      c.pipeline.playable.size < c.pipeline.playable.capacity := by
  have count := h.ledger.count
  have made := h.made
  rw [h.backstock_capacity, h.playable_capacity]
  simp only [buffers, circulating, List.length_append] at count
  simp only [Queue.size]
  omega

/-- **Where nothing is queued and the player has no buffer, all buffers are idle.** -/
theorem Conserved.stocked (h : Conserved ⟨p, some r, some pl, teardown⟩)
    (early : phase ⟨p, some r, some pl, teardown⟩ ≤ 2) (needs : r.NeedsBuffer)
    (empty : pl.current = none) (ready : p.playable.items = []) : p.backstock.items ≠ [] := by
  have hands : r.hands = [] ∧ r.left = 0 := by
    unfold Renderer.NeedsBuffer at needs
    unfold Renderer.hands Renderer.left
    split at needs <;> simp_all
  have rest : teardown.elim [] Teardown.hands = [] ∧ teardown.elim 0 Teardown.recovered = 0 := by
    cases teardown with
    | none => exact ⟨rfl, rfl⟩
    | some t => exact Teardown.early early
  have count := h.ledger.count
  have made := h.made
  have two := p.sizes.two_le_capacity
  simp [buffers_mk, recovered, unmade, hands, rest, Player.hands, empty, ready] at count made
  rintro none_idle
  rw [none_idle] at count
  simp only [List.length_nil, Pipeline.capacity] at count made
  omega

namespace Orderly

theorem phase_le (h : Orderly ⟨p, renderer, some pl, teardown⟩) :
    phase ⟨p, renderer, some pl, teardown⟩ ≤ 2 := by
  by_contra late
  exact absurd (h.released (by omega)) (by simp)

theorem not_leavesAlone (h : Orderly ⟨p, renderer, some pl, teardown⟩) {t : Teardown}
    (here : teardown = some t) : ¬t.LeavesAlone := by
  intro alone
  have early := h.phase_le
  obtain rfl : teardown = some t := here
  exact absurd early (Nat.not_le_of_lt (Teardown.late_of_leavesAlone alone))

theorem start (sizes : Sizes) :
    Orderly ⟨.new sizes, some (.new (.new sizes) : Renderer α), none, none⟩ := by
  refine ⟨rfl, rfl, rfl, ?_, ?_, ?_, ?_, ?_, ?_⟩
  · rintro ⟨⟩
  · rintro ⟨⟩
  · rintro _ ⟨⟩ ⟨⟩
  · rintro ⟨⟩
  · rintro _ ⟨⟩
  · rintro _ ⟨⟩

/-! ## Steps of the player -/

/-- The player has done something that leaves it hungry, or holding a buffer, or that leaves the
render thread a buffer. -/
theorem of_player (h : Orderly ⟨p, renderer, some pl, teardown⟩)
    (frame : p'.backstock.interrupted = p.backstock.interrupted ∧ p'.rendering = p.rendering ∧
      p'.playable.interrupted = p.playable.interrupted)
    (fed : pl'.current = none → ¬pl'.IsHungry →
      1 < phase ⟨p, renderer, some pl, teardown⟩ ∧ Supplied ⟨p', renderer, some pl', teardown⟩) :
    Orderly ⟨p', renderer, some pl', teardown⟩ := by
  obtain ⟨deaf, flag, woken⟩ := frame
  refine ⟨deaf.trans h.deaf, flag.trans h.flag, woken.trans h.woken, fun _ _ => rfl,
    fun late => ?_, fun r here stage => flag.trans (h.stopped r here stage), h.gone, ?_, ?_⟩
  · exact absurd h.phase_le (Nat.not_le_of_lt late)
  · rintro _ ⟨⟩
    exact fed
  · intro t here alone
    exact absurd alone (h.not_leavesAlone here)

theorem play (h : Orderly ⟨p, renderer, some pl, teardown⟩)
    (conserved : Conserved ⟨p, renderer, some pl, teardown⟩) (m : Player.Move pl p pl' p') :
    Orderly ⟨p', renderer, some pl', teardown⟩ := by
  -- Where a task ends without a buffer, the playable queue was empty and nothing will come.
  have unfed : pl.current = none → p.playable.items = [] → p.playable.interrupted = true →
      1 < phase ⟨p, renderer, some pl, teardown⟩ ∧
        Supplied ⟨p, renderer, some pl, teardown⟩ := by
    intro empty ready woken
    refine ⟨of_decide_eq_true (h.woken.symm.trans woken), ?_⟩
    rintro r rfl needs
    exact conserved.stocked h.phase_le needs empty ready
  cases m with
  | giveBack spent held room =>
    refine h.of_player ⟨rfl, rfl, rfl⟩ fun _ full => absurd ?_ full
    rcases spent with task | ⟨task, -⟩
    · exact .inl task
    · exact .inr task
  | primed task empty ready => exact h.of_player ⟨rfl, rfl, rfl⟩ fun none => by cases none
  | unprimed task empty ready woken =>
    exact h.of_player ⟨rfl, rfl, rfl⟩ fun _ _ => unfed empty ready woken
  | copy task held left count => exact h.of_player ⟨rfl, rfl, rfl⟩ fun none => by cases none
  | next task empty ready => exact h.of_player ⟨rfl, rfl, rfl⟩ fun none => by cases none
  | finish task complete =>
    refine h.of_player ⟨rfl, rfl, rfl⟩ fun empty _ => ?_
    rcases complete with rfl | ⟨-, ready, woken⟩
    · refine h.fed pl rfl empty ?_
      rintro (other | ⟨_, _, _, other⟩) <;> simp [task] at other
    · exact unfed empty ready woken

/-- The player begins with something else. -/
theorem begin (h : Orderly ⟨p, renderer, some pl, teardown⟩) (free : pl.isFree = true)
    (task : Player.Task) : Orderly ⟨p, renderer, some { pl with task }, teardown⟩ :=
  h.of_player ⟨rfl, rfl, rfl⟩ fun empty _ =>
    h.fed pl rfl empty (Player.not_isHungry_of_isFree free)

/-! ## Steps of the controller -/

theorem makePlayer (h : Orderly ⟨p, renderer, none, none⟩) :
    Orderly ⟨(Player.new p).2, renderer, some (Player.new p).1, none⟩ := by
  refine ⟨h.deaf, h.flag, h.woken, fun _ _ => rfl, fun late => ?_, h.stopped, h.gone, ?_, ?_⟩
  · cases late
  · rintro _ ⟨⟩ ⟨⟩
  · rintro _ ⟨⟩

theorem startTeardown (h : Orderly ⟨p, renderer, some pl, none⟩) :
    Orderly ⟨p, renderer, some pl, some .clearFlag⟩ := by
  refine ⟨h.deaf, h.flag, h.woken, fun _ _ => rfl, fun late => ?_, h.stopped, fun late => ?_,
    h.fed, ?_⟩
  · cases late
  · cases late
  · rintro _ ⟨⟩ ⟨⟩

/-- The teardown goes on behind the player: the phase is past the third, and so is the next. -/
theorem behind (h : Orderly ⟨p, renderer, player, some t⟩)
    (frame : p'.backstock.interrupted = p.backstock.interrupted ∧ p'.rendering = p.rendering ∧
      p'.playable.interrupted = p.playable.interrupted)
    (late : 2 < t.phase) (late' : 2 < t'.phase)
    (gone : 6 < t'.phase → ∀ r, renderer = some r → r.isGone = true)
    (ready : t'.LeavesAlone → Supplied ⟨p', renderer, player, some t'⟩) :
    Orderly ⟨p', renderer, player, some t'⟩ := by
  obtain ⟨deaf, flag, woken⟩ := frame
  have off : p.rendering = false :=
    h.flag.trans (decide_eq_false (Nat.ne_of_gt (Nat.lt_trans (by decide) late)))
  have awake : p.playable.interrupted = true :=
    h.woken.trans (decide_eq_true (Nat.lt_trans (by decide) late))
  obtain rfl : player = none := h.released late
  refine ⟨deaf.trans h.deaf, ?_, ?_, fun _ early => ?_, fun _ => rfl, fun _ _ _ => flag.trans off,
    gone, ?_, ?_⟩
  · exact (flag.trans off).trans
      (decide_eq_false (Nat.ne_of_gt (Nat.lt_trans (by decide) late'))).symm
  · exact (woken.trans awake).trans (decide_eq_true (Nat.lt_trans (by decide) late')).symm
  · exact absurd early (Nat.not_le_of_lt late')
  · rintro _ ⟨⟩
  · rintro _ ⟨⟩
    exact ready

theorem tearDown {gone : Bool} (h : Orderly ⟨p, renderer, player, some t⟩)
    (left : gone = true → ∀ r, renderer = some r → r.isGone = true)
    (m : Teardown.Move t p player gone t' p' player') :
    Orderly ⟨p', renderer, player', some t'⟩ := by
  cases m with
  | clearFlag stage =>
    subst stage
    refine ⟨h.deaf, rfl, h.woken, fun _ _ => h.held rfl (by simp), fun late => ?_,
      fun _ _ _ => rfl, fun late => ?_, fun pl here empty full => ?_, ?_⟩
    · exact absurd late (by simp)
    · exact absurd late (by simp)
    · exact absurd (h.fed pl here empty full).1 (by simp)
    · rintro _ ⟨⟩ ⟨⟩
  | wake stage =>
    subst stage
    refine ⟨h.deaf, h.flag, rfl, fun _ _ => h.held rfl (by simp), fun late => ?_,
      h.stopped, fun late => ?_, fun pl here empty full => ?_, ?_⟩
    · exact absurd late (by simp)
    · exact absurd late (by simp)
    · exact absurd (h.fed pl here empty full).1 (by simp)
    · rintro _ ⟨⟩ ⟨⟩
  | takePlayer stage free =>
    subst stage
    obtain ⟨pl, rfl⟩ := Option.isSome_iff_exists.1 (h.held rfl (by simp))
    refine ⟨h.deaf, h.flag, h.woken, fun _ early => ?_, fun _ => rfl, h.stopped, fun late => ?_,
      ?_, ?_⟩
    · exact absurd early (by simp)
    · exact absurd late (by simp)
    · rintro _ ⟨⟩
    · rintro _ ⟨⟩ empty
      exact (h.fed pl rfl empty (Player.not_isHungry_of_isFree (free pl rfl))).2
  | lend stage held empty =>
    subst stage
    exact h.behind ⟨rfl, rfl, rfl⟩ (by simp) (by simp)
      (by simp) nofun
  | keep stage held stocked =>
    subst stage
    exact h.behind ⟨rfl, rfl, rfl⟩ (by simp) (by simp)
      (by simp) fun _ _ _ _ => stocked
  | without stage held =>
    subst stage
    exact h.behind ⟨rfl, rfl, rfl⟩ (by simp) (by simp)
      (by simp) fun _ => h.ready _ rfl held
  | handOver stage room =>
    subst stage
    exact h.behind ⟨rfl, rfl, rfl⟩ (by simp) (by simp)
      (by simp) fun _ _ _ _ => by simp
  | drain stage ready =>
    subst stage
    exact h.behind ⟨rfl, rfl, rfl⟩ (by simp) (by simp)
      (by simp) fun _ => h.ready _ rfl trivial
  | drained stage ready =>
    subst stage
    exact h.behind ⟨rfl, rfl, rfl⟩ (by simp) (by simp)
      (by simp) fun _ => h.ready _ rfl trivial
  | join stage complete =>
    subst stage
    exact h.behind ⟨rfl, rfl, rfl⟩ (by simp) (by simp)
      (fun _ => left complete) nofun
  | reclaim stage =>
    subst stage
    exact h.behind ⟨rfl, rfl, rfl⟩ (by simp) (by simp)
      (fun _ => h.gone (by simp)) nofun

/-! ## Steps of the render thread -/

/-- Once the flag is cleared, no buffer is needed that was not needed before. -/
theorem supplied_of_move [Amplitude α] {source : Source α σ} {s s' : Shared α σ}
    (m : Renderer.Move source r s r' s')
    (cleared : s.pipeline.rendering = false) (h : Supplied ⟨s.pipeline, some r, player, teardown⟩) :
    Supplied ⟨s'.pipeline, some r', player, teardown⟩ := by
  rintro _ ⟨⟩ needs
  cases m with
  | goOn stage flag => exact absurd (flag.symm.trans cleared) (by simp)
  | render stage rendered => exact h r rfl (by simp [Renderer.NeedsBuffer, stage])
  | _ => cases needs

theorem render [Amplitude α] {source : Source α σ} {s s' : Shared α σ}
    (h : Orderly ⟨s.pipeline, some r, player, teardown⟩) (m : Renderer.Move source r s r' s') :
    Orderly ⟨s'.pipeline, some r', player, teardown⟩ := by
  have frame : s'.pipeline.backstock.interrupted = s.pipeline.backstock.interrupted ∧
      s'.pipeline.rendering = s.pipeline.rendering ∧
      s'.pipeline.playable.interrupted = s.pipeline.playable.interrupted := by
    cases m <;> exact ⟨rfl, rfl, rfl⟩
  obtain ⟨deaf, flag, woken⟩ := frame
  have supplied : 0 < phase ⟨s.pipeline, some r, player, teardown⟩ →
      Supplied ⟨s.pipeline, some r, player, teardown⟩ →
      Supplied ⟨s'.pipeline, some r', player, teardown⟩ := fun begun =>
    supplied_of_move m (h.flag.trans (decide_eq_false (Nat.ne_of_gt begun)))
  refine ⟨deaf.trans h.deaf, flag.trans h.flag, woken.trans h.woken, h.held, h.released, ?_, ?_,
    ?_, ?_⟩
  · rintro _ ⟨⟩ stage'
    cases m with
    | obey stage cleared => exact cleared
    | quit stage ready broken => exact absurd (broken.symm.trans h.deaf) (by simp)
    | _ => cases stage'
  · intro late
    have gone := h.gone late r rfl
    cases m <;> simp_all [Renderer.isGone]
  · intro pl here empty full
    obtain ⟨late, supply⟩ := h.fed pl here empty full
    exact ⟨late, supplied (Nat.zero_lt_of_lt late) supply⟩
  · intro t here alone
    have late := Teardown.late_of_leavesAlone alone
    refine supplied ?_ (h.ready t here alone)
    obtain rfl : teardown = some t := here
    exact Nat.zero_lt_of_lt late

end Orderly

end Crew

end SynthBridge
