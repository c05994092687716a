import SynthBridge.Proofs.Output.Stream

/-!
# A disabled channel falls silent

While a channel is disabled nobody is asked for samples (`Desk.Held.next_of_disabled`), but a
quantum that was filled before is still played to its end (`Desk.heard_while_disabled`). What is
heard at a place is decided where its quantum was begun (`Stream.Whole.sample`). So there is silence
from the next quantum on, at the latest when the channel has been disabled for one sample less than
a quantum: `Desk.silent_from_next_quantum`.
-/

namespace SynthBridge

open Amplitude

variable {α π : Type}

/-! ## What is heard at a place -/

namespace Filler

/-- The samples of a quantum that is begun in some state of whoever fills it. -/
def samples (F : Filler π) (length : Nat) (owner : π) (enabled : Bool) : List Int16 :=
  if enabled then (F.fill owner length).1 else List.replicate length 0

/-- A quantum is as it was begun, in the state that those before it have left. -/
theorem getElem?_quanta (F : Filler π) (length : Nat) (owner : π) (begun : List Bool) (j : Nat) :
    (F.quanta length owner begun).1[j]? =
      begun[j]?.map (F.samples length (F.quanta length owner (begun.take j)).2) := by
  induction begun using List.reverseRecOn with
  | nil => rfl
  | append_singleton begun on ih =>
    obtain ⟨count, -⟩ := F.uniform_quanta length owner begun
    have last : (F.quanta length owner (begun ++ [on])).1 =
        (F.quanta length owner begun).1 ++
          [F.samples length (F.quanta length owner begun).2 on] := by
      rw [quanta_concat]
      cases on <;> rfl
    rw [last, getElem?_concat, getElem?_concat, count, ih]
    by_cases here : j = begun.length
    · subst here
      simp
    · rw [if_neg here, if_neg here]
      rcases Nat.lt_or_ge j begun.length with before | after
      · rw [List.take_append_of_le_length before.le]
      · rw [List.getElem?_eq_none after]
        rfl

end Filler

namespace Stream

variable {F : Filler π} {frames : Nat} {first : π} {asked begun : List Bool} {heard : List Int16}
  {s : Stream π}

/-- **What is heard at a place** is decided where its quantum was begun: silence if the channel was
disabled there, and otherwise what was filled. -/
theorem Whole.sample (h : s.Whole F frames first asked begun heard) (pos : 1 ≤ frames) {n : Nat}
    (inside : n < asked.length) :
    asked[2 * frames * (n / (2 * frames))]? = some false ∧ heard[n]? = some 0 ∨
      asked[2 * frames * (n / (2 * frames))]? = some true ∧
        ∃ owner, heard[n]? = (F.fill owner (2 * frames)).1[n % (2 * frames)]? := by
  obtain ⟨-, each⟩ := F.uniform_quanta (2 * frames) first begun
  have start : 2 * frames * (n / (2 * frames)) < asked.length :=
    Nat.lt_of_le_of_lt (Nat.mul_div_le n (2 * frames)) inside
  obtain ⟨on, known⟩ : ∃ on, asked[2 * frames * (n / (2 * frames))]? = some on :=
    ⟨_, List.getElem?_eq_getElem start⟩
  have here : heard[n]? = (heard ++ s.pending)[n]? :=
    (List.getElem?_append_left (h.count ▸ inside)).symm
  rw [here, ← h.samples, getElem?_flatten_of_uniform each (by omega), F.getElem?_quanta, h.starts,
    known, Option.map_some, Option.bind_some]
  cases on with
  | false =>
    refine .inl ⟨rfl, ?_⟩
    rw [Filler.samples, if_neg Bool.false_ne_true, List.getElem?_replicate,
      if_pos (Nat.mod_lt n (by omega))]
  | true => exact .inr ⟨rfl, _, rfl⟩

/-! ## Nobody is asked -/

/-- While the channel is disabled the next sample is the same whoever fills the quanta, and leaves
them as they are. -/
theorem next_of_disabled [Amplitude α] (F F' : Filler π) (s : Stream π) :
    (s.next F' {} : Option α × Stream π) = s.next F {} ∧
      (s.next F {} : Option α × Stream π).2.owner = s.owner := by
  unfold next
  cases s.pending with
  | nil => cases silence : List.replicate (2 * s.frames) (0 : Int16) <;> simp [quantum, silence]
  | cons y rest => simp

end Stream

namespace Desk

/-- Whether the channel is enabled after some deeds. -/
def Deed.left (on : Bool) : List Deed → Bool
  | [] => on
  | .next :: rest => left on rest
  | .enable on :: rest => left on rest

section Deeds

variable {F : Filler π} {d : Desk π} {i : Nat} {on : Bool} {s : Stream π} {c : Channel π}

theorem Held.left [Amplitude α] (h : d.Held i on s) (deeds : List Deed) :
    ∃ s', (d.perform F i deeds : List (Option α) × Desk π).2.Held i (Deed.left on deeds) s' := by
  induction deeds generalizing d on s with
  | nil => exact ⟨s, h⟩
  | cons deed rest ih =>
    cases deed with
    | next =>
      obtain ⟨d', next, held⟩ := h.next (F := F) (α := α) rfl
      simp only [Desk.perform, next]
      exact ih held
    | enable on' => exact ih (h.enable on')

theorem owners_set (here : d.channel? i = some c) (stream : c.stream = some s) {s' : Stream π}
    (same : s'.owner = s.owner) :
    owners ⟨d.channels.set i { c with stream := some s' }⟩ = d.owners := by
  obtain ⟨inside, rfl⟩ := List.getElem?_eq_some_iff.1 here
  conv_rhs => rw [owners, ← List.set_getElem_self inside, List.map_set, stream]
  rw [owners, List.map_set, Option.map_some, Option.map_some, same]

theorem Held.next_of_disabled [Amplitude α] (h : d.Held i false s) (F F' : Filler π) :
    (d.next F' i : Option α × Desk π) = d.next F i ∧
      (d.next F i : Option α × Desk π).2.owners = d.owners := by
  obtain ⟨c, here, stream, held, switches⟩ := h
  obtain ⟨alone, owner⟩ := Stream.next_of_disabled (α := α) F F' s
  rw [← switches] at alone owner
  rw [next_eq here stream alone, next_eq here stream rfl]
  exact ⟨rfl, owners_set here stream owner⟩

end Deeds

/-! ## Silence -/

/-- **A channel that is disabled falls silent with the next quantum.** A channel is added with its
stream, and then the device asks for samples and the holder throws the switch, in any order. Each
sample is silence if the channel was disabled when the first sample of its quantum was asked for,
and is of what was filled then if it was enabled. So after the channel has been disabled for one
sample less than a quantum all is silence until it is enabled. While it is disabled nobody is asked:
whoever fills the quanta makes no difference to the next sample, and is left as he was. -/
theorem silent_from_next_quantum [Amplitude α] (F : Filler π) (d : Desk π) (first : π) (own : Bool)
    {frames : Nat} (pos : 1 ≤ frames) (deeds : List Deed) :
    let i := d.channels.length
    let asked := Deed.asked false deeds
    ∃ (played : List Int16) (d' : Desk π),
      (d.withStream frames first own).perform F i deeds =
          (played.map fun y => some (ofSample y : α), d') ∧
        played.length = asked.length ∧
        (∀ n < asked.length,
          let begun := 2 * frames * (n / (2 * frames))
          asked[begun]? = some false ∧ played[n]? = some 0 ∨
            asked[begun]? = some true ∧
              ∃ owner, played[n]? = (F.fill owner (2 * frames)).1[n % (2 * frames)]?) ∧
        (∀ off n, off + (2 * frames - 1) ≤ n →
          (∀ m, off ≤ m → m ≤ n → asked[m]? = some false) → played[n]? = some 0) ∧
        (Deed.left false deeds = false → ∀ F' : Filler π,
          (d'.next F' i : Option α × Desk π) = d'.next F i ∧
            (d'.next F i : Option α × Desk π).2.owners = d'.owners) ∧
        (ofSample 0 : Extended) = .finite 0 := by
  intro i asked
  obtain ⟨on, begun, played, s, d', performed, -, whole⟩ :=
    (d.held_withStream frames first own).perform (α := α) (Stream.whole_new F pos first) deeds
  rw [List.nil_append, List.nil_append] at whole
  refine ⟨played, d', performed, whole.count, fun n inside => whole.sample pos inside, ?_, ?_, ?_⟩
  · intro off n late disabled
    have inside : n < asked.length := (List.getElem?_eq_some_iff.1 (disabled n (by omega) le_rfl)).1
    have short := Nat.mod_lt n (show 2 * frames > 0 by omega)
    have place := Nat.div_add_mod n (2 * frames)
    obtain ⟨-, silence⟩ | ⟨enabled, -⟩ := whole.sample pos inside
    · exact silence
    · -- The quantum was begun after the channel had been disabled.
      have begun := disabled (2 * frames * (n / (2 * frames))) (by omega) (by omega)
      rw [begun] at enabled
      cases enabled
  · intro off F'
    obtain ⟨s', held⟩ := (d.held_withStream frames first own).left (F := F) (α := α) deeds
    rw [off, performed] at held
    exact held.next_of_disabled F F'
  · rw [Extended.ofSample_eq, Int16.toInt_zero, Int.cast_zero, zero_div]

/-- What is heard within a quantum is as it was filled, though the channel is disabled meanwhile. -/
theorem heard_while_disabled :
    let first : Pattern := { values := #[16384], running := false }
    let deeds : List Deed := [.enable true, .next, .enable false, .next]
    Deed.asked false deeds = [true, false] ∧
      ((withStream {} 1 first true).perform Pattern.filler 0 deeds).1 =
        [some (Extended.finite (1 / 2)), some (.finite (1 / 2))] := by
  decide +kernel

/-- The channel is disabled within its first quantum, and silent from the second one on. -/
theorem silent_from_next_quantum_disabled :
    let first : Pattern := { values := #[16384], running := false }
    let deeds : List Deed := [.enable true, .next, .enable false, .next, .next, .next]
    let x : List (Option Extended) × Desk Pattern :=
      (withStream {} 1 first true).perform Pattern.filler 0 deeds
    1 ≤ 1 ∧ Deed.asked false deeds = [true, false, false, false] ∧ Deed.left false deeds = false ∧
      x.1 = [1 / 2, 1 / 2, 0, 0].map (fun q : Rat => some (.finite q)) ∧
      (x.2.next Pattern.filler 0 : Option Extended × Desk Pattern).2.owners = x.2.owners ∧
      ∃ played : List Int16, x.1 = played.map (fun y => some (ofSample y)) ∧
        played[2]? = some 0 := by
  intro first deeds x
  obtain ⟨played, d', performed, -, -, silence, alone, -⟩ :=
    silent_from_next_quantum (α := Extended) Pattern.filler {} first true le_rfl deeds
  have after : x.2 = d' := congrArg Prod.snd performed
  refine ⟨le_rfl, rfl, rfl, by decide +kernel, ?_, played, congrArg Prod.fst performed, ?_⟩
  · rw [after]
    exact (alone rfl Pattern.filler).2
  · refine silence 1 2 le_rfl fun m from_off to_n => ?_
    obtain rfl | rfl : m = 1 ∨ m = 2 := by omega
    · rfl
    · rfl

end Desk

end SynthBridge
