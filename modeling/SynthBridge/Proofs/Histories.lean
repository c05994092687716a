import Mathlib.Data.Option.Basic

/-!
# Runs that somebody watches

What is to be said of a run often depends on what has happened in it before. `noted?` follows the
steps of a transition system and has an observer note down what is needed; `noted?_induction`
is the induction over such runs.
-/

namespace SynthBridge

variable {S L ω : Type}

/-- The state after some steps, if each of them can be taken, and what was noted of them. -/
def noted? (step : S → L → Option S) (note : S → L → S → ω → ω) (s : S) (w : ω) :
    List L → Option (S × ω)
  | [] => some (s, w)
  | label :: rest =>
    (step s label).bind fun s' => noted? step note s' (note s label s' w) rest

section Noted

variable {step : S → L → Option S} {note : S → L → S → ω → ω} {s s' : S} {w w' : ω}

/-- A run along some labels and then along others. -/
theorem noted?_append (labels more : List L) :
    noted? step note s w (labels ++ more) =
      (noted? step note s w labels).bind fun x => noted? step note x.1 x.2 more := by
  induction labels generalizing s w with
  | nil => rfl
  | cons label rest ih => simp only [List.cons_append, noted?, ih, Option.bind_assoc]

/-- What every step of the allowed labels keeps holds after every run of such. -/
theorem noted?_induction_of {P : S → ω → Prop} {Q : L → Prop}
    (keeps : ∀ {s w label s'}, P s w → Q label → step s label = some s' →
      P s' (note s label s' w))
    {labels : List L} (start : P s w) (every : ∀ x ∈ labels, Q x)
    (run : noted? step note s w labels = some (s', w')) : P s' w' := by
  induction labels generalizing s w with
  | nil =>
    obtain ⟨rfl, rfl⟩ := run
    exact start
  | cons label rest ih =>
    simp only [noted?, Option.bind_eq_some_iff] at run
    obtain ⟨s₁, first, run⟩ := run
    obtain ⟨here, every⟩ := List.forall_mem_cons.1 every
    exact ih (keeps start here first) every run

/-- What every step keeps holds after every run. -/
theorem noted?_induction {P : S → ω → Prop}
    (keeps : ∀ {s w label s'}, P s w → step s label = some s' → P s' (note s label s' w))
    {labels : List L} (start : P s w) (run : noted? step note s w labels = some (s', w')) :
    P s' w' := by
  refine noted?_induction_of (Q := fun _ => True) ?_ start (fun _ _ => trivial) run
  exact fun h _ step => keeps h step

end Noted

end SynthBridge
