import SynthBridge.Proofs.Text.Blank
import SynthBridge.Storage.Tree

/-!
# Names inside directories

A plain name is one step of a path. Joined to whatever directory it is the last part of the path, so
that it is the name in which the path ends: `Path.fileName?_join`.
-/

namespace SynthBridge.Path

variable {name : String}

/-- A name that is one step of a path: not empty, without a slash, and neither `.` nor `..`. -/
structure IsPlain (name : String) : Prop where
  nonempty : name ≠ ""
  step : name ≠ "." ∧ name ≠ ".."
  single : '/' ∉ name.toList

instance (name : String) : Decidable (IsPlain name) :=
  decidable_of_iff (name ≠ "" ∧ (name ≠ "." ∧ name ≠ "..") ∧ '/' ∉ name.toList)
    ⟨fun h => ⟨h.1, h.2.1, h.2.2⟩, fun h => ⟨h.nonempty, h.step, h.single⟩⟩

theorem IsPlain.not_isAbsolute (plain : IsPlain name) : isAbsolute name = false := by
  rw [isAbsolute, beq_eq_false_iff_ne]
  intro first
  exact plain.single (List.mem_of_mem_head? first)

/-- A plain name is the last part of its path in a directory. -/
theorem split_join (plain : IsPlain name) (dir : String) :
    ∃ front, Text.split '/' (join dir name) = front ++ [name] := by
  have behind (front : String) :
      Text.split '/' (front ++ "/" ++ name) = Text.split '/' front ++ [name] := by
    have apart : Text.split '/' (front ++ "/" ++ name) =
        Text.split '/' front ++ Text.split '/' name := Text.split_append '/' front name
    rw [apart, Text.split_eq_singleton plain.single]
  rw [join, plain.not_isAbsolute, if_neg Bool.false_ne_true]
  split
  · rename_i closed
    rcases Bool.or_eq_true_iff.1 closed with empty | slash
    · rw [String.isEmpty_iff.1 empty, String.empty_append, Text.split_eq_singleton plain.single]
      exact ⟨[], rfl⟩
    · obtain ⟨front, ends⟩ := List.getLast?_eq_some_iff.1 (beq_iff_eq.1 slash)
      have closes : dir = String.ofList front ++ "/" := by
        rw [← String.toList_inj, ends, String.toList_append, String.toList_ofList]
        rfl
      exact ⟨_, closes ▸ behind (String.ofList front)⟩
  · exact ⟨_, behind dir⟩

/-- **A path ends in the plain name** that was joined to its directory. -/
theorem fileName?_join (plain : IsPlain name) (dir : String) :
    fileName? (join dir name) = some name := by
  obtain ⟨front, split⟩ := split_join plain dir
  have last : (parts (join dir name)).getLast? = some name := by
    rw [parts, split, List.filter_append,
      List.filter_cons_of_pos (by simp [plain.nonempty, plain.step.1]), List.filter_nil,
      List.getLast?_concat]
  rw [fileName?, last]
  exact if_neg plain.step.2

end SynthBridge.Path
