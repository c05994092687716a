import Mathlib.Data.List.DropRight
import Mathlib.Data.List.Forall2
import SynthBridge.Text.Blank

/-!
# Trimming, splitting and lower case

What is trimmed off is determined by what is left: `Text.dropWhileEnd_eq_iff`,
`Text.trimChars_eq_iff`. The parts of a text are those that it is joined of again
(`Text.intercalate_split`), and where two texts are joined, the parts of the first come before those
of the second: `Text.split_append`.

Trimming and lower case are done once and for all: `Text.trim_lower_trim`, `Text.lower_lower`. Lower
case makes no character blank and none of the blank ones another (`Text.isBlank_toLower`), so that
it does not matter which of the two comes first. Texts that differ in the case of ASCII letters only
are those with one lower case: `Text.sameButCase_iff`.
-/

namespace SynthBridge.Text

/-! ## Trimming -/

theorem dropWhileEnd_eq_rdropWhile {α : Type} (p : α → Bool) (xs : List α) :
    dropWhileEnd p xs = xs.rdropWhile p := rfl

/-- Nothing is left to be dropped at the front of what was trimmed at both ends. -/
theorem dropWhile_rdropWhile_dropWhile {α : Type} (p : α → Bool) (xs : List α) :
    ((xs.dropWhile p).rdropWhile p).dropWhile p = (xs.dropWhile p).rdropWhile p := by
  rw [List.dropWhile_eq_self_iff]
  intro nonempty
  have front := List.rdropWhile_prefix p (xs.dropWhile p)
  rw [front.getElem nonempty]
  exact List.dropWhile_get_zero_not p xs (Nat.lt_of_lt_of_le nonempty front.length_le)

theorem trimChars_idem (cs : List Char) : trimChars (trimChars cs) = trimChars cs := by
  simp only [trimChars, dropWhileEnd_eq_rdropWhile, dropWhile_rdropWhile_dropWhile,
    List.rdropWhile_idempotent]

/-- `core` is a list without the elements at its end that satisfy `p`. -/
def IsTrimmedEnd {α : Type} (p : α → Bool) (xs core : List α) : Prop :=
  (∃ after, xs = core ++ after ∧ ∀ x ∈ after, p x = true) ∧ ∀ x ∈ core.getLast?, p x = false

theorem dropWhileEnd_append {α : Type} {p : α → Bool} {after : List α}
    (dropped : ∀ x ∈ after, p x = true) (xs : List α) :
    dropWhileEnd p (xs ++ after) = dropWhileEnd p xs := by
  rw [dropWhileEnd, List.reverse_append, List.dropWhile_append_of_pos]
  · rfl
  · intro x listed
    exact dropped x (List.mem_reverse.1 listed)

theorem dropWhileEnd_eq_self {α : Type} {p : α → Bool} {xs : List α}
    (kept : ∀ x ∈ xs.getLast?, p x = false) : dropWhileEnd p xs = xs := by
  rw [dropWhileEnd_eq_rdropWhile, List.rdropWhile_eq_self_iff]
  intro nonempty
  rw [kept _ (List.getLast?_eq_some_getLast nonempty)]
  exact Bool.false_ne_true

theorem dropWhileEnd_eq_iff {α : Type} {p : α → Bool} {xs core : List α} :
    dropWhileEnd p xs = core ↔ IsTrimmedEnd p xs core := by
  constructor
  · rintro rfl
    refine ⟨⟨xs.rtakeWhile p, List.rdropWhile_append_rtakeWhile.symm,
      fun x => List.mem_rtakeWhile_imp⟩, ?_⟩
    intro x last
    obtain ⟨nonempty, rfl⟩ := List.mem_getLast?_eq_getLast last
    exact eq_false_of_ne_true (List.rdropWhile_last_not p xs nonempty)
  · rintro ⟨⟨after, rfl, dropped⟩, kept⟩
    rw [dropWhileEnd_append dropped, dropWhileEnd_eq_self kept]

theorem trimEnd_append {p : Char → Bool} {t : String} (dropped : t.toList.all p = true)
    (s : String) : trimEnd p (s ++ t) = trimEnd p s := by
  rw [trimEnd, String.toList_append, dropWhileEnd_append (List.all_eq_true.1 dropped)]
  rfl

/-- `core` is a text without the blanks around it. -/
def IsTrimmed (cs core : List Char) : Prop :=
  ∃ before after, cs = before ++ core ++ after ∧
    (∀ c ∈ before, isBlank c = true) ∧ (∀ c ∈ after, isBlank c = true) ∧
    (∀ c ∈ core.head?, isBlank c = false) ∧ ∀ c ∈ core.getLast?, isBlank c = false

theorem trimChars_eq_iff {cs core : List Char} : trimChars cs = core ↔ IsTrimmed cs core := by
  constructor
  · intro trimmed
    obtain ⟨⟨after, rest, dropped⟩, last⟩ := dropWhileEnd_eq_iff.1 trimmed
    refine ⟨cs.takeWhile isBlank, after, ?_, fun c => List.mem_takeWhile_imp, dropped, ?_, last⟩
    · rw [List.append_assoc, ← rest, List.takeWhile_append_dropWhile]
    · -- What is dropped at the end leaves a front that was not blank.
      intro c first
      have kept := dropWhile_rdropWhile_dropWhile isBlank cs
      rw [← dropWhileEnd_eq_rdropWhile, ← trimChars, trimmed] at kept
      cases core with
      | nil => cases first
      | cons d core =>
        cases first
        exact eq_false_of_ne_true (List.dropWhile_eq_self_iff.1 kept (Nat.succ_pos _))
  · rintro ⟨before, after, rfl, front, back, first, last⟩
    rw [trimChars, List.append_assoc, List.dropWhile_append_of_pos front]
    cases core with
    | nil =>
      rw [List.nil_append, List.dropWhile_eq_nil_iff.2 back]
      rfl
    | cons c core =>
      have kept : isBlank c = false := first c rfl
      rw [List.cons_append, List.dropWhile_cons_of_neg (by simp [kept]), ← List.cons_append,
        dropWhileEnd_append back, dropWhileEnd_eq_self last]

/-- Blanks around a text are trimmed off. -/
theorem trim_append {before after : String} (front : ∀ c ∈ before.toList, isBlank c = true)
    (back : ∀ c ∈ after.toList, isBlank c = true) (s : String) :
    trim (before ++ s ++ after) = trim s := by
  have trimmed := trimChars_eq_iff.1 (rfl : trimChars s.toList = _)
  obtain ⟨front', back', split, blank, blank', ends⟩ := trimmed
  rw [trim, trim, String.toList_append, String.toList_append]
  refine congrArg String.ofList (trimChars_eq_iff.2 ⟨before.toList ++ front', back' ++ after.toList,
    ?_, ?_, ?_, ends⟩)
  · conv_lhs => rw [split]
    simp only [List.append_assoc]
  · exact List.forall_mem_append.2 ⟨front, blank⟩
  · exact List.forall_mem_append.2 ⟨blank', back⟩

theorem trimChars_eq_nil_iff {cs : List Char} :
    trimChars cs = [] ↔ ∀ c ∈ cs, isBlank c = true := by
  rw [trimChars_eq_iff]
  constructor
  · rintro ⟨before, after, rfl, front, back, -⟩
    rw [List.append_nil]
    exact List.forall_mem_append.2 ⟨front, back⟩
  · intro blank
    exact ⟨cs, [], by simp, blank, by simp, by simp, by simp⟩

/-- What comes behind a character that is not blank is kept. -/
theorem trimChars_concat {cs : List Char} {c : Char} (some : ¬ ∀ d ∈ cs, isBlank d = true)
    (last : ∀ d ∈ cs.getLast?, isBlank d = false) (kept : isBlank c = false) :
    trimChars (cs ++ [c]) = trimChars cs ++ [c] := by
  obtain ⟨before, after, split, front, back, first, -⟩ :=
    trimChars_eq_iff.1 (rfl : trimChars cs = _)
  have none : after = [] := by
    rcases List.eq_nil_or_concat after with none | ⟨others, d, rfl⟩
    · exact none
    · have blank : isBlank d = true := back d (by simp)
      rw [split] at last
      simp [blank] at last
  subst none
  refine trimChars_eq_iff.2 ⟨before, [], ?_, front, back, ?_, by simpa using kept⟩
  · conv_lhs => rw [split]
    simp only [List.append_nil, List.append_assoc]
  · intro d head
    cases trimmed : trimChars cs with
    | nil => exact absurd (trimChars_eq_nil_iff.1 trimmed) some
    | cons e core =>
      rw [trimmed] at head first
      exact first d head

/-! ## Splitting -/

theorem splitChars_eq_splitOn (sep : Char) (cs : List Char) :
    splitChars sep cs = cs.splitOn sep := by
  induction cs with
  | nil => rfl
  | cons c rest ih =>
    rw [splitChars, List.splitOn_cons_eq_if_modifyHead, ih]
    by_cases here : c = sep
    · rw [if_pos here, if_pos (beq_iff_eq.2 here)]
    · rw [if_neg here, if_neg fun same => here (beq_iff_eq.1 same)]
      cases parts : rest.splitOn sep with
      | nil => exact (List.splitOn_ne_nil _ _ parts).elim
      | cons part parts => rfl

theorem not_mem_of_mem_splitChars {sep : Char} {cs part : List Char}
    (listed : part ∈ splitChars sep cs) : sep ∉ part := by
  induction cs generalizing part with
  | nil =>
    cases List.mem_singleton.1 listed
    exact List.not_mem_nil
  | cons c rest ih =>
    rw [splitChars] at listed
    split at listed
    · cases listed with
      | head => exact List.not_mem_nil
      | tail _ listed => exact ih listed
    · rename_i other
      split at listed
      · rename_i first parts split
        rw [split] at ih
        cases listed with
        | head =>
          rw [List.mem_cons, not_or]
          exact ⟨fun same => other same.symm, ih List.mem_cons_self⟩
        | tail _ listed => exact ih (List.mem_cons_of_mem _ listed)
      · cases List.mem_singleton.1 listed
        rw [List.mem_singleton]
        exact fun same => other same.symm

/-- A text is joined of its parts again. -/
theorem intercalate_split (sep : Char) (s : String) :
    (String.singleton sep).intercalate (split sep s) = s := by
  have texts : String.toList ∘ String.ofList = id := funext fun _ => String.toList_ofList
  rw [← String.toList_inj, String.toList_intercalate, split, List.map_map, texts, List.map_id,
    splitChars_eq_splitOn, String.toList_singleton, List.intercalate_splitOn]

/-- The parts of two texts with a separator between them. -/
theorem split_append (sep : Char) (s t : String) :
    split sep (s ++ String.singleton sep ++ t) = split sep s ++ split sep t := by
  simp only [split, splitChars_eq_splitOn, String.toList_append, String.toList_singleton,
    List.append_assoc, List.singleton_append, List.splitOn_append_cons_self, List.map_append]

theorem split_eq_singleton {sep : Char} {s : String} (single : sep ∉ s.toList) :
    split sep s = [s] := by
  rw [split, splitChars_eq_splitOn, List.splitOn_eq_singleton single]
  exact congrArg (fun t => [t]) String.ofList_toList

/-! ## Lower case -/

theorem toNat_toLower (c : Char) :
    c.toLower.toNat = if 65 ≤ c.toNat ∧ c.toNat ≤ 90 then c.toNat + 32 else c.toNat := by
  unfold Char.toLower
  split
  · rename_i upper
    have low : 65 ≤ c.val.toNat := UInt32.le_iff_toNat_le.1 upper.1
    have high : c.val.toNat ≤ 90 := UInt32.le_iff_toNat_le.1 upper.2
    have step : ('a'.val - 'A'.val).toNat = 32 := rfl
    rw [if_pos ⟨low, high⟩]
    change (c.val + ('a'.val - 'A'.val)).toNat = c.val.toNat + 32
    rw [UInt32.toNat_add, step]
    omega
  · rename_i other
    rw [if_neg]
    rintro ⟨low, high⟩
    exact other ⟨UInt32.le_iff_toNat_le.2 low, UInt32.le_iff_toNat_le.2 high⟩

theorem toLower_toLower (c : Char) : c.toLower.toLower = c.toLower := by
  rw [← Char.toNat_inj, toNat_toLower, if_neg]
  rw [toNat_toLower]
  split <;> omega

theorem isBlank_toLower (c : Char) : isBlank c.toLower = isBlank c := by
  unfold isBlank
  rw [toNat_toLower]
  split
  · rename_i upper
    rw [Bool.eq_iff_iff]
    simp only [Bool.or_eq_true, Bool.and_eq_true, decide_eq_true_eq, beq_iff_eq]
    omega
  · rfl

theorem trimChars_map_toLower (cs : List Char) :
    trimChars (cs.map Char.toLower) = (trimChars cs).map Char.toLower := by
  have same : isBlank ∘ Char.toLower = isBlank := funext isBlank_toLower
  simp only [trimChars, dropWhileEnd, List.dropWhile_map, ← List.map_reverse, same]

theorem trim_lower_trim (s : String) : trim (lower (trim s)) = lower (trim s) := by
  simp only [trim, lower, String.toList_ofList, trimChars_map_toLower, trimChars_idem]

theorem lower_lower (s : String) : lower (lower s) = lower s := by
  simp only [lower, String.toList_ofList, List.map_map, Function.comp_def, toLower_toLower]

/-! ## The case of letters -/

/-- Characters that are one, or an upper-case ASCII letter and its lower case. -/
def SameLetter (c d : Char) : Prop :=
  c = d ∨ (c.isUpper = true ∧ d.toNat = c.toNat + 32) ∨ (d.isUpper = true ∧ c.toNat = d.toNat + 32)

/-- Texts that differ in the case of ASCII letters only. -/
def SameButCase (s t : String) : Prop := List.Forall₂ SameLetter s.toList t.toList

/-- A text without upper-case ASCII letters. -/
def IsLower (s : String) : Prop := ∀ c ∈ s.toList, c.isUpper = false

theorem isUpper_iff {c : Char} : c.isUpper = true ↔ 65 ≤ c.toNat ∧ c.toNat ≤ 90 := by
  have unfolded : c.isUpper = decide (65 ≤ c.val ∧ c.val ≤ 90) := rfl
  rw [unfolded, decide_eq_true_eq, UInt32.le_iff_toNat_le, UInt32.le_iff_toNat_le]
  rfl

theorem sameLetter_iff {c d : Char} : SameLetter c d ↔ c.toLower = d.toLower := by
  rw [SameLetter, isUpper_iff, isUpper_iff, ← Char.toNat_inj, ← Char.toNat_inj, toNat_toLower,
    toNat_toLower]
  split <;> split <;> omega

/-- **Texts differ in the case of ASCII letters only** just if they have one lower case. -/
theorem sameButCase_iff {s t : String} : SameButCase s t ↔ lower s = lower t := by
  rw [lower, lower, String.ofList_inj, ← List.forall₂_eq_eq_eq, List.forall₂_map_left_iff,
    List.forall₂_map_right_iff, SameButCase]
  simp only [← sameLetter_iff]

instance (s t : String) : Decidable (SameButCase s t) := decidable_of_iff _ sameButCase_iff.symm

theorem isUpper_toLower (c : Char) : c.toLower.isUpper = false := by
  rw [← Bool.not_eq_true, isUpper_iff, toNat_toLower]
  split <;> omega

theorem isLower_lower (s : String) : IsLower (lower s) := by
  rw [IsLower, lower, String.toList_ofList, List.forall_mem_map]
  exact fun c _ => isUpper_toLower c

theorem lower_eq_self_iff {s : String} : lower s = s ↔ IsLower s := by
  constructor
  · intro same
    rw [← same]
    exact isLower_lower s
  · intro isLower
    have kept : s.toList.map Char.toLower = s.toList := by
      refine (List.map_congr_left fun c listed => ?_).trans (List.map_id _)
      have other := isLower c listed
      rw [← Bool.not_eq_true, isUpper_iff] at other
      rw [id, ← Char.toNat_inj, toNat_toLower, if_neg other]
    rw [lower, kept, String.ofList_toList]

end SynthBridge.Text
