import SynthBridge.Engine.Basic

/-!
# The life of an engine

Which calls an engine may get, and in which order. `Engine.Life` has one rule for each call that an
engine gets at a certain stage, so that what is not to happen has no rule: an engine is described if
events of level info are reported, and otherwise not, is configured and opened once, plays only
while it is open, and gets no call after it has been closed. `Engine.Lists` is the life of an engine
that only identifies files.

A record of calls has those of all engines with their numbers; `callsTo` has those of one of them.
-/

namespace SynthBridge

variable {α : Type}

/-! ## Kinds of calls -/

namespace Call

/-- A file is looked at, without the engine keeping anything of it. -/
def isIdentify : Call α → Bool
  | .identify .. => true
  | _ => false

/-- A file is looked at or offered, or what was taken is forgotten. -/
def isLoading : Call α → Bool
  | .identify .. | .add .. | .merge .. | .discard => true
  | _ => false

/-- What is asked of an engine at work. -/
def isPlaying : Call α → Bool
  | .render | .gain _ | .timestamp _ | .message .. | .sysex .. => true
  | _ => false

/-- The position of an event is converted, or the event is submitted. -/
def isEvent : Call α → Bool
  | .timestamp _ | .message .. | .sysex .. => true
  | _ => false

def isGain : Call α → Bool
  | .gain _ => true
  | _ => false

theorem isPlaying_of_isLoading {c : Call α} (h : c.isLoading = true) : c.isPlaying = false := by
  cases c <;> first | rfl | cases h

/-- Events and gains are for engines at work. -/
theorem not_isEvent_of_not_isPlaying {c : Call α} (h : c.isPlaying = false) :
    c.isEvent = false ∧ c.isGain = false := by
  cases c <;> first | exact ⟨rfl, rfl⟩ | cases h

theorem isLoading_of_isIdentify {c : Call α} (h : c.isIdentify = true) : c.isLoading = true := by
  cases c with
  | identify path info => rfl
  | _ => cases h

end Call

/-! ## Stages -/

namespace Engine

/-- How far an engine has come. -/
inductive Stage
  /-- ROM files are looked for. -/
  | loading
  /-- A model has been loaded and reported. -/
  | announced
  | configured
  /-- It refused to open, and was then closed. -/
  | refused
  | dismissed
  /-- It is open, and has not been asked for anything yet. -/
  | started
  | playing
  | closed
  deriving DecidableEq, Repr

def Stage.isOpen : Stage → Bool
  | .started | .playing => true
  | _ => false

/-- The calls that an engine may have got by the time it has come so far, where events of level info
are reported or not. -/
inductive Life (informs : Bool) : Stage → List (Call α) → Prop
  | create : Life informs .loading [.create]
  | load {calls : List (Call α)} {c : Call α} (h : Life informs .loading calls)
      (loading : c.isLoading = true) : Life informs .loading (calls ++ [c])
  | describe {calls : List (Call α)} (reported : informs = true)
      (h : Life informs .loading calls) : Life informs .announced (calls ++ [.describe])
  | keepQuiet {calls : List (Call α)} (silent : informs = false)
      (h : Life informs .loading calls) : Life informs .announced calls
  | configure {calls : List (Call α)} {rate : UInt32} {settings : EngineSettings}
      (h : Life informs .announced calls) :
      Life informs .configured (calls ++ [.configure rate settings])
  | refuse {calls : List (Call α)} {code : Int} (h : Life informs .configured calls) :
      Life informs .refused (calls ++ [.start (some code)])
  | dismiss {calls : List (Call α)} (h : Life informs .refused calls) :
      Life informs .dismissed (calls ++ [.close])
  | start {calls : List (Call α)} (h : Life informs .configured calls) :
      Life informs .started (calls ++ [.start none])
  | play {stage : Stage} {calls : List (Call α)} {c : Call α} (h : Life informs stage calls)
      (isOpen : stage.isOpen = true) (playing : c.isPlaying = true) :
      Life informs .playing (calls ++ [c])
  | close {stage : Stage} {calls : List (Call α)} (h : Life informs stage calls)
      (isOpen : stage.isOpen = true) : Life informs .closed (calls ++ [.close])

/-- The calls of an engine that has been opened and not closed since. -/
def IsOpen (calls : List (Call α)) : Prop := .start none ∈ calls ∧ .close ∉ calls

/-- The calls of an engine that is open and has come to be so as it should. -/
def InUse (informs : Bool) (calls : List (Call α)) : Prop :=
  ∃ stage, stage.isOpen = true ∧ Life informs stage calls

/-- The calls of an engine that is made to identify files and asked for nothing else. -/
def Lists (calls : List (Call α)) : Prop :=
  ∃ looks, calls = .create :: looks ∧ ∀ c ∈ looks, c.isIdentify = true

section Lives

variable {informs : Bool} {stage : Stage} {calls more : List (Call α)}

/-- Any number of files may be looked at and offered. -/
theorem Life.loads (h : Life informs .loading calls) (loading : ∀ c ∈ more, c.isLoading = true) :
    Life informs .loading (calls ++ more) := by
  induction more generalizing calls with
  | nil => rwa [List.append_nil]
  | cons c rest ih =>
    obtain ⟨here, loading⟩ := List.forall_mem_cons.1 loading
    have next := ih (h.load here) loading
    rwa [List.append_assoc] at next

/-- An engine in use goes on so with whatever is asked of it at work. -/
theorem InUse.plays (h : InUse informs calls) (playing : ∀ c ∈ more, c.isPlaying = true) :
    InUse informs (calls ++ more) := by
  induction more generalizing calls with
  | nil => rwa [List.append_nil]
  | cons c rest ih =>
    obtain ⟨stage, isOpen, life⟩ := h
    obtain ⟨here, playing⟩ := List.forall_mem_cons.1 playing
    have next := ih ⟨.playing, rfl, life.play isOpen here⟩ playing
    rwa [List.append_assoc] at next

theorem InUse.close (h : InUse informs calls) : Life informs .closed (calls ++ [.close]) := by
  obtain ⟨stage, isOpen, life⟩ := h
  exact life.close isOpen

theorem Stage.isOpen_iff : stage.isOpen = true ↔ stage = .started ∨ stage = .playing := by
  cases stage <;> simp [isOpen]

theorem Life.start_mem_iff (h : Life informs stage calls) :
    Call.start none ∈ calls ↔ stage = .started ∨ stage = .playing ∨ stage = .closed := by
  induction h with
  | @load calls c h loading ih =>
    have other : Call.start none ≠ c := by
      rintro rfl
      cases loading
    simpa [other] using ih
  | play h isOpen playing ih =>
    simp only [List.mem_append, ih, reduceCtorEq, or_true, true_or, iff_true]
    rcases Stage.isOpen_iff.1 isOpen with rfl | rfl <;> simp
  | close h isOpen ih =>
    simp only [List.mem_append, ih, reduceCtorEq, or_true, iff_true]
    rcases Stage.isOpen_iff.1 isOpen with rfl | rfl <;> simp
  | _ => simp_all

theorem Life.close_mem_iff (h : Life informs stage calls) :
    Call.close ∈ calls ↔ stage = .dismissed ∨ stage = .closed := by
  induction h with
  | @load calls c h loading ih =>
    have other : Call.close ≠ c := by
      rintro rfl
      cases loading
    simpa [other] using ih
  | @play stage calls c h isOpen playing ih =>
    have other : Call.close ≠ c := by
      rintro rfl
      cases playing
    simp only [List.mem_append, List.mem_singleton, other, or_false, ih, reduceCtorEq]
    rcases Stage.isOpen_iff.1 isOpen with rfl | rfl <;> simp
  | _ => simp_all

/-- **An engine is described** just if a model was loaded and that is reported. -/
theorem Life.describe_mem_iff (h : Life informs stage calls) :
    Call.describe ∈ calls ↔ informs = true ∧ stage ≠ .loading := by
  induction h with
  | @load calls c h loading ih =>
    have other : Call.describe ≠ c := by
      rintro rfl
      cases loading
    simpa [other] using ih
  | @play stage calls c h isOpen playing ih =>
    have other : Call.describe ≠ c := by
      rintro rfl
      cases playing
    simp only [List.mem_append, List.mem_singleton, other, or_false, ih]
    rcases Stage.isOpen_iff.1 isOpen with rfl | rfl <;> simp
  | close h isOpen ih =>
    simp only [List.mem_append, List.mem_singleton, reduceCtorEq, or_false, ih]
    rcases Stage.isOpen_iff.1 isOpen with rfl | rfl <;> simp
  | _ => simp_all

/-- An engine is not asked to play before it does. -/
theorem Life.isPlaying_eq_false (h : Life informs stage calls) (idle : stage ≠ .playing)
    (unclosed : stage ≠ .closed) : ∀ c ∈ calls, c.isPlaying = false := by
  have concat : ∀ {calls : List (Call α)} {c : Call α}, (∀ c ∈ calls, c.isPlaying = false) →
      c.isPlaying = false → ∀ c' ∈ calls ++ [c], c'.isPlaying = false := by
    intro calls c before here c' mem
    rcases List.mem_append.1 mem with old | new
    · exact before c' old
    · rw [List.mem_singleton.1 new, here]
  induction h with
  | create => simp [Call.isPlaying]
  | load h loading ih => exact concat (ih nofun nofun) (Call.isPlaying_of_isLoading loading)
  | describe reported h ih => exact concat (ih nofun nofun) rfl
  | keepQuiet silent h ih => exact ih nofun nofun
  | configure h ih => exact concat (ih nofun nofun) rfl
  | refuse h ih => exact concat (ih nofun nofun) rfl
  | dismiss h ih => exact concat (ih nofun nofun) rfl
  | start h ih => exact concat (ih nofun nofun) rfl
  | play h isOpen playing ih => exact absurd rfl idle
  | close h isOpen ih => exact absurd rfl unclosed

/-- **An engine is open** in the two stages that follow its being opened, and in no other. -/
theorem Life.isOpen_iff (h : Life informs stage calls) : IsOpen calls ↔ stage.isOpen = true := by
  rw [IsOpen, h.start_mem_iff, h.close_mem_iff, Stage.isOpen_iff]
  cases stage <;> simp

theorem lists_create : Lists [(Call.create : Call α)] := ⟨[], rfl, nofun⟩

theorem Lists.look (h : Lists calls) (looks : ∀ c ∈ more, c.isIdentify = true) :
    Lists (calls ++ more) := by
  obtain ⟨before, rfl, identify⟩ := h
  refine ⟨before ++ more, rfl, fun c mem => ?_⟩
  rcases List.mem_append.1 mem with old | new
  · exact identify c old
  · exact looks c new

end Lives

end Engine

/-! ## The calls of one engine -/

/-- Those calls of a record that were made to one engine. -/
def callsTo (number : Nat) (calls : List (Nat × Call α)) : List (Call α) :=
  calls.filterMap fun p => if p.1 = number then some p.2 else none

section CallsTo

variable {number other : Nat} {calls : List (Nat × Call α)}

@[simp]
theorem callsTo_nil : callsTo number ([] : List (Nat × Call α)) = [] := rfl

@[simp]
theorem callsTo_append (more : List (Nat × Call α)) :
    callsTo number (calls ++ more) = callsTo number calls ++ callsTo number more :=
  List.filterMap_append

@[simp]
theorem callsTo_map_self (asked : List (Call α)) :
    callsTo number (asked.map (number, ·)) = asked := by
  simp only [callsTo, List.filterMap_map, Function.comp_def, if_true, List.filterMap_some]

theorem callsTo_map_of_ne (ne : other ≠ number) (asked : List (Call α)) :
    callsTo number (asked.map (other, ·)) = [] := by
  rw [callsTo, List.filterMap_map, List.filterMap_eq_nil_iff]
  exact fun c _ => if_neg ne

/-- What was asked of others leaves the calls of an engine as they are. -/
theorem callsTo_append_of_ne (ne : other ≠ number) (asked : List (Call α)) :
    callsTo number (calls ++ asked.map (other, ·)) = callsTo number calls := by
  rw [callsTo_append, callsTo_map_of_ne ne, List.append_nil]

/-- A number that nobody has yet has got no calls. -/
theorem callsTo_eq_nil {made : Nat} (numbered : ∀ p ∈ calls, p.1 < made) (new : made ≤ number) :
    callsTo number calls = [] := by
  rw [callsTo, List.filterMap_eq_nil_iff]
  intro p mem
  have below := numbered p mem
  rw [if_neg (by omega)]

end CallsTo

end SynthBridge
