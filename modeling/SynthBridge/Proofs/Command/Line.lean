import Mathlib.Data.List.Induction
import SynthBridge.Command.Run

/-!
# Command lines

A command line is read group by group: a setting with its value, or a switch (`Options.read_words`).
The options that a list of groups comes to are those of the last group of each setting and of the
switches that occur (`Options.ofGroups`), so that neither the order among different options nor
their spelling matters. Every list of words is one of groups, or begins with groups and stops behind
them (`words_cases`): at a call for help, at an unknown word, or at a setting that has no value.
Where it stops, that alone decides. The whole is `Command.grammar`.
-/

namespace SynthBridge

namespace Command

/-! ## Groups -/

/-- The options that take a value. -/
inductive Setting
  | model
  | romdir
  | config
  deriving DecidableEq

/-- The options that take none. -/
inductive Switch
  | dirs
  | list
  deriving DecidableEq

def Setting.word (long : Bool) : Setting → String
  | .model => if long then "--model" else "-m"
  | .romdir => if long then "--romdir" else "-r"
  | .config => if long then "--config" else "-c"

/-- The directories have a long word only. -/
def Switch.word (long : Bool) : Switch → String
  | .dirs => "--dirs"
  | .list => if long then "--list" else "-l"

def helpWord (long : Bool) : String := if long then "--help" else "-h"

/-- Every word that asks for something. -/
def knownWords : List String :=
  ["--model", "-m", "--romdir", "-r", "--config", "-c", "--dirs", "--list", "-l", "--help", "-h"]

/-- Words that belong together, long or short. -/
inductive Group
  | setting (s : Setting) (long : Bool) (value : String)
  | switch (s : Switch) (long : Bool)

def Group.words : Group → List String
  | .setting s long value => [s.word long, value]
  | .switch s long => [s.word long]

/-- The words of some groups. -/
def wordsOf (gs : List Group) : List String := gs.flatMap Group.words

/-- The values that some groups give to a setting. -/
def values (s : Setting) (gs : List Group) : List String :=
  gs.filterMap fun
    | .setting s' _ value => if s' = s then some value else none
    | .switch .. => none

/-- Whether a switch occurs among some groups. -/
def switched (s : Switch) (gs : List Group) : Bool :=
  gs.any fun
    | .setting .. => false
    | .switch s' _ => s' == s

theorem switched_iff {s : Switch} {gs : List Group} :
    switched s gs = true ↔ ∃ long, Group.switch s long ∈ gs := by
  rw [switched, List.any_eq_true]
  constructor
  · rintro ⟨_ | ⟨s', long⟩, listed, same⟩
    · cases same
    · exact ⟨long, beq_iff_eq.1 same ▸ listed⟩
  · rintro ⟨long, listed⟩
    exact ⟨_, listed, beq_self_eq_true s⟩

/-! ## Reading groups -/

namespace Options

variable {o : Options} {gs : List Group}

/-- Takes a group into account. -/
def put (o : Options) : Group → Options
  | .setting .model _ value => { o with model := some value }
  | .setting .romdir _ value => { o with romdir := some value }
  | .setting .config _ value => { o with config := some value }
  | .switch .dirs _ => { o with dirs := true }
  | .switch .list _ => { o with list := true }

/-- The options that some groups come to. -/
def ofGroups (gs : List Group) : Options where
  model := (values .model gs).getLast?
  romdir := (values .romdir gs).getLast?
  config := (values .config gs).getLast?
  dirs := switched .dirs gs
  list := switched .list gs

/-- A group is read at once, whatever its value looks like. -/
theorem read_words (o : Options) (g : Group) (rest : List String) :
    read o (g.words ++ rest) = read (o.put g) rest := by
  rcases g with ⟨_ | _ | _, _ | _, value⟩ | ⟨_ | _, _ | _⟩ <;> rfl

theorem read_wordsOf (o : Options) (gs : List Group) (rest : List String) :
    read o (wordsOf gs ++ rest) = read (gs.foldl put o) rest := by
  induction gs generalizing o with
  | nil => rfl
  | cons g gs ih =>
    rw [wordsOf, List.flatMap_cons, List.append_assoc, read_words]
    exact ih (o.put g)

/-- **The last group of a setting counts**, and a switch wherever it stands. -/
theorem foldl_put (gs : List Group) : gs.foldl put {} = ofGroups gs := by
  induction gs using List.reverseRecOn with
  | nil => rfl
  | append_singleton gs g ih =>
    rw [List.foldl_append, List.foldl_cons, List.foldl_nil, ih]
    rcases g with ⟨_ | _ | _, long, value⟩ | ⟨_ | _, long⟩ <;>
      simp [ofGroups, put, values, switched, List.filterMap_append]

theorem read_groups (gs : List Group) (rest : List String) :
    Request.ofWords (wordsOf gs ++ rest) = read (ofGroups gs) rest := by
  rw [Request.ofWords, read_wordsOf, foldl_put]

end Options

/-! ## Where a line stops -/

/-- A word asks for a value, is a switch, calls for help, or is unknown. -/
theorem word_cases (w : String) :
    (∃ (s : Setting) (long : Bool), w = s.word long) ∨
      (∃ (s : Switch) (long : Bool), w = s.word long) ∨ (∃ long, w = helpWord long) ∨
        w ∉ knownWords := by
  by_cases known : w ∈ knownWords
  · simp only [knownWords, List.mem_cons, List.not_mem_nil, or_false] at known
    rcases known with rfl | rfl | rfl | rfl | rfl | rfl | rfl | rfl | rfl | rfl | rfl
    · exact .inl ⟨.model, true, rfl⟩
    · exact .inl ⟨.model, false, rfl⟩
    · exact .inl ⟨.romdir, true, rfl⟩
    · exact .inl ⟨.romdir, false, rfl⟩
    · exact .inl ⟨.config, true, rfl⟩
    · exact .inl ⟨.config, false, rfl⟩
    · exact .inr (.inl ⟨.dirs, true, rfl⟩)
    · exact .inr (.inl ⟨.list, true, rfl⟩)
    · exact .inr (.inl ⟨.list, false, rfl⟩)
    · exact .inr (.inr (.inl ⟨true, rfl⟩))
    · exact .inr (.inr (.inl ⟨false, rfl⟩))
  · exact .inr (.inr (.inr known))

/-- Words at which no group begins, and what the command comes to there. -/
inductive Stops (program : String) : List String → Report → Prop
  | help {long : Bool} {rest : List String} :
    Stops program (helpWord long :: rest) { code := 0, out := "", err := helpText program }
  | unknown {w : String} {rest : List String} : w ∉ knownWords →
    Stops program (w :: rest) { code := 1, out := "", err := unknownText w }
  | valueMissing {s : Setting} {long : Bool} :
    Stops program [s.word long]
      { code := 1, out := "", err := "Error: " ++ s.word true ++ " requires an argument\n" }

/-- **Every line begins with groups**, and ends behind them or stops there. -/
theorem words_cases (program : String) (words : List String) :
    ∃ gs rest, words = wordsOf gs ++ rest ∧
      (rest = [] ∨ ∃ report, Stops program rest report) := by
  induction long : words.length using Nat.strongRecOn generalizing words with
  | ind n ih =>
    cases words with
    | nil => exact ⟨[], [], rfl, .inl rfl⟩
    | cons w words =>
      -- A group in front of a line leaves a shorter one.
      have behind (g : Group) (others : List String) (split : w :: words = g.words ++ others)
          (shorter : others.length < n) : ∃ gs rest, w :: words = wordsOf gs ++ rest ∧
            (rest = [] ∨ ∃ report, Stops program rest report) := by
        obtain ⟨gs, rest, parts, ends⟩ := ih _ shorter others rfl
        refine ⟨g :: gs, rest, ?_, ends⟩
        rw [split, parts, ← List.append_assoc]
        rfl
      rw [List.length_cons] at long
      rcases word_cases w with ⟨s, spelling, rfl⟩ | ⟨s, spelling, rfl⟩ | ⟨spelling, rfl⟩ | unknown
      · cases words with
        | nil => exact ⟨[], _, rfl, .inr ⟨_, .valueMissing⟩⟩
        | cons value words =>
          refine behind (.setting s spelling value) words rfl ?_
          rw [List.length_cons] at long
          omega
      · exact behind (.switch s spelling) words rfl (by omega)
      · exact ⟨[], _, rfl, .inr ⟨_, .help⟩⟩
      · exact ⟨[], _, rfl, .inr ⟨_, .unknown unknown⟩⟩

/-- A word that asks for nothing is taken for another. -/
theorem ofText_of_unknown {w : String} (unknown : w ∉ knownWords) : Word.ofText w = .other := by
  simp only [knownWords, List.mem_cons, List.not_mem_nil, or_false, not_or] at unknown
  simp [Word.ofText, unknown]

/-- **Where a line stops, that decides**: the options read before, the environment and the files
play no part. -/
theorem Stops.run_eq {program : String} {rest : List String} {report : Report}
    (h : Stops program rest report) (gs : List Group) (platform : Platform) (e : Environment)
    (t : FileTree) :
    run program (wordsOf gs ++ rest) platform e t = report ∧
      configPaths (wordsOf gs ++ rest) = [] ∧ romPaths (wordsOf gs ++ rest) platform e t = [] := by
  rw [run, configPaths, romPaths, Options.read_groups]
  cases h with
  | @help long rest => cases long <;> exact ⟨rfl, rfl, rfl⟩
  | @unknown w rest unknown =>
    have other : Options.read (Options.ofGroups gs) (w :: rest) = .unknown w := by
      unfold Options.read
      simp only [ofText_of_unknown unknown]
    rw [other]
    exact ⟨rfl, rfl, rfl⟩
  | @valueMissing s long =>
    cases s <;> cases long <;> exact ⟨rfl, rfl, rfl⟩

/-! ## The effective configuration -/

/-- The configuration of a file that is named, or the default. -/
def namedConfig (t : FileTree) : Option String → Except Refusal Config
  | none => .ok {}
  | some path =>
    match Config.load t path with
    | .ok c => .ok c
    | .error f => .error (s!"Failed to load config from {path}" :: causes f)

/-- A configuration with a model and a directory in place of its own, where they are given. -/
def overlaid (model romdir : Option String) (c : Config) : Config where
  model := match model with
    | some v => .ofText v
    | none => c.model
  romdir := match romdir with
    | some v => v
    | none => c.romdir
  engine := c.engine

theorem effectiveConfig_eq (o : Options) (t : FileTree) :
    effectiveConfig o t = (namedConfig t o.config).map (overlaid o.model o.romdir) := by
  have laid (c : Config) : overlaid o.model o.romdir c =
      { c with
        model := (o.model.map ModelSelector.ofText).getD c.model
        romdir := o.romdir.getD c.romdir } := by
    unfold overlaid
    cases o.model <;> cases o.romdir <;>
      simp only [Option.map_none, Option.map_some, Option.getD_none, Option.getD_some]
  unfold effectiveConfig namedConfig
  cases o.config with
  | none => simp only [bind, Except.bind, Except.map, laid]
  | some path =>
    simp only [bind, Except.bind, Except.map, laid]
    cases Config.load t path <;> rfl

/-- **The grammar of command lines.** Words are those of groups, or they begin with groups and stop
behind them; and where they stop, whatever came before, nothing is read or printed but the message
that goes with it. Groups come to options with which the effective configuration is that of the file
named last, or the default, with the model and the directory that were given last, if any; and the
switches are on that occur. So two lists of groups in which each setting has the same last value,
and the same switches occur, come to the same, in whatever order and however spelled. -/
theorem grammar (program : String) (platform : Platform) (e : Environment) (t : FileTree) :
    (∀ words, ∃ gs rest, words = wordsOf gs ++ rest ∧
      (rest = [] ∨ ∃ report, Stops program rest report)) ∧
    (∀ gs rest report, Stops program rest report →
      run program (wordsOf gs ++ rest) platform e t = report ∧
        configPaths (wordsOf gs ++ rest) = [] ∧
        romPaths (wordsOf gs ++ rest) platform e t = []) ∧
    (∀ gs, ∃ o, Request.ofWords (wordsOf gs) = .run o ∧
      effectiveConfig o t = (namedConfig t (values .config gs).getLast?).map
        (overlaid (values .model gs).getLast? (values .romdir gs).getLast?) ∧
      (o.dirs = true ↔ ∃ long, Group.switch .dirs long ∈ gs) ∧
      (o.list = true ↔ ∃ long, Group.switch .list long ∈ gs)) ∧
    ∀ gs gs', (∀ s, (values s gs).getLast? = (values s gs').getLast?) →
      (∀ s, (∃ long, Group.switch s long ∈ gs) ↔ ∃ long, Group.switch s long ∈ gs') →
      run program (wordsOf gs) platform e t = run program (wordsOf gs') platform e t := by
  have read (gs : List Group) : Request.ofWords (wordsOf gs) = .run (.ofGroups gs) := by
    have := Options.read_groups gs []
    rwa [List.append_nil] at this
  refine ⟨words_cases program, fun gs rest report stops => stops.run_eq gs platform e t, ?_, ?_⟩
  · intro gs
    exact ⟨_, read gs, effectiveConfig_eq _ t, switched_iff, switched_iff⟩
  · intro gs gs' settings switches
    have on (s : Switch) : switched s gs = switched s gs' := by
      rw [Bool.eq_iff_iff, switched_iff, switched_iff]
      exact switches s
    have same : Options.ofGroups gs = Options.ofGroups gs' := by
      simp only [Options.ofGroups, settings, on]
    rw [run, run, read, read, same]

/-- A value that looks like a call for help is a value; and a switch may stand on either side of a
value that looks like it. -/
theorem grammar_where_values_look_like_options :
    (run programName ["-m", "--help", "-h", "-c"] .xdg { settings := [] } .empty =
      { code := 0, out := "", err := helpText programName }) ∧
    run programName ["-l", "-m", "--list"] .xdg { settings := [] } .empty =
      run programName ["--model", "--list", "--list"] .xdg { settings := [] } .empty := by
  obtain ⟨-, stopping, -, alike⟩ := grammar programName .xdg { settings := [] } .empty
  constructor
  · have help : Stops programName ["-h", "-c"]
        { code := 0, out := "", err := helpText programName } := @Stops.help _ false ["-c"]
    exact (stopping [.setting .model false "--help"] _ _ help).1
  · refine alike [.switch .list false, .setting .model false "--list"]
      [.setting .model true "--list", .switch .list true] ?_ ?_
    · intro s
      cases s <;> rfl
    · intro s
      rw [← switched_iff, ← switched_iff]
      cases s <;> rfl

end Command

end SynthBridge
