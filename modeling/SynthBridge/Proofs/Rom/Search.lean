import Mathlib.Data.List.Forall2
import SynthBridge.Proofs.Text.Blank
import SynthBridge.Rom.Search

/-!
# The order of the search

The user's directory is searched first (`Search.isUserDir_userDir`), and what comes behind it does
not depend on it. Every directory that is searched ends in a separator
(`Search.endsInSeparator_of_mem_order`). The data directories contribute entry by entry
(`Search.contributed_intercalate`), so the order stays as it is where an entry changes but not what
it contributes. A slash behind a path is still there when the path is resolved
(`Search.resolveHome_slash`), and dropped afterwards. The whole is `Search.order_laws`.
-/

namespace SynthBridge

namespace Search

variable {platform : Platform} {env : SearchEnv} {s : String} {c : Char}

/-! ## Paths -/

/-- Whether a path begins with a `~` that stands alone or before a separator; the rest behind it. -/
def BeginsAtHome (path rest : List Char) : Prop :=
  path = '~' :: rest ∧ rest.head?.all isSeparator = true

/-- A path in which the home directory, if known, stands for a `~` that is alone or before a
separator, without the separators at its end. Other paths stay as they are. -/
inductive Resolved (env : SearchEnv) : List Char → List Char → Prop
  | home {home : String} {path rest base : List Char} :
    env.home = some home → BeginsAtHome path rest →
      Text.IsTrimmedEnd isSeparator home.toList base → Resolved env path (base ++ rest)
  | kept {path : List Char} :
    (env.home = none ∨ ∀ rest, ¬ BeginsAtHome path rest) → Resolved env path path

theorem resolveHome_of_begins {home path : String} {rest : List Char}
    (known : env.home = some home) (begins : BeginsAtHome path.toList rest) :
    resolveHome env path = Text.trimEnd isSeparator home ++ String.ofList rest := by
  simp only [resolveHome, begins.1, known, if_pos begins.2]

theorem resolveHome_of_kept {path : String}
    (kept : env.home = none ∨ ∀ rest, ¬ BeginsAtHome path.toList rest) :
    resolveHome env path = path := by
  rw [resolveHome]
  split
  · rename_i rest home begins known
    have named : ¬ rest.head?.all isSeparator = true := by
      rcases kept with none | kept
      · rw [known] at none
        cases none
      · exact fun alone => kept rest ⟨begins, alone⟩
    rw [if_neg named]
  · rfl

/-- A path begins at a home directory that is known, or is kept. -/
theorem begins_or_kept (env : SearchEnv) (path : List Char) :
    (∃ home rest, env.home = some home ∧ BeginsAtHome path rest) ∨
      (env.home = none ∨ ∀ rest, ¬ BeginsAtHome path rest) := by
  cases env.home with
  | none => exact .inr (.inl rfl)
  | some home =>
    by_cases begins : ∃ rest, BeginsAtHome path rest
    · exact .inl ⟨home, begins.imp fun _ begins => ⟨rfl, begins⟩⟩
    · exact .inr (.inr (not_exists.1 begins))

theorem resolved_resolveHome (env : SearchEnv) (path : String) :
    Resolved env path.toList (resolveHome env path).toList := by
  rcases begins_or_kept env path.toList with ⟨home, rest, known, begins⟩ | kept
  · rw [resolveHome_of_begins known begins, String.toList_append, String.toList_ofList]
    exact .home known begins (Text.dropWhileEnd_eq_iff.1 String.toList_ofList.symm)
  · rw [resolveHome_of_kept kept]
    exact .kept kept

/-- With a separator behind it a path begins at home just if it does without. -/
theorem beginsAtHome_concat {path rest : List Char} (sep : isSeparator c = true) :
    BeginsAtHome (path ++ [c]) rest ↔
      ∃ others, BeginsAtHome path others ∧ rest = others ++ [c] := by
  cases path with
  | nil =>
    simp only [BeginsAtHome, List.nil_append, List.cons.injEq, reduceCtorEq, false_and,
      exists_false, iff_false, not_and]
    rintro ⟨rfl, -⟩
    cases sep
  | cons d path =>
    have head : (path ++ [c]).head?.all isSeparator = path.head?.all isSeparator := by
      cases path with
      | nil => exact sep
      | cons e path => rfl
    simp only [BeginsAtHome, List.cons_append, List.cons.injEq]
    constructor
    · rintro ⟨⟨rfl, rfl⟩, alone⟩
      exact ⟨path, ⟨⟨rfl, rfl⟩, head ▸ alone⟩, rfl⟩
    · rintro ⟨others, ⟨⟨rfl, rfl⟩, alone⟩, rfl⟩
      exact ⟨⟨rfl, rfl⟩, head.trans alone⟩

theorem toList_slash (s : String) : (s ++ "/").toList = s.toList ++ ['/'] := String.toList_append

/-- A slash behind a path is kept. -/
theorem resolveHome_slash (env : SearchEnv) (path : String) :
    resolveHome env (path ++ "/") = resolveHome env path ++ "/" := by
  have begins_slash (rest : List Char) : BeginsAtHome (path ++ "/").toList rest ↔
      ∃ others, BeginsAtHome path.toList others ∧ rest = others ++ ['/'] := by
    rw [toList_slash]
    exact beginsAtHome_concat rfl
  -- A `~` that the slash comes behind stood alone, so the two paths begin at home or neither does.
  rcases begins_or_kept env path.toList with ⟨home, rest, known, begins⟩ | kept
  · rw [resolveHome_of_begins known begins,
      resolveHome_of_begins known ((begins_slash _).2 ⟨rest, begins, rfl⟩), String.ofList_append,
      String.append_assoc]
  · rw [resolveHome_of_kept kept, resolveHome_of_kept]
    refine kept.imp_right fun none rest begins => ?_
    obtain ⟨others, begins, -⟩ := (begins_slash rest).1 begins
    exact none others begins

theorem withoutSlashes_slash (dir : String) : withoutSlashes (dir ++ "/") = withoutSlashes dir :=
  Text.trimEnd_append rfl dir

/-- A slash behind the home directory makes no difference. -/
theorem resolveHome_of_home_slash (env : SearchEnv) (home path : String) :
    resolveHome { env with home := some (home ++ "/") } path =
      resolveHome { env with home := some home } path := by
  have base := Text.trimEnd_append (t := "/") (p := isSeparator) rfl home
  by_cases begins : ∃ rest, BeginsAtHome path.toList rest
  · obtain ⟨rest, begins⟩ := begins
    rw [resolveHome_of_begins rfl begins, resolveHome_of_begins rfl begins, base]
  · have none := not_exists.1 begins
    rw [resolveHome_of_kept (.inr none), resolveHome_of_kept (.inr none)]

/-! ## Ends -/

def EndsInSeparator (path : List Char) : Prop := path.getLast?.any isSeparator = true

/-- A path that ends in a separator: as it is if one ends it already, and else with the separator of
the platform behind it. -/
inductive Ended (platform : Platform) : List Char → List Char → Prop
  | already {path : List Char} : EndsInSeparator path → Ended platform path path
  | appended {path : List Char} :
    ¬ EndsInSeparator path → Ended platform path (path ++ [platform.separator])

theorem ended_withSeparator (platform : Platform) (dir : String) :
    Ended platform dir.toList (withSeparator platform dir).toList := by
  rw [withSeparator]
  split
  · exact .already ‹_›
  · rw [String.toList_push]
    exact .appended ‹_›

theorem endsInSeparator_append {ended : List Char} (path : List Char)
    (ends : EndsInSeparator ended) : EndsInSeparator (path ++ ended) := by
  cases ended with
  | nil => cases ends
  | cons c ended =>
    rw [EndsInSeparator, List.getLast?_append_of_ne_nil _ (List.cons_ne_nil c ended)]
    exact ends

theorem isSeparator_separator (platform : Platform) : isSeparator platform.separator = true := by
  cases platform <;> rfl

theorem Ended.endsInSeparator {path ended : List Char} (h : Ended platform path ended) :
    EndsInSeparator ended := by
  cases h with
  | already ends => exact ends
  | appended _ => exact endsInSeparator_append _ (isSeparator_separator platform)

theorem Resolved.endsInSeparator {path out : List Char} (h : Resolved env path out)
    (ends : EndsInSeparator path) : EndsInSeparator out := by
  cases h with
  | kept _ => exact ends
  | @home _ _ rest base _ begins _ =>
    rw [begins.1] at ends
    refine endsInSeparator_append base ?_
    cases rest with
    | nil => cases ends
    | cons c rest => exact ends

theorem endsInSeparator_iff {path : List Char} :
    EndsInSeparator path ↔ path.getLast? = some '/' ∨ path.getLast? = some '\\' := by
  rw [EndsInSeparator]
  cases path.getLast? with
  | none => simp
  | some c => simp [isSeparator]

/-! ## The user's directory -/

/-- The user's directory, as it is configured and as it is searched: without the blanks around it,
or the default where nothing is left of it, then ended with a separator and resolved. -/
def IsUserDir (platform : Platform) (env : SearchEnv) (romdir out : List Char) : Prop :=
  ∃ core ended, Text.IsTrimmed romdir core ∧
    Ended platform (if core = [] then defaultDir.toList else core) ended ∧ Resolved env ended out

theorem isUserDir_userDir (platform : Platform) (env : SearchEnv) (romdir : String) :
    IsUserDir platform env romdir.toList (userDir platform env romdir).toList := by
  have trimmed : Text.trimChars romdir.toList = (Text.trim romdir).toList :=
    String.toList_ofList.symm
  have chosen : (if (Text.trim romdir).isEmpty then defaultDir else Text.trim romdir).toList =
      if (Text.trim romdir).toList = [] then defaultDir.toList else (Text.trim romdir).toList := by
    simp only [String.isEmpty_iff, String.toList_eq_nil_iff, apply_ite String.toList]
  have ends := ended_withSeparator platform
    (if (Text.trim romdir).isEmpty then defaultDir else Text.trim romdir)
  rw [chosen] at ends
  exact ⟨_, _, Text.trimChars_eq_iff.1 trimmed, ends, resolved_resolveHome env _⟩

theorem IsUserDir.endsInSeparator {romdir out : List Char} (h : IsUserDir platform env romdir out) :
    EndsInSeparator out := by
  obtain ⟨core, ended, -, ends, resolved⟩ := h
  exact resolved.endsInSeparator ends.endsInSeparator

/-! ## The standard places -/

theorem endsInSeparator_configDir (platform : Platform) (env : SearchEnv) :
    ∀ dir ∈ configDir platform env, EndsInSeparator dir.toList := by
  refine List.forall_mem_map.2 fun dir _ => ?_
  rw [String.toList_push]
  exact endsInSeparator_append _ (isSeparator_separator platform)

theorem endsInSeparator_dataDirs (env : SearchEnv) :
    ∀ dir ∈ dataDirs env, EndsInSeparator dir.toList := by
  refine List.forall_mem_map.2 fun dir _ => ?_
  rw [String.toList_append]
  exact endsInSeparator_append _ rfl

/-- Every standard place ends in a separator. -/
theorem endsInSeparator_platformDirs (platform : Platform) (env : SearchEnv) :
    ∀ dir ∈ platformDirs platform env, EndsInSeparator dir.toList := by
  have behind (dir : String) {place : String} (ends : EndsInSeparator place.toList) :
      EndsInSeparator (dir ++ place).toList := by
    rw [String.toList_append]
    exact endsInSeparator_append _ ends
  have config := endsInSeparator_configDir platform env
  cases platform with
  | windows =>
    simp only [platformDirs, List.forall_mem_append, List.forall_mem_singleton]
    exact ⟨⟨rfl, config⟩, rfl⟩
  | macos =>
    have sounds := resolved_resolveHome env "~/Library/Audio/Sounds/MT32-Roms/"
    simp only [platformDirs, List.forall_mem_append, List.forall_mem_cons, List.not_mem_nil,
      false_implies, implies_true, and_true]
    exact ⟨⟨rfl, config⟩, sounds.endsInSeparator rfl, rfl, rfl⟩
  | xdg =>
    simp only [platformDirs, List.forall_mem_append, List.forall_mem_cons, List.not_mem_nil,
      false_implies, implies_true, and_true]
    have slash : EndsInSeparator "/dosbox/mt32-roms/".toList ∧
        EndsInSeparator "/mt32-rom-data/".toList := ⟨rfl, rfl⟩
    exact ⟨⟨⟨rfl, behind _ slash.1, behind _ slash.2⟩, endsInSeparator_dataDirs env⟩, config⟩

/-! ## The data directories -/

/-- The place inside a data directory: without the blanks around the entry, resolved, and without
the slashes at its end. -/
def IsDataDir (env : SearchEnv) (entry out : List Char) : Prop :=
  ∃ core path base, Text.IsTrimmed entry core ∧ Resolved env core path ∧
    Text.IsTrimmedEnd (· == '/') path base ∧ out = base ++ "/mt32-rom-data/".toList

def dataDir (env : SearchEnv) (entry : String) : String :=
  withoutSlashes (resolveHome env (Text.trim entry)) ++ "/mt32-rom-data/"

theorem isDataDir_dataDir (env : SearchEnv) (entry : String) :
    IsDataDir env entry.toList (dataDir env entry).toList := by
  have trimmed : Text.trimChars entry.toList = (Text.trim entry).toList :=
    String.toList_ofList.symm
  refine ⟨_, _, _, Text.trimChars_eq_iff.1 trimmed, resolved_resolveHome env _,
    Text.dropWhileEnd_eq_iff.1 rfl, ?_⟩
  rw [dataDir, String.toList_append, withoutSlashes, Text.trimEnd, String.toList_ofList]

/-- What a value contributes: a place for each entry that is not blank. -/
def contributed (env : SearchEnv) (value : String) : List String :=
  ((Text.split ':' value).filter fun entry => !isBlankText entry).map (dataDir env)

theorem trim_eq_empty_iff : Text.trim s = "" ↔ isBlankText s = true := by
  rw [Text.trim, ← String.toList_inj, String.toList_ofList, String.toList_empty,
    Text.trimChars_eq_nil_iff, isBlankText, List.all_eq_true]

theorem dataDirs_eq (env : SearchEnv) :
    dataDirs env = contributed env (env.dataDirs.getD "/usr/local/share:/usr/share") := by
  have blank : (fun s : String => s != "") ∘ Text.trim = fun entry => !isBlankText entry := by
    funext entry
    rw [Function.comp_apply, Bool.eq_iff_iff, bne_iff_ne, Ne, trim_eq_empty_iff]
    simp
  simp only [dataDirs, contributed, List.filter_map, List.map_map, blank]
  rfl

/-- **Two values set apart by a colon** contribute what the one does, and then what the other. -/
theorem contributed_append (env : SearchEnv) (a b : String) :
    contributed env (a ++ ":" ++ b) = contributed env a ++ contributed env b := by
  have split : Text.split ':' (a ++ ":" ++ b) = Text.split ':' a ++ Text.split ':' b :=
    Text.split_append ':' a b
  rw [contributed, split, List.filter_append, List.map_append]
  rfl

theorem contributed_intercalate (env : SearchEnv) (entries : List String) :
    contributed env (":".intercalate entries) = entries.flatMap (contributed env) := by
  induction entries with
  | nil => rfl
  | cons entry rest ih =>
    cases rest with
    | nil => rw [String.intercalate_singleton, List.flatMap_singleton]
    | cons next rest =>
      rw [String.intercalate_cons_cons, contributed_append, ih]
      exact List.flatMap_cons.symm

theorem contributed_entry {entry : String} (env : SearchEnv) (single : ':' ∉ entry.toList) :
    contributed env entry = if isBlankText entry then [] else [dataDir env entry] := by
  rw [contributed, Text.split_eq_singleton single]
  cases blank : isBlankText entry <;> simp [blank]

/-- Blanks around an entry make no difference. -/
theorem contributed_padded {before entry after : String} (env : SearchEnv)
    (single : ':' ∉ entry.toList) (front : isBlankText before = true)
    (back : isBlankText after = true) :
    contributed env (before ++ entry ++ after) = contributed env entry := by
  rw [isBlankText, List.all_eq_true] at front back
  have trimmed := Text.trim_append front back entry
  have blank : isBlankText (before ++ entry ++ after) = isBlankText entry := by
    rw [Bool.eq_iff_iff, ← trim_eq_empty_iff, trimmed, trim_eq_empty_iff]
  have padded : ':' ∉ (before ++ entry ++ after).toList := by
    simp only [String.toList_append, List.mem_append, not_or]
    exact ⟨⟨fun colon => absurd (front _ colon) (by decide), single⟩,
      fun colon => absurd (back _ colon) (by decide)⟩
  rw [contributed_entry env padded, contributed_entry env single, blank, dataDir, trimmed]
  rfl

theorem isBlankText_slash (s : String) : isBlankText (s ++ "/") = false := by
  have slash : isBlank '/' = false := by decide
  rw [isBlankText, toList_slash, List.all_append, List.all_cons, slash, Bool.false_and,
    Bool.and_false]

/-- A slash behind an entry makes no difference, where neither the entry nor its last character is
blank. -/
theorem contributed_slash {entry : String} (env : SearchEnv) (single : ':' ∉ entry.toList)
    (some : isBlankText entry = false) (last : ∀ c ∈ entry.toList.getLast?, isBlank c = false) :
    contributed env (entry ++ "/") = contributed env entry := by
  have trimmed : Text.trim (entry ++ "/") = Text.trim entry ++ "/" := by
    have nonblank : ¬ ∀ c ∈ entry.toList, isBlank c = true := by
      rw [← List.all_eq_true]
      exact Bool.eq_false_iff.1 some
    rw [← String.toList_inj, toList_slash, Text.trim, Text.trim, String.toList_ofList,
      String.toList_ofList, toList_slash, Text.trimChars_concat nonblank last (by decide)]
  have single' : ':' ∉ (entry ++ "/").toList := by
    rw [toList_slash, List.mem_append, not_or]
    exact ⟨single, by decide⟩
  rw [contributed_entry env single', contributed_entry env single, some, isBlankText_slash, dataDir,
    trimmed, resolveHome_slash, withoutSlashes_slash]
  rfl

theorem dataDirs_some (env : SearchEnv) (value : String) :
    dataDirs { env with dataDirs := some value } = contributed env value :=
  dataDirs_eq _

/-! ## What makes no difference -/

/-- The environment with the given entries in its data directories. -/
def withEntries (env : SearchEnv) (entries : List String) : SearchEnv :=
  { env with dataDirs := some (":".intercalate entries) }

/-- Changes to the environment and the configured directory that make no difference. -/
inductive Alike : SearchEnv → String → SearchEnv → String → Prop
  /-- Blanks around the configured directory. -/
  | padded {env : SearchEnv} {romdir before after : String} :
    isBlankText before = true → isBlankText after = true →
      Alike env romdir env (before ++ romdir ++ after)
  /-- Blanks around an entry of the data directories. -/
  | entryPadded {env : SearchEnv} {romdir before entry after : String} {front back : List String} :
    ':' ∉ entry.toList → isBlankText before = true → isBlankText after = true →
      Alike (withEntries env (front ++ entry :: back)) romdir
        (withEntries env (front ++ (before ++ entry ++ after) :: back)) romdir
  /-- An empty entry between others. -/
  | entryEmpty {env : SearchEnv} {romdir : String} {front back : List String} :
    Alike (withEntries env (front ++ back)) romdir (withEntries env (front ++ "" :: back)) romdir
  /-- A slash behind an entry that is not blank and does not end in a blank. -/
  | entrySlash {env : SearchEnv} {romdir entry : String} {front back : List String} :
    ':' ∉ entry.toList → isBlankText entry = false →
      (∀ c ∈ entry.toList.getLast?, isBlank c = false) →
      Alike (withEntries env (front ++ entry :: back)) romdir
        (withEntries env (front ++ (entry ++ "/") :: back)) romdir
  /-- A slash behind the home directory. -/
  | homeSlash {env : SearchEnv} {romdir home : String} :
    Alike { env with home := some home } romdir { env with home := some (home ++ "/") } romdir
  /-- A slash behind the home of data files that is not blank. -/
  | dataHomeSlash {env : SearchEnv} {romdir dir : String} :
    isBlankText dir = false →
      Alike { env with dataHome := some dir } romdir
        { env with dataHome := some (dir ++ "/") } romdir

section Order

variable (platform env) (romdir : String)

/-- Of the data directories the order depends on what their entries contribute. -/
theorem order_of_entries {entries entries' : List String}
    (same : entries.flatMap (contributed env) = entries'.flatMap (contributed env)) :
    order platform (withEntries env entries) romdir =
      order platform (withEntries env entries') romdir := by
  have home (value path : String) :
      resolveHome { env with dataDirs := some value } path = resolveHome env path := rfl
  simp only [withEntries, order, userDir, platformDirs, dataHome, configDir, home, dataDirs_some,
    contributed_intercalate, same]

theorem order_of_home_slash (home : String) :
    order platform { env with home := some (home ++ "/") } romdir =
      order platform { env with home := some home } romdir := by
  simp only [order, userDir, platformDirs, dataHome, dataDirs, configDir, resolveHome_of_home_slash]

theorem order_of_dataHome_slash {dir : String} (nonblank : isBlankText dir = false) :
    order platform { env with dataHome := some (dir ++ "/") } romdir =
      order platform { env with dataHome := some dir } romdir := by
  have home (value path : String) :
      resolveHome { env with dataHome := some value } path = resolveHome env path := rfl
  have same : dataHome { env with dataHome := some (dir ++ "/") } =
      dataHome { env with dataHome := some dir } := by
    -- With a blank value the slash would be taken for the home of data files itself.
    simp only [dataHome, Option.filter_some, nonblank, isBlankText_slash, Bool.not_false, if_true,
      Option.getD_some, home, resolveHome_slash, withoutSlashes_slash]
  simp only [order, userDir, platformDirs, same, dataDirs, configDir, home]

theorem order_padded {before after : String} (front : isBlankText before = true)
    (back : isBlankText after = true) :
    order platform env (before ++ romdir ++ after) = order platform env romdir := by
  rw [isBlankText, List.all_eq_true] at front back
  rw [order, userDir, Text.trim_append front back]
  rfl

end Order

theorem Alike.order_eq {env env' : SearchEnv} {romdir romdir' : String}
    (h : Alike env romdir env' romdir') (platform : Platform) :
    order platform env' romdir' = order platform env romdir := by
  cases h with
  | padded front back => exact order_padded _ _ _ front back
  | @entryPadded env _ before entry after front back single blank blank' =>
    refine order_of_entries platform env _ ?_
    simp only [List.flatMap_append, List.flatMap_cons, contributed_padded env single blank blank']
  | @entryEmpty env _ front back =>
    have none : contributed env "" = [] := rfl
    refine order_of_entries platform env _ ?_
    simp only [List.flatMap_append, List.flatMap_cons, none, List.nil_append]
  | @entrySlash env _ entry front back single nonblank last =>
    refine order_of_entries platform env _ ?_
    simp only [List.flatMap_append, List.flatMap_cons, contributed_slash env single nonblank last]
  | homeSlash => exact order_of_home_slash ..
  | dataHomeSlash nonblank => exact order_of_dataHome_slash _ _ _ nonblank

/-! ## The order -/

theorem endsInSeparator_of_mem_order (platform : Platform) (env : SearchEnv) (romdir : String) :
    ∀ dir ∈ order platform env romdir, EndsInSeparator dir.toList := by
  rw [order, List.forall_mem_cons]
  exact ⟨(isUserDir_userDir platform env romdir).endsInSeparator,
    endsInSeparator_platformDirs platform env⟩

/-- The entries of the data directories, and that each of them that is not blank has its place. -/
theorem entries_dataDirs (env : SearchEnv) :
    ∃ entries, ":".intercalate entries = env.dataDirs.getD "/usr/local/share:/usr/share" ∧
      (∀ entry ∈ entries, ':' ∉ entry.toList) ∧
      List.Forall₂ (fun entry dir => IsDataDir env entry.toList dir.toList)
        (entries.filter fun entry => !isBlankText entry) (dataDirs env) := by
  refine ⟨Text.split ':' _, Text.intercalate_split ':' _, ?_, ?_⟩
  · refine List.forall_mem_map.2 fun part listed => ?_
    rw [String.toList_ofList]
    exact Text.not_mem_of_mem_splitChars listed
  · rw [dataDirs_eq, contributed, List.forall₂_map_right_iff, List.forall₂_same]
    exact fun entry _ => isDataDir_dataDir env entry

/-- **The order of the search.** The user's directory comes first: what is configured without the
blanks around it, or the default where that is nothing, ended with a separator and resolved. Behind
it come the standard places, whatever it is, and all end in a slash or a backslash. Where there are
data directories, each entry that is not blank has one place, in the order given, behind those in
the home of data files and before the one in the configuration directory; so what two values
contribute is put together where a colon joins them. The whole order stays as it is with blanks
around the configured directory or around an entry, with an empty entry between others, and with a
slash behind the home directory, the home of data files or an entry (`Alike`). -/
theorem order_laws (platform : Platform) (env : SearchEnv) (romdir : String) :
    (∃ user, order platform env romdir = user :: platformDirs platform env ∧
      IsUserDir platform env romdir.toList user.toList) ∧
    (∀ dir ∈ order platform env romdir,
      dir.toList.getLast? = some '/' ∨ dir.toList.getLast? = some '\\') ∧
    (platformDirs .xdg env =
      ["../mt32-roms/", dataHome env ++ "/dosbox/mt32-roms/", dataHome env ++ "/mt32-rom-data/"] ++
        dataDirs env ++ configDir .xdg env) ∧
    (∃ entries, ":".intercalate entries = env.dataDirs.getD "/usr/local/share:/usr/share" ∧
      (∀ entry ∈ entries, ':' ∉ entry.toList) ∧
      List.Forall₂ (fun entry dir => IsDataDir env entry.toList dir.toList)
        (entries.filter fun entry => !isBlankText entry) (dataDirs env)) ∧
    (∀ a b, dataDirs { env with dataDirs := some (a ++ ":" ++ b) } =
      dataDirs { env with dataDirs := some a } ++ dataDirs { env with dataDirs := some b }) ∧
    ∀ env' romdir', Alike env romdir env' romdir' →
      order platform env' romdir' = order platform env romdir := by
  refine ⟨⟨_, rfl, isUserDir_userDir platform env romdir⟩, ?_, rfl, entries_dataDirs env, ?_,
    fun _ _ alike => alike.order_eq platform⟩
  · intro dir listed
    exact endsInSeparator_iff.1 (endsInSeparator_of_mem_order platform env romdir dir listed)
  · intro a b
    rw [dataDirs_some, dataDirs_some, dataDirs_some, contributed_append]

/-- A user's directory that is the home directory, which is also a data directory; blanks around its
entry make no difference. -/
theorem order_laws_at_home :
    let env : SearchEnv := { home := some "/home/ada/", dataHome := some "~/data" }
    let places := ["/home/ada/", "../mt32-roms/", "/home/ada/data/dosbox/mt32-roms/",
      "/home/ada/data/mt32-rom-data/", "/opt/share/mt32-rom-data/", "/home/ada/mt32-rom-data/"]
    Alike (withEntries env ["/opt/share", "~"]) "~" (withEntries env ["/opt/share", " ~ "]) "~" ∧
      order .xdg (withEntries env ["/opt/share", "~"]) "~" = places ∧
      order .xdg (withEntries env ["/opt/share", " ~ "]) "~" = places := by
  intro env places
  have alike : Alike (withEntries env ["/opt/share", "~"]) "~"
      (withEntries env ["/opt/share", " ~ "]) "~" :=
    @Alike.entryPadded env "~" " " "~" " " ["/opt/share"] [] (by decide) (by decide) (by decide)
  have given : order .xdg (withEntries env ["/opt/share", "~"]) "~" = places := by
    decide +kernel
  obtain ⟨-, -, -, -, -, same⟩ := order_laws .xdg (withEntries env ["/opt/share", "~"]) "~"
  exact ⟨alike, given, (same _ _ alike).trans given⟩

end Search

end SynthBridge
