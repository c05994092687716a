import SynthBridge.Proofs.Rom.Search

/-!
# Values that are set but blank

A blank home of data files counts as none, so that nothing changes where it is unset
(`Search.dataHome_unset`). Blank data directories have no entry that counts
(`Search.dataDirs_of_blank`), and the default takes their place only where they are not set at all
(`Search.dataDirs_of_none`). So what a blank value does to the order of the search is known exactly:
`Search.order_of_set_but_blank`.
-/

namespace SynthBridge

namespace Search

variable {platform : Platform} {env : SearchEnv} {home dirs : Bool}

/-- A value that is set, but to nothing but blanks. -/
def IsSetBlank (value : Option String) : Prop := ∃ s, value = some s ∧ isBlankText s = true

/-- The environment without a home of data files, without data directories, or without both. -/
def unset (home dirs : Bool) (env : SearchEnv) : SearchEnv :=
  { env with
    dataHome := if home then none else env.dataHome
    dataDirs := if dirs then none else env.dataDirs }

/-- The places in the data directories that there are by default. -/
def standardPlaces : List String :=
  ["/usr/local/share/mt32-rom-data/", "/usr/share/mt32-rom-data/"]

/-- What is searched before the data directories. -/
def placesBefore (env : SearchEnv) (romdir : String) : List String :=
  [userDir .xdg env romdir, "../mt32-roms/", dataHome env ++ "/dosbox/mt32-roms/",
    dataHome env ++ "/mt32-rom-data/"]

theorem order_xdg (env : SearchEnv) (romdir : String) :
    order .xdg env romdir = placesBefore env romdir ++ dataDirs env ++ configDir .xdg env := rfl

/-! ## The home of data files -/

theorem resolveHome_unset (path : String) :
    resolveHome (unset home dirs env) path = resolveHome env path := rfl

theorem filter_blank {value : Option String} (blank : IsSetBlank value) :
    (value.filter fun s => !isBlankText s) = none := by
  obtain ⟨s, rfl, blank⟩ := blank
  rw [Option.filter_some, blank]
  rfl

/-- **A blank home of data files counts as none.** -/
theorem dataHome_unset (blank : home = true → IsSetBlank env.dataHome) :
    dataHome (unset home dirs env) = dataHome env := by
  cases home with
  | false => rfl
  | true =>
    have none_left := filter_blank (blank rfl)
    simp only [dataHome, unset, if_true, Option.filter_none, none_left]
    rfl

/-! ## The data directories -/

/-- **Blank data directories** have no place at all. -/
theorem dataDirs_of_blank (blank : IsSetBlank env.dataDirs) : dataDirs env = [] := by
  obtain ⟨s, value, blank⟩ := blank
  -- A colon is not blank, so that the value is a single entry.
  have single : ':' ∉ s.toList := fun colon =>
    absurd (List.all_eq_true.1 blank _ colon) (by decide)
  rw [dataDirs_eq, value, Option.getD_some, contributed_entry env single, if_pos blank]

/-- A path that does not begin with a `~` is its own place. -/
theorem resolveHome_of_head_ne {path : String} (env : SearchEnv)
    (other : path.toList.head? ≠ some '~') : resolveHome env path = path := by
  refine resolveHome_of_kept (.inr ?_)
  rintro rest ⟨begins, -⟩
  exact other (by rw [begins, List.head?_cons])

/-- **Where no data directories are set**, those by default are searched. -/
theorem dataDirs_of_none (env : SearchEnv) (absent : env.dataDirs = none) :
    dataDirs env = standardPlaces := by
  have place {entry place : String} (single : ':' ∉ entry.toList)
      (nonblank : isBlankText entry = false) (other : (Text.trim entry).toList.head? ≠ some '~')
      (named : withoutSlashes (Text.trim entry) ++ "/mt32-rom-data/" = place) :
      contributed env entry = [place] := by
    rw [contributed_entry env single, nonblank, dataDir, resolveHome_of_head_ne env other, named]
    rfl
  have first : contributed env "/usr/local/share" = ["/usr/local/share/mt32-rom-data/"] :=
    place (by decide) (by decide) (by decide) (by decide)
  have second : contributed env "/usr/share" = ["/usr/share/mt32-rom-data/"] :=
    place (by decide) (by decide) (by decide) (by decide)
  rw [dataDirs_eq, absent, Option.getD_none]
  calc contributed env "/usr/local/share:/usr/share"
      = contributed env ("/usr/local/share" ++ ":" ++ "/usr/share") := rfl
    _ = standardPlaces := by rw [contributed_append, first, second]; rfl

/-! ## The order -/

@[simp] theorem userDir_unset (romdir : String) :
    userDir platform (unset home dirs env) romdir = userDir platform env romdir := by
  rw [userDir, userDir, resolveHome_unset]

@[simp] theorem configDir_unset :
    configDir platform (unset home dirs env) = configDir platform env := rfl

theorem placesBefore_unset (romdir : String) (homeBlank : home = true → IsSetBlank env.dataHome) :
    placesBefore (unset home dirs env) romdir = placesBefore env romdir := by
  rw [placesBefore, dataHome_unset homeBlank, userDir_unset]
  rfl

/-- Other platforms do not look at the places of data files. -/
theorem order_unset_of_ne (romdir : String) (other : platform ≠ .xdg) :
    order platform (unset home dirs env) romdir = order platform env romdir := by
  cases platform with
  | windows => simp only [order, platformDirs, userDir_unset, configDir_unset]
  | macos => simp only [order, platformDirs, userDir_unset, configDir_unset, resolveHome_unset]
  | xdg => exact absurd rfl other

/-- A blank home of data files makes no difference. -/
theorem order_unset_home (platform : Platform) (romdir : String)
    (homeBlank : home = true → IsSetBlank env.dataHome) :
    order platform (unset home false env) romdir = order platform env romdir := by
  by_cases xdg : platform = .xdg
  · subst xdg
    have same : dataDirs (unset home false env) = dataDirs env := rfl
    rw [order_xdg, order_xdg, placesBefore_unset romdir homeBlank, same, configDir_unset]
  · exact order_unset_of_ne romdir xdg

/-- Blank data directories make a difference of the two places that there are by default. -/
theorem order_unset_dirs (romdir : String) (homeBlank : home = true → IsSetBlank env.dataHome)
    (dirsBlank : IsSetBlank env.dataDirs) :
    order .xdg env romdir = placesBefore env romdir ++ configDir .xdg env ∧
      order .xdg (unset home true env) romdir =
        placesBefore env romdir ++ standardPlaces ++ configDir .xdg env := by
  have absent : (unset home true env).dataDirs = none := rfl
  rw [order_xdg, order_xdg, placesBefore_unset romdir homeBlank, configDir_unset,
    dataDirs_of_blank dirsBlank, dataDirs_of_none _ absent, List.append_nil]
  exact ⟨rfl, rfl⟩

/-- **What blank values do.** With a blank home of data files, blank data directories or both taken
for unset, the order of the search stays as it is just if the data directories are not among them or
are not looked at. Blank data directories leave out the two places that are searched where they are
not set, and nothing else. -/
theorem order_of_set_but_blank (platform : Platform) (env : SearchEnv) (romdir : String)
    {home dirs : Bool} (homeBlank : home = true → IsSetBlank env.dataHome)
    (dirsBlank : dirs = true → IsSetBlank env.dataDirs) :
    (order platform (unset home dirs env) romdir = order platform env romdir ↔
      dirs = false ∨ platform ≠ .xdg) ∧
    (dirs = true → order .xdg env romdir = placesBefore env romdir ++ configDir .xdg env ∧
      order .xdg (unset home dirs env) romdir =
        placesBefore env romdir ++ standardPlaces ++ configDir .xdg env) := by
  cases dirs with
  | false =>
    have same := order_unset_home platform romdir homeBlank
    exact ⟨iff_of_true same (.inl rfl), nofun⟩
  | true =>
    have lost := order_unset_dirs romdir homeBlank (dirsBlank rfl)
    refine ⟨⟨fun same => .inr ?_, ?_⟩, fun _ => lost⟩
    · rintro rfl
      have length := congrArg List.length same
      rw [lost.1, lost.2] at length
      simp only [List.length_append, standardPlaces, List.length_cons] at length
      omega
    · intro unseen
      exact order_unset_of_ne romdir (unseen.resolve_left nofun)

/-- Both values are blank, and both are taken for unset. -/
theorem order_of_set_but_blank_both :
    let env : SearchEnv := { home := some "/home/ada", dataHome := some "\t", dataDirs := some " " }
    let before := ["mt32-roms/", "../mt32-roms/", "/home/ada/.local/share/dosbox/mt32-roms/",
      "/home/ada/.local/share/mt32-rom-data/"]
    IsSetBlank env.dataHome ∧ IsSetBlank env.dataDirs ∧ order .xdg env "" = before ∧
      order .xdg (unset true true env) "" = before ++ standardPlaces := by
  intro env before
  have homeBlank : IsSetBlank env.dataHome := ⟨_, rfl, by decide⟩
  have dirsBlank : IsSetBlank env.dataDirs := ⟨_, rfl, by decide⟩
  have places : placesBefore env "" = before := by decide +kernel
  obtain ⟨-, lost⟩ := order_of_set_but_blank .xdg env "" (fun _ => homeBlank) fun _ => dirsBlank
  obtain ⟨given, unset⟩ := lost rfl
  rw [places] at given unset
  exact ⟨homeBlank, dirsBlank, given, unset⟩

/-- **Blank data directories are not as good as none**: the places by default are lost. -/
theorem standard_places_lost :
    let env : SearchEnv := { home := some "/home/ada", dataDirs := some " " }
    IsSetBlank env.dataDirs ∧
      order .xdg env "" = ["mt32-roms/", "../mt32-roms/",
        "/home/ada/.local/share/dosbox/mt32-roms/", "/home/ada/.local/share/mt32-rom-data/"] ∧
      order .xdg { env with dataDirs := none } "" = ["mt32-roms/", "../mt32-roms/",
        "/home/ada/.local/share/dosbox/mt32-roms/", "/home/ada/.local/share/mt32-rom-data/",
        "/usr/local/share/mt32-rom-data/", "/usr/share/mt32-rom-data/"] := by
  refine ⟨⟨_, rfl, by decide⟩, ?_, ?_⟩ <;> decide +kernel

end Search

end SynthBridge
