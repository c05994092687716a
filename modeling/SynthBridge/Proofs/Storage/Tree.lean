import SynthBridge.Storage.Tree

/-!
# Files keep what is written to them

A path at which a file was written leads to that file, and reading it gives what was written
(`FileTree.read_write`); a text comes back as that text (`FileTree.readText_write`). Writing a file
changes nothing on the way to it, since only directories lie there (`FileTree.follow_put`).
-/

namespace SynthBridge.FileTree

variable {t t' : FileTree} {loc base next parent : Location} {n : Node} {part path : String}
  {parts : List String}

/-! ## Putting a node -/

theorem node?_put_self (some : loc ≠ []) : (t.put loc n).node? loc = .some n := by
  rw [node?, if_neg some, put, List.lookup_cons_self]

theorem node?_put_of_ne {other : Location} (unlike : other ≠ loc) :
    (t.put loc n).node? other = t.node? other := by
  have missed : (other == loc) = false := beq_eq_false_iff_ne.2 unlike
  have filtered : (t.nodes.filter fun entry => entry.1 != loc).lookup other =
      t.nodes.lookup other := by
    induction t.nodes with
    | nil => rfl
    | cons entry rest ih =>
      obtain ⟨place, node⟩ := entry
      by_cases same : place = loc
      · have here : (other == place) = false := same ▸ missed
        rw [List.filter_cons_of_neg (by simp [same]), ih, List.lookup_cons, here]
      · rw [List.filter_cons_of_pos (by simp [same]), List.lookup_cons, List.lookup_cons, ih]
  simp only [node?, put, List.lookup_cons, missed, filtered]

theorem isFolder_put_of_ne {other : Location} (unlike : other ≠ loc) :
    (t.put loc n).isFolder other = t.isFolder other := by
  rw [isFolder, node?_put_of_ne unlike, isFolder]

theorem ne_of_isFolder {other : Location} (folder : t.isFolder other = true)
    (file : t.isFolder loc = false) : other ≠ loc := by
  rintro rfl
  exact Bool.false_ne_true (file.symm.trans folder)

/-! ## Following a path -/

theorem if_error_eq_ok {β : Type} {p : Prop} [Decidable p] {fault : StorageFault}
    {x : Except StorageFault β} {b : β} :
    (if p then .error fault else x) = .ok b ↔ ¬p ∧ x = .ok b := by
  by_cases refused : p <;> simp [refused]

theorem isFolder_of_enter (h : t.enter base part = .ok next) : t.isFolder base = true := by
  cases folder : t.isFolder base with
  | true => rfl
  | false => simp [enter, folder] at h

/-- A step into a directory is the same when a file has been put. -/
theorem enter_put (h : t.enter base part = .ok next) (folder : t.isFolder next = true)
    (file : t.isFolder loc = false) : (t.put loc n).enter base part = .ok next := by
  have start := isFolder_of_enter h
  have start' : (t.put loc n).isFolder base = true := by
    rw [isFolder_put_of_ne (ne_of_isFolder start file), start]
  by_cases down : part = "." ∨ part = ".."
  · rw [← h]
    rcases down with rfl | rfl <;> simp [enter, start, start']
  · obtain ⟨dot, dots⟩ := not_or.1 down
    simp only [enter, start, start', dot, dots, Bool.not_true, Bool.false_eq_true, if_false,
      if_error_eq_ok] at h ⊢
    obtain ⟨short, there, here⟩ := h
    obtain rfl := Except.ok.inj here
    rw [node?_put_of_ne (ne_of_isFolder folder file)]
    exact ⟨short, there, rfl⟩

/-- **Only directories lie on the way to a directory**, so that a file makes no difference. -/
theorem follow_put (h : t.follow base parts = .ok parent) (folder : t.isFolder parent = true)
    (file : t.isFolder loc = false) :
    t.isFolder base = true ∧ (t.put loc n).follow base parts = .ok parent := by
  induction parts generalizing base with
  | nil =>
    obtain rfl : base = parent := Except.ok.inj h
    exact ⟨folder, rfl⟩
  | cons part rest ih =>
    unfold follow at h ⊢
    rw [List.foldlM_cons] at h ⊢
    cases entered : t.enter base part with
    | error fault => simp [entered, bind, Except.bind] at h
    | ok next =>
      rw [entered] at h
      obtain ⟨through, onward⟩ := ih h
      rw [enter_put entered through file]
      exact ⟨isFolder_of_enter entered, onward⟩

/-! ## Files with something in them -/

/-- A path leads to a file that is not empty. -/
def HasContent (t : FileTree) (path : String) : Prop :=
  ∃ loc content, t.locate path = .ok loc ∧ t.node? loc = some (.file content) ∧ 0 < content.size

theorem HasContent.has (h : t.HasContent path) : t.has path = true := by
  obtain ⟨loc, content, located, -⟩ := h
  rw [FileTree.has, located]
  rfl

theorem isNonEmptyFile_iff : t.isNonEmptyFile path = true ↔ t.HasContent path := by
  unfold isNonEmptyFile read HasContent
  cases located : t.locate path with
  | error fault => simp [bind, Except.bind]
  | ok loc =>
    simp only [bind, Except.bind, Except.ok.injEq]
    cases found : t.node? loc with
    | none => simp [found]
    | some node => cases node <;> simp [found]

/-! ## Writing and reading -/

/-- Where a new file goes: behind a directory, and not over one. -/
theorem locateNew_eq_ok (h : t.locateNew path = .ok loc) : ∃ parent last,
    checkPath path = .ok () ∧ steps path = (steps path).dropLast ++ [last] ∧
      t.follow (start path) (steps path).dropLast = .ok parent ∧ t.isFolder parent = true ∧
      last ≠ "." ∧ last ≠ ".." ∧ (path.toList.getLast? == some '/') = false ∧
      ¬ maxName < last.utf8ByteSize ∧ t.isFolder loc = false ∧ loc = parent ++ [last] := by
  unfold locateNew at h
  cases checked : checkPath path with
  | error fault => simp [checked, bind, Except.bind] at h
  | ok =>
    cases ends : (steps path).getLast? with
    | none => simp [checked, ends, bind, Except.bind] at h
    | some last =>
      cases led : t.follow (start path) (steps path).dropLast with
      | error fault => simp [checked, ends, led, bind, Except.bind] at h
      | ok parent =>
        simp only [checked, ends, led, bind, Except.bind, if_error_eq_ok] at h
        obtain ⟨folder, named, slash, short, vacant, here⟩ := h
        obtain rfl := Except.ok.inj here
        simp only [Bool.or_eq_true, decide_eq_true_eq, not_or] at named
        refine ⟨parent, last, rfl, ?_, rfl, by simpa using folder, named.1, named.2,
          by simpa using slash, short, by simpa using vacant, rfl⟩
        obtain ⟨front, split⟩ := List.getLast?_eq_some_iff.1 ends
        rw [split, List.dropLast_concat]

/-- **A file keeps what is written to it.** -/
theorem read_write {content : ByteArray} (h : t.write path content = .ok t') :
    t'.read path = .ok content := by
  cases placed : t.locateNew path with
  | error fault => simp [write, placed, bind, Except.bind] at h
  | ok loc =>
    obtain ⟨parent, last, checked, split, led, folder, dot, dots, file, short, vacant, rfl⟩ :=
      locateNew_eq_ok placed
    obtain rfl : t.put (parent ++ [last]) (.file content) = t' := by
      simpa [write, placed, bind, Except.bind] using h
    have found := node?_put_self (t := t) (n := .file content)
      (List.append_ne_nil_of_right_ne_nil parent (List.cons_ne_nil last []))
    have through := (follow_put (n := .file content) led folder vacant).2
    have folder' : (t.put (parent ++ [last]) (.file content)).isFolder parent = true := by
      rw [isFolder_put_of_ne (ne_of_isFolder folder vacant), folder]
    have entered : (t.put (parent ++ [last]) (.file content)).enter parent last =
        .ok (parent ++ [last]) := by
      simp [enter, folder', dot, dots, short, found]
    have located : (t.put (parent ++ [last]) (.file content)).locate path =
        .ok (parent ++ [last]) := by
      unfold follow at through
      rw [locate, checked, follow, split, List.foldlM_append, through]
      simp [bind, Except.bind, pure, Except.pure, entered, file]
    simp only [read, located, bind, Except.bind, found]

theorem readText_write {s : String} (h : t.write path s.toUTF8 = .ok t') :
    t'.readText path = .ok s := by
  have text : String.fromUTF8? s.toUTF8 = some s := dif_pos s.isValidUTF8
  simp only [readText, read_write h, bind, Except.bind, text]

end SynthBridge.FileTree
