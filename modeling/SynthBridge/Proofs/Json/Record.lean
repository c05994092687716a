import Mathlib.Data.List.Nodup
import SynthBridge.Json.Layout
import SynthBridge.Json.Record
import SynthBridge.Proofs.Json.Skip

/-!
# Reading records

`Reads` is the property of a reader and a value in a text, whatever stands before and behind. A
record has it if its members have: they are read one after the other, each into the record that the
others have left, and members of other names are passed over (`Puts`, `reads_of_puts`). What a
layout writes is read so (`reads_record`); and if the members of a record do not depend on each
other, only those count that a text holds, not their order (`reads_part`).
-/

namespace SynthBridge.Json

variable {β γ : Type}

/-! ## Scalars -/

/-- A reader takes a value off a text, with the blanks before it, and leaves what follows. -/
def Reads (r : Reader β) (cs : List Char) (b : β) : Prop :=
  ∀ front rest, Blank front → r (front ++ (cs ++ rest)) = .ok (b, rest)

theorem reads_text_of_spells {cs : List Char} {s : String} (h : SpellsText cs s) :
    Reads text cs s := by
  obtain ⟨body, rfl, spells⟩ := h
  intro front rest blank
  rw [text, textAs, skipBlank_append blank, quoted_append, skipBlank_cons (by decide)]
  exact readText_of_spells spells rest

theorem reads_flag (b : Bool) : Reads flag (Layout.writeFlag b) b := by
  intro front rest blank
  rw [flag, skipBlank_append blank]
  cases b <;> rfl

/-- A choice is read from the name that its table has for it. -/
theorem reads_choice_of_spells {table : List (String × β)} {cs : List Char} {name : String} {b : β}
    (named : table.lookup name = some b) (h : SpellsText cs name) : Reads (choice table) cs b := by
  obtain ⟨body, rfl, spells⟩ := h
  intro front rest blank
  rw [choice, skipBlank_append blank, quoted_append, skipBlank_cons (by decide)]
  simp only [variant, readText_of_spells spells, bind, Except.bind, named]

theorem reads_of {name : String} {reader : Reader γ} {put : β → γ → β} {cs : List Char} {c : γ}
    (h : Reads reader cs c) (b : β) : Reads ((Member.of name reader put).read b) cs (put b c) := by
  intro front rest blank
  simp only [Member.of, h front rest blank, Except.map]

/-! ## Members -/

/-- A member of an object whose name spells a word. -/
structure Entry extends MemberText where
  word : String
  spelled : Spells name word.toList

/-- The members of an object, put over one record, make up another; members of names that the record
does not have are left out. No name of the record may occur twice, nor one `seen` before. -/
inductive Puts (ms : List (Member β)) : (seen : List String) → β → List Entry → β → Prop
  | nil {seen : List String} (b : β) : Puts ms seen b [] b
  | known {seen : List String} {b b' b'' : β} {e : Entry} {es : List Entry} {m : Member β}
    (known : ms.find? (fun m => m.name == e.word) = some m) (new : e.word ∉ seen)
    (reads : Reads (m.read b) e.value b') (rest : Puts ms (e.word :: seen) b' es b'') :
    Puts ms seen b (e :: es) b''
  | unknown {seen : List String} {b b' : β} {e : Entry} {es : List Entry}
    (unknown : ms.find? (fun m => m.name == e.word) = none) (value : IsValue e.value)
    (rest : Puts ms seen b es b') : Puts ms seen b (e :: es) b'

theorem nextName_comma {cs cs' : List Char} (quoted : skipBlank cs = '"' :: cs') :
    nextName false (',' :: cs) =
      (readText cs').map fun (name, rest) => (some name, rest) := by
  have comma : skipBlank (',' :: cs) = ',' :: cs := skipBlank_cons (by decide) cs
  unfold nextName
  rw [comma]
  split
  · contradiction
  · rename_i brace
    exact absurd (List.cons.inj brace).1 (by decide)
  · rename_i same
    obtain ⟨rfl, rfl⟩ := List.cons.inj same
    rw [if_neg Bool.false_ne_true, if_pos rfl, quoted]
    rfl

/-- The name of a member is found behind the comma of the one before it. -/
theorem nextName_entry (e : Entry) (first : Bool) (rest : List Char) :
    nextName first ((if first then [] else [',']) ++ (e.front ++ (quoted e.name ++ rest))) =
      .ok (some e.word, rest) := by
  have begins :
      skipBlank (e.front ++ (quoted e.name ++ rest)) = '"' :: (e.name ++ '"' :: rest) := by
    rw [skipBlank_append e.front.2, quoted_append, skipBlank_cons (by decide)]
  have read : ((readText (e.name ++ '"' :: rest)).map
      fun (name, rest) => (some name, rest)) = .ok (some e.word, rest) := by
    rw [readText_of_spells e.spelled]
    rfl
  cases first with
  | true =>
    rw [nextName, if_pos rfl, List.nil_append, begins]
    exact read
  | false => exact (nextName_comma begins).trans read

theorem nextName_end (first : Bool) (back : Space) (rest : List Char) :
    nextName first (back ++ '}' :: rest) = .ok (none, rest) := by
  rw [nextName, skipBlank_append back.2, skipBlank_cons (by decide)]
  rfl

theorem colon_append (front : Space) (rest : List Char) :
    colon (front ++ ':' :: rest) = .ok rest := by
  rw [colon, skipBlank_append front.2, skipBlank_cons (by decide)]
  rfl

/-! ## Records -/

section

variable {ms : List (Member β)} {seen : List String} {b b' : β} {e : Entry}

theorem members_blank (fuel : Nat) (first : Bool) (back : Space) (rest : List Char) :
    members ms fuel seen first b (back ++ rest) = members ms fuel seen first b rest := by
  cases fuel with
  | zero => rfl
  | succ fuel => simp only [members, nextName, skipBlank_append back.2]

theorem text_append (m : MemberText) (rest : List Char) :
    m.text ++ rest = m.front ++ (quoted m.name ++ (m.behindName ++ ':' ::
      (m.behindColon ++ (m.value ++ (m.back ++ rest))))) := by
  simp [MemberText.text]

/-- A member of the record is read, and then the rest. -/
theorem members_known {m : Member β} (known : ms.find? (fun m => m.name == e.word) = some m)
    (new : e.word ∉ seen) (reads : Reads (m.read b) e.value b') (fuel : Nat) (first : Bool)
    (rest : List Char) :
    members ms (fuel + 1) seen first b ((if first then [] else [',']) ++ (e.text ++ rest)) =
      members ms fuel (e.word :: seen) false b' rest := by
  rw [text_append, members]
  simp only [nextName_entry, known, if_neg new, colon_append, Except.bind,
    reads e.behindColon _ e.behindColon.2, members_blank]

/-- Another member is passed over. -/
theorem members_unknown (unknown : ms.find? (fun m => m.name == e.word) = none)
    (value : IsValue e.value) (fuel : Nat) (first : Bool) {rest : List Char}
    (delimited : Delimited rest) :
    members ms (fuel + 1) seen first b ((if first then [] else [',']) ++ (e.text ++ rest)) =
      members ms fuel seen false b rest := by
  have skipped := skipValue_of_isValue e.behindColon.2 value (delimited.append_blank e.back.2)
  rw [text_append, members]
  simp only [nextName_entry, unknown, colon_append, Except.bind, skipped, members_blank]

/-- **The members of an object are read** one after the other, each over what the others left. -/
theorem members_of_puts {es : List Entry} (h : Puts ms seen b es b') {fuel : Nat}
    (enough : es.length < fuel) (first : Bool) (back : Space) (rest : List Char) :
    members ms fuel seen first b
      (commas first (es.map fun e => e.text) ++ (back ++ '}' :: rest)) = .ok (b', rest) := by
  induction h generalizing fuel first with
  | nil b =>
    obtain ⟨fuel, rfl⟩ := Nat.exists_eq_add_of_lt enough
    rw [members]
    simp [commas, nextName_end]
  | known known new reads _ ih =>
    cases fuel with
    | zero => exact absurd enough (Nat.not_lt_zero _)
    | succ fuel =>
      rw [List.map_cons, commas, List.append_assoc, List.append_assoc,
        members_known known new reads]
      exact ih (Nat.lt_of_succ_lt_succ enough) false
  | @unknown _ _ _ _ es unknown value _ ih =>
    cases fuel with
    | zero => exact absurd enough (Nat.not_lt_zero _)
    | succ fuel =>
      have delimited : Delimited (commas false (es.map fun e => e.text) ++ (back ++ '}' :: rest)) :=
        delimited_commas .object _ back rest
      rw [List.map_cons, commas, List.append_assoc, List.append_assoc,
        members_unknown unknown value fuel first delimited]
      exact ih (Nat.lt_of_succ_lt_succ enough) false

theorem length_le_commas (first : Bool) (es : List Entry) :
    es.length ≤ (commas first (es.map fun e => e.text)).length := by
  induction es generalizing first with
  | nil => exact Nat.zero_le _
  | cons e es ih =>
    have others := ih false
    have nonempty : 0 < e.text.length := by
      simp only [MemberText.text, quoted, List.length_append, List.length_cons]
      omega
    simp only [List.map_cons, commas, List.length_append, List.length_cons]
    omega

/-- **A record is read** as its members, put over the default. -/
theorem reads_of_puts {default : β} {es : List Entry} (h : Puts ms [] default es b)
    (description : String) (back : Space) :
    Reads (record description ms default) (objectText (es.map Entry.toMemberText) back) b := by
  intro front rest blank
  have parts : (es.map Entry.toMemberText).map MemberText.text = es.map fun e => e.text := by
    rw [List.map_map]
    rfl
  rw [record, skipBlank_append blank, objectText, parts, List.cons_append, List.append_assoc,
    List.append_assoc, skipBlank_cons (by decide)]
  apply members_of_puts h _ true back
  have := length_le_commas true es
  rw [List.length_append]
  omega

end

/-! ## Written records -/

theorem reads_text (s : String) : Reads text (writeText s) s :=
  reads_text_of_spells (spellsText_writeText s)

theorem reads_choice {table : List (String × β)} {name : String} {b : β}
    (named : table.lookup name = some b) : Reads (choice table) (writeText name) b :=
  reads_choice_of_spells named (spellsText_writeText name)

theorem blank_newLine (depth : Nat) : Blank (Layout.newLine depth) := by
  intro c listed
  rcases List.mem_cons.1 listed with rfl | blank
  · rfl
  · rw [List.eq_of_mem_replicate blank]
    rfl

/-- A member as a layout writes it. -/
def Entry.written (depth : Nat) (name : String) (value : Layout) : Entry where
  front := ⟨Layout.newLine depth, blank_newLine depth⟩
  name := name.toList.flatMap writeChar
  behindName := noSpace
  behindColon := oneSpace
  value := value.write depth
  back := noSpace
  word := name
  spelled := spells_flatMap name.toList

def Entry.ofLayout (depth : Nat) (values : List (String × Layout)) : List Entry :=
  values.map fun value => .written depth value.1 value.2

theorem writeMembers_eq (depth : Nat) (first : Bool) (values : List (String × Layout)) :
    Layout.writeMembers depth first values =
      commas first ((Entry.ofLayout depth values).map fun e => e.text) := by
  induction values generalizing first with
  | nil => rfl
  | cons value values ih =>
    obtain ⟨name, value⟩ := value
    rw [Layout.writeMembers, ih, List.append_assoc]
    simp [Entry.ofLayout, commas, Layout.writeMember, Entry.written, MemberText.text, noSpace,
      oneSpace, quoted, writeText]

/-- The values of a record's members, put over one record, make up another. -/
inductive Overlay (ms : List (Member β)) : β → List (String × Layout) → β → Prop
  | nil (b : β) : Overlay ms b [] b
  | cons {b b' b'' : β} {name : String} {value : Layout} {values : List (String × Layout)}
      {m : Member β} (known : ms.find? (fun m => m.name == name) = some m)
      (reads : ∀ depth, Reads (m.read b) (value.write depth) b')
      (rest : Overlay ms b' values b'') : Overlay ms b ((name, value) :: values) b''

/-- A member that is read by itself is put over what the others have left. -/
theorem Overlay.put {ms : List (Member β)} {b b' : β} {name : String} {value : Layout}
    {values : List (String × Layout)} {reader : Reader γ} {put : β → γ → β} {c : γ}
    (known : ms.find? (fun m => m.name == name) = some (.of name reader put))
    (reads : ∀ depth, Reads reader (value.write depth) c) (rest : Overlay ms (put b c) values b') :
    Overlay ms b ((name, value) :: values) b' :=
  .cons known (fun depth => reads_of (reads depth) b) rest

theorem Overlay.puts {ms : List (Member β)} {b b' : β} {values : List (String × Layout)}
    (h : Overlay ms b values b') (depth : Nat) {seen : List String}
    (new : ∀ value ∈ values, value.1 ∉ seen) (distinct : (values.map Prod.fst).Nodup) :
    Puts ms seen b (Entry.ofLayout depth values) b' := by
  induction h generalizing seen with
  | nil b => exact .nil b
  | cons known reads _ ih =>
    obtain ⟨here, others⟩ := List.forall_mem_cons.1 new
    obtain ⟨unlike, distinct⟩ := List.nodup_cons.1 distinct
    refine .known known here (reads depth) (ih ?_ distinct)
    intro other listed
    rw [List.mem_cons, not_or]
    refine ⟨?_, others other listed⟩
    intro same
    exact unlike (List.mem_map.2 ⟨other, listed, same⟩)

/-- **A record is read as it was written**, its values put over the default. -/
theorem reads_record {ms : List (Member β)} {default b : β} {values : List (String × Layout)}
    (overlay : Overlay ms default values b) (distinct : (values.map Prod.fst).Nodup)
    (description : String) (depth : Nat) :
    Reads (record description ms default) ((Layout.object values).write depth) b := by
  have closing : Blank (if values.isEmpty then [] else Layout.newLine depth) := by
    split
    · exact blank_nil
    · exact blank_newLine depth
  have written : (Layout.object values).write depth =
      objectText ((Entry.ofLayout (depth + 1) values).map Entry.toMemberText) ⟨_, closing⟩ := by
    simp [Layout.write, objectText, writeMembers_eq, Function.comp_def]
  have puts := overlay.puts (depth + 1) (fun _ _ => List.not_mem_nil) distinct
  rw [written]
  exact reads_of_puts puts description ⟨_, closing⟩

/-! ## Parts of records -/

/-- The words of a text that are among the known, in order. -/
def Entry.wordsIn (known : List String) (es : List Entry) : List String :=
  (es.map Entry.word).filter (· ∈ known)

/-- An object that holds members of the names `S`, each once, with values that `Holds` admits, and
any members of names that are not among the known. -/
def IsPart (known S : List String) (Holds : String → List Char → Prop) (cs : List Char) : Prop :=
  ∃ (es : List Entry) (back : Space), cs = objectText (es.map Entry.toMemberText) back ∧
    S.Nodup ∧ (Entry.wordsIn known es).Perm S ∧
    ∀ e ∈ es, if e.word ∈ known then Holds e.word e.value else IsValue e.value

/-- A member is read into the part of a record that was read before it, whatever that is, and makes
it the part of one name more. -/
def Adds (ms : List (Member β)) (part : List String → β) (name : String) (value : List Char) :
    Prop :=
  ∀ seen, ∃ m, ms.find? (fun m => m.name == name) = some m ∧
    Reads (m.read (part seen)) value (part (name :: seen))

section

variable {ms : List (Member β)} {known S : List String} {Holds : String → List Char → Prop}
  {part : List String → β}

theorem adds_of {name : String} {reader : Reader γ} {put : β → γ → β} {value : List Char} {c : γ}
    (found : ms.find? (fun m => m.name == name) = some (.of name reader put))
    (read : Reads reader value c) (added : ∀ seen, put (part seen) c = part (name :: seen)) :
    Adds ms part name value := by
  intro seen
  refine ⟨_, found, ?_⟩
  rw [← added seen]
  exact reads_of read (part seen)

theorem find?_of_not_known (names : ms.map Member.name = known) {name : String}
    (unknown : name ∉ known) : ms.find? (fun m => m.name == name) = none := by
  rw [List.find?_eq_none]
  intro m listed same
  rw [← beq_iff_eq.1 same, ← names] at unknown
  exact unknown (List.mem_map_of_mem listed)

theorem puts_of_adds (names : ms.map Member.name = known)
    (adds : ∀ {name value}, Holds name value → Adds ms part name value) (es : List Entry)
    (seen : List String)
    (held : ∀ e ∈ es, if e.word ∈ known then Holds e.word e.value else IsValue e.value)
    (once : ((Entry.wordsIn known es).reverse ++ seen).Nodup) :
    Puts ms seen (part seen) es (part ((Entry.wordsIn known es).reverse ++ seen)) := by
  induction es generalizing seen with
  | nil => exact .nil _
  | cons e es ih =>
    obtain ⟨here, others⟩ := List.forall_mem_cons.1 held
    by_cases listed : e.word ∈ known
    · -- What was seen is kept in reverse: the word of this member goes in front of it.
      have front : Entry.wordsIn known (e :: es) = e.word :: Entry.wordsIn known es := by
        simp [Entry.wordsIn, listed]
      rw [front, List.reverse_cons, List.append_assoc, List.singleton_append] at once ⊢
      rw [if_pos listed] at here
      obtain ⟨m, found, added⟩ := adds here seen
      have new : e.word ∉ seen := (List.nodup_cons.1 (List.nodup_append.1 once).2.1).1
      exact .known found new added (ih (e.word :: seen) others once)
    · have skips : Entry.wordsIn known (e :: es) = Entry.wordsIn known es := by
        simp [Entry.wordsIn, listed]
      rw [skips] at once ⊢
      rw [if_neg listed] at here
      exact .unknown (find?_of_not_known names listed) here (ih seen others once)

/-- **Only the members that a text holds count**, not their order, if a part of the record is the
same for the same names. -/
theorem reads_part (names : ms.map Member.name = known)
    (adds : ∀ {name value}, Holds name value → Adds ms part name value)
    (alike : ∀ S S', (∀ name, name ∈ S ↔ name ∈ S') → part S = part S') {cs : List Char}
    (h : IsPart known S Holds cs) (description : String) :
    Reads (record description ms (part [])) cs (part S) := by
  obtain ⟨es, back, rfl, once, same, held⟩ := h
  have nodup : ((Entry.wordsIn known es).reverse ++ []).Nodup := by
    rw [List.append_nil, List.nodup_reverse]
    exact same.nodup_iff.2 once
  have puts := puts_of_adds names adds es [] held nodup
  have whole : part ((Entry.wordsIn known es).reverse ++ []) = part S := by
    apply alike
    intro name
    rw [List.append_nil, List.mem_reverse, same.mem_iff]
  rw [whole] at puts
  exact reads_of_puts puts description back

end

end SynthBridge.Json
