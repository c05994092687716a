import SynthBridge.Json.Skip
import SynthBridge.Proofs.Json.Text

/-!
# Skipping values

A JSON value is passed over exactly, whatever it nests and however deep (`skipValue_of_isValue`).
Scalars are measured (`IsScalar`); what an open bracket holds is passed over part by part
(`Bracket.Passes`), and its closing bracket leads back to what was open before (`leave`). Where a
number ends shows in what follows it, which is a blank, a comma or a closing bracket (`Delimited`).
-/

namespace SynthBridge.Json

/-! ## Numbers -/

/-- What may follow a value. -/
def Delimited (rest : List Char) : Prop :=
  ∀ c ∈ rest.head?, isSpace c = true ∨ c ∈ [',', ']', '}']

/-- What may follow a value does not carry a number on. -/
theorem Delimited.not_number {rest : List Char} (h : Delimited rest) :
    ∀ c ∈ rest.head?, c.isDigit = false ∧ c ∉ ['.', 'e', 'E'] := by
  have all : ∀ c ∈ [' ', '\n', '\t', '\x0d', ',', ']', '}'],
      c.isDigit = false ∧ c ∉ ['.', 'e', 'E'] := List.all_iff_forall_prop.1 (by decide)
  intro c first
  apply all c
  rcases h c first with space | listed
  · have : c ∈ [' ', '\n', '\t', '\x0d'] := by simpa [isSpace, or_assoc] using space
    exact List.mem_append_left [',', ']', '}'] this
  · exact List.mem_append_right [' ', '\n', '\t', '\x0d'] listed

theorem ne_of_isDigit {d c : Char} (digit : d.isDigit = true) (other : c.isDigit = false) :
    d ≠ c := by
  rintro rfl
  rw [other] at digit
  contradiction

theorem takeWhile_isDigit {ds rest : List Char} (h : IsDigits ds)
    (stops : ∀ c ∈ rest.head?, c.isDigit = false) :
    (ds ++ rest).takeWhile Char.isDigit = ds := by
  rw [List.takeWhile_append_of_pos h.2]
  cases rest with
  | nil => simp
  | cons c rest => simp [stops c rfl]

theorem startsWithDigit_append {ds : List Char} (h : IsDigits ds) (rest : List Char) :
    startsWithDigit (ds ++ rest) = true := by
  obtain ⟨nonempty, digits⟩ := h
  cases ds with
  | nil => contradiction
  | cons d ds => simp [startsWithDigit, digits d List.mem_cons_self]

theorem digitsLength_append {ds rest : List Char} (h : IsDigits ds)
    (stops : ∀ c ∈ rest.head?, c.isDigit = false) : digitsLength (ds ++ rest) = .ok ds.length := by
  rw [digitsLength, if_pos (startsWithDigit_append h rest), takeWhile_isDigit h stops]

theorem exponentSign_append {sign ds : List Char} (signed : sign ∈ [[], ['+'], ['-']])
    (h : IsDigits ds) (rest : List Char) :
    (exponentSign (sign ++ (ds ++ rest))).2 = ds ++ rest := by
  simp only [List.mem_cons, List.not_mem_nil, or_false] at signed
  rcases signed with rfl | rfl | rfl
  · obtain ⟨nonempty, digits⟩ := h
    cases ds with
    | nil => contradiction
    | cons d ds =>
      have digit := digits d List.mem_cons_self
      have plus : d ≠ '+' := ne_of_isDigit digit (by decide)
      have minus : d ≠ '-' := ne_of_isDigit digit (by decide)
      simp [exponentSign, plus, minus]
  · rfl
  · rfl

theorem exponentLength_append {exponent rest : List Char} (h : IsExponent exponent)
    (delimited : Delimited rest) : exponentLength (exponent ++ rest) = .ok exponent.length := by
  have stops := delimited.not_number
  cases h with
  | none =>
    cases rest with
    | nil => rfl
    | cons c rest =>
      obtain ⟨-, other⟩ := stops c rfl
      simp only [List.mem_cons, List.not_mem_nil, or_false, not_or] at other
      simp [exponentLength, other]
  | @power e sign ds letter signed digits =>
    have marked : (e = 'e' || e = 'E') = true := by simpa using letter
    have measured := digitsLength_append digits fun c first => (stops c first).1
    have sign := exponentSign_append signed digits rest
    rw [List.cons_append, List.append_assoc, exponentLength, if_pos marked]
    simp only [sign, measured, Except.map, List.length_cons, List.length_append, Except.ok.injEq]
    omega

/-- An exponent, and what follows a number, carry neither digits on nor a point. -/
theorem IsExponent.head_append {exponent rest : List Char} (h : IsExponent exponent)
    (delimited : Delimited rest) :
    ∀ c ∈ (exponent ++ rest).head?, c.isDigit = false ∧ c ≠ '.' := by
  intro c first
  cases h with
  | none =>
    obtain ⟨digit, other⟩ := delimited.not_number c first
    exact ⟨digit, fun point => other (point ▸ List.mem_cons_self)⟩
  | power letter _ _ =>
    have all : ∀ e ∈ ['e', 'E'], e.isDigit = false ∧ e ≠ '.' :=
      List.all_iff_forall_prop.1 (by decide)
    obtain rfl := Option.some.inj first
    exact all _ letter

theorem IsFraction.head_append {fraction exponent rest : List Char} (h : IsFraction fraction)
    (h' : IsExponent exponent) (delimited : Delimited rest) :
    ∀ c ∈ (fraction ++ (exponent ++ rest)).head?, c.isDigit = false := by
  intro c first
  cases h with
  | none => exact (h'.head_append delimited c first).1
  | places _ =>
    obtain rfl := Option.some.inj first
    rfl

theorem fractionLength_append {fraction exponent rest : List Char} (h : IsFraction fraction)
    (h' : IsExponent exponent) (delimited : Delimited rest) :
    fractionLength (fraction ++ (exponent ++ rest)) =
      .ok (fraction.length + exponent.length) := by
  have stops := h'.head_append delimited
  have power := exponentLength_append h' delimited
  cases h with
  | none =>
    rw [List.nil_append, List.length_nil, Nat.zero_add, ← power]
    unfold fractionLength
    split
    · rename_i behind point
      rw [point] at stops
      exact absurd rfl (stops '.' rfl).2
    · rfl
  | @places ds digits =>
    have measured := digitsLength_append digits fun c first => (stops c first).1
    simp only [List.cons_append, fractionLength, measured, List.drop_left, power, bind, Except.bind,
      List.length_cons, Except.ok.injEq]
    omega

/-- **The length of a number** is that of its parts. -/
theorem numberLength_append {cs rest : List Char} (h : IsUnsigned cs) (delimited : Delimited rest) :
    numberLength (cs ++ rest) = .ok cs.length := by
  obtain ⟨digits, noZero, fraction, exponent⟩ := h
  rename_i ds fs es
  have stops := fraction.head_append exponent delimited
  -- A zero in front of other digits is what the reader refuses.
  have leads : ¬ (((ds ++ (fs ++ (es ++ rest))).head? == some '0' && 1 < ds.length) = true) := by
    rw [Bool.and_eq_true, beq_iff_eq, decide_eq_true_eq]
    rintro ⟨zero, long⟩
    have first : ds.head? = some '0' := by
      cases ds with
      | nil => exact absurd rfl digits.1
      | cons d ds => exact zero
    rw [noZero first] at long
    exact absurd long (by decide)
  rw [List.append_assoc, List.append_assoc, numberLength, digitsLength_append digits stops]
  simp only [bind, Except.bind, if_neg leads, List.drop_left,
    fractionLength_append fraction exponent delimited, List.length_append]

/-! ## Scalars -/

/-- A value that is measured where it begins. -/
def IsScalar (cs : List Char) : Prop :=
  ∃ c tail, cs = c :: tail ∧ isSpace c = false ∧
    ∀ rest, Delimited rest → scalarLength c (tail ++ rest) = .ok (some cs.length)

theorem isScalar_word {w : List Char} (listed : w ∈ words) : IsScalar w := by
  simp only [words, List.mem_cons, List.not_mem_nil, or_false] at listed
  rcases listed with rfl | rfl | rfl <;>
    exact ⟨_, _, rfl, rfl, fun rest _ => rfl⟩

theorem isScalar_text {body : List Char} (h : IsText body) : IsScalar (quoted body) := by
  refine ⟨'"', body ++ ['"'], rfl, rfl, ?_⟩
  intro rest _
  simp [scalarLength, endText_of_isText h rest, Except.map, quoted]

theorem isScalar_unsigned {cs : List Char} (h : IsUnsigned cs) : IsScalar cs := by
  have measured (rest : List Char) (delimited : Delimited rest) := numberLength_append h delimited
  obtain ⟨digits, -, -, -⟩ := h
  rename_i ds fs es
  cases ds with
  | nil => exact absurd rfl digits.1
  | cons d ds =>
    have digit := digits.2 d List.mem_cons_self
    have unlike : d ≠ 'n' ∧ d ≠ 't' ∧ d ≠ 'f' ∧ d ≠ '-' ∧ d ≠ ' ' ∧ d ≠ '\n' ∧ d ≠ '\t' ∧
        d ≠ '\x0d' := by
      refine ⟨?_, ?_, ?_, ?_, ?_, ?_, ?_, ?_⟩ <;> exact ne_of_isDigit digit (by decide)
    refine ⟨d, ds ++ (fs ++ es), rfl, by simp [isSpace, unlike], ?_⟩
    intro rest delimited
    have length := measured rest delimited
    simp only [List.cons_append] at length
    simp only [scalarLength, unlike, digit, length, if_false, if_true, Except.map, List.cons_append]

theorem isScalar_negative {cs : List Char} (h : IsUnsigned cs) : IsScalar ('-' :: cs) := by
  refine ⟨'-', cs, rfl, rfl, ?_⟩
  intro rest delimited
  simp [scalarLength, numberLength_append h delimited, Except.map]

/-! ## Passing over -/

theorem skipFrom_append (known : List Char) (want : Want) (brackets : List Bracket)
    (rest : List Char) :
    skipFrom known.length want brackets (known ++ rest) = skipFrom 0 want brackets rest := by
  induction known with
  | nil => rfl
  | cons c known ih => exact ih

theorem skipFrom_space {c : Char} (space : isSpace c = true) (want : Want)
    (brackets : List Bracket) (rest : List Char) :
    skipFrom 0 want brackets (c :: rest) = skipFrom 0 want brackets rest := by
  cases brackets <;> rw [skipFrom, if_pos space]

theorem skipFrom_blank {front : List Char} (blank : Blank front) (want : Want)
    (brackets : List Bracket) (rest : List Char) :
    skipFrom 0 want brackets (front ++ rest) = skipFrom 0 want brackets rest := by
  induction front with
  | nil => rfl
  | cons c front ih =>
    obtain ⟨space, blank⟩ := List.forall_mem_cons.1 blank
    rw [List.cons_append, skipFrom_space space]
    exact ih blank

/-- Goes on behind a value. -/
def leave : List Bracket → List Char → Except Fault (List Char)
  | [], rest => .ok rest
  | b :: outer, rest => skipFrom 0 (.more false) (b :: outer) rest

/-- A value is passed over, whatever brackets are open. -/
def Skipped (cs : List Char) : Prop :=
  ∀ brackets rest, Delimited rest → skipFrom 0 .value brackets (cs ++ rest) = leave brackets rest

theorem skipped_of_isScalar {cs : List Char} (h : IsScalar cs) : Skipped cs := by
  obtain ⟨c, tail, rfl, space, measured⟩ := h
  intro brackets rest delimited
  have known := skipFrom_append tail (.more false) brackets rest
  cases brackets with
  | nil => simp [skipFrom, space, Want.atChar, measured rest delimited, leave]
  | cons b outer => simp [skipFrom, space, Want.atChar, measured rest delimited, leave, known]

/-! ## Brackets -/

theorem Delimited.append_blank {back rest : List Char} (blank : Blank back) (h : Delimited rest) :
    Delimited (back ++ rest) := by
  cases back with
  | nil => exact h
  | cons c back =>
    intro d first
    obtain rfl := Option.some.inj first
    exact .inl (blank _ List.mem_cons_self)

theorem delimited_closing (b : Bracket) (rest : List Char) : Delimited (b.closing :: rest) := by
  intro c first
  obtain rfl := Option.some.inj first
  cases b <;> exact .inr (by decide)

/-- What follows a part of a bracket: a comma before the next, or the end. -/
theorem delimited_commas (b : Bracket) (parts : List (List Char)) (back : Space)
    (rest : List Char) : Delimited (commas false parts ++ (back ++ b.closing :: rest)) := by
  cases parts with
  | nil =>
    rw [commas, List.nil_append]
    exact (delimited_closing b rest).append_blank back.2
  | cons part parts =>
    intro c first
    obtain rfl := Option.some.inj first
    exact .inr (by decide)

/-- A part of an open bracket is passed over as one of its items. -/
structure Bracket.Passes (b : Bracket) (part : List Char) : Prop where
  begins : ∃ (front : Space) (c : Char) (tail : List Char),
    part = front ++ c :: tail ∧ isSpace c = false ∧ c ≠ b.closing
  passed : ∀ outer rest, Delimited rest →
    skipFrom 0 b.item (b :: outer) (part ++ rest) = skipFrom 0 (.more false) (b :: outer) rest

/-- Right behind an opening bracket an item begins at once. -/
theorem Bracket.Passes.fresh {b : Bracket} {part : List Char} (h : b.Passes part)
    (outer : List Bracket) (rest : List Char) :
    skipFrom 0 (.more true) (b :: outer) (part ++ rest) =
      skipFrom 0 b.item (b :: outer) (part ++ rest) := by
  obtain ⟨⟨front, blank⟩, c, tail, rfl, space, notClosing⟩ := h.begins
  rw [List.append_assoc, skipFrom_blank blank, skipFrom_blank blank]
  cases b <;> simp [skipFrom, space, Want.atChar, notClosing, Bracket.item]

theorem skipFrom_comma (b : Bracket) (outer : List Bracket) (rest : List Char) :
    skipFrom 0 (.more false) (b :: outer) (',' :: rest) = skipFrom 0 b.item (b :: outer) rest := by
  cases b <;> rfl

theorem skipFrom_closing (b : Bracket) (first : Bool) (outer : List Bracket) (rest : List Char) :
    skipFrom 0 (.more first) (b :: outer) (b.closing :: rest) = leave outer rest := by
  cases b <;> cases first <;> cases outer <;> rfl

/-- **The parts of a bracket are passed over**, and its end leads to what was open before. -/
theorem skipFrom_parts (b : Bracket) {parts : List (List Char)} (h : ∀ part ∈ parts, b.Passes part)
    (first : Bool) (back : Space) (outer : List Bracket) (rest : List Char) :
    skipFrom 0 (.more first) (b :: outer) (commas first parts ++ (back ++ b.closing :: rest)) =
      leave outer rest := by
  induction parts generalizing first with
  | nil =>
    rw [commas, List.nil_append, skipFrom_blank back.2]
    exact skipFrom_closing b first outer rest
  | cons part parts ih =>
    obtain ⟨passes, others⟩ := List.forall_mem_cons.1 h
    -- Once its first character is reached, a part goes the same way whether or not it is the first.
    have delimited := delimited_commas b parts back rest
    have onward := (passes.passed outer _ delimited).trans (ih others false)
    cases first with
    | true =>
      rw [commas, if_pos rfl, List.nil_append, List.append_assoc, passes.fresh]
      exact onward
    | false =>
      rw [commas, if_neg Bool.false_ne_true, List.append_assoc, List.append_assoc,
        List.singleton_append, skipFrom_comma]
      exact onward

/-! ## Values -/

theorem IsScalar.begins {cs : List Char} (h : IsScalar cs) :
    ∃ c tail, cs = c :: tail ∧ isSpace c = false ∧ c ≠ ']' := by
  obtain ⟨c, tail, rfl, space, measured⟩ := h
  refine ⟨c, tail, rfl, space, ?_⟩
  rintro rfl
  have delimited : Delimited [] := by
    intro c first
    cases first
  cases measured [] delimited

theorem IsValue.begins {cs : List Char} (h : IsValue cs) :
    ∃ c tail, cs = c :: tail ∧ isSpace c = false ∧ c ≠ ']' := by
  cases h with
  | word listed => exact (isScalar_word listed).begins
  | unsigned number => exact (isScalar_unsigned number).begins
  | negative number => exact (isScalar_negative number).begins
  | text isText => exact (isScalar_text isText).begins
  | list back _ => exact ⟨_, _, rfl, rfl, by decide⟩
  | object back _ _ => exact ⟨_, _, rfl, rfl, by decide⟩

theorem passes_item {item : ItemText} (value : IsValue item.value) (skipped : Skipped item.value) :
    Bracket.list.Passes item.text := by
  constructor
  · obtain ⟨c, tail, begins, space, notClosing⟩ := value.begins
    exact ⟨item.front, c, tail ++ item.back, by rw [ItemText.text, begins]; rfl, space, notClosing⟩
  · intro outer rest delimited
    rw [ItemText.text, List.append_assoc, List.append_assoc, skipFrom_blank item.front.2]
    have behind := skipped (.list :: outer) _ (delimited.append_blank item.back.2)
    exact behind.trans (skipFrom_blank item.back.2 _ _ _)

theorem skipFrom_name {name : List Char} (h : IsText name) (outer : List Bracket)
    (rest : List Char) : skipFrom 0 .key (.object :: outer) (quoted name ++ rest) =
      skipFrom 0 .colon (.object :: outer) rest := by
  have spread : quoted name ++ rest = '"' :: (name ++ '"' :: rest) := by simp [quoted]
  have begins : skipFrom 0 .key (.object :: outer) ('"' :: (name ++ '"' :: rest)) =
      skipFrom (name.length + 1) .colon (.object :: outer) (name ++ '"' :: rest) := by
    simp [skipFrom, isSpace, Want.atChar, endText_of_isText h]
  have known := skipFrom_append (name ++ ['"']) .colon (.object :: outer) rest
  rw [List.length_append, List.append_assoc] at known
  rw [spread, begins]
  exact known

theorem passes_member {m : MemberText} (name : IsText m.name) (skipped : Skipped m.value) :
    Bracket.object.Passes m.text := by
  constructor
  · exact ⟨m.front, '"', _, rfl, rfl, by decide⟩
  · intro outer rest delimited
    have spread : m.text ++ rest = m.front ++ (quoted m.name ++ (m.behindName ++ ':' ::
        (m.behindColon ++ (m.value ++ (m.back ++ rest))))) := by simp [MemberText.text]
    have behind := skipped (.object :: outer) _ (delimited.append_blank m.back.2)
    rw [spread, skipFrom_blank m.front.2]
    refine (skipFrom_name name outer _).trans ?_
    rw [skipFrom_blank m.behindName.2]
    refine Eq.trans ?_ (behind.trans (skipFrom_blank m.back.2 _ _ _))
    exact skipFrom_blank m.behindColon.2 .value _ _

theorem skipped_list {items : List ItemText} (back : Space)
    (h : ∀ item ∈ items, Bracket.list.Passes item.text) : Skipped (listText items back) := by
  intro brackets rest _
  have parts := skipFrom_parts .list (List.forall_mem_map.2 h) true back brackets rest
  rw [listText, List.cons_append, List.append_assoc, List.append_assoc, ← parts]
  cases brackets <;> rfl

theorem skipped_object {ms : List MemberText} (back : Space)
    (h : ∀ m ∈ ms, Bracket.object.Passes m.text) : Skipped (objectText ms back) := by
  intro brackets rest _
  have parts := skipFrom_parts .object (List.forall_mem_map.2 h) true back brackets rest
  rw [objectText, List.cons_append, List.append_assoc, List.append_assoc, ← parts]
  cases brackets <;> rfl

/-- **A value is passed over**, by induction on its nesting. -/
theorem skipped_of_isValue {cs : List Char} (h : IsValue cs) : Skipped cs := by
  induction h with
  | word listed => exact skipped_of_isScalar (isScalar_word listed)
  | unsigned number => exact skipped_of_isScalar (isScalar_unsigned number)
  | negative number => exact skipped_of_isScalar (isScalar_negative number)
  | text isText => exact skipped_of_isScalar (isScalar_text isText)
  | list back values ih =>
    exact skipped_list back fun item listed => passes_item (values item listed) (ih item listed)
  | object back names values ih =>
    exact skipped_object back fun m listed => passes_member (names m listed) (ih m listed)

/-- **A JSON value is skipped exactly.** -/
theorem skipValue_of_isValue {front cs rest : List Char} (blank : Blank front) (h : IsValue cs)
    (delimited : Delimited rest) : skipValue (front ++ (cs ++ rest)) = .ok rest := by
  rw [skipValue, skipFrom_blank blank]
  exact skipped_of_isValue h [] rest delimited

end SynthBridge.Json
