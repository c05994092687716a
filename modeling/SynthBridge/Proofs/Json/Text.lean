import SynthBridge.Proofs.Json.Grammar

/-!
# Reading texts

A quoted text is read as the characters that it spells, whatever follows it (`readText_of_spells`),
and its end is found if it is only formed like one (`endText_of_isText`). Written texts are spelled
(`spells_flatMap`), so that they are read back.
-/

namespace SynthBridge.Json

/-! ## Blanks -/

theorem skipBlank_append {front : List Char} (blank : Blank front) (cs : List Char) :
    skipBlank (front ++ cs) = skipBlank cs :=
  List.dropWhile_append_of_pos blank

theorem skipBlank_cons {c : Char} (h : isSpace c = false) (cs : List Char) :
    skipBlank (c :: cs) = c :: cs :=
  List.dropWhile_cons_of_neg (by simp [h])

/-! ## Escapes -/

theorem letter?_of_mem {l c : Char} (h : (l, c) ∈ letterTable) : letter? l = some c ∧ l ≠ 'u' := by
  have all : ∀ p ∈ letterTable, letter? p.1 = some p.2 ∧ p.1 ≠ 'u' := by decide
  exact all _ h

theorem hexDigit?_of_mem {c : Char} {n : Nat} (h : (c, n) ∈ digitTable) : hexDigit? c = some n := by
  have all : ∀ p ∈ digitTable, hexDigit? p.1 = some p.2 := by decide
  exact all _ h

theorem IsUnit.length_eq {unit : List Char} {n : Nat} (h : IsUnit unit n) : unit.length = 4 := by
  cases h
  rfl

theorem hexNumber?_of_isUnit {unit : List Char} {n : Nat} (h : IsUnit unit n) :
    hexNumber? unit = some n := by
  cases h with
  | @digits a b c d i j k l ha hb hc hd =>
    have number : ((i * 16 + j) * 16 + k) * 16 + l = 0x1000 * i + 0x100 * j + 0x10 * k + l := by
      omega
    simp only [hexNumber?, hexDigit?_of_mem ha, hexDigit?_of_mem hb, hexDigit?_of_mem hc,
      hexDigit?_of_mem hd, bind, Option.bind, number]

theorem hexEscape_of_isUnit {unit : List Char} {n : Nat} (h : IsUnit unit n) (rest : List Char) :
    hexEscape (unit ++ rest) = .ok n := by
  have front : (unit ++ rest).take 4 = unit := by
    rw [← h.length_eq, List.take_left]
  rw [hexEscape, front, hexNumber?_of_isUnit h]

/-- The units of a pair are of two kinds, and the number of a character is of neither. -/
theorem toNat_not_unit (c : Char) : isTrailing c.toNat = false ∧ isLeading c.toNat = false := by
  have valid : c.toNat < 0xd800 ∨ 0xdfff < c.toNat ∧ c.toNat < 0x110000 := c.valid
  simp only [isTrailing, isLeading, Bool.and_eq_false_iff, decide_eq_false_iff_not]
  omega

theorem readEscape_letter {l c : Char} (h : (l, c) ∈ letterTable) (rest : List Char) :
    readEscape (l :: rest) = .ok (c, 1) := by
  obtain ⟨means, notUnit⟩ := letter?_of_mem h
  unfold readEscape
  split
  · contradiction
  · rename_i same
    exact absurd (List.cons.inj same).1 notUnit
  · rename_i same
    obtain ⟨rfl, rfl⟩ := List.cons.inj same
    rw [means]

theorem readEscape_unit {unit : List Char} {c : Char} (h : IsUnit unit c.toNat)
    (rest : List Char) : readEscape ('u' :: (unit ++ rest)) = .ok (c, 5) := by
  obtain ⟨notTrailing, notLeading⟩ := toNat_not_unit c
  simp only [readEscape, hexEscape_of_isUnit h, notTrailing, notLeading, Bool.false_eq_true,
    if_false, Char.ofNat_toNat]

theorem readEscape_pair {unit unit' : List Char} {high low : Nat} (h : IsUnit unit (0xd800 + high))
    (h' : IsUnit unit' (0xdc00 + low)) (highFits : high < 0x400) (lowFits : low < 0x400) {c : Char}
    (number : c.toNat = 0x10000 + 0x400 * high + low) (rest : List Char) :
    readEscape ('u' :: (unit ++ '\\' :: 'u' :: (unit' ++ rest))) = .ok (c, 11) := by
  have notTrailing : isTrailing (0xd800 + high) = false := by
    simp only [isTrailing, Bool.and_eq_false_iff, decide_eq_false_iff_not]
    omega
  have leading : isLeading (0xd800 + high) = true := by
    simp only [isLeading, Bool.and_eq_true, decide_eq_true_eq]
    omega
  have trailing : isTrailing (0xdc00 + low) = true := by
    simp only [isTrailing, Bool.and_eq_true, decide_eq_true_eq]
    omega
  have behind : (unit ++ '\\' :: 'u' :: (unit' ++ rest)).drop 4 = '\\' :: 'u' :: (unit' ++ rest) :=
    List.drop_left' h.length_eq
  have same : pairNumber (0xd800 + high) (0xdc00 + low) = c.toNat := by
    unfold pairNumber
    omega
  simp only [readEscape, hexEscape_of_isUnit h, notTrailing, leading, behind, trailingUnit,
    hexEscape_of_isUnit h', trailing, Bool.false_eq_true, if_false, if_true, same, Char.ofNat_toNat]

/-! ## Reading -/

/-- What is known already is passed over. -/
theorem readFrom_append (known rest : List Char) :
    readFrom known.length (known ++ rest) = readFrom 0 rest := by
  induction known with
  | nil => rfl
  | cons c known ih => exact ih

theorem IsPlain.isControl_eq {c : Char} (h : IsPlain c) : isControl c = false := by
  obtain ⟨-, -, large⟩ := h
  rw [isControl, decide_eq_false_iff_not]
  omega

theorem readFrom_plain {c : Char} (plain : IsPlain c) (rest : List Char) :
    readFrom 0 (c :: rest) = (readFrom 0 rest).map fun (cs, rest) => (c :: cs, rest) := by
  rw [readFrom, if_neg plain.1, if_neg plain.2.1, plain.isControl_eq, if_neg Bool.false_ne_true]

/-- An escape is read at once, whatever of it is what follows the backslash. -/
theorem readFrom_escape {c : Char} {known rest : List Char} {n : Nat}
    (means : readEscape (known ++ rest) = .ok (c, n)) (long : known.length = n) :
    readFrom 0 ('\\' :: (known ++ rest)) =
      (readFrom 0 rest).map fun (cs, rest) => (c :: cs, rest) := by
  have quote : ¬ '\\' = '"' := by decide
  rw [readFrom, if_neg quote, if_pos rfl, means, ← long]
  simp only [readFrom_append]

theorem readFrom_letter {l c : Char} (h : (l, c) ∈ letterTable) (rest : List Char) :
    readFrom 0 ('\\' :: l :: rest) = (readFrom 0 rest).map fun (cs, rest) => (c :: cs, rest) :=
  @readFrom_escape c [l] rest 1 (readEscape_letter h rest) rfl

theorem readFrom_unit {unit : List Char} {c : Char} (h : IsUnit unit c.toNat) (rest : List Char) :
    readFrom 0 ('\\' :: 'u' :: (unit ++ rest)) =
      (readFrom 0 rest).map fun (cs, rest) => (c :: cs, rest) := by
  have long : ('u' :: unit).length = 5 := by rw [List.length_cons, h.length_eq]
  exact readFrom_escape (readEscape_unit h rest) long

theorem readFrom_pair {unit unit' : List Char} {high low : Nat} (h : IsUnit unit (0xd800 + high))
    (h' : IsUnit unit' (0xdc00 + low)) (highFits : high < 0x400) (lowFits : low < 0x400) {c : Char}
    (number : c.toNat = 0x10000 + 0x400 * high + low) (rest : List Char) :
    readFrom 0 ('\\' :: 'u' :: (unit ++ '\\' :: 'u' :: (unit' ++ rest))) =
      (readFrom 0 rest).map fun (cs, rest) => (c :: cs, rest) := by
  have long : ('u' :: (unit ++ '\\' :: 'u' :: unit')).length = 11 := by
    rw [List.length_cons, List.length_append, List.length_cons, List.length_cons, h.length_eq,
      h'.length_eq]
  have spread : 'u' :: (unit ++ '\\' :: 'u' :: (unit' ++ rest)) =
      ('u' :: (unit ++ '\\' :: 'u' :: unit')) ++ rest := by simp
  have means := readEscape_pair h h' highFits lowFits number rest
  rw [spread] at means ⊢
  exact readFrom_escape means long

/-- **Reading a text gives what it spells**, up to the closing quote. -/
theorem readFrom_of_spells {body cs : List Char} (h : Spells body cs) (rest : List Char) :
    readFrom 0 (body ++ '"' :: rest) = .ok (cs, rest) := by
  induction h with
  | nil => rfl
  | plain isPlain _ ih =>
    rw [List.cons_append, readFrom_plain isPlain, ih]
    rfl
  | letter listed _ ih =>
    rw [List.cons_append, List.cons_append, readFrom_letter listed, ih]
    rfl
  | unit isUnit _ ih =>
    rw [List.cons_append, List.cons_append, List.append_assoc, readFrom_unit isUnit, ih]
    rfl
  | @pair c unit unit' body cs high low h h' highFits lowFits number _ ih =>
    have spread : '\\' :: 'u' :: (unit ++ '\\' :: 'u' :: (unit' ++ body)) ++ '"' :: rest =
        '\\' :: 'u' :: (unit ++ '\\' :: 'u' :: (unit' ++ (body ++ '"' :: rest))) := by simp
    rw [spread, readFrom_pair h h' highFits lowFits number, ih]
    rfl

theorem readText_of_spells {body : List Char} {s : String} (h : Spells body s.toList)
    (rest : List Char) : readText (body ++ '"' :: rest) = .ok (s, rest) := by
  rw [readText, readFrom_of_spells h]
  simp [Except.map, String.ofList_toList]

/-- Not every text spells something. -/
theorem not_spells_halfPair (cs : List Char) : ¬ Spells halfPair cs := by
  intro h
  have read := readFrom_of_spells h []
  have refused : readFrom 0 (halfPair ++ ['"']) = .error .unexpectedEndOfHexEscape := by rfl
  rw [refused] at read
  cases read

/-! ## Looking for the end -/

theorem endFrom_append (known rest : List Char) :
    endFrom known.length (known ++ rest) = (endFrom 0 rest).map (· + known.length) := by
  induction known with
  | nil =>
    rw [List.length_nil, List.nil_append]
    cases endFrom 0 rest <;> rfl
  | cons c known ih =>
    rw [List.length_cons, List.cons_append, endFrom, ih]
    cases endFrom 0 rest <;> rfl

theorem endFrom_plain {c : Char} (plain : IsPlain c) (rest : List Char) :
    endFrom 0 (c :: rest) = (endFrom 0 rest).map (· + 1) := by
  rw [endFrom, if_neg plain.1, if_neg plain.2.1, plain.isControl_eq, if_neg Bool.false_ne_true]

theorem endFrom_escape {known rest : List Char} {n : Nat}
    (formed : skipEscape (known ++ rest) = .ok n) (long : known.length = n) :
    endFrom 0 ('\\' :: (known ++ rest)) = (endFrom 0 rest).map (· + (n + 1)) := by
  have quote : ¬ '\\' = '"' := by decide
  rw [endFrom, if_neg quote, if_pos rfl, formed, ← long]
  simp only [endFrom_append]
  cases endFrom 0 rest <;> rfl

theorem skipEscape_letter {l c : Char} (h : (l, c) ∈ letterTable) (rest : List Char) :
    skipEscape (l :: rest) = .ok 1 := by
  obtain ⟨means, notUnit⟩ := letter?_of_mem h
  unfold skipEscape
  split
  · contradiction
  · rename_i same
    exact absurd (List.cons.inj same).1 notUnit
  · rename_i same
    obtain ⟨rfl, rfl⟩ := List.cons.inj same
    rw [means]
    rfl

theorem endFrom_letter {l c : Char} (h : (l, c) ∈ letterTable) (rest : List Char) :
    endFrom 0 ('\\' :: l :: rest) = (endFrom 0 rest).map (· + 2) :=
  @endFrom_escape [l] rest 1 (skipEscape_letter h rest) rfl

theorem endFrom_unit {unit : List Char} {n : Nat} (h : IsUnit unit n) (rest : List Char) :
    endFrom 0 ('\\' :: 'u' :: (unit ++ rest)) = (endFrom 0 rest).map (· + 6) := by
  have long : ('u' :: unit).length = 5 := by rw [List.length_cons, h.length_eq]
  have formed : skipEscape ('u' :: unit ++ rest) = .ok 5 := by
    simp only [List.cons_append, skipEscape, hexEscape_of_isUnit h]
  exact endFrom_escape formed long

/-- **The end of a text is found** if it is formed like one, whether or not it spells anything. -/
theorem endText_of_isText {body : List Char} (h : IsText body) (rest : List Char) :
    endText (body ++ '"' :: rest) = .ok (body.length + 1) := by
  rw [endText]
  induction h with
  | nil => rfl
  | plain isPlain _ ih =>
    rw [List.cons_append, endFrom_plain isPlain, ih]
    rfl
  | letter listed _ ih =>
    rw [List.cons_append, List.cons_append, endFrom_letter listed, ih]
    rfl
  | unit isUnit _ ih =>
    rw [List.cons_append, List.cons_append, List.append_assoc, endFrom_unit isUnit, ih,
      List.length_cons, List.length_cons, List.length_append, isUnit.length_eq]
    simp only [Except.map, Except.ok.injEq]
    omega

/-! ## Writing -/

theorem quoted_append (body rest : List Char) :
    quoted body ++ rest = '"' :: (body ++ '"' :: rest) := by
  simp [quoted]

/-- The number of a control character is written as a unit. -/
theorem isUnit_hexDigits {n : Nat} (h : n < 0x20) : IsUnit (Text.hexDigits 4 n) n := by
  have all : ∀ n < 0x20, ∃ p ∈ digitTable, ∃ q ∈ digitTable,
      Text.hexDigits 4 n = ['0', '0', p.1, q.1] ∧ n = 0x10 * p.2 + q.2 := by decide
  obtain ⟨⟨c, k⟩, hc, ⟨d, l⟩, hd, written, number⟩ := all n h
  have zero : ('0', 0) ∈ digitTable := by decide
  have unit := IsUnit.digits zero zero hc hd
  rw [written, number]
  simpa using unit

/-- A character is written as what spells it. -/
theorem spells_writeChar (c : Char) {body cs : List Char} (h : Spells body cs) :
    Spells (writeChar c ++ body) (c :: cs) := by
  by_cases lettered : c ∈ ['"', '\\', '\x08', '\x0c', '\n', '\x0d', '\t']
  · simp only [List.mem_cons, List.not_mem_nil, or_false] at lettered
    rcases lettered with rfl | rfl | rfl | rfl | rfl | rfl | rfl <;>
      exact .letter (by decide) h
  · simp only [List.mem_cons, List.not_mem_nil, or_false, not_or] at lettered
    obtain ⟨quote, backslash, backspace, formFeed, newline, ret, tab⟩ := lettered
    rw [writeChar, if_neg quote, if_neg backslash, if_neg backspace, if_neg formFeed,
      if_neg newline, if_neg ret, if_neg tab]
    cases control : isControl c with
    | true =>
      have small : c.toNat < 0x20 := by simpa [isControl] using control
      exact .unit (isUnit_hexDigits small) h
    | false =>
      have large : 0x20 ≤ c.toNat := by simpa [isControl] using control
      exact .plain ⟨quote, backslash, large⟩ h

theorem spells_flatMap (cs : List Char) : Spells (cs.flatMap writeChar) cs := by
  induction cs with
  | nil => exact .nil
  | cons c cs ih => exact spells_writeChar c ih

/-- **A text is written as what spells it.** -/
theorem spellsText_writeText (s : String) : SpellsText (writeText s) s :=
  ⟨_, rfl, spells_flatMap s.toList⟩

end SynthBridge.Json
