import Mathlib.Data.Bool.AllAny
import SynthBridge.Json.Text

/-!
# The grammar of JSON

What a JSON text is, said without a reader: blanks, texts, numbers and values that nest to any
depth. A text is formed of characters and escapes (`IsText`), and is spelled if its escapes of units
make up characters (`Spells`): half of a pair of units is an escape, but no character. Members and
items stand with blanks wherever these are allowed, and with a comma between any two.
-/

namespace SynthBridge.Json

/-! ## Blanks -/

/-- A run of blanks. -/
def Blank (cs : List Char) : Prop := ∀ c ∈ cs, isSpace c = true

theorem blank_nil : Blank [] := by
  intro c listed
  cases listed

/-- Room between two tokens. -/
abbrev Space := { cs : List Char // Blank cs }

def noSpace : Space := ⟨[], blank_nil⟩

def oneSpace : Space := ⟨[' '], List.forall_mem_singleton.2 rfl⟩

/-! ## Texts -/

/-- Characters that may stand between quotes as they are. -/
def IsPlain (c : Char) : Prop := c ≠ '"' ∧ c ≠ '\\' ∧ 0x20 ≤ c.toNat

instance : DecidablePred IsPlain := fun c => by
  unfold IsPlain
  infer_instance

/-- The letters of escapes, with the characters that they stand for. -/
def letterTable : List (Char × Char) :=
  [('"', '"'), ('\\', '\\'), ('/', '/'), ('b', '\x08'), ('f', '\x0c'), ('n', '\n'), ('r', '\x0d'),
    ('t', '\t')]

/-- The hexadecimal digits, with what they count. -/
def digitTable : List (Char × Nat) :=
  [('0', 0), ('1', 1), ('2', 2), ('3', 3), ('4', 4), ('5', 5), ('6', 6), ('7', 7), ('8', 8),
    ('9', 9), ('a', 10), ('b', 11), ('c', 12), ('d', 13), ('e', 14), ('f', 15),
    ('A', 10), ('B', 11), ('C', 12), ('D', 13), ('E', 14), ('F', 15)]

/-- Four hexadecimal digits and the UTF-16 unit of that number. -/
inductive IsUnit : List Char → Nat → Prop
  | digits {a b c d : Char} {i j k l : Nat} : (a, i) ∈ digitTable → (b, j) ∈ digitTable →
    (c, k) ∈ digitTable → (d, l) ∈ digitTable →
    IsUnit [a, b, c, d] (0x1000 * i + 0x100 * j + 0x10 * k + l)

/-- What stands between the quotes of a text: plain characters and escapes. -/
inductive IsText : List Char → Prop
  | nil : IsText []
  | plain {c : Char} {body : List Char} : IsPlain c → IsText body → IsText (c :: body)
  | letter {l c : Char} {body : List Char} : (l, c) ∈ letterTable → IsText body →
    IsText ('\\' :: l :: body)
  | unit {unit body : List Char} {n : Nat} : IsUnit unit n → IsText body →
    IsText ('\\' :: 'u' :: (unit ++ body))

/-- What stands between the quotes of a text, and the characters that it stands for. A character
beyond the first `2 ^ 16` is escaped as a pair of units. -/
inductive Spells : List Char → List Char → Prop
  | nil : Spells [] []
  | plain {c : Char} {body cs : List Char} : IsPlain c → Spells body cs →
    Spells (c :: body) (c :: cs)
  | letter {l c : Char} {body cs : List Char} : (l, c) ∈ letterTable → Spells body cs →
    Spells ('\\' :: l :: body) (c :: cs)
  | unit {c : Char} {unit body cs : List Char} : IsUnit unit c.toNat → Spells body cs →
    Spells ('\\' :: 'u' :: (unit ++ body)) (c :: cs)
  | pair {c : Char} {unit unit' body cs : List Char} {high low : Nat} :
    IsUnit unit (0xd800 + high) → IsUnit unit' (0xdc00 + low) → high < 0x400 → low < 0x400 →
    c.toNat = 0x10000 + 0x400 * high + low → Spells body cs →
    Spells ('\\' :: 'u' :: (unit ++ '\\' :: 'u' :: (unit' ++ body))) (c :: cs)

/-- Plain characters spell themselves. -/
theorem spells_self {cs : List Char} (plain : cs.all (IsPlain ·) = true) : Spells cs cs := by
  induction cs with
  | nil => exact .nil
  | cons c cs ih =>
    rw [List.all_cons, Bool.and_eq_true, decide_eq_true_eq] at plain
    exact .plain plain.1 (ih plain.2)

/-- Half of a pair of units. -/
def halfPair : List Char := ['\\', 'u', 'd', '8', '0', '0']

theorem isText_halfPair : IsText halfPair := by
  have unit : IsUnit ['d', '8', '0', '0'] 0xd800 :=
    @IsUnit.digits 'd' '8' '0' '0' 13 8 0 0 (by decide) (by decide) (by decide) (by decide)
  exact .unit unit .nil

def quoted (body : List Char) : List Char := '"' :: (body ++ ['"'])

/-- A quoted text that stands for `s`. -/
def SpellsText (cs : List Char) (s : String) : Prop :=
  ∃ body, cs = quoted body ∧ Spells body s.toList

/-! ## Numbers -/

/-- One digit or more. -/
def IsDigits (cs : List Char) : Prop := cs ≠ [] ∧ ∀ c ∈ cs, c.isDigit = true

theorem isDigits_singleton {c : Char} (digit : c.isDigit = true) : IsDigits [c] :=
  ⟨List.cons_ne_nil c [], List.forall_mem_singleton.2 digit⟩

/-- What follows the digits before the point. -/
inductive IsFraction : List Char → Prop
  | none : IsFraction []
  | places {ds : List Char} : IsDigits ds → IsFraction ('.' :: ds)

inductive IsExponent : List Char → Prop
  | none : IsExponent []
  | power {e : Char} {sign ds : List Char} : e ∈ ['e', 'E'] → sign ∈ [[], ['+'], ['-']] →
    IsDigits ds → IsExponent (e :: (sign ++ ds))

/-- A number without its sign; zero stands in front of no other digit. -/
inductive IsUnsigned : List Char → Prop
  | parts {ds fraction exponent : List Char} : IsDigits ds → (ds.head? = some '0' → ds = ['0']) →
    IsFraction fraction → IsExponent exponent → IsUnsigned (ds ++ (fraction ++ exponent))

/-! ## Values -/

/-- Parts of which all have a comma in front, or all but the first. -/
def commas : (first : Bool) → List (List Char) → List Char
  | _, [] => []
  | first, part :: parts => (if first then [] else [',']) ++ (part ++ commas false parts)

/-- An item of a list as it stands there. -/
structure ItemText where
  front : Space
  value : List Char
  back : Space

def ItemText.text (item : ItemText) : List Char := item.front ++ (item.value ++ item.back)

/-- A member of an object as it stands there, its name without the quotes. -/
structure MemberText where
  front : Space
  name : List Char
  behindName : Space
  behindColon : Space
  value : List Char
  back : Space

def MemberText.text (m : MemberText) : List Char :=
  m.front ++ (quoted m.name ++ (m.behindName ++ ':' :: (m.behindColon ++ (m.value ++ m.back))))

/-- Items between brackets; room for blanks also if there are none. -/
def listText (items : List ItemText) (back : Space) : List Char :=
  '[' :: (commas true (items.map ItemText.text) ++ (back ++ [']']))

def objectText (ms : List MemberText) (back : Space) : List Char :=
  '{' :: (commas true (ms.map MemberText.text) ++ (back ++ ['}']))

/-- The words that are values. -/
def words : List (List Char) :=
  [['n', 'u', 'l', 'l'], ['t', 'r', 'u', 'e'], ['f', 'a', 'l', 's', 'e']]

/-- A JSON value, without the blanks around it. -/
inductive IsValue : List Char → Prop
  | word {w : List Char} : w ∈ words → IsValue w
  | unsigned {cs : List Char} : IsUnsigned cs → IsValue cs
  | negative {cs : List Char} : IsUnsigned cs → IsValue ('-' :: cs)
  | text {body : List Char} : IsText body → IsValue (quoted body)
  | list {items : List ItemText} (back : Space) : (∀ item ∈ items, IsValue item.value) →
    IsValue (listText items back)
  | object {ms : List MemberText} (back : Space) : (∀ m ∈ ms, IsText m.name) →
    (∀ m ∈ ms, IsValue m.value) → IsValue (objectText ms back)

end SynthBridge.Json
