import SynthBridge.Json.Error
import SynthBridge.Text.Quoted

/-!
# Texts in JSON

Reading and writing the body of a quoted text, and the words that stand for themselves.
Everything works on lists of characters.

`readText` decodes a body, `endText` only looks for its end: there escapes need not name
characters, four hexadecimal digits are enough. `writeText` is the inverse of `readText` and
escapes no more than it has to.
-/

namespace SynthBridge.Json

/-- The blanks between tokens. -/
def isSpace (c : Char) : Bool := c == ' ' || c == '\n' || c == '\t' || c == '\x0d'

/-- A text without the blanks at its front. -/
def skipBlank (cs : List Char) : List Char := cs.dropWhile isSpace

/-- Characters that must not stand in a quoted text as they are. -/
def isControl (c : Char) : Bool := c.toNat < 0x20

/-! ## Escapes -/

/-- The character that a letter after a backslash stands for. -/
def letter? : Char → Option Char
  | '"' => some '"'
  | '\\' => some '\\'
  | '/' => some '/'
  | 'b' => some '\x08'
  | 'f' => some '\x0c'
  | 'n' => some '\n'
  | 'r' => some '\x0d'
  | 't' => some '\t'
  | _ => none

def hexDigit? (c : Char) : Option Nat :=
  if '0' ≤ c && c ≤ '9' then some (c.toNat - '0'.toNat)
  else if 'a' ≤ c && c ≤ 'f' then some (c.toNat - 'a'.toNat + 10)
  else if 'A' ≤ c && c ≤ 'F' then some (c.toNat - 'A'.toNat + 10)
  else none

/-- The number that four hexadecimal digits make up. -/
def hexNumber? : List Char → Option Nat
  | [a, b, c, d] => do
    let a ← hexDigit? a
    let b ← hexDigit? b
    let c ← hexDigit? c
    let d ← hexDigit? d
    some (((a * 16 + b) * 16 + c) * 16 + d)
  | _ => none

/-- The number at the front of a text. Where the text has fewer than four bytes left it ends
too early, whatever they are. -/
def hexEscape (cs : List Char) : Except Fault Nat :=
  match hexNumber? (cs.take 4) with
  | some n => .ok n
  | none =>
    if (String.ofList (cs.take 4)).utf8ByteSize < 4 then .error .eofString
    else .error .invalidEscape

/-- The two halves of a pair of UTF-16 units. -/
def isLeading (n : Nat) : Bool := 0xd800 ≤ n && n ≤ 0xdbff

def isTrailing (n : Nat) : Bool := 0xdc00 ≤ n && n ≤ 0xdfff

/-- The number of the character that a pair of units stands for. -/
def pairNumber (leading trailing : Nat) : Nat :=
  0x10000 + (leading - 0xd800) * 0x400 + (trailing - 0xdc00)

/-- The second unit of a pair, in an escape of its own. -/
def trailingUnit : List Char → Except Fault Nat
  | [] => .error .eofString
  | '\\' :: [] => .error .eofString
  | '\\' :: 'u' :: rest =>
    match hexEscape rest with
    | .ok n => if isTrailing n then .ok n else .error .loneSurrogate
    | .error fault => .error fault
  | _ => .error .unexpectedEndOfHexEscape

/-- The character that an escape stands for, and how many characters of the text after the
backslash the escape takes up. -/
def readEscape : List Char → Except Fault (Char × Nat)
  | [] => .error .eofString
  | 'u' :: rest =>
    match hexEscape rest with
    | .error fault => .error fault
    | .ok n =>
      if isTrailing n then .error .loneSurrogate
      else if isLeading n then
        match trailingUnit (rest.drop 4) with
        | .ok n' => .ok (Char.ofNat (pairNumber n n'), 11)
        | .error fault => .error fault
      else .ok (Char.ofNat n, 5)
  | c :: _ =>
    match letter? c with
    | some d => .ok (d, 1)
    | none => .error .invalidEscape

/-- How many characters after the backslash an escape takes up, if it is formed like one. -/
def skipEscape : List Char → Except Fault Nat
  | [] => .error .eofString
  | 'u' :: rest =>
    match hexEscape rest with
    | .ok _ => .ok 5
    | .error fault => .error fault
  | c :: _ => if (letter? c).isSome then .ok 1 else .error .invalidEscape

/-! ## Reading -/

/-- The characters of a quoted text and what follows it; the opening quote is already read,
and so are the next `read` characters. -/
def readFrom : (read : Nat) → List Char → Except Fault (List Char × List Char)
  | _, [] => .error .eofString
  | read + 1, _ :: rest => readFrom read rest
  | 0, c :: rest =>
    if c = '"' then .ok ([], rest)
    else if c = '\\' then
      match readEscape rest with
      | .ok (d, n) => (readFrom n rest).map fun (ds, rest) => (d :: ds, rest)
      | .error fault => .error fault
    else if isControl c then .error .controlCharacter
    else (readFrom 0 rest).map fun (ds, rest) => (c :: ds, rest)

/-- The text whose opening quote is already read, and what follows it. -/
def readText (cs : List Char) : Except Fault (String × List Char) :=
  (readFrom 0 cs).map fun (ds, rest) => (String.ofList ds, rest)

/-- How many characters a quoted text takes up from behind its opening quote, the closing one
included; the next `read` characters are already known. -/
def endFrom : (read : Nat) → List Char → Except Fault Nat
  | _, [] => .error .eofString
  | read + 1, _ :: rest => (endFrom read rest).map (· + 1)
  | 0, c :: rest =>
    if c = '"' then .ok 1
    else if c = '\\' then
      match skipEscape rest with
      | .ok n => (endFrom n rest).map (· + 1)
      | .error fault => .error fault
    else if isControl c then .error .controlCharacter
    else (endFrom 0 rest).map (· + 1)

/-- How many characters a quoted text takes up from behind its opening quote. -/
def endText (cs : List Char) : Except Fault Nat := endFrom 0 cs

/-- Checks that a text goes on with the letters of a word. -/
def word : (letters : List Char) → List Char → Except Fault Unit
  | [], _ => .ok ()
  | _ :: _, [] => .error .eofValue
  | l :: letters, c :: rest => if c = l then word letters rest else .error .expectedIdent

/-! ## Writing -/

/-- How a character stands inside quotes. -/
def writeChar (c : Char) : List Char :=
  if c = '"' then ['\\', '"']
  else if c = '\\' then ['\\', '\\']
  else if c = '\x08' then ['\\', 'b']
  else if c = '\x0c' then ['\\', 'f']
  else if c = '\n' then ['\\', 'n']
  else if c = '\x0d' then ['\\', 'r']
  else if c = '\t' then ['\\', 't']
  else if isControl c then '\\' :: 'u' :: Text.hexDigits 4 c.toNat
  else [c]

/-- A text between quotes. -/
def writeText (s : String) : List Char := '"' :: s.toList.flatMap writeChar ++ ['"']

end SynthBridge.Json
