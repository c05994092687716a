import SynthBridge.Json.Skip

/-!
# Reading values of known types

Readers of texts, switches, choices among names, and records. A reader takes a value off the
front of a text and returns it with what follows.

A record is written as an object or as a list of its values in order. Members may be left out
and keep their default values then; members of other names are passed over; a name must not
occur twice.
-/

namespace SynthBridge.Json

/-- Takes a value off the front of a text. -/
abbrev Reader (β : Type) := List Char → Except Fault (β × List Char)

/-- The fault of a value that is not of the expected kind and begins with the first of the
characters. A malformed value is reported as such. -/
def mismatch (expected : String) : List Char → Fault
  | [] => .eofValue
  | c :: rest =>
    let found (outcome : Except Fault Unexpected) : Fault :=
      match outcome with
      | .ok unexpected => .invalidType unexpected expected
      | .error fault => fault
    if c = 'n' then found ((word ['u', 'l', 'l'] rest).map fun _ => .null)
    else if c = 't' then found ((word ['r', 'u', 'e'] rest).map fun _ => .bool true)
    else if c = 'f' then found ((word ['a', 'l', 's', 'e'] rest).map fun _ => .bool false)
    else if c = '-' then found (numberAt true rest)
    else if c.isDigit then found (numberAt false (c :: rest))
    else if c = '"' then found ((readText rest).map fun (s, _) => .string s)
    else if c = '[' then found (.ok .sequence)
    else if c = '{' then found (.ok .map)
    else .expectedValue

/-! ## Scalars -/

/-- Reads a quoted text where something of the given description is expected. -/
def textAs (expected : String) : Reader String := fun cs =>
  match skipBlank cs with
  | [] => .error .eofValue
  | '"' :: rest => readText rest
  | cs => .error (mismatch expected cs)

def text : Reader String := textAs "a string"

def flag : Reader Bool := fun cs =>
  match skipBlank cs with
  | [] => .error .eofValue
  | 't' :: rest => (word ['r', 'u', 'e'] rest).map fun _ => (true, rest.drop 3)
  | 'f' :: rest => (word ['a', 'l', 's', 'e'] rest).map fun _ => (false, rest.drop 4)
  | cs => .error (mismatch "a boolean" cs)

/-- Reads a value that carries nothing. -/
def unit : Reader Unit := fun cs =>
  match skipBlank cs with
  | [] => .error .eofValue
  | 'n' :: rest => (word ['u', 'l', 'l'] rest).map fun _ => ((), rest.drop 3)
  | cs => .error (mismatch "unit" cs)

/-- Takes the colon behind a name. -/
def colon (cs : List Char) : Except Fault (List Char) :=
  match skipBlank cs with
  | [] => .error .eofObject
  | c :: rest => if c = ':' then .ok rest else .error .expectedColon

section

variable {β : Type}

/-- One of some names; the opening quote is already read. -/
def variant (table : List (String × β)) : Reader β := fun cs => do
  let (name, rest) ← readText cs
  match table.lookup name with
  | some b => .ok (b, rest)
  | none => .error (.unknownVariant name (table.map Prod.fst))

/-- An object whose one member has one of some names and the value `null`; the opening brace is
already read. -/
def soleMember (table : List (String × β)) : Reader β := fun cs =>
  match skipBlank cs with
  | [] => .error .eofObject
  | '"' :: rest => do
    let (b, rest) ← variant table rest
    let rest ← colon rest
    let ((), rest) ← unit rest
    match skipBlank rest with
    | [] => .error .eofObject
    | c :: rest => if c = '}' then .ok (b, rest) else .error .expectedValue
  | c :: _ => .error (if c = '}' then .expectedValue else .keyNotString)

/-- Reads a choice: a name, or an object with that name. -/
def choice (table : List (String × β)) : Reader β := fun cs =>
  match skipBlank cs with
  | [] => .error .eofValue
  | '"' :: rest => variant table rest
  | '{' :: rest => soleMember table rest
  | _ => .error .expectedValue

/-! ## Records -/

/-- A member of a record: its name, and how its value is read into the record. -/
structure Member (β : Type) where
  name : String
  read : β → Reader β

/-- A member that is read by itself and then put into the record. -/
def Member.of {γ : Type} (name : String) (reader : Reader γ) (put : β → γ → β) : Member β where
  name := name
  read b cs := (reader cs).map fun (c, rest) => (put b c, rest)

/-- The end of a list of which nothing more is wanted. -/
def endList (cs : List Char) : Except Fault (List Char) :=
  match skipBlank cs with
  | [] => .error .eofList
  | ']' :: rest => .ok rest
  | ',' :: rest =>
    if (skipBlank rest).head? == some ']' then .error .trailingComma
    else .error .trailingCharacters
  | _ => .error .trailingCharacters

/-- Where the next item of a list begins; nothing, and what follows, at its end. -/
def nextItem (first : Bool) (cs : List Char) : Except Fault (Option (List Char) × List Char) :=
  match skipBlank cs with
  | [] => .error .eofList
  | ']' :: rest => .ok (none, rest)
  | c :: rest =>
    if first then .ok (some (c :: rest), [])
    else if c = ',' then
      match skipBlank rest with
      | [] => .error .eofValue
      | ']' :: _ => .error .trailingComma
      | item => .ok (some item, [])
    else .error .expectedListCommaOrEnd

/-- Reads the values of some members in order, as far as there are any. -/
def items : List (Member β) → (first : Bool) → β → Reader β
  | [], _, b => fun cs => (endList cs).map (b, ·)
  | m :: ms, first, b => fun cs =>
    match nextItem first cs with
    | .error fault => .error fault
    | .ok (none, rest) => .ok (b, rest)
    | .ok (some item, _) =>
      match m.read b item with
      | .error fault => .error fault
      | .ok (b, rest) => items ms false b rest

/-- The next name in an object and what follows it; no name at its end. -/
def nextName (first : Bool) (cs : List Char) : Except Fault (Option String × List Char) :=
  match skipBlank cs with
  | [] => .error .eofObject
  | '}' :: rest => .ok (none, rest)
  | c :: rest =>
    if first then
      if c = '"' then (readText rest).map fun (name, rest) => (some name, rest)
      else .error .keyNotString
    else if c = ',' then
      match skipBlank rest with
      | [] => .error .eofValue
      | '"' :: rest => (readText rest).map fun (name, rest) => (some name, rest)
      | '}' :: _ => .error .trailingComma
      | _ => .error .keyNotString
    else .error .expectedObjectCommaOrEnd

/-- Reads the members of an object, at most `fuel` of them; `seen` are the names that were read
already. -/
def members (ms : List (Member β)) :
    (fuel : Nat) → (seen : List String) → (first : Bool) → β → Reader β
  | 0, _, _, _ => fun _ => .error .eofObject
  | fuel + 1, seen, first, b => fun cs =>
    match nextName first cs with
    | .error fault => .error fault
    | .ok (none, rest) => .ok (b, rest)
    | .ok (some name, rest) =>
      match ms.find? fun m => m.name == name with
      | some m =>
        if name ∈ seen then .error (.duplicateField name)
        else
          match (colon rest).bind (m.read b) with
          | .error fault => .error fault
          | .ok (b, rest) => members ms fuel (name :: seen) false b rest
      | none =>
        match (colon rest).bind skipValue with
        | .error fault => .error fault
        | .ok rest => members ms fuel seen false b rest

/-- Reads a record with the given members over its default value. An object has fewer members
than characters. -/
def record (description : String) (ms : List (Member β)) (default : β) : Reader β := fun cs =>
  match skipBlank cs with
  | [] => .error .eofValue
  | '[' :: rest => items ms true default rest
  | '{' :: rest => members ms (rest.length + 1) [] true default rest
  | cs => .error (mismatch description cs)

/-- Reads a whole text. -/
def whole (reader : Reader β) (s : String) : Except Fault β := do
  let (b, rest) ← reader s.toList
  if (skipBlank rest).isEmpty then .ok b else .error .trailingCharacters

end

end SynthBridge.Json
