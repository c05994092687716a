import SynthBridge.Json.Number

/-!
# Skipping a JSON value

The value of an unknown member has to be a JSON value, but nothing else is asked of it. It is
passed over without regard to how deep it nests: the brackets that are still open are kept in
a list, and `Want` says what may come next.

A text is worked off character by character. Scalars are measured where they begin, and their
characters are then passed over one by one.
-/

namespace SynthBridge.Json

/-- A bracket that is still open. -/
inductive Bracket
  | list
  | object
  deriving DecidableEq, Repr

/-- What may come next. -/
inductive Want
  | value
  /-- A comma or the end of the innermost bracket; right behind the opening bracket the first
  item or the end. -/
  | more (fresh : Bool)
  | key
  | colon
  deriving DecidableEq, Repr

namespace Bracket

def closing : Bracket → Char
  | .list => ']'
  | .object => '}'

/-- What an item of the bracket begins with. -/
def item : Bracket → Want
  | .list => .value
  | .object => .key

/-- The fault of a text that ends inside the bracket. -/
def eof : Bracket → Fault
  | .list => .eofList
  | .object => .eofObject

def commaOrEnd : Bracket → Fault
  | .list => .expectedListCommaOrEnd
  | .object => .expectedObjectCommaOrEnd

end Bracket

/-- The fault of a text that ends where something is wanted. -/
def Want.eof (brackets : List Bracket) : Want → Fault
  | .value => .eofValue
  | .more _ => (brackets.head?.map Bracket.eof).getD .eofValue
  | .key | .colon => .eofObject

/-- Behind an opening bracket whatever is not the end begins the first item. -/
def Want.atChar (brackets : List Bracket) (c : Char) : Want → Want
  | .more true =>
    match brackets with
    | b :: _ => if c = b.closing then .more true else b.item
    | [] => .more true
  | want => want

/-- How many characters a scalar value takes up that begins with `c` and goes on with `rest`;
nothing for a value that is a bracket. -/
def scalarLength (c : Char) (rest : List Char) : Except Fault (Option Nat) :=
  if c = 'n' then (word ['u', 'l', 'l'] rest).map fun _ => some 4
  else if c = 't' then (word ['r', 'u', 'e'] rest).map fun _ => some 4
  else if c = 'f' then (word ['a', 'l', 's', 'e'] rest).map fun _ => some 5
  else if c = '-' then (numberLength rest).map fun n => some (n + 1)
  else if c.isDigit then (numberLength (c :: rest)).map some
  else if c = '"' then (endText rest).map fun n => some (n + 1)
  else if c = '[' || c = '{' then .ok none
  else .error .expectedValue

/-- Passes over what is wanted and over all that the open brackets still hold; the next `read`
characters are known already. What follows is the result. -/
def skipFrom : (read : Nat) → Want → List Bracket → List Char → Except Fault (List Char)
  | read + 1, want, brackets, _ :: rest => skipFrom read want brackets rest
  | _, want, brackets, [] => .error (want.eof brackets)
  | 0, want, brackets, c :: rest =>
    if isSpace c then skipFrom 0 want brackets rest
    else
      match want.atChar brackets c with
      | .value =>
        match scalarLength c rest with
        | .error fault => .error fault
        | .ok none =>
          skipFrom 0 (.more true) ((if c = '[' then .list else .object) :: brackets) rest
        | .ok (some n) =>
          if brackets.isEmpty then .ok (rest.drop (n - 1))
          else skipFrom (n - 1) (.more false) brackets rest
      | .key =>
        if c = '"' then
          match endText rest with
          | .error fault => .error fault
          | .ok n => skipFrom n .colon brackets rest
        else .error .keyNotString
      | .colon => if c = ':' then skipFrom 0 .value brackets rest else .error .expectedColon
      | .more _ =>
        match brackets with
        | [] => .ok (c :: rest)
        | b :: outer =>
          if c = b.closing then
            if outer.isEmpty then .ok rest else skipFrom 0 (.more false) outer rest
          else if c = ',' then skipFrom 0 b.item brackets rest
          else .error b.commaOrEnd

/-- Passes over one value. -/
def skipValue (cs : List Char) : Except Fault (List Char) := skipFrom 0 .value [] cs

end SynthBridge.Json
