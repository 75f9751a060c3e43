import ChatRelay.Json.Problem

/-!
# Readers of JSON text

A reader takes a value off the front of a text, or names the first problem. Blanks between tokens
are the space, the tab, and the two line ends. Nothing is read ahead: what is wrong further on does
not matter before it is reached.
-/

namespace ChatRelay.Json

/-- Takes a value off the front of a text. -/
abbrev Reader (α : Type) := List Char → Except Problem (α × List Char)

/-- Whether a character may stand between tokens. -/
def isBlank (c : Char) : Bool := c = ' ' || c = '\t' || c = '\n' || c = '\r'

/-- The text without the blanks in front. -/
def skipBlanks (text : List Char) : List Char := text.dropWhile isBlank

/-- The digit that a character stands for. -/
def digit? (c : Char) : Option Nat :=
  if '0' ≤ c ∧ c ≤ '9' then some (c.toNat - '0'.toNat) else none

/-- The hexadecimal digit that a character stands for. -/
def hexDigit? (c : Char) : Option Nat :=
  if '0' ≤ c ∧ c ≤ '9' then some (c.toNat - '0'.toNat)
  else if 'a' ≤ c ∧ c ≤ 'f' then some (c.toNat - 'a'.toNat + 10)
  else if 'A' ≤ c ∧ c ≤ 'F' then some (c.toNat - 'A'.toNat + 10)
  else none

/-- Takes exactly these characters off the front. -/
def skipWord : List Char → List Char → Except Problem (List Char)
  | [], text => .ok text
  | _ :: _, [] => .error .endOfInput
  | w :: word, c :: text => if c = w then skipWord word text else .error .malformed

/-- The colon between a key and its value. -/
def skipColon (text : List Char) : Except Problem (List Char) :=
  match skipBlanks text with
  | [] => .error .endOfInput
  | c :: rest => if c = ':' then .ok rest else .error .malformed

/-- Reads a text that holds one value and nothing else but blanks. -/
def readWhole {α : Type} (reader : Reader α) (text : List Char) : Except Problem α := do
  let (value, rest) ← reader text
  if skipBlanks rest = [] then return value else throw .malformed

end ChatRelay.Json
