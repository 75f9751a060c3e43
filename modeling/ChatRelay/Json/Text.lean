import ChatRelay.Json.Reader

/-!
# JSON strings

Between quotes, a backslash begins an escape; control characters have to be escaped. A code point
beyond the first plane is written as two escapes, a leading and a trailing surrogate, and neither
may stand alone. A string whose value is not wanted is looked at less closely: a surrogate in it
may stand alone.

Each function starts behind the opening quote.
-/

namespace ChatRelay.Json

/-- The character that a one-letter escape stands for. -/
def escaped? : Char → Option Char
  | '"' => some '"'
  | '\\' => some '\\'
  | '/' => some '/'
  | 'b' => some '\x08'
  | 'f' => some '\x0c'
  | 'n' => some '\n'
  | 'r' => some '\r'
  | 't' => some '\t'
  | _ => none

/-- The four hexadecimal digits of an escape. Where fewer than four bytes are left, the text has
ended too early. -/
def readUnit : List Char → Except Problem (Nat × List Char)
  | a :: b :: c :: d :: rest =>
    match hexDigit? a, hexDigit? b, hexDigit? c, hexDigit? d with
    | some a, some b, some c, some d => .ok (((a * 16 + b) * 16 + c) * 16 + d, rest)
    | _, _, _, _ => .error .malformed
  | rest =>
    if (String.ofList rest).utf8ByteSize < 4 then .error .endOfInput else .error .malformed

/-- Whether a code unit is the first half of a code point. -/
def isLeading (unit : Nat) : Bool := 0xD800 ≤ unit && unit ≤ 0xDBFF

/-- Whether a code unit is the second half of a code point. -/
def isTrailing (unit : Nat) : Bool := 0xDC00 ≤ unit && unit ≤ 0xDFFF

/-- The code point of two halves. -/
def joinUnits (leading trailing : Nat) : Nat :=
  0x10000 + (leading - 0xD800) * 0x400 + (trailing - 0xDC00)

/-- The character of an escape with hexadecimal digits, behind its letter. -/
def readCodePoint (text : List Char) : Except Problem (Char × List Char) := do
  let (unit, rest) ← readUnit text
  if isTrailing unit then throw .malformed
  if isLeading unit then
    let rest ← skipWord ['\\', 'u'] rest
    let (trailing, rest) ← readUnit rest
    if isTrailing trailing then return (Char.ofNat (joinUnits unit trailing), rest)
    else throw .malformed
  else return (Char.ofNat unit, rest)

/-- The rest of a string, `read` being what has been read of it so far, in reverse. -/
def readTextFrom : (fuel : Nat) → (read : List Char) → Reader String
  | _, _, [] => .error .endOfInput
  | 0, _, _ => .error .endOfInput
  | fuel + 1, read, c :: rest =>
    if c = '"' then .ok (String.ofList read.reverse, rest)
    else if c = '\\' then
      match rest with
      | [] => .error .endOfInput
      | 'u' :: rest => do
        let (c, rest) ← readCodePoint rest
        readTextFrom fuel (c :: read) rest
      | letter :: rest =>
        match escaped? letter with
        | some c => readTextFrom fuel (c :: read) rest
        | none => .error .malformed
    else if c.toNat < 0x20 then .error .malformed
    else readTextFrom fuel (c :: read) rest

/-- The rest of a string. -/
def readText : Reader String := fun text => readTextFrom text.length [] text

/-- The text behind a string whose value is not wanted. -/
def skipTextFrom : (fuel : Nat) → List Char → Except Problem (List Char)
  | _, [] => .error .endOfInput
  | 0, _ => .error .endOfInput
  | fuel + 1, c :: rest =>
    if c = '"' then .ok rest
    else if c = '\\' then
      match rest with
      | [] => .error .endOfInput
      | 'u' :: rest => do
        let (_, rest) ← readUnit rest
        skipTextFrom fuel rest
      | letter :: rest =>
        if (escaped? letter).isSome then skipTextFrom fuel rest else .error .malformed
    else if c.toNat < 0x20 then .error .malformed
    else skipTextFrom fuel rest

/-- The text behind a string whose value is not wanted. -/
def skipText (text : List Char) : Except Problem (List Char) := skipTextFrom text.length text

/-! ## Writing -/

/-- A digit below sixteen, as a small letter from ten on. -/
def hexDigit (n : Nat) : Char := "0123456789abcdef".toList.getD n '0'

/-- A character as it is written in a string: quotes, backslashes and controls are escaped. -/
def writtenChar (c : Char) : List Char :=
  match c with
  | '"' => ['\\', '"']
  | '\\' => ['\\', '\\']
  | '\x08' => ['\\', 'b']
  | '\x0c' => ['\\', 'f']
  | '\n' => ['\\', 'n']
  | '\r' => ['\\', 'r']
  | '\t' => ['\\', 't']
  | c =>
    if c.toNat < 0x20 then
      ['\\', 'u', '0', '0', hexDigit (c.toNat / 16), hexDigit (c.toNat % 16)]
    else [c]

/-- A text as a JSON string. -/
def writeText (text : String) : List Char := '"' :: text.toList.flatMap writtenChar ++ ['"']

end ChatRelay.Json
