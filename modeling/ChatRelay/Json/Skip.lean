import ChatRelay.Json.Number
import ChatRelay.Json.Text

/-!
# Passing over a value

A value that is not wanted is passed over by its shape alone. The brackets that are open are kept
in a list, so that values may be nested to any depth.
-/

namespace ChatRelay.Json

/-- An open bracket. -/
inductive Bracket
  | list
  | record
  deriving DecidableEq, Repr

/-- The key of a record and the colon behind it, up to the value. -/
def skipKey (text : List Char) : Except Problem (List Char) := do
  match skipBlanks text with
  | [] => throw .endOfInput
  | c :: rest => if c = '"' then skipColon (← skipText rest) else throw .malformed

/-- The text behind a value that is not a list or a record, or nothing if it is one. -/
def skipScalar (text : List Char) : Except Problem (Option (List Char)) :=
  match text with
  | [] => .error .endOfInput
  | 'n' :: rest => (skipWord ['u', 'l', 'l'] rest).map some
  | 't' :: rest => (skipWord ['r', 'u', 'e'] rest).map some
  | 'f' :: rest => (skipWord ['a', 'l', 's', 'e'] rest).map some
  | '"' :: rest => (skipText rest).map some
  | '-' :: rest => (skipMagnitude rest).map some
  | '[' :: _ => .ok none
  | '\x7b' :: _ => .ok none
  | text => if startsWithDigit text then (skipMagnitude text).map some else .error .malformed

/-- Where a walk over nested values is. -/
inductive SkipState
  /-- A value begins here. -/
  | value
  /-- A bracket has just been opened. -/
  | opened
  /-- A value has just ended. -/
  | after

/-- The next value of a bracket, behind its key if it needs one. -/
def skipToValue (bracket : Bracket) (text : List Char) : Except Problem (List Char) :=
  match bracket with
  | .list => .ok text
  | .record => skipKey text

/-- Walks on from a place inside the open brackets, the innermost first. -/
def skipFrom : (fuel : Nat) → SkipState → List Bracket → List Char → Except Problem (List Char)
  | 0, _, _, _ => .error .malformed
  | fuel + 1, .value, brackets, text => do
    let text := skipBlanks text
    match ← skipScalar text with
    | some rest => skipFrom fuel .after brackets rest
    | none =>
      let bracket := if text.head? = some '[' then Bracket.list else Bracket.record
      skipFrom fuel .opened (bracket :: brackets) (text.drop 1)
  | _ + 1, _, [], text => .ok text
  | fuel + 1, state, bracket :: brackets, text => do
    match skipBlanks text, bracket, state with
    | [], _, _ => throw .endOfInput
    | ']' :: rest, .list, _ => skipFrom fuel .after brackets rest
    | '\x7d' :: rest, .record, _ => skipFrom fuel .after brackets rest
    | ',' :: rest, _, .after =>
      skipFrom fuel .value (bracket :: brackets) (← skipToValue bracket rest)
    | _, _, .after => throw .malformed
    | rest, _, _ => skipFrom fuel .value (bracket :: brackets) (← skipToValue bracket rest)

/-- The text behind a value that is not wanted. -/
def skipValue (text : List Char) : Except Problem (List Char) :=
  skipFrom (2 * text.length + 2) .value [] text

end ChatRelay.Json
