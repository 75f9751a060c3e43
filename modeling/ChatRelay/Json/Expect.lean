import ChatRelay.Choice
import ChatRelay.Json.Skip
import ChatRelay.Text.Quoted

/-!
# Reading expected values

A reader that expects one kind of value names what it found and what it expected when it finds
another kind. What it found is read to its end first, as far as it is a string, a number or a
literal, so that a fault in it comes first; of a list or a record the bracket is enough.

A setting with a fixed set of names is written as its name, or as a record with the name as its
only key and a null as the value.
-/

namespace ChatRelay.Json

/-- A value of another kind than expected. -/
def wrongType (found expected : String) : Problem :=
  .unexpected s!"invalid type: {found}, expected {expected}"

/-- A number of the right kind that is out of range. -/
def wrongValue (found expected : String) : Problem :=
  .unexpected s!"invalid value: {found}, expected {expected}"

/-- What begins here, as it is called in a message. -/
def describeNext (text : List Char) : Except Problem String :=
  match text with
  | [] => .error .endOfInput
  | 'n' :: rest => (skipWord ['u', 'l', 'l'] rest).map fun _ => "null"
  | 't' :: rest => (skipWord ['r', 'u', 'e'] rest).map fun _ => "boolean `true`"
  | 'f' :: rest => (skipWord ['a', 'l', 's', 'e'] rest).map fun _ => "boolean `false`"
  | '"' :: rest => (readText rest).map fun (value, _) => "string " ++ ChatRelay.Text.quoted value
  | '[' :: _ => .ok "sequence"
  | '\x7b' :: _ => .ok "map"
  | c :: rest =>
    if c = '-' ∨ (digit? c).isSome then (readNumber (c :: rest)).map fun (n, _) => n.describe
    else .error .malformed

/-- Fails because something else was expected here. -/
def unexpectedNext {α : Type} (expected : String) : Reader α := fun text => do
  throw (wrongType (← describeNext text) expected)

/-- A string. -/
def expectText (expected : String) : Reader String := fun text =>
  match skipBlanks text with
  | '"' :: rest => readText rest
  | text => unexpectedNext expected text

/-- A natural number up to a largest one. -/
def expectNatural (largest : Nat) (expected : String) : Reader Nat := fun text => do
  match skipBlanks text with
  | [] => throw .endOfInput
  | c :: rest =>
    if c = '-' ∨ (digit? c).isSome then
      match ← readNumber (c :: rest) with
      | (.natural n, rest) =>
        if n ≤ largest then return (n, rest)
        else throw (wrongValue (Number.natural n).describe expected)
      | (.negative n, _) => throw (wrongValue (Number.negative n).describe expected)
      | (.floating x, _) => throw (wrongType (Number.floating x).describe expected)
    else unexpectedNext expected (c :: rest)

/-- A null, or a value. -/
def expectOption {α : Type} (reader : Reader α) : Reader (Option α) := fun text =>
  match skipBlanks text with
  | 'n' :: rest => (skipWord ['u', 'l', 'l'] rest).map fun rest => (none, rest)
  | text => (reader text).map fun (value, rest) => (some value, rest)

/-! ## Named settings -/

/-- The names of the settings that are possible, for a message. -/
def alternatives : List String → String
  | [a, b] => s!"`{a}` or `{b}`"
  | names => "one of " ++ ", ".intercalate (names.map fun name => s!"`{name}`")

/-- The setting with a name. -/
def choiceOf {α : Type} [Choice α] (name : String) : Except Problem α :=
  match Choice.ofName? name with
  | some a => .ok a
  | none =>
    let names := (Choice.all : List α).map Choice.name
    .error (.unexpected s!"unknown variant `{name}`, expected {alternatives names}")

/-- A setting with a fixed set of names. -/
def expectChoice {α : Type} [Choice α] : Reader α := fun text => do
  match skipBlanks text with
  | [] => throw .endOfInput
  | '"' :: rest =>
    let (name, rest) ← readText rest
    return (← choiceOf name, rest)
  | '\x7b' :: rest =>
    match skipBlanks rest with
    | [] => throw .endOfInput
    | '"' :: rest =>
      let (name, rest) ← readText rest
      let choice ← choiceOf name
      match skipBlanks (← skipColon rest) with
      | 'n' :: rest =>
        match skipBlanks (← skipWord ['u', 'l', 'l'] rest) with
        | [] => throw .endOfInput
        | '\x7d' :: rest => return (choice, rest)
        | _ => throw .malformed
      | text => unexpectedNext "unit" text
    | _ => throw .malformed
  | _ => throw .malformed

/-! ## Lists -/

/-- The elements of a list behind its opening bracket, `read` being those read so far, in reverse.
An element needs a comma before it unless it is the first. -/
def elementsFrom {α : Type} (reader : Reader α) : (fuel : Nat) → (read : List α) → Reader (List α)
  | 0, _, _ => .error .malformed
  | fuel + 1, read, text => do
    match skipBlanks text with
    | [] => throw .endOfInput
    | ']' :: rest => return (read.reverse, rest)
    | text =>
      let text ← match read, text with
        | [], text => pure text
        | _, ',' :: rest =>
          match skipBlanks rest with
          | [] => throw .endOfInput
          | ']' :: _ => throw .malformed
          | text => pure text
        | _, _ => throw .malformed
      let (value, rest) ← reader text
      elementsFrom reader fuel (value :: read) rest

/-- A list. -/
def expectList {α : Type} (reader : Reader α) : Reader (List α) := fun text =>
  match skipBlanks text with
  | '[' :: rest => elementsFrom reader (rest.length + 1) [] rest
  | text => unexpectedNext "a sequence" text

end ChatRelay.Json
