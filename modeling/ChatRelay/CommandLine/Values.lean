import ChatRelay.Choice
import ChatRelay.CommandLine.Options

/-!
# Values on the command line

A port is a decimal number with an optional sign, from 0 to 65535. A setting with a fixed set of
names is given by its name, in the case in which it is listed. A path is not empty.
-/

namespace ChatRelay.CommandLine

/-- The number that decimal digits spell; there has to be one. -/
def decimal? (digits : List Char) : Option Nat :=
  if digits ≠ [] ∧ digits.all Char.isDigit then
    some (digits.foldl (fun n c => n * 10 + (c.toNat - '0'.toNat)) 0)
  else none

/-- A port number. A minus sign is only of use before zero. -/
def port (text : String) : Except ArgumentError Nat :=
  let magnitude := match text.toList with
    | '+' :: digits => decimal? digits
    | '-' :: digits => (decimal? digits).filter (· = 0)
    | digits => decimal? digits
  match magnitude.filter (· < 0x10000) with
  | some n => .ok n
  | none => .error .invalidNumber

/-- A setting with a fixed set of names. -/
def choice {α : Type} [Choice α] (text : String) : Except ArgumentError α :=
  match Choice.ofFlag? false text with
  | some a => .ok a
  | none => .error .invalidValue

/-- The path of a file. -/
def path (text : String) : Except ArgumentError String :=
  if text = "" then .error .invalidValue else .ok text

/-- An option that takes one value. -/
def valued {σ α : Type} (long : String) (letter : Option Char)
    (parse : String → Except ArgumentError α) (put : α → σ → σ) : Flag σ :=
  ⟨long, letter, .value false fun text => (parse text).map put⟩

end ChatRelay.CommandLine
