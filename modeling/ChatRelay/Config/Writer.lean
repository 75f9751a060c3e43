import ChatRelay.Config.Basic
import ChatRelay.Json.Text

/-!
# Writing configurations

A configuration is written as a JSON object with all its fields, in their order and without blanks.
An option that is absent is written as null.
-/

namespace ChatRelay

namespace Json

/-- A number. -/
def writeNatural (n : Nat) : List Char := Nat.toDigits 10 n

/-- A null for nothing. -/
def writeOption {α : Type} (write : α → List Char) : Option α → List Char
  | none => ['n', 'u', 'l', 'l']
  | some a => write a

/-- Items with a comma between every two. -/
def separated : List (List Char) → List Char
  | [] => []
  | [item] => item
  | item :: rest => item ++ ',' :: separated rest

/-- A list. -/
def writeList {α : Type} (write : α → List Char) (items : List α) : List Char :=
  '[' :: separated (items.map write) ++ [']']

/-- A record, its values written already. -/
def writeRecord (entries : List (String × List Char)) : List Char :=
  '\x7b' :: separated (entries.map fun (key, value) => writeText key ++ ':' :: value) ++ ['\x7d']

/-- A setting with a fixed set of names. -/
def writeChoice {α : Type} [Choice α] (a : α) : List Char := writeText (Choice.name a)

end Json

open Json

/-- The bounds of a queue in JSON. -/
def QueueLimits.write (limits : QueueLimits) : List Char :=
  writeRecord [
    ("high_water", writeNatural limits.highWater),
    ("low_water", writeNatural limits.lowWater),
    ("max_messages", writeOption writeNatural limits.maxMessages),
    ("policy", writeChoice limits.policy)]

/-- The configuration of a server in JSON. -/
def ServerConfig.write (config : ServerConfig) : List Char :=
  writeRecord [
    ("bind", writeList writeText config.bind),
    ("port", writeNatural config.port),
    ("backend", writeChoice config.backend),
    ("framing", writeChoice config.framing),
    ("max_line_length", writeOption writeNatural config.maxLineLength),
    ("outbound", config.outbound.write),
    ("greeting", writeOption writeText config.greeting),
    ("drain_timeout_ms", writeNatural config.drainMillis),
    ("tick_ms", writeNatural config.tickMillis)]

/-- The configuration of a server as a text. -/
def ServerConfig.toText (config : ServerConfig) : String := String.ofList config.write

/-- The configuration of a client in JSON. -/
def ClientConfig.write (config : ClientConfig) : List Char :=
  writeRecord [
    ("host", writeText config.host),
    ("port", writeNatural config.port),
    ("framing", writeChoice config.framing),
    ("max_line_length", writeOption writeNatural config.maxLineLength),
    ("outbound", config.outbound.write),
    ("inbound", config.inbound.write),
    ("drain_timeout_ms", writeNatural config.drainMillis)]

/-- The configuration of a client as a text. -/
def ClientConfig.toText (config : ClientConfig) : String := String.ofList config.write

end ChatRelay
