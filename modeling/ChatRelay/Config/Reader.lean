import ChatRelay.Config.Basic
import ChatRelay.Json.Record

/-!
# Configuration files

A configuration file is a JSON record in which every field may be left out. A field of the
configuration that is left out keeps the value it has when nothing is told; a field of the bounds
of a queue that is left out takes the standard bounds, whichever queue they are for.
-/

namespace ChatRelay

open Json (Reader RecordField field)

/-- The largest port number. -/
def maxPort : Nat := 0xFFFF

namespace Config

/-- A size in memory. -/
def size : Reader Nat := Json.expectNatural maxSize "usize"

/-- A number of milliseconds. -/
def millis : Reader Nat := Json.expectNatural maxSize "u64"

/-- A port number. -/
def port : Reader Nat := Json.expectNatural maxPort "u16"

/-- A text. -/
def text : Reader String := Json.expectText "a string"

/-- The fields of the bounds of a queue. -/
def limitFields : List (RecordField QueueLimits) := [
  field "high_water" size fun n limits => { limits with highWater := n },
  field "low_water" size fun n limits => { limits with lowWater := n },
  field "max_messages" (Json.expectOption size) fun n limits => { limits with maxMessages := n },
  field "policy" Json.expectChoice fun policy limits => { limits with policy }]

/-- The bounds of a queue. -/
def limits : Reader QueueLimits := Json.expectRecord "QueueLimits" limitFields .standard

/-- The fields of the configuration of a server. -/
def serverFields : List (RecordField ServerConfig) := [
  field "bind" (Json.expectList text) fun bind config => { config with bind },
  field "port" port fun port config => { config with port },
  field "backend" Json.expectChoice fun backend config => { config with backend },
  field "framing" Json.expectChoice fun framing config => { config with framing },
  field "max_line_length" (Json.expectOption size) fun n config =>
    { config with maxLineLength := n },
  field "outbound" limits fun outbound config => { config with outbound },
  field "greeting" (Json.expectOption text) fun greeting config => { config with greeting },
  field "drain_timeout_ms" millis fun n config => { config with drainMillis := n },
  field "tick_ms" millis fun n config => { config with tickMillis := n }]

/-- The fields of the configuration of a client. -/
def clientFields : List (RecordField ClientConfig) := [
  field "host" text fun host config => { config with host },
  field "port" port fun port config => { config with port },
  field "framing" Json.expectChoice fun framing config => { config with framing },
  field "max_line_length" (Json.expectOption size) fun n config =>
    { config with maxLineLength := n },
  field "outbound" limits fun outbound config => { config with outbound },
  field "inbound" limits fun inbound config => { config with inbound },
  field "drain_timeout_ms" millis fun n config => { config with drainMillis := n }]

/-- A value that a whole text holds. -/
def ofText {α : Type} (reader : Reader α) (text : String) : Except ConfigError α :=
  (Json.readWhole reader text.toList).mapError .parse

/-- A value that the bytes of a file hold, if the file can be read. -/
def ofFile {α : Type} (reader : Reader α) (file : Except Fault Bytes) : Except ConfigError α :=
  match file with
  | .error fault => .error (.read fault)
  | .ok bytes =>
    match Bytes.toText? bytes with
    | none => .error (.read ⟨.invalidData, "stream did not contain valid UTF-8"⟩)
    | some text => ofText reader text

end Config

namespace ServerConfig

/-- The configuration of a server in JSON. -/
def reader : Reader ServerConfig := Json.expectRecord "ServerConfig" Config.serverFields .standard

/-- The configuration of a server in a text. -/
def ofText (text : String) : Except ConfigError ServerConfig := Config.ofText reader text

/-- The configuration of a server in a file. -/
def ofFile (file : Except Fault Bytes) : Except ConfigError ServerConfig :=
  Config.ofFile reader file

end ServerConfig

namespace ClientConfig

/-- The configuration of a client in JSON. -/
def reader : Reader ClientConfig := Json.expectRecord "ClientConfig" Config.clientFields .standard

/-- The configuration of a client in a text. -/
def ofText (text : String) : Except ConfigError ClientConfig := Config.ofText reader text

/-- The configuration of a client in a file. -/
def ofFile (file : Except Fault Bytes) : Except ConfigError ClientConfig :=
  Config.ofFile reader file

end ClientConfig

end ChatRelay
