import ChatRelay.CommandLine.Client
import ChatRelay.CommandLine.Server
import ChatRelay.Config.Writer

/-!
# The program

The word `server` or `client`, followed by the options of either, shows the configuration that is
then in effect, or says on the error stream why there is none.
-/

namespace ChatRelay.CommandLine

/-- The version shown. -/
def version : String := "0.1.0"

/-- Why the system refused a call. -/
def faultOf (error : IO.Error) : Fault :=
  match error with
  | .noFileOrDirectory .. => .notFound
  | .permissionDenied .. => ⟨.permissionDenied, error.toString⟩
  | _ => ⟨.other, error.toString⟩

/-- The bytes of the configuration file, if one is given and can be read. -/
def readFile (path : Option String) : IO (Except Fault Bytes) := do
  match path with
  | none => return .error .notFound
  | some path =>
    try return .ok (← IO.FS.readBinFile path).toList
    catch error => return .error (faultOf error)

/-- Says why a command line is not carried out. -/
def refuse (usage : List String) : ArgumentError → IO UInt32
  | .displayHelp => do
    usage.forM IO.println
    return 0
  | .displayVersion => do
    IO.println version
    return 0
  | _ => do
    usage.forM IO.eprintln
    return 2

/-- Shows the configuration in effect, unless it is refused. -/
def conclude : Except ConfigError String → IO UInt32
  | .ok text => do
    IO.println text
    return 0
  | .error error => do
    IO.eprintln error.message
    return 1

/-- The configuration of a server, as text. -/
def server (arguments : List String) : IO UInt32 := do
  match ServerOptions.read arguments with
  | .error error => refuse (ServerOptions.flags.map Flag.usage) error
  | .ok options =>
    let contents ← readFile options.config
    conclude do
      let config ← options.effective fun _ => contents
      config.check
      return config.toText

/-- The configuration of a client, as text. -/
def client (arguments : List String) : IO UInt32 := do
  match ClientOptions.read arguments with
  | .error error => refuse (ClientOptions.flags.map Flag.usage) error
  | .ok options =>
    let contents ← readFile options.config
    conclude do
      let config ← options.effective fun _ => contents
      config.check
      return config.toText

end ChatRelay.CommandLine

/-- Runs the command that the first word names. -/
def main (arguments : List String) : IO UInt32 := do
  match arguments with
  | "server" :: rest => ChatRelay.CommandLine.server rest
  | "client" :: rest => ChatRelay.CommandLine.client rest
  | _ =>
    IO.eprintln "server or client, and options"
    return 2
