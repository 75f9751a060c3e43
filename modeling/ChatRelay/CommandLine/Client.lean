import ChatRelay.CommandLine.Values
import ChatRelay.Config.Reader

/-!
# The command line of the client

What is given on the command line goes above what is in the configuration file, and that above the
values that hold when nothing is told.
-/

namespace ChatRelay.CommandLine

/-- What is given on the command line of the client. -/
structure ClientOptions where
  host : Option String
  port : Option Nat
  framing : Option Framing
  /-- The path of the configuration file. -/
  config : Option String
  deriving DecidableEq, Repr, Inhabited

namespace ClientOptions

/-- Nothing is given. -/
def none : ClientOptions := ⟨.none, .none, .none, .none⟩

/-- The options of the client. -/
def flags : List (Flag ClientOptions) := [
  valued "host" .none (fun host => .ok host) fun host options =>
    { options with host := some host },
  valued "port" (some 'p') CommandLine.port fun port options => { options with port := some port },
  valued "framing" .none choice fun framing options => { options with framing := some framing },
  valued "config" (some 'c') path fun path options => { options with config := some path }]
  ++ standardOptions

/-- What a command line gives. -/
def read (arguments : List String) : Except ArgumentError ClientOptions :=
  readSettings flags none arguments

/-- The configuration with what is given put above it. -/
def override (options : ClientOptions) (config : ClientConfig) : ClientConfig :=
  { config with
    host := options.host.getD config.host
    port := options.port.getD config.port
    framing := options.framing.getD config.framing }

/-- The configuration in effect; `files` reads the file at a path. -/
def effective (options : ClientOptions) (files : String → Except Fault Bytes) :
    Except ConfigError ClientConfig := do
  let base ← match options.config with
    | some path => ClientConfig.ofFile (files path)
    | .none => pure .standard
  return options.override base

end ClientOptions

end ChatRelay.CommandLine
