import ChatRelay.CommandLine.Values
import ChatRelay.Config.Reader

/-!
# The command line of the server

What is given on the command line goes above what is in the configuration file, and that above the
values that hold when nothing is told.
-/

namespace ChatRelay.CommandLine

/-- What is given on the command line of the server. -/
structure ServerOptions where
  port : Option Nat
  bind : List String
  backend : Option Backend
  framing : Option Framing
  noGreeting : Bool
  /-- The path of the configuration file. -/
  config : Option String
  deriving DecidableEq, Repr, Inhabited

namespace ServerOptions

/-- Nothing is given. -/
def none : ServerOptions := ⟨.none, [], .none, .none, false, .none⟩

/-- The options of the server. -/
def flags : List (Flag ServerOptions) := [
  valued "port" (some 'p') CommandLine.port fun port options => { options with port := some port },
  ⟨"bind", some 'b', .value true fun text =>
    .ok fun options => { options with bind := options.bind ++ [text] }⟩,
  valued "backend" .none choice fun backend options => { options with backend := some backend },
  valued "framing" .none choice fun framing options => { options with framing := some framing },
  ⟨"no-greeting", .none, .switch fun options => { options with noGreeting := true }⟩,
  valued "config" (some 'c') path fun path options => { options with config := some path }]
  ++ standardOptions

/-- What a command line gives. -/
def read (arguments : List String) : Except ArgumentError ServerOptions :=
  readSettings flags none arguments

/-- The configuration with what is given put above it. -/
def override (options : ServerOptions) (config : ServerConfig) : ServerConfig :=
  { config with
    port := options.port.getD config.port
    bind := if options.bind.isEmpty then config.bind else options.bind
    backend := options.backend.getD config.backend
    framing := options.framing.getD config.framing
    greeting := if options.noGreeting then .none else config.greeting }

/-- The configuration in effect; `files` reads the file at a path. -/
def effective (options : ServerOptions) (files : String → Except Fault Bytes) :
    Except ConfigError ServerConfig := do
  let base ← match options.config with
    | some path => ServerConfig.ofFile (files path)
    | .none => pure .standard
  return options.override base

end ServerOptions

end ChatRelay.CommandLine
