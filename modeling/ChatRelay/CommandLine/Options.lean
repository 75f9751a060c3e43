/-!
# Command-line options

A command line is a list of options: no positional arguments are taken. An option has a long name
and may have a letter. Its value stands behind an equals sign, in the rest of its cluster of
letters, or in the next argument, which may not begin with a hyphen.

Options take effect in the order in which they stand, and the first error ends the reading. A value
in an argument of its own is looked at late: only when the next option takes effect, or at the end.
An argument that means nothing at all is thus found before a value in front of it is refused.
-/

namespace ChatRelay.CommandLine

/-- Why a command line is not carried out. -/
inductive ArgumentError
  /-- An argument means nothing. -/
  | unknown
  /-- A value is missing, or is not one of those that are possible. -/
  | invalidValue
  /-- A value is no number, or a number out of range. -/
  | invalidNumber
  /-- An option that can be given once is given again. -/
  | repeated
  /-- A value is attached to an option that takes none. -/
  | tooManyValues
  /-- The help text is asked for. -/
  | displayHelp
  /-- The version is asked for. -/
  | displayVersion
  deriving DecidableEq, Repr, Inhabited

/-- What an option takes, and what it does to the settings. -/
inductive Effect (σ : Type)
  /-- It takes nothing, and may be given once. -/
  | switch (set : σ → σ)
  /-- It takes one value; it may be given again only if it collects its values. -/
  | value (collects : Bool) (put : String → Except ArgumentError (σ → σ))
  /-- It ends the reading. -/
  | stop (error : ArgumentError)

/-- An option. -/
structure Flag (σ : Type) where
  long : String
  letter : Option Char
  effect : Effect σ

/-- How far a command line has been read. -/
structure Progress (σ : Type) where
  settings : σ
  /-- The options that have taken effect and may not be given again. -/
  given : List String
  /-- An option that waits for its value, or has it and waits to take effect. -/
  pending : Option (Flag σ × Option String)

variable {σ : Type}

/-- An option takes effect with its value, if there is one. -/
def Progress.apply (p : Progress σ) (option : Flag σ) (value : Option String) :
    Except ArgumentError (Progress σ) :=
  match option.effect with
  | .stop error => .error error
  | .switch set =>
    if option.long ∈ p.given then .error .repeated
    else .ok { p with settings := set p.settings, given := option.long :: p.given }
  | .value collects put =>
    match value with
    | none => .error .invalidValue
    | some text =>
      if !collects ∧ option.long ∈ p.given then .error .repeated
      else do
        let change ← put text
        return { p with settings := change p.settings, given := option.long :: p.given }

/-- The option that waits takes effect. -/
def Progress.settle (p : Progress σ) : Except ArgumentError (Progress σ) :=
  match p.pending with
  | none => .ok p
  | some (option, value) => { p with pending := none }.apply option value

/-- An option takes effect after the one that waits. -/
def Progress.react (p : Progress σ) (option : Flag σ) (value : Option String) :
    Except ArgumentError (Progress σ) := do (← p.settle).apply option value

/-- An option begins to wait for its value, after the one that waits has taken effect. -/
def Progress.await (p : Progress σ) (option : Flag σ) : Except ArgumentError (Progress σ) := do
  return { ← p.settle with pending := some (option, none) }

/-- Whether an option takes a value. -/
def Flag.takesValue (option : Flag σ) : Bool :=
  match option.effect with
  | .value .. => true
  | _ => false

/-- A line on an option. -/
def Flag.usage (option : Flag σ) : String :=
  let letter := match option.letter with
    | some c => s!"-{c}, "
    | none => ""
  let value := if option.takesValue then " <value>" else ""
  s!"{letter}--{option.long}{value}"

/-- A long option, behind its hyphens. -/
def Progress.long (options : List (Flag σ)) (p : Progress σ) (text : List Char) :
    Except ArgumentError (Progress σ) :=
  let name := String.ofList (text.takeWhile (· ≠ '='))
  let attached := match text.dropWhile (· ≠ '=') with
    | [] => none
    | _ :: value => some (String.ofList value)
  match options.find? (·.long == name) with
  | none => .error .unknown
  | some option =>
    match option.takesValue, attached with
    | true, none => p.await option
    | false, some _ => .error .tooManyValues
    | _, attached => p.react option attached

/-- A cluster of letters, behind its hyphen. -/
def Progress.cluster (options : List (Flag σ)) (p : Progress σ) :
    List Char → Except ArgumentError (Progress σ)
  | [] => .ok p
  | c :: rest =>
    match options.find? (·.letter == some c) with
    | none => .error .unknown
    | some option =>
      if option.takesValue then
        match rest with
        | [] => p.await option
        | '=' :: value => p.react option (some (String.ofList value))
        | value => p.react option (some (String.ofList value))
      else do cluster options (← p.react option none) rest

/-- An argument that does not begin with a hyphen, or is one. -/
def Progress.bare (p : Progress σ) (text : String) : Except ArgumentError (Progress σ) :=
  match p.pending with
  | some (option, none) => .ok { p with pending := some (option, some text) }
  | _ => .error .unknown

/-- Reads arguments in order. Two hyphens alone end the options, and nothing may follow them. -/
def Progress.readAll (options : List (Flag σ)) (p : Progress σ) :
    List String → Except ArgumentError (Progress σ)
  | [] => p.settle
  | argument :: rest =>
    match argument.toList with
    | ['-', '-'] => if rest = [] then p.settle else .error .unknown
    | '-' :: '-' :: text => do readAll options (← p.long options text) rest
    | '-' :: c :: text => do readAll options (← p.cluster options (c :: text)) rest
    | _ => do readAll options (← p.bare argument) rest

/-- The settings that a command line makes of those that hold without it. -/
def readSettings (options : List (Flag σ)) (settings : σ) (arguments : List String) :
    Except ArgumentError σ :=
  (Progress.readAll options ⟨settings, [], none⟩ arguments).map Progress.settings

/-- The help and version options, which every command has. -/
def standardOptions : List (Flag σ) := [
  ⟨"help", some 'h', .stop .displayHelp⟩,
  ⟨"version", some 'V', .stop .displayVersion⟩]

end ChatRelay.CommandLine
