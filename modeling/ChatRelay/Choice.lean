/-!
# Choices

A choice is a closed set of named settings. A configuration file and the command line spell the
same names, one with underscores and the other with hyphens.
-/

namespace ChatRelay

/-- A closed set of named settings, one of them the default. -/
class Choice (α : Type) where
  /-- Every setting, in the order in which they are listed to a reader. -/
  all : List α
  /-- The name of a setting in a configuration file. -/
  name : α → String
  /-- The setting that holds when none is given. -/
  default : α

namespace Choice

variable {α : Type} [Choice α]

/-- The name of a setting on the command line. -/
def flag (a : α) : String :=
  String.ofList ((name a).toList.map fun c => if c = '_' then '-' else c)

/-- An ASCII letter in lower case; every other character as it is. -/
def lowerAscii (c : Char) : Char :=
  if 'A' ≤ c ∧ c ≤ 'Z' then Char.ofNat (c.toNat + 32) else c

/-- Whether two spellings name the same setting; case counts unless told otherwise, and is only
ever ignored for ASCII letters. -/
def sameSpelling (ignoreCase : Bool) (a b : String) : Bool :=
  if ignoreCase then a.toList.map lowerAscii == b.toList.map lowerAscii else a == b

/-- The setting that a configuration file means by a name. -/
def ofName? (text : String) : Option α := all.find? fun a => name a == text

/-- The setting that the command line means by a name. -/
def ofFlag? (ignoreCase : Bool) (text : String) : Option α :=
  all.find? fun a => sameSpelling ignoreCase (flag a) text

end Choice

/-- What is said of a command-line name that names no setting. -/
def invalidChoice (text : String) : String := "invalid variant: " ++ text

end ChatRelay
