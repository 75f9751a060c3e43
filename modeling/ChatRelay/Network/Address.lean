/-!
# Internet addresses

An address of four bytes is written with points, and one of eight groups with colons, the longest
run of zero groups being left out. Reading accepts what writing produces, and the other usual
spellings of eight groups. Where a machine asks what a name stands for, more spellings are in use:
four bytes as fewer and larger numbers in three bases, and eight groups with a zone.
-/

namespace ChatRelay

/-- An internet address. -/
inductive Address
  /-- Four bytes. -/
  | v4 (a b c d : Nat)
  /-- Eight groups of sixteen bits. -/
  | v6 (groups : List Nat)
  deriving DecidableEq, Repr, Inhabited

namespace Address

/-- The address by which a machine calls itself. -/
def localhost : Address := .v4 127 0 0 1

/-- Whether an address never leaves the machine. -/
def isLoopback : Address → Bool
  | .v4 a _ _ _ => a = 127
  | .v6 groups => groups = [0, 0, 0, 0, 0, 0, 0, 1]

/-- Whether an address stands for all addresses of the machine. -/
def isWildcard : Address → Bool
  | .v4 a b c d => a = 0 && b = 0 && c = 0 && d = 0
  | .v6 groups => groups.all (· = 0)

/-- Whether an address has four bytes. -/
def isDotted : Address → Bool
  | .v4 .. => true
  | .v6 _ => false

/-! ## Reading -/

/-- A byte in decimal, without zeros in front. -/
def byte? (text : String) : Option Nat :=
  let digits := text.toList
  if digits = [] ∨ 3 < digits.length ∨ (digits.head? = some '0' ∧ digits.length ≠ 1) then none
  else if digits.all Char.isDigit then
    some (digits.foldl (fun n c => n * 10 + (c.toNat - '0'.toNat)) 0) |>.filter (· < 256)
  else none

/-- Four bytes with points between them. -/
def ofDotted? (text : String) : Option Address :=
  match (text.splitOn ".").mapM byte? with
  | some [a, b, c, d] => some (.v4 a b c d)
  | _ => none

/-- A hexadecimal digit. -/
def hexDigit? (c : Char) : Option Nat :=
  if c.isDigit then some (c.toNat - '0'.toNat)
  else if 'a' ≤ c ∧ c ≤ 'f' then some (c.toNat - 'a'.toNat + 10)
  else if 'A' ≤ c ∧ c ≤ 'F' then some (c.toNat - 'A'.toNat + 10)
  else none

/-- The number that digits spell in a base of at most sixteen; there has to be one. -/
def numeral? (base : Nat) (digits : List Char) : Option Nat := do
  let values ← digits.mapM hexDigit?
  if values ≠ [] ∧ values.all (· < base) then some (values.foldl (fun n d => n * base + d) 0)
  else none

/-- A group of one to four hexadecimal digits. -/
def group? (text : String) : Option Nat :=
  if 4 < text.length then none else numeral? 16 text.toList

/-- Groups with colons between them; the last may be four bytes with points, which make two. -/
def groups? (text : String) (mayEndDotted : Bool) : Option (List Nat) :=
  if text = "" then some []
  else
    let parts := text.splitOn ":"
    match mayEndDotted, ofDotted? (parts.getLastD "") with
    | true, some (.v4 a b c d) =>
      (parts.dropLast.mapM group?).map fun gs => gs ++ [a * 256 + b, c * 256 + d]
    | _, _ => parts.mapM group?

/-- Eight groups, a run of which may be left out between two colons. -/
def ofGroups? (text : String) : Option Address :=
  match text.splitOn "::" with
  | [all] => (groups? all true).bind fun gs => if gs.length = 8 then some (.v6 gs) else none
  | [front, back] =>
    match groups? front false, groups? back true with
    | some fs, some bs =>
      if fs.length + bs.length ≤ 7 then
        some (.v6 (fs ++ List.replicate (8 - fs.length - bs.length) 0 ++ bs))
      else none
    | _, _ => none
  | _ => none

/-- The address that a text spells. -/
def ofText? (text : String) : Option Address := ofDotted? text <|> ofGroups? text

/-! ## Reading names -/

/-- A number in hexadecimal behind `0x`, in octal behind another zero, and else in decimal. -/
def number? (text : String) : Option Nat :=
  match text.toList with
  | '0' :: 'x' :: digits => numeral? 16 digits
  | '0' :: 'X' :: digits => numeral? 16 digits
  | '0' :: digits => numeral? 8 ('0' :: digits)
  | digits => numeral? 10 digits

/-- The last bytes of a number, the one that counts most in front. -/
def lastBytes : (count : Nat) → Nat → List Nat
  | 0, _ => []
  | count + 1, n => lastBytes count (n / 256) ++ [n % 256]

/-- Up to four numbers with points between them. Each is a byte, except that the last one fills all
the bytes that are left. -/
def ofNumbers? (text : String) : Option Address := do
  let numbers ← (text.splitOn ".").mapM number?
  let front := numbers.dropLast
  let last := numbers.getLastD 0
  if front.all (· < 256) ∧ last < Nat.pow 256 (4 - front.length) then
    match front ++ lastBytes (4 - front.length) last with
    | [a, b, c, d] => some (.v4 a b c d)
    | _ => none
  else none

/-- The largest number of a zone. -/
def maxZone : Nat := 0xFFFFFFFF

/-- Eight groups and behind a percent sign a zone, which is no part of the address. -/
def ofZoned? (text : String) : Option Address :=
  match text.splitOn "%" with
  | [groups, zone] =>
    if ((numeral? 10 zone.toList).filter (· ≤ maxZone)).isSome then ofGroups? groups else none
  | _ => none

/-- The address that a name spells. -/
def ofName? (name : String) : Option Address :=
  ofText? name <|> ofNumbers? name <|> ofZoned? name

/-! ## Writing -/

/-- Groups with colons between them. -/
def joinGroups (groups : List Nat) : String :=
  ":".intercalate (groups.map fun g => String.ofList (Nat.toDigits 16 g))

/-- The length of the run of zeros in front. -/
def zeroRun (groups : List Nat) : Nat := (groups.takeWhile (· = 0)).length

/-- Where the first longest run of zeros begins, and its length, from a position on. -/
def longestRun (position : Nat) : List Nat → Nat × Nat
  | [] => (position, 0)
  | g :: rest =>
    let here := zeroRun (g :: rest)
    let later := longestRun (position + 1) rest
    if later.2 ≤ here then (position, here) else later

/-- An address as a text. -/
def toText : Address → String
  | .v4 a b c d => s!"{a}.{b}.{c}.{d}"
  | .v6 [0, 0, 0, 0, 0, 0xffff, x, y] =>
    s!"::ffff:{x / 256}.{x % 256}.{y / 256}.{y % 256}"
  | .v6 groups =>
    let (start, run) := longestRun 0 groups
    if run < 2 then joinGroups groups
    else joinGroups (groups.take start) ++ "::" ++ joinGroups (groups.drop (start + run))

end Address

end ChatRelay
