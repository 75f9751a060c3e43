import ChatRelay.Bytes
import ChatRelay.Decimal.Shortest
import ChatRelay.Json.Reader

/-!
# JSON numbers

A number without a fraction and an exponent is whole as long as it fits a machine word, with its
sign; every other number is a floating-point number. That one is scaled from the digits by a power
of ten, with one rounding for the digits and one for the scaling, and has to be finite.

A number whose value is not wanted is only looked at for its shape, and one that breaks off is then
malformed, not ended too early.
-/

namespace ChatRelay.Json

/-- A number as it is read. -/
inductive Number
  | natural (n : Nat)
  /-- A whole number below zero. -/
  | negative (n : Nat)
  | floating (x : Float)

/-- Floating-point numbers in messages: positional from `0.00001` to below `10 ^ 16`. -/
def floatStyle : Decimal.Style := ⟨-5, 15⟩

/-- What a number is called in a message. -/
def Number.describe : Number → String
  | .natural n => s!"integer `{n}`"
  | .negative n => s!"integer `-{n}`"
  | .floating x => "floating point `" ++ Decimal.writeFloat floatStyle x ++ "`"

/-! ## Digits -/

/-- Whether a text begins with a digit. -/
def startsWithDigit : List Char → Bool
  | c :: _ => (digit? c).isSome
  | [] => false

/-- The text without the digits in front. -/
def skipDigits (text : List Char) : List Char := text.dropWhile fun c => (digit? c).isSome

/-- Takes digits off the front and behind those of `n`, as long as the number fits a machine
word. -/
def takeWord (n : Nat) : List Char → Nat × List Char
  | [] => (n, [])
  | c :: rest =>
    match digit? c with
    | some d => if n * 10 + d ≤ maxSize then takeWord (n * 10 + d) rest else (n, c :: rest)
    | none => (n, c :: rest)

/-- The number that digits spell. -/
def digitsValue (digits : List Char) : Nat :=
  digits.foldl (fun n c => n * 10 + (digit? c).getD 0) 0

/-! ## Floating-point numbers -/

/-- The largest power of ten that is a floating-point number. -/
def largestPower : Nat := 308

/-- A power of ten as a floating-point number. -/
def powerOfTen (n : Nat) : Float := Float.ofScientific 1 false n

/-- A number divided by a power of ten, in steps of the largest one. -/
def divideByPower (x : Float) (n : Nat) : Float :=
  if n ≤ largestPower then x / powerOfTen n
  else if x == 0 then x
  else divideByPower (x / powerOfTen largestPower) (n - largestPower)
termination_by n
decreasing_by unfold largestPower at *; omega

/-- The digits of a number scaled by a power of ten. -/
def scaled (positive : Bool) (digits : Nat) (power : Int) : Except Problem Float :=
  let magnitude := digits.toUInt64.toFloat
  let signed (x : Float) : Float := if positive then x else -x
  if power < 0 then .ok (signed (divideByPower magnitude power.natAbs))
  else if power.toNat ≤ largestPower then
    let x := magnitude * powerOfTen power.toNat
    if x.isInf then .error .malformed else .ok (signed x)
  else if magnitude == 0 then .ok (signed magnitude)
  else .error .malformed

/-- The largest exponent that is told from one beyond all numbers. -/
def largestExponent : Nat := 0x7FFFFFFF

/-- The exponent of a number behind its letter, and with it the number. -/
def readExponent (positive : Bool) (digits : Nat) (power : Int) : Reader Number := fun text => do
  let (negativePower, text) := match text with
    | '+' :: rest => (false, rest)
    | '-' :: rest => (true, rest)
    | text => (false, text)
  if text = [] then throw .endOfInput
  if !startsWithDigit text then throw .malformed
  let exponent := digitsValue (text.takeWhile fun c => (digit? c).isSome)
  let rest := skipDigits text
  if exponent > largestExponent then
    if digits ≠ 0 ∧ !negativePower then throw .malformed
    return (.floating (if positive then 0 else -0), rest)
  let exponent : Int := if negativePower then -exponent else exponent
  return (.floating (← scaled positive digits (power + exponent)), rest)

/-- What follows the digits of a floating-point number: an exponent, or nothing. -/
def readScale (positive : Bool) (digits : Nat) (power : Int) : Reader Number := fun text =>
  match text with
  | 'e' :: rest => readExponent positive digits power rest
  | 'E' :: rest => readExponent positive digits power rest
  | text => do return (.floating (← scaled positive digits power), text)

/-- The fraction of a number behind its point. Digits that do not fit beside those read so far are
passed over. -/
def readFraction (positive : Bool) (digits : Nat) (power : Int) : Reader Number := fun text =>
  if text = [] then .error .endOfInput
  else if !startsWithDigit text then .error .malformed
  else
    let (all, rest) := takeWord digits text
    let taken : Nat := text.length - rest.length
    readScale positive all (power - taken) (skipDigits rest)

/-! ## Numbers -/

/-- A whole number that fits a machine word, unless a fraction or an exponent follows. -/
def readAfterDigits (positive : Bool) (digits : Nat) : Reader Number := fun text =>
  match text with
  | '.' :: rest => readFraction positive digits 0 rest
  | 'e' :: rest => readExponent positive digits 0 rest
  | 'E' :: rest => readExponent positive digits 0 rest
  | text =>
    if positive then .ok (.natural digits, text)
    else if 0 < digits ∧ digits ≤ 0x8000000000000000 then .ok (.negative digits, text)
    else .ok (.floating (-(digits.toUInt64.toFloat)), text)

/-- The number behind its sign. -/
def readMagnitude (positive : Bool) : Reader Number := fun text =>
  match text with
  | [] => .error .endOfInput
  | '0' :: rest =>
    if startsWithDigit rest then .error .malformed else readAfterDigits positive 0 rest
  | text =>
    if !startsWithDigit text then .error .malformed
    else
      let (digits, rest) := takeWord 0 text
      if startsWithDigit rest then
        let after := skipDigits rest
        let passed : Nat := rest.length - after.length
        match after with
        | '.' :: fraction => readFraction positive digits passed fraction
        | after => readScale positive digits passed after
      else readAfterDigits positive digits rest

/-- A number. -/
def readNumber : Reader Number := fun text =>
  match text with
  | '-' :: rest => readMagnitude false rest
  | text => readMagnitude true text

/-! ## Passing over a number -/

/-- The text behind the digits in front, of which there has to be one. -/
def skipSomeDigits (text : List Char) : Except Problem (List Char) :=
  if startsWithDigit text then .ok (skipDigits text) else .error .malformed

/-- The text behind an exponent, if there is one. -/
def skipExponent (text : List Char) : Except Problem (List Char) :=
  match text with
  | c :: rest =>
    if c = 'e' ∨ c = 'E' then
      match rest with
      | '+' :: rest => skipSomeDigits rest
      | '-' :: rest => skipSomeDigits rest
      | rest => skipSomeDigits rest
    else .ok text
  | [] => .ok []

/-- The text behind a number whose value is not wanted, the sign being passed already. -/
def skipMagnitude (text : List Char) : Except Problem (List Char) := do
  let rest ← match text with
    | '0' :: rest => if startsWithDigit rest then throw .malformed else pure rest
    | text => skipSomeDigits text
  match rest with
  | '.' :: rest => skipExponent (← skipSomeDigits rest)
  | rest => skipExponent rest

end ChatRelay.Json
