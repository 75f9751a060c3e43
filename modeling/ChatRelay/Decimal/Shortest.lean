/-!
# Shortest decimals

A floating-point number stands for all the reals that round to it. Among the decimals in that
interval, `Binary.shortest` takes one with the fewest digits, and of two such the nearer. The
number is held as a fraction of naturals, so that every comparison is exact.
-/

namespace ChatRelay.Decimal

/-- A positive number `mantissa * 2 ^ exponent` with 53 significant bits or fewer. -/
structure Binary where
  mantissa : Nat
  exponent : Int
  /-- The next smaller number is half as far away as the next larger one. -/
  narrowBelow : Bool
  deriving DecidableEq, Repr, Inhabited

/-- Digits, read as a whole number, and the power of ten that goes with the first of them. -/
structure Digits where
  digits : List Char
  /-- The first digit counts for `10 ^ scale`. -/
  scale : Int
  deriving DecidableEq, Repr, Inhabited

namespace Binary

/-- The number that the bits of a positive finite double spell. -/
def ofBits (bits : UInt64) : Binary :=
  let hidden : Nat := 0x10000000000000
  let field : Nat := bits.toNat / hidden % 0x800
  let fraction : Nat := bits.toNat % hidden
  if field = 0 then ⟨fraction, -1074, false⟩
  else ⟨hidden + fraction, (field : Int) - 1075, fraction = 0 && 1 < field⟩

/-- The number and its two halfway points, as numerators over one denominator. -/
structure Interval where
  low : Nat
  value : Nat
  high : Nat
  denominator : Nat
  /-- The halfway points themselves round to the number. -/
  closed : Bool

/-- The reals that round to the number. -/
def interval (b : Binary) : Interval :=
  let up := Nat.pow 2 (b.exponent - 2).toNat
  let low := if b.narrowBelow then 4 * b.mantissa - 1 else 4 * b.mantissa - 2
  ⟨low * up, 4 * b.mantissa * up, (4 * b.mantissa + 2) * up,
    Nat.pow 2 (2 - b.exponent).toNat, b.mantissa % 2 = 0⟩

end Binary

namespace Binary.Interval

/-- The interval in units of `10 ^ unit`. -/
def rescale (i : Interval) (unit : Int) : Interval :=
  let up := Nat.pow 10 (-unit).toNat
  { i with
    low := i.low * up, value := i.value * up, high := i.high * up
    denominator := i.denominator * Nat.pow 10 unit.toNat }

/-- Whether a whole number lies in the interval. -/
def holds (i : Interval) (n : Nat) : Bool :=
  let scaled := n * i.denominator
  if i.closed then i.low ≤ scaled && scaled ≤ i.high else i.low < scaled && scaled < i.high

/-- The whole number in the interval that is nearest to its value; the even one of two. -/
def nearest? (i : Interval) : Option Nat :=
  let below := i.value / i.denominator
  let rest := i.value % i.denominator
  match i.holds below, i.holds (below + 1) with
  | false, false => none
  | true, false => some below
  | false, true => some (below + 1)
  | true, true =>
    if 2 * rest < i.denominator then some below
    else if i.denominator < 2 * rest then some (below + 1)
    else some (below + below % 2)

/-- The least power of ten above the value, for a value below `10 ^ fuel` and not below
`10 ^ (-fuel)`. -/
def magnitude (i : Interval) : (fuel : Nat) → (power : Int) → Int
  | 0, power => power
  | fuel + 1, power =>
    let scaled := i.rescale (power - 1)
    if scaled.denominator ≤ scaled.value then power else magnitude i fuel (power - 1)

end Binary.Interval

/-- The digits of a whole number without the zeros at its end. -/
def trimmedDigits (n : Nat) : List Char :=
  ((Nat.toDigits 10 n).reverse.dropWhile (· = '0')).reverse

/-- The shortest digits among those with at least `17 - fuel` digits, for a value below
`10 ^ power`. -/
def searchFrom (i : Binary.Interval) (power : Int) : (fuel : Nat) → Digits
  | 0 =>
    let n := (i.rescale (power - 17)).value / (i.rescale (power - 17)).denominator
    ⟨trimmedDigits n, power - 1⟩
  | fuel + 1 =>
    let unit := power - (17 - fuel : Nat)
    match (i.rescale unit).nearest? with
    | some n => ⟨trimmedDigits n, unit + ((Nat.toDigits 10 n).length : Int) - 1⟩
    | none => searchFrom i power fuel

/-- The shortest digits that are read back as the number. -/
def Binary.shortest (b : Binary) : Digits :=
  searchFrom b.interval (b.interval.magnitude 640 310) 17

/-! ## Writing them down -/

/-- How a decimal is written: positionally when the power of ten of its first digit is in a range,
and otherwise with an exponent and its sign. -/
structure Style where
  positionalFrom : Int
  positionalTo : Int

/-- A decimal in its style. A whole number written positionally ends in a point and a zero. -/
def Digits.write (d : Digits) (style : Style) : List Char :=
  if style.positionalFrom ≤ d.scale ∧ d.scale ≤ style.positionalTo then
    if d.scale < 0 then
      '0' :: '.' :: List.replicate (-d.scale - 1).toNat '0' ++ d.digits
    else
      let whole := d.scale.toNat + 1
      let fraction := d.digits.drop whole
      d.digits.take whole ++ List.replicate (whole - d.digits.length) '0' ++
        '.' :: (if fraction = [] then ['0'] else fraction)
  else
    let fraction := d.digits.drop 1
    d.digits.take 1 ++ (if fraction = [] then [] else '.' :: fraction) ++
      'e' :: (if d.scale < 0 then '-' else '+') :: Nat.toDigits 10 d.scale.natAbs

/-- A finite double in a style, with its sign, which zero has too. -/
def writeFloat (style : Style) (x : Float) : String :=
  let bits := x.toBits
  let magnitude := bits &&& 0x7FFFFFFFFFFFFFFF
  let digits :=
    if magnitude = 0 then Digits.write ⟨['0'], 0⟩ style
    else (Binary.ofBits magnitude).shortest.write style
  String.ofList (if bits = magnitude then digits else '-' :: digits)

end ChatRelay.Decimal
